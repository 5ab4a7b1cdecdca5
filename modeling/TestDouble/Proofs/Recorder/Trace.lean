import TestDouble.Proofs.Recorder.Turn

/-!
# The turns that a request takes

Serving a request takes the book through a list of turns: its own, and if it is a call that runs a
callback, those of the callback's requests, which may be calls in turn. `Recorder.turns` is that
list, also when somebody else's code crashes or the nesting gets too deep. `serve_follows` says
that it leads to the book that serving the request leads to. What else a request leaves on the desk
can be told from its turns by the same induction, which `Trail.serve` does once.

It also says what turns are on the list: a request that keeps *within* some allowed turns, in its
callbacks too, takes no others. `Request.within_true` says that every request keeps within all.
-/

namespace TestDouble

/-- The turns of the requests that a program gets to, each request being answered by `serve`. -/
def Program.turns {α : Type}
    (serve : {k : RequestKind} → Request k → Desk → Except Stop k.Reply × Desk)
    (turnsOf : {k : RequestKind} → Request k → Desk → List Turn) :
    Recording α → Desk → List Turn
  | done _, _ => []
  | crash _, _ => []
  | report e rest, d => rest.turns serve turnsOf { d with reported := some e }
  | ask q next, d =>
    turnsOf q d ++
      match serve q d with
      | (.ok reply, d) => (next reply).turns serve turnsOf d
      | (.error _, _) => []

namespace Recorder

/-- The turns of an outcome, `turnsOf` giving those of the body of a callback. -/
def applyTurns (turnsOf : Recording (Except Failure Json) → Desk → List Turn) (answered : Nat)
    (arguments : List Json) : Outcome → Desk → List Turn
  | .returns _, _ => []
  | .fails _, _ => []
  | .callback body, d => turnsOf (body answered arguments) d

/-- The turns of a call: its own, and those of the outcome that runs. -/
def invokeTurns (turnsOf : Recording (Except Failure Json) → Desk → List Turn) (mode : Mode)
    (saturate : Bool) (operation : String) (arguments : List Json) (d : Desk) : List Turn :=
  .call saturate operation arguments ::
    match record mode saturate operation arguments d with
    | (.ok (some e), d) =>
      if e.times.forbidsCalls && mode.isStrict then []
      else applyTurns turnsOf (e.consumed - 1) arguments e.outcome d
    | _ => []

/-- The turns of a request. Those that only look at the book take none. -/
def turns (mode : Mode) (depth : Nat) : {k : RequestKind} → Request k → Desk → List Turn
  | _, .register saturate operation matcher outcome times, _ =>
    [.register saturate operation matcher outcome times]
  | _, .invoke saturate operation arguments, d =>
    match depth with
    | 0 => invokeTurns (fun _ _ => []) mode saturate operation arguments d
    | depth + 1 =>
      invokeTurns (fun body d => body.turns (serve mode depth) (turns mode depth) d) mode saturate
        operation arguments d
  | _, .verify operation matcher times, _ => [.verify operation matcher times]
  | _, .verifyAll, _ => []
  | _, .verifyNoOtherCalls, _ => []
  | _, .calls, _ => []
  | _, .expectations, _ => []
  | _, .reset, _ => [.reset]

/-- Requests served one after another, by clients that go on after a crash. -/
def serveEach (mode : Mode) (depth : Nat) (qs : List ((k : RequestKind) × Request k)) (d : Desk) :
    Desk :=
  qs.foldl (fun d q => (serve mode depth q.2 d).2) d

/-- The replies to requests of one kind served one after another. -/
def replies (mode : Mode) (depth : Nat) {k : RequestKind} :
    List (Request k) → Desk → List (Except Stop k.Reply)
  | [], _ => []
  | q :: qs, d => (serve mode depth q d).1 :: replies mode depth qs (serve mode depth q d).2

/-- The turns of requests served one after another. -/
def turnsEach (mode : Mode) (depth : Nat) :
    List ((k : RequestKind) × Request k) → Desk → List Turn
  | [], _ => []
  | q :: qs, d => turns mode depth q.2 d ++ turnsEach mode depth qs (serve mode depth q.2 d).2

end Recorder

/-! ### Requests that keep within some turns -/

/-- Every request that a program can ask, whatever the replies before it, has a property. -/
inductive Program.Every {Q : RequestKind → Type} {α : Type} (P : (k : RequestKind) → Q k → Prop) :
    Program Q α → Prop where
  | done (a : α) : Every P (.done a)
  | crash (c : Crash) : Every P (.crash c)
  | report (e : TestError) {rest : Program Q α} : Every P rest → Every P (.report e rest)
  | ask {k : RequestKind} {q : Q k} {next : k.Reply → Program Q α} :
    P k q → (∀ r, Every P (next r)) → Every P (.ask q next)

mutual

/-- Whatever the callback asks, and the callbacks it registers, keeps within the allowed turns. -/
inductive Outcome.Within (allowed : Turn → Prop) : Outcome → Prop where
  | returns (v : Json) : Outcome.Within allowed (.returns v)
  | fails (failure : Failure) : Outcome.Within allowed (.fails failure)
  | callback {body : Callback} :
    (∀ answered arguments,
      Program.Every (Request.Within allowed) (body answered arguments)) →
    Outcome.Within allowed (.callback body)

/-- A request that begins with an allowed turn, and whose outcome, if it registers one, asks only
for such requests. -/
inductive Request.Within (allowed : Turn → Prop) : (k : RequestKind) → Request k → Prop where
  | register {saturate : Bool} {operation : String} {matcher : ArgumentMatcher}
    {outcome : Outcome} {times : Times} :
    allowed (.register saturate operation matcher outcome times) →
    Outcome.Within allowed outcome →
    Request.Within allowed .registration (.register saturate operation matcher outcome times)
  | invoke {saturate : Bool} {operation : String} {arguments : List Json} :
    allowed (.call saturate operation arguments) →
    Request.Within allowed .invocation (.invoke saturate operation arguments)
  | verify {operation : String} {matcher : ArgumentMatcher} {times : Times} :
    allowed (.verify operation matcher times) →
    Request.Within allowed .verification (.verify operation matcher times)
  | verifyAll : Request.Within allowed .verification .verifyAll
  | verifyNoOtherCalls : Request.Within allowed .verification .verifyNoOtherCalls
  | calls : Request.Within allowed .callList .calls
  | expectations : Request.Within allowed .expectationList .expectations
  | reset : allowed .reset → Request.Within allowed .reset .reset

end

mutual

theorem Outcome.within_true : (o : Outcome) → o.Within fun _ => True
  | .returns v => .returns v
  | .fails failure => .fails failure
  | .callback body => .callback fun answered arguments => bodyWithin_true (body answered arguments)

/-- Every request keeps within all turns. -/
theorem Request.within_true :
    {k : RequestKind} → (q : Request k) → Request.Within (fun _ => True) k q
  | _, .register _ _ _ outcome _ => .register trivial outcome.within_true
  | _, .invoke .. => .invoke trivial
  | _, .verify .. => .verify trivial
  | _, .verifyAll => .verifyAll
  | _, .verifyNoOtherCalls => .verifyNoOtherCalls
  | _, .calls => .calls
  | _, .expectations => .expectations
  | _, .reset => .reset trivial

theorem bodyWithin_true : (p : Recording (Except Failure Json)) →
    p.Every (Request.Within fun _ => True)
  | .done a => .done a
  | .crash c => .crash c
  | .report e rest => .report e (bodyWithin_true rest)
  | .ask q next => .ask q.within_true fun r => bodyWithin_true (next r)

end

/-- The callbacks of all expectations keep within the allowed turns. -/
def Book.Within (allowed : Turn → Prop) (b : Book) : Prop :=
  ∀ e ∈ b.expectations, e.outcome.Within allowed

/-- The request that begins with the turn keeps within the allowed turns. -/
def Turn.Within (allowed : Turn → Prop) (t : Turn) : Prop :=
  Request.Within allowed t.request.1 t.request.2

theorem Turn.Within.allowed {allowed : Turn → Prop} {t : Turn} (h : t.Within allowed) :
    allowed t := by
  cases t <;> cases h <;> assumption

/-- A turn that keeps within the allowed turns changes nothing about what callbacks keep within. -/
theorem Turn.step_within (mode : Mode) {allowed : Turn → Prop} {b : Book} {t : Turn}
    (ht : t.Within allowed) (h : b.Within allowed) : (t.step mode b).Within allowed := by
  refine step_forall (P := fun e => e.outcome.Within allowed) mode ?_ (fun _ _ _ _ _ _ he => he) h
  rintro saturate operation matcher outcome times id rfl
  cases ht
  assumption

/-! ### Serving a request is taking its turns -/

namespace Recorder

/-- A relation between two desks and the turns that lead from one to the other is a *trail* if what
serving a request is made of has it: each turn by itself, what looks at the book without a turn, and
one after the other. The turns keep within the allowed ones. -/
structure Trail (mode : Mode) (allowed : Turn → Prop) (R : Desk → Desk → List Turn → Prop) :
    Prop where
  refl : ∀ d, R d d []
  trans : ∀ {d d' d'' ts us}, R d d' ts → R d' d'' us → R d d'' (ts ++ us)
  /-- What a program has shown does not matter. -/
  report : ∀ {d d' ts} (e : TestError), R { d with reported := some e } d' ts → R d d' ts
  within : ∀ {d d' ts}, R d d' ts → d.book.Within allowed → d'.book.Within allowed
  registration : ∀ {saturate operation matcher outcome times},
    (Turn.register saturate operation matcher outcome times).Within allowed → ∀ d,
      R d (register mode saturate operation matcher outcome times d).2
        [.register saturate operation matcher outcome times]
  call : ∀ {saturate operation arguments}, allowed (.call saturate operation arguments) → ∀ d,
    R d (record mode saturate operation arguments d).2 [.call saturate operation arguments]
  count : ∀ {operation matcher times}, allowed (.verify operation matcher times) → ∀ d,
    R d (verify operation matcher times d).2 [.verify operation matcher times]
  verdict : ∀ d, R d (verifyAll d).2 []
  leftover : ∀ d, R d (verifyNoOtherCalls d).2 []
  reset : allowed .reset → ∀ d, R d { d with book := .empty } [.reset]

namespace Trail

variable {mode : Mode} {allowed : Turn → Prop} {R : Desk → Desk → List Turn → Prop}

/-- A program is on the trail by its turns if its requests are. -/
theorem run {α : Type} (trail : Trail mode allowed R)
    {serve : {k : RequestKind} → Request k → Desk → Except Stop k.Reply × Desk}
    {turnsOf : {k : RequestKind} → Request k → Desk → List Turn}
    (hserve : ∀ {k : RequestKind} (q : Request k), Request.Within allowed k q → ∀ d : Desk,
      d.book.Within allowed → R d (serve q d).2 (turnsOf q d))
    {p : Recording α} (hp : p.Every (Request.Within allowed)) {d : Desk}
    (hd : d.book.Within allowed) : R d (p.run serve d).2 (p.turns serve turnsOf d) := by
  induction hp generalizing d with
  | done a => exact trail.refl d
  | crash c => exact trail.refl d
  | report e _ ih => exact trail.report e (ih (d := { d with reported := some e }) hd)
  | @ask k q next hq _ ih =>
    have hd' := hserve q hq d hd
    simp only [Program.run, Program.turns]
    rcases hr : serve q d with ⟨stop | reply, d'⟩
    · rw [hr] at hd'
      rwa [List.append_nil]
    · rw [hr] at hd'
      exact trail.trans hd' (ih reply (trail.within hd' hd))

section

variable {run : Recording (Except Failure Json) → Desk → Except Stop (Except Failure Json) × Desk}
  {turnsOf : Recording (Except Failure Json) → Desk → List Turn}

theorem apply (trail : Trail mode allowed R)
    (hrun : ∀ p : Recording (Except Failure Json), p.Every (Request.Within allowed) → ∀ d : Desk,
      d.book.Within allowed → R d (run p d).2 (turnsOf p d))
    (answered : Nat) (arguments : List Json) {o : Outcome} (ho : o.Within allowed) {d : Desk}
    (hd : d.book.Within allowed) :
    R d (Recorder.apply run answered arguments o d).2
      (applyTurns turnsOf answered arguments o d) := by
  cases ho with
  | returns v => exact trail.refl d
  | fails failure => exact trail.refl d
  | callback hbody =>
    have h := hrun _ (hbody answered arguments) d hd
    simp only [Recorder.apply, applyTurns]
    split <;> next hr => rwa [hr] at h

theorem invoke (trail : Trail mode allowed R)
    (hrun : ∀ p : Recording (Except Failure Json), p.Every (Request.Within allowed) → ∀ d : Desk,
      d.book.Within allowed → R d (run p d).2 (turnsOf p d))
    {saturate : Bool} {operation : String} {arguments : List Json}
    (ht : allowed (.call saturate operation arguments)) {d : Desk} (hd : d.book.Within allowed) :
    R d (Recorder.invoke run mode saturate operation arguments d).2
      (invokeTurns turnsOf mode saturate operation arguments d) := by
  have hrec := trail.call ht d
  unfold Recorder.invoke invokeTurns
  rcases hr : record mode saturate operation arguments d with ⟨stop | hit, d'⟩
  · rwa [hr] at hrec
  cases hit with
  | none => rwa [hr] at hrec
  | some e =>
    have he := record_mem (e := e) (congrArg Prod.fst hr)
    rw [hr] at hrec he
    have hd' := trail.within hrec hd
    dsimp only
    split_ifs
    · exact hrec
    · exact trail.trans hrec (trail.apply hrun _ _ (hd' e he) hd')

end

/-- **Serving a request is on the trail by its turns**, with callbacks nested to any depth, and
whether it is answered, crashes or is stopped. -/
theorem serve (trail : Trail mode allowed R) (depth : Nat) {k : RequestKind} {q : Request k}
    (hq : Request.Within allowed k q) {d : Desk} (hd : d.book.Within allowed) :
    R d (Recorder.serve mode depth q d).2 (turns mode depth q d) := by
  cases hq with
  | register ht ho =>
    rw [Recorder.serve, turns]
    exact trail.registration (.register ht ho) d
  | invoke ht =>
    cases depth with
    | zero =>
      rw [Recorder.serve, turns]
      exact trail.invoke (fun _ _ d _ => trail.refl d) ht hd
    | succ depth =>
      -- the requests of a callback are served one level deeper
      rw [Recorder.serve, turns]
      exact trail.invoke
        (fun _ hp _ hd => trail.run (fun _ hq _ hd => trail.serve depth hq hd) hp hd) ht hd
  | verify ht =>
    rw [Recorder.serve, turns]
    exact trail.count ht d
  | verifyAll =>
    rw [Recorder.serve, turns]
    exact trail.verdict d
  | verifyNoOtherCalls =>
    rw [Recorder.serve, turns]
    exact trail.leftover d
  | calls =>
    rw [Recorder.serve, turns]
    exact trail.refl d
  | expectations =>
    rw [Recorder.serve, turns]
    exact trail.refl d
  | reset ht =>
    rw [Recorder.serve, turns]
    exact trail.reset ht d

end Trail

/-- A desk follows another by some turns: they lead from book to book, and they and the callbacks
they register keep within the allowed turns. -/
structure Follows (mode : Mode) (allowed : Turn → Prop) (d d' : Desk) (ts : List Turn) : Prop where
  book : d'.book = Turn.play mode ts d.book
  within : ∀ t ∈ ts, t.Within allowed

namespace Follows

variable {mode : Mode} {allowed : Turn → Prop} {d d' d'' : Desk} {ts us : List Turn}

theorem refl (d : Desk) : Follows mode allowed d d [] := ⟨rfl, by simp⟩

theorem trans (h : Follows mode allowed d d' ts) (h' : Follows mode allowed d' d'' us) :
    Follows mode allowed d d'' (ts ++ us) where
  book := by rw [h'.book, h.book, Turn.play_append]
  within := List.forall_mem_append.mpr ⟨h.within, h'.within⟩

theorem single {t : Turn} (ht : t.Within allowed) (hb : d'.book = t.step mode d.book) :
    Follows mode allowed d d' [t] := ⟨hb, by simpa using ht⟩

theorem book_within (h : Follows mode allowed d d' ts) (hd : d.book.Within allowed) :
    d'.book.Within allowed := by
  rw [h.book]
  exact Turn.play_invariant (fun _ _ ht hb => Turn.step_within mode ht hb) h.within hd

/-- Following is a trail. -/
theorem trail (mode : Mode) (allowed : Turn → Prop) : Trail mode allowed (Follows mode allowed) where
  refl := refl
  trans := trans
  report := fun _ h => ⟨h.book, h.within⟩
  within := book_within
  registration := fun ht d => single ht (register_book d)
  call := fun ht d => single (.invoke ht) (record_book _ d)
  count := fun ht d => single (.verify ht) (verify_book mode d)
  verdict := fun _ => ⟨rfl, by simp⟩
  leftover := fun _ => ⟨rfl, by simp⟩
  reset := fun ht _ => single (.reset ht) rfl

end Follows

variable {mode : Mode} {allowed : Turn → Prop}

/-- **Serving a request is taking its turns.** -/
theorem serve_follows (depth : Nat) {k : RequestKind} {q : Request k}
    (hq : Request.Within allowed k q) {d : Desk} (hd : d.book.Within allowed) :
    Follows mode allowed d (serve mode depth q d).2 (turns mode depth q d) :=
  (Follows.trail mode allowed).serve depth hq hd

/-- Requests served one after another take their turns one after another. -/
theorem serveEach_follows (depth : Nat) {qs : List ((k : RequestKind) × Request k)}
    (hqs : ∀ q ∈ qs, Request.Within allowed q.1 q.2) {d : Desk} (hd : d.book.Within allowed) :
    Follows mode allowed d (serveEach mode depth qs d) (turnsEach mode depth qs d) := by
  induction qs generalizing d with
  | nil => exact .refl d
  | cons q qs ih =>
    obtain ⟨hq, hqs⟩ := List.forall_mem_cons.mp hqs
    have h : Follows mode allowed d (serve mode depth q.2 d).2 (turns mode depth q.2 d) :=
      serve_follows depth hq hd
    exact h.trans (ih hqs (h.book_within hd))

/-- Any request takes the book through its turns. -/
theorem serve_book (mode : Mode) (depth : Nat) {k : RequestKind} (q : Request k) (d : Desk) :
    (serve mode depth q d).2.book = Turn.play mode (turns mode depth q d) d.book :=
  (serve_follows depth q.within_true fun e _ => e.outcome.within_true).book

/-- Any requests take the book through their turns. -/
theorem serveEach_book (mode : Mode) (depth : Nat) (qs : List ((k : RequestKind) × Request k))
    (d : Desk) :
    (serveEach mode depth qs d).book = Turn.play mode (turnsEach mode depth qs d) d.book :=
  (serveEach_follows depth (fun q _ => q.2.within_true) fun e _ => e.outcome.within_true).book

end Recorder
end TestDouble
