import TestDouble.Callback
import TestDouble.Proofs.Recorder.Capacity
import TestDouble.Proofs.Recorder.Nesting

/-!
# How deep calls go

A callback may make the very call that it answers, so nothing in its program bounds how deep calls
are nested. Under caps the room of the expectations does: a call is counted before its callback
runs, so each call that is handed on leaves less room for the calls inside it. `calls_end_in_room`
says that every call ends and goes no deeper than one level more than there is room, if each
expectation has a cap other than zero, or on a strict recorder, where a forbidden call runs nothing,
forbids calls.
-/

namespace TestDouble

/-- A turn that looks up a call with caps enforced, or verifies. -/
def Turn.Reenters : Turn → Prop
  | register .. => False
  | call saturate .. => saturate = true
  | verify .. => True
  | reset => False

/-- The expectation has a cap, and if that is zero a strict recorder runs nothing for it. -/
def Expectation.Bounded (mode : Mode) (e : Expectation) : Prop :=
  e.Limited ∨ mode = .strict ∧ e.times.max = some 0

/-- All expectations are bounded. -/
def Book.Bounded (mode : Mode) (b : Book) : Prop := ∀ e ∈ b.expectations, e.Bounded mode

/-- How many calls still fit under the caps other than zero. -/
def Book.room (b : Book) : Nat := ((b.expectations.filter (·.Limited)).map Expectation.room).sum

namespace Book

variable {b : Book} {l r : List Expectation} {e : Expectation}

/-- The room of an expectation with a cap other than zero is part of that of the book. -/
theorem room_split (hes : b.expectations = l ++ e :: r) (he : e.Limited) :
    b.room = ((l.filter (·.Limited)).map Expectation.room).sum + e.room +
      ((r.filter (·.Limited)).map Expectation.room).sum := by
  rw [room, hes, List.filter_append, List.filter_cons_of_pos (by simpa using he), List.map_append,
    List.map_cons, List.sum_append, List.sum_cons]
  omega

/-- An expectation with a cap other than zero that takes a call has one place less. -/
theorem room_enter {operation : String} {arguments : List Json} {taker : Option Nat}
    (hes : b.expectations = l ++ e :: r) (he : e.Limited)
    (haccepts : e.accepts true operation arguments = .ok true) :
    (b.enter operation arguments taker (l ++ e.consume :: r)).room + 1 = b.room := by
  obtain ⟨-, hx⟩ := Expectation.accepts_iff_suits.mp haccepts
  have hpos : 0 < e.room := by
    rw [Nat.pos_iff_ne_zero, Ne, Expectation.room_eq_zero_iff he, hx]
    exact Bool.false_ne_true
  have hconsume := Expectation.room_consume hpos
  rw [room_split hes he, room_split (e := e.consume) rfl he]
  omega

end Book

/-- **No turn of a callback makes room**, and it leaves the expectations bounded. -/
theorem Turn.step_bounded {mode : Mode} {b : Book} {t : Turn} (ht : t.Reenters)
    (h : b.Bounded mode) : (t.step mode b).Bounded mode ∧ (t.step mode b).room ≤ b.room := by
  refine ⟨step_forall (P := (·.Bounded mode)) mode ?_ (fun _ _ _ _ _ _ he => he) h, ?_⟩
  · rintro saturate operation matcher outcome times _ rfl
    exact absurd ht id
  · cases t with
    | register => exact absurd ht id
    | call saturate operation arguments =>
      obtain rfl : saturate = true := ht
      rw [step_call]
      rcases b.record_cases true operation arguments with
        ⟨c, hr⟩ | ⟨-, hr⟩ | ⟨l, e, r, hes, -, he, hr⟩
      · rw [hr]
        exact Nat.le_refl _
      · rw [hr]
        exact Nat.le_refl _
      · rw [hr]
        by_cases hl : e.Limited
        · have hroom :
              (b.enter operation arguments (some e.id) (l ++ e.consume :: r)).room + 1 = b.room :=
            Book.room_enter hes hl he
          exact Nat.le_of_succ_le (Nat.le_of_eq hroom)
        · -- what has no room to lose is left out of the sum before and after
          have hl' : ¬ e.consume.Limited := hl
          simp [Book.room, hes, hl, hl']
    | verify operation matcher times =>
      obtain ⟨calls, hb, -⟩ := step_verify mode b operation matcher times
      rw [hb]
      exact Nat.le_refl _
    | reset => exact absurd ht id

namespace Recorder

variable {mode : Mode} {depth n : Nat} {k : RequestKind} {q : Request k} {d d' : Desk}
  {p : Recording (Except Failure Json)}

/-! ### Callbacks on a bounded book -/

/-- The expectations on the desk are bounded and have room for at most `n` calls, and their
callbacks only make calls, verify and look. -/
structure Roomy (mode : Mode) (n : Nat) (d : Desk) : Prop where
  bounded : d.book.Bounded mode
  reenters : d.book.Within Turn.Reenters
  room_le : d.book.room ≤ n

/-- A request of a callback leaves no more room than there was. -/
theorem Roomy.serve (h : Roomy mode n d) (hq : Request.Within Turn.Reenters k q) (depth : Nat) :
    Roomy mode n (serve mode depth q d).2 := by
  have hfollows : Follows mode Turn.Reenters d (Recorder.serve mode depth q d).2
      (turns mode depth q d) := serve_follows depth hq h.reenters
  have hbook : (Recorder.serve mode depth q d).2.book.Bounded mode ∧
      (Recorder.serve mode depth q d).2.book.room ≤ n := by
    rw [hfollows.book]
    refine Turn.play_invariant (P := fun b => b.Bounded mode ∧ b.room ≤ n)
      (fun b t ht hb => ?_) (fun t ht => (hfollows.within t ht).allowed) ⟨h.bounded, h.room_le⟩
    obtain ⟨hbounded, hroom⟩ := Turn.step_bounded ht hb.1
    exact ⟨hbounded, Nat.le_trans hroom hb.2⟩
  exact ⟨hbook.1, hfollows.book_within h.reenters, hbook.2⟩

/-- A call that is recorded on a desk is recorded in its book. -/
theorem record_eq_ok {saturate : Bool} {operation : String} {arguments : List Json}
    {hit : Option Expectation} (h : record mode saturate operation arguments d = (.ok hit, d')) :
    d.book.record saturate operation arguments = (.ok hit, d'.book) := by
  unfold record at h
  split at h
  · cases h
  · next hr =>
    simp only [Prod.mk.injEq, Except.ok.injEq] at h
    obtain ⟨rfl, rfl⟩ := h
    exact hr

/-- **A call that is handed on has taken one place.** -/
theorem room_of_handed? {operation : String} {arguments : List Json} (h : d.book.Bounded mode)
    (hp : handed? mode (.invoke true operation arguments) d = some (p, d')) :
    d'.book.room + 1 = d.book.room := by
  obtain ⟨x, body, hr, hf, -, -⟩ := handed?_eq_some_iff.mp hp
  have hbook := record_eq_ok hr
  rcases d.book.record_cases true operation arguments with
    ⟨c, hr'⟩ | ⟨-, hr'⟩ | ⟨l, e, r, hes, -, he, hr'⟩
  · cases hr'.symm.trans hbook
  · cases hr'.symm.trans hbook
  · simp only [hr', Prod.mk.injEq, Except.ok.injEq, Option.some.injEq] at hbook
    obtain ⟨rfl, hd'⟩ := hbook
    rw [← hd']
    rcases h e (by simp [hes]) with hlimited | ⟨rfl, hmax⟩
    · exact Book.room_enter hes hlimited he
    · -- a strict recorder does not hand on what is forbidden
      have hforbids : e.consume.times.forbidsCalls = true := Times.forbidsCalls_iff.mpr hmax
      rw [hforbids] at hf
      cases hf

/-- What a call is handed on to does what callbacks do, with one place less. -/
theorem Roomy.handed (h : Roomy mode n d) (hq : Request.Within Turn.Reenters k q)
    (hp : handed? mode q d = some (p, d')) :
    ∃ m, n = m + 1 ∧ Roomy mode m d' ∧ p.Every (Request.Within Turn.Reenters) := by
  have hd' := h.serve hq 0
  rw [serve_zero_of_handed? hp] at hd'
  cases hq with
  | invoke ht =>
    obtain rfl := ht
    have hroom := room_of_handed? h.bounded hp
    have hle := h.room_le
    obtain ⟨x, body, hr, -, ho, rfl⟩ := handed?_eq_some_iff.mp hp
    have hx := record_mem (e := x) (congrArg Prod.fst hr)
    rw [hr] at hx
    have hevery := hd'.reenters x hx
    rw [ho] at hevery
    cases hevery with
    | callback hbody =>
      exact ⟨n - 1, by omega, ⟨hd'.bounded, hd'.reenters, by omega⟩, hbody _ _⟩
  | _ => cases hp

/-! ### Every call ends -/

/-- What is answered with a depth of `n` is answered with every greater depth too, and it is not
that callbacks are nested too deeply. -/
structure Settled {α : Type} (n : Nat) (f : Nat → Except Stop α × Desk) : Prop where
  eq : ∀ depth, n ≤ depth → f depth = f n
  ne : (f n).1 ≠ .error .tooDeep

/-- A program of a callback settles if its requests do. -/
theorem Settled.run
    (hserve : ∀ {k : RequestKind} (q : Request k), Request.Within Turn.Reenters k q → ∀ d : Desk,
      Roomy mode n d → Settled n fun depth => serve mode depth q d)
    {α : Type} {p : Recording α} (hp : p.Every (Request.Within Turn.Reenters))
    (hd : Roomy mode n d) : Settled n fun depth => p.run (serve mode depth) d := by
  induction hp generalizing d with
  | done a => exact ⟨fun _ _ => rfl, by simp [Program.run]⟩
  | crash c => exact ⟨fun _ _ => rfl, by simp [Program.run]⟩
  | report e _ ih =>
    exact ih (d := { d with reported := some e }) ⟨hd.bounded, hd.reenters, hd.room_le⟩
  | @ask k q next hq _ ih =>
    obtain ⟨heq, hne⟩ := hserve q hq d hd
    have hd' := hd.serve hq n
    simp only [Program.run]
    rcases hr : Recorder.serve mode n q d with ⟨stop | reply, d'⟩
    · rw [hr] at hne
      refine ⟨fun depth hle => ?_, ?_⟩
      · simp only [heq depth hle, hr]
      · simpa [hr] using hne
    · rw [hr] at hd'
      obtain ⟨heq', hne'⟩ := ih reply hd'
      refine ⟨fun depth hle => ?_, ?_⟩
      · simp only [heq depth hle, hr, heq' depth hle]
      · simpa [hr] using hne'

/-- **A request of a callback settles at the depth of the room there is.** -/
theorem Roomy.settled (h : Roomy mode n d) (hq : Request.Within Turn.Reenters k q) :
    Settled n fun depth => Recorder.serve mode depth q d := by
  -- by induction on the room, of which each call that is handed on takes one place
  induction n generalizing k q d with
  | zero =>
    cases hp : handed? mode q d with
    | none => exact ⟨fun depth _ => serve_of_handed?_eq_none hp depth, serve_ne_tooDeep hp 0⟩
    | some p =>
      obtain ⟨m, hm, -⟩ := h.handed hq hp
      cases hm
  | succ n ih =>
    cases hp : handed? mode q d with
    | none =>
      refine ⟨fun depth _ => ?_, serve_ne_tooDeep hp _⟩
      rw [serve_of_handed?_eq_none hp depth, serve_of_handed?_eq_none hp (n + 1)]
    | some p =>
      obtain ⟨m, hm, hd', hevery⟩ := h.handed hq hp
      obtain rfl := Nat.succ.inj hm
      obtain ⟨heq, hne⟩ := Settled.run (fun q hq d hd => ih hd hq) hevery hd'
      cases hq with
      | invoke =>
        refine ⟨fun depth hle => ?_, ?_⟩
        · obtain ⟨depth, rfl⟩ := Nat.exists_eq_add_of_le' hle
          rw [← Nat.add_assoc, serve_of_handed? _ hp, serve_of_handed? _ hp,
            heq _ (Nat.le_add_left _ _)]
        · rw [serve_of_handed? _ hp]
          rcases hr : p.1.run (Recorder.serve mode n) p.2 with ⟨stop | failure | v, d''⟩
          · simpa [hr, Except.map] using hne
          · simp [Except.map]
          · simp [Except.map]
      | _ => cases hp

/-! ### How deep -/

/-- How many calls inside each other a request sets off: none if it is no call, otherwise one more
than the requests that the call is handed on to. -/
def nesting (mode : Mode) (depth : Nat) {k : RequestKind} (q : Request k) (d : Desk) : Nat :=
  (if k = .invocation then 1 else 0) +
    match handed? mode q d with
    | none => 0
    | some (p, d) =>
      match depth with
      | 0 => 0
      | depth + 1 =>
        ((p.visits (serve mode depth) d).map fun v =>
          nesting mode depth v.request v.desk).max?.getD 0

/-- The requests that a program of a callback gets to find no more room than there was. -/
theorem Roomy.visits {α : Type} {p : Recording α} (hp : p.Every (Request.Within Turn.Reenters))
    (h : Roomy mode n d) (depth : Nat) :
    ∀ v ∈ p.visits (Recorder.serve mode depth) d,
      Roomy mode n v.desk ∧ Request.Within Turn.Reenters v.kind v.request := by
  induction hp generalizing d with
  | done a => simp [Program.visits]
  | crash c => simp [Program.visits]
  | report e _ ih =>
    exact ih (d := { d with reported := some e }) ⟨h.bounded, h.reenters, h.room_le⟩
  | @ask k q next hq _ ih =>
    have hd' := h.serve hq depth
    rw [Program.visits, List.forall_mem_cons]
    refine ⟨⟨h, hq⟩, ?_⟩
    rcases hr : Recorder.serve mode depth q d with ⟨stop | reply, d'⟩
    · simp
    · rw [hr] at hd'
      exact ih reply hd'

/-- **Calls go one level deeper than there is room, at most.** -/
theorem Roomy.nesting_le (h : Roomy mode n d) (hq : Request.Within Turn.Reenters k q)
    (depth : Nat) : nesting mode depth q d ≤ 1 + n := by
  induction depth generalizing n k q d with
  | zero =>
    unfold nesting
    cases handed? mode q d <;> dsimp only <;> split_ifs <;> omega
  | succ depth ih =>
    unfold nesting
    cases hp : handed? mode q d with
    | none =>
      dsimp only
      split_ifs <;> omega
    | some p =>
      obtain ⟨m, rfl, hd', hevery⟩ := h.handed hq hp
      have hinner : ((p.1.visits (Recorder.serve mode depth) p.2).map fun v =>
          nesting mode depth v.request v.desk).max?.getD 0 ≤ 1 + m := by
        cases hmax : ((p.1.visits (Recorder.serve mode depth) p.2).map fun v =>
          nesting mode depth v.request v.desk).max? with
        | none => exact Nat.zero_le _
        | some deepest =>
          obtain ⟨v, hv, rfl⟩ := List.mem_map.mp (List.max?_mem hmax)
          obtain ⟨hroomy, hwithin⟩ := hd'.visits hevery depth v hv
          exact ih hroomy hwithin
      dsimp only
      split_ifs <;> omega

end Recorder

/-- **Calls end, within the room there is.** Let every expectation of a book have a cap other than
zero, or on a strict recorder forbid calls, and let the callbacks make calls with caps enforced,
verify and look, whatever the calls are. Then every call ends, with the same reply and desk for
every depth from the room there is, and it sets off at most one level of calls more than there is
room. -/
theorem calls_end_in_room (mode : Mode) (d : Desk) (hbounded : d.book.Bounded mode)
    (hreenters : d.book.Within Turn.Reenters) (operation : String) (arguments : List Json) :
    let call : Request .invocation := .invoke true operation arguments
    (∃ reply after, reply ≠ .error .tooDeep ∧ ∀ depth, d.book.room ≤ depth →
        Recorder.serve mode depth call d = (reply, after)) ∧
      ∀ depth, Recorder.nesting mode depth call d ≤ 1 + d.book.room := by
  intro call
  have hd : Recorder.Roomy mode d.book.room d := ⟨hbounded, hreenters, Nat.le_refl _⟩
  have hcall : Request.Within Turn.Reenters _ call := .invoke rfl
  obtain ⟨heq, hne⟩ := hd.settled hcall
  exact ⟨⟨_, _, hne, heq⟩, hd.nesting_le hcall⟩

/-- The callback of a capped expectation that makes the call again which it answers. -/
def Book.recurring : Book :=
  ⟨[⟨0, "op", ⟨[]⟩,
      .callback fun _ _ => .ask (.invoke true "op" []) fun _ => .done (.ok .null), .exactly 2, 0⟩,
    ⟨1, "op", ⟨[]⟩, .callback Callback.crash, .never, 0⟩], [], 2, 0⟩

/-- Two calls fit under the cap, and the third inside them hits the expectation that forbids it. -/
theorem calls_end_in_room_recurring :
    let call : Request .invocation := .invoke true "op" []
    Book.recurring.room = 2 ∧
      (∃ reply after, reply ≠ .error .tooDeep ∧ ∀ depth, 2 ≤ depth →
        Recorder.serve .strict depth call (.ofBook .recurring) = (reply, after)) ∧
      Recorder.nesting .strict 2 call (.ofBook .recurring) = 3 ∧
      ∀ depth, Recorder.nesting .strict depth call (.ofBook .recurring) ≤ 3 := by
  intro call
  have hbounded : Book.recurring.Bounded .strict := by
    simp only [Book.Bounded, Book.recurring, List.forall_mem_cons]
    exact ⟨.inl ⟨2, rfl, by decide⟩, .inr ⟨rfl, rfl⟩, by simp⟩
  have hreenters : Book.recurring.Within Turn.Reenters := by
    simp only [Book.Within, Book.recurring, List.forall_mem_cons]
    refine ⟨.callback fun _ _ => ?_, .callback fun _ _ => .crash _, by simp⟩
    exact .ask (.invoke rfl) fun _ => .done _
  obtain ⟨hends, hnesting⟩ :=
    calls_end_in_room .strict (.ofBook .recurring) hbounded hreenters "op" []
  exact ⟨rfl, hends, rfl, hnesting⟩

end TestDouble
