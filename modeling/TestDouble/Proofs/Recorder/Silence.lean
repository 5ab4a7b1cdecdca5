import TestDouble.Proofs.Recorder.Trace

/-!
# Outcomes that leave the recorder alone

An outcome is *silent* if it asks nothing of the recorder: a value, a failure, or a callback that
only computes. What a silent outcome answers can be said without a recorder (`Outcome.reply?`), and
a request on a recorder with silent outcomes takes a single turn (`turns_request`). A turn is
*plain* if besides no predicate of it crashes.
-/

namespace TestDouble

/-- How a program ends that asks nothing; `none` if it asks something. -/
def Program.silent? {Q : RequestKind → Type} {α : Type} : Program Q α → Option (Except Crash α)
  | .done a => some (.ok a)
  | .crash c => some (.error c)
  | .report _ rest => rest.silent?
  | .ask .. => none

namespace Outcome

/-- What an outcome answers to a call after `answered` earlier ones; `none` if it asks something of
the recorder first. -/
def reply? (answered : Nat) (arguments : List Json) :
    Outcome → Option (Except Crash (Except TestError Json))
  | returns v => some (.ok (.ok v))
  | fails failure => some (.ok (.error (.raised failure)))
  | callback body =>
    (body answered arguments).silent?.map fun result => result.map (Except.mapError .raised)

/-- The outcome asks nothing of the recorder, whatever the call. -/
def Silent (o : Outcome) : Prop := ∀ answered arguments, ∃ r, o.reply? answered arguments = some r

end Outcome

/-- No expectation has an outcome that asks something of the recorder. -/
def Book.Silent (b : Book) : Prop := ∀ e ∈ b.expectations, e.outcome.Silent

namespace Turn

/-- The turn registers no outcome that asks something of the recorder. -/
def Silent : Turn → Prop
  | register _ _ _ outcome _ => outcome.Silent
  | call .. => True
  | verify .. => True
  | reset => True

theorem step_silent (mode : Mode) {b : Book} {t : Turn} (ht : t.Silent) (h : b.Silent) :
    (t.step mode b).Silent :=
  step_forall (P := fun e => e.outcome.Silent) mode
    (fun _ _ _ _ _ _ hr => by subst hr; exact ht) (fun _ _ _ _ _ _ he => he) h

theorem play_silent (mode : Mode) {ts : List Turn} (hts : ∀ t ∈ ts, t.Silent) {b : Book}
    (h : b.Silent) : (play mode ts b).Silent :=
  play_invariant (fun _ _ ht hb => step_silent mode ht hb) hts h

end Turn

theorem Book.Silent.empty : Book.empty.Silent := by simp [Book.empty, Book.Silent]

/-- A call registers nothing. -/
theorem Book.Silent.record {b : Book} (h : b.Silent) (saturate : Bool) (operation : String)
    (arguments : List Json) : (b.record saturate operation arguments).2.Silent :=
  Turn.step_silent .strict (t := .call saturate operation arguments) trivial h

/-- No predicate of the turn crashes, and its outcome asks nothing of the recorder. -/
def Turn.Plain : Turn → Prop
  | .register _ _ matcher outcome _ => matcher.Total ∧ outcome.Silent
  | .call .. => True
  | .verify .. => True
  | .reset => True

theorem Turn.Plain.silent {t : Turn} (h : t.Plain) : t.Silent := by
  cases t with
  | register => exact h.2
  | call => trivial
  | verify => trivial
  | reset => trivial

/-- The book of plain turns: matchers answer, and outcomes ask nothing of the recorder. -/
structure Book.Plain (b : Book) : Prop where
  total : ∀ e ∈ b.expectations, e.matcher.Total
  silent : b.Silent

theorem Book.Plain.empty : Book.empty.Plain := by
  constructor <;> simp [Book.empty, Book.Silent]

theorem Turn.step_plain (mode : Mode) {b : Book} {t : Turn} (ht : t.Plain) (h : b.Plain) :
    (t.step mode b).Plain where
  total := step_forall (P := fun e => e.matcher.Total) mode
    (fun _ _ _ _ _ _ hr => by subst hr; exact ht.1) (fun _ _ _ _ _ _ he => he) h.total
  silent := step_silent mode ht.silent h.silent

theorem Book.Plain.record {b : Book} (h : b.Plain) (saturate : Bool) (operation : String)
    (arguments : List Json) : (b.record saturate operation arguments).2.Plain :=
  Turn.step_plain .strict (t := .call saturate operation arguments) trivial h

/-! ### What silent outcomes answer -/

namespace Recorder

variable {mode : Mode} {arguments : List Json}

/-- A program that asks nothing ends the same on every desk. -/
theorem run_silent {α : Type}
    (serve : {k : RequestKind} → Request k → Desk → Except Stop k.Reply × Desk)
    {p : Recording α} {r : Except Crash α} (h : p.silent? = some r) (d : Desk) :
    (p.run serve d).1 = r.mapError .crashed := by
  induction p generalizing d with
  | done a =>
    obtain rfl : Except.ok a = r := by simpa [Program.silent?] using h
    rfl
  | crash c =>
    obtain rfl : Except.error c = r := by simpa [Program.silent?] using h
    rfl
  | report e rest ih => exact ih h _
  | ask q next => simp [Program.silent?] at h

/-- A silent outcome gives its answer. -/
theorem apply_silent {serve : {k : RequestKind} → Request k → Desk → Except Stop k.Reply × Desk}
    {answered : Nat} {o : Outcome} {r : Except Crash (Except TestError Json)}
    (h : o.reply? answered arguments = some r) (d : Desk) :
    (apply (fun p d => p.run serve d) answered arguments o d).1 = r.mapError .crashed := by
  cases o with
  | returns v =>
    obtain rfl : Except.ok (.ok v) = r := by simpa [Outcome.reply?] using h
    rfl
  | fails failure =>
    obtain rfl : Except.ok (.error (.raised failure)) = r := by simpa [Outcome.reply?] using h
    rfl
  | callback body =>
    obtain ⟨result, hs, rfl⟩ := Option.map_eq_some_iff.mp h
    have hr := run_silent serve hs d
    simp only [apply]
    split <;> next heq =>
      rw [heq] at hr
      rcases result with c | failure | v <;> simp_all [Except.mapError, Except.map]

/-! ### Requests on a recorder with silent outcomes -/

/-- A program that asks nothing takes no turn. -/
theorem turns_silent {α : Type}
    {serve : {k : RequestKind} → Request k → Desk → Except Stop k.Reply × Desk}
    {turnsOf : {k : RequestKind} → Request k → Desk → List Turn} {p : Recording α}
    {r : Except Crash α} (h : p.silent? = some r) (d : Desk) : p.turns serve turnsOf d = [] := by
  induction p generalizing d with
  | done a => rfl
  | crash c => rfl
  | report e rest ih => exact ih h _
  | ask q next => simp [Program.silent?] at h

theorem applyTurns_silent
    {serve : {k : RequestKind} → Request k → Desk → Except Stop k.Reply × Desk}
    {turnsOf : {k : RequestKind} → Request k → Desk → List Turn} {o : Outcome} (ho : o.Silent)
    (answered : Nat) (d : Desk) :
    applyTurns (fun p d => p.turns serve turnsOf d) answered arguments o d = [] := by
  cases o with
  | returns v => rfl
  | fails failure => rfl
  | callback body =>
    obtain ⟨r, hr⟩ := ho answered arguments
    obtain ⟨result, hs, -⟩ := Option.map_eq_some_iff.mp hr
    exact turns_silent hs d

/-- A call takes no turn but its own if the outcome of what it hits takes none. -/
theorem invokeTurns_of_applyTurns {turnsOf : Recording (Except Failure Json) → Desk → List Turn}
    {saturate : Bool} {operation : String} {d : Desk}
    (h : ∀ e, (d.book.record saturate operation arguments).1 = .ok (some e) → ∀ answered d',
      applyTurns turnsOf answered arguments e.outcome d' = []) :
    invokeTurns turnsOf mode saturate operation arguments d =
      [.call saturate operation arguments] := by
  unfold invokeTurns record
  rcases hr : d.book.record saturate operation arguments with ⟨c | hit, b⟩
  · rfl
  · cases hit with
    | none => rfl
    | some e => simp only [h e (congrArg Prod.fst hr), ite_self]

/-- **A call that hits a silent outcome is one turn.** -/
theorem turns_invoke_silent (depth : Nat) {saturate : Bool} {operation : String} {d : Desk}
    (h : ∀ e, (d.book.record saturate operation arguments).1 = .ok (some e) → e.outcome.Silent) :
    turns mode depth (.invoke saturate operation arguments) d =
      [.call saturate operation arguments] := by
  cases depth with
  | zero =>
    rw [turns]
    refine invokeTurns_of_applyTurns fun e _ _ _ => ?_
    cases e.outcome <;> rfl
  | succ depth =>
    rw [turns]
    exact invokeTurns_of_applyTurns fun e he answered d' => applyTurns_silent (h e he) answered d'

/-- **On a recorder with silent outcomes every request is one turn.** -/
theorem turns_request (depth : Nat) (t : Turn) {d : Desk} (hd : d.book.Silent) :
    turns mode depth t.request.2 d = [t] := by
  cases t with
  | register saturate operation matcher outcome times => rw [Turn.request, turns]
  | call saturate operation arguments =>
    exact turns_invoke_silent depth fun e he =>
      hd.record saturate operation arguments e (Book.record_mem he)
  | verify operation matcher times => rw [Turn.request, turns]
  | reset => rw [Turn.request, turns]

/-- The book after a request on a recorder with silent outcomes. -/
theorem serve_request_book (depth : Nat) (t : Turn) {d : Desk} (hd : d.book.Silent) :
    (serve mode depth t.request.2 d).2.book = t.step mode d.book := by
  rw [serve_book, turns_request depth t hd]
  rfl

/-- The book after a call that hits a silent outcome. -/
theorem serve_invoke_book_of_hit (depth : Nat) {saturate : Bool} {operation : String} {d : Desk}
    (h : ∀ e, (d.book.record saturate operation arguments).1 = .ok (some e) → e.outcome.Silent) :
    (serve mode depth (.invoke saturate operation arguments) d).2.book =
      (d.book.record saturate operation arguments).2 := by
  rw [serve_book, turns_invoke_silent depth h]
  rfl

/-- The book after a call on a recorder with silent outcomes. -/
theorem serve_invoke_book (depth : Nat) (saturate : Bool) (operation : String) {d : Desk}
    (hd : d.book.Silent) :
    (serve mode depth (.invoke saturate operation arguments) d).2.book =
      (d.book.record saturate operation arguments).2 :=
  serve_request_book depth (.call saturate operation arguments) hd

/-- The book after requests on a recorder with silent outcomes. -/
theorem serveEach_request_book (depth : Nat) {ts : List Turn} (hts : ∀ t ∈ ts, t.Silent) {d : Desk}
    (hd : d.book.Silent) :
    (serveEach mode depth (ts.map Turn.request) d).book = Turn.play mode ts d.book := by
  induction ts generalizing d with
  | nil => rfl
  | cons t ts ih =>
    obtain ⟨ht, hts⟩ := List.forall_mem_cons.mp hts
    have hbook : (serve mode depth t.request.2 d).2.book = t.step mode d.book :=
      serve_request_book depth t hd
    rw [Turn.play_cons, ← hbook]
    exact ih hts (hbook ▸ Turn.step_silent mode ht hd)

end Recorder
end TestDouble
