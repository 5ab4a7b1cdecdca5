import Mathlib.Tactic.SplitIfs
import TestDouble.Proofs.Recorder.Answer

/-!
# Calls inside calls

A call that an expectation with a callback takes is *handed on* to the program of the callback once
it has been looked up and recorded; every other request the recorder answers itself.
`Recorder.handed?` says which, and `Program.visits` lists the requests that the program then gets
to, each with the desk that it is asked at. Together they unfold a call into the tree of requests
that serving it serves.
-/

namespace TestDouble

/-- A request that a program gets to, and the desk that it is asked at. -/
structure Visit where
  {kind : RequestKind}
  request : Request kind
  desk : Desk

/-- The requests that a program gets to, each being answered by `serve`. -/
def Program.visits {α : Type}
    (serve : {k : RequestKind} → Request k → Desk → Except Stop k.Reply × Desk) :
    Recording α → Desk → List Visit
  | done _, _ => []
  | crash _, _ => []
  | report e rest, d => rest.visits serve { d with reported := some e }
  | ask q next, d =>
    ⟨q, d⟩ ::
      match serve q d with
      | (.ok reply, d) => (next reply).visits serve d
      | (.error _, _) => []

namespace Recorder

/-- The program that a request is handed on to, and the desk that it starts at: the body of the
callback of the expectation that takes a call, unless a strict recorder fails the call before. -/
def handed? (mode : Mode) :
    {k : RequestKind} → Request k → Desk → Option (Recording (Except Failure Json) × Desk)
  | _, .invoke saturate operation arguments, d =>
    match record mode saturate operation arguments d with
    | (.ok (some e), d) =>
      if e.times.forbidsCalls && mode.isStrict then none
      else
        match e.outcome with
        | .callback body => some (body (e.consumed - 1) arguments, d)
        | _ => none
    | _ => none
  | _, _, _ => none

variable {mode : Mode} {saturate : Bool} {operation : String} {arguments : List Json} {d d' : Desk}
  {p : Recording (Except Failure Json)}

/-- A call is handed on when it is recorded as taken by an expectation with a callback. -/
theorem handed?_eq_some_iff :
    handed? mode (.invoke saturate operation arguments) d = some (p, d') ↔
      ∃ e body, record mode saturate operation arguments d = (.ok (some e), d') ∧
        (e.times.forbidsCalls && mode.isStrict) = false ∧ e.outcome = .callback body ∧
        body (e.consumed - 1) arguments = p := by
  constructor
  · intro h
    simp only [handed?] at h
    split at h
    · next e d₁ hr =>
      split_ifs at h with hf
      split at h
      · next body ho =>
        simp only [Option.some.injEq, Prod.mk.injEq] at h
        obtain ⟨hp, rfl⟩ := h
        exact ⟨e, body, hr, by simpa using hf, ho, hp⟩
      · cases h
    · cases h
  · rintro ⟨e, body, hr, hf, ho, rfl⟩
    simp [handed?, hr, hf, ho]

/-- **What a call that is handed on is answered**: what the program it is handed on to ends with,
a failure of it being raised. -/
theorem serve_of_handed? (depth : Nat)
    (h : handed? mode (.invoke saturate operation arguments) d = some (p, d')) :
    serve mode (depth + 1) (.invoke saturate operation arguments) d =
      ((p.run (serve mode depth) d').1.map (Except.mapError .raised),
        (p.run (serve mode depth) d').2) := by
  obtain ⟨e, body, hr, hf, ho, rfl⟩ := handed?_eq_some_iff.mp h
  simp only [serve, invoke, hr, hf, ho, apply_callback, Bool.false_eq_true, if_false]

variable {k : RequestKind} {q : Request k}

/-- A request that is handed on leaves the desk that the program leaves it is handed on to. -/
theorem serve_desk_of_handed? (depth : Nat) (h : handed? mode q d = some (p, d')) :
    (serve mode (depth + 1) q d).2 = (p.run (serve mode depth) d').2 := by
  cases q with
  | invoke saturate operation arguments => rw [serve_of_handed? depth h]
  | _ => cases h

/-! ### The recorder's own part

With no depth left a recorder does its own part of a request and stops where it would hand the
request on. -/

/-- With no depth left a request that is handed on is recorded, and that is all. -/
theorem serve_zero_of_handed? (h : handed? mode q d = some (p, d')) :
    serve mode 0 q d = (.error .tooDeep, d') := by
  cases q with
  | invoke saturate operation arguments =>
    obtain ⟨e, body, hr, hf, ho, rfl⟩ := handed?_eq_some_iff.mp h
    simp only [serve, invoke, hr, hf, ho, apply, Bool.false_eq_true, if_false]
  | _ => cases h

/-- How callbacks are run does not matter to a call that is not handed on. -/
theorem invoke_of_handed?_eq_none
    (h : handed? mode (.invoke saturate operation arguments) d = none)
    (run run' :
      Recording (Except Failure Json) → Desk → Except Stop (Except Failure Json) × Desk) :
    invoke run mode saturate operation arguments d =
      invoke run' mode saturate operation arguments d := by
  unfold invoke
  rcases hr : record mode saturate operation arguments d with ⟨stop | hit, d'⟩
  · rfl
  cases hit with
  | none => rfl
  | some e =>
    dsimp only
    split_ifs with hf
    · rfl
    · cases ho : e.outcome with
      | returns v => rfl
      | fails failure => rfl
      | callback body =>
        have hsome := handed?_eq_some_iff.mpr ⟨e, body, hr, by simpa using hf, ho, rfl⟩
        cases h.symm.trans hsome

/-- A call is too deep only if a callback is. -/
theorem invoke_ne_tooDeep
    {run : Recording (Except Failure Json) → Desk → Except Stop (Except Failure Json) × Desk}
    (hrun : ∀ p d, (run p d).1 ≠ .error .tooDeep) :
    (invoke run mode saturate operation arguments d).1 ≠ .error .tooDeep := by
  rcases invoke_cases run mode saturate operation arguments d with
    ⟨c, h⟩ | h | ⟨e, -, -, h⟩ | ⟨e, -, -, h⟩ <;> rw [h]
  · simp
  · simp
  · simp
  · cases e.outcome with
    | returns v => simp [apply]
    | fails failure => simp [apply]
    | callback body =>
      have hbody := hrun (body (e.consumed - 1) arguments)
        (record mode saturate operation arguments d).2
      simp only [apply]
      rcases hb : run (body (e.consumed - 1) arguments)
        (record mode saturate operation arguments d).2 with ⟨stop | failure | v, d'⟩
      · rw [hb] at hbody
        simpa using hbody
      · simp
      · simp

/-- **A request that is not handed on is answered alike at every depth.** -/
theorem serve_of_handed?_eq_none (h : handed? mode q d = none) (depth : Nat) :
    serve mode depth q d = serve mode 0 q d := by
  cases q with
  | invoke saturate operation arguments =>
    cases depth with
    | zero => rfl
    | succ depth =>
      rw [serve, serve]
      exact invoke_of_handed?_eq_none h _ _
  | _ => rw [serve, serve]

/-- A request that is not handed on is never too deep. -/
theorem serve_ne_tooDeep (h : handed? mode q d = none) (depth : Nat) :
    (serve mode depth q d).1 ≠ .error .tooDeep := by
  rw [serve_of_handed?_eq_none h]
  cases q with
  | register saturate operation matcher outcome times =>
    rw [serve, register]
    cases Book.shadowOf saturate operation matcher d.book.expectations with
    | error c => simp
    | ok shadow =>
      cases shadow with
      | none => simp
      | some existing => cases mode <;> simp [Mode.isStrict]
  | invoke saturate operation arguments =>
    rw [serve, invoke_of_handed?_eq_none h _ fun _ d => (.ok (.ok .null), d)]
    exact invoke_ne_tooDeep fun _ _ => by simp
  | verify operation matcher times =>
    rw [serve, verify]
    cases d.book.verify operation matcher times <;> simp
  | _ => simp [serve]

end Recorder
end TestDouble
