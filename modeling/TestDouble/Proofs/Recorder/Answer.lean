import TestDouble.Recorder

/-!
# Answers to calls

What a recorder answers to a call, by what the look-up of the call has found: a crash, nothing, or
an expectation.
-/

namespace TestDouble.Recorder

variable {mode : Mode} {saturate : Bool} {operation : String} {arguments : List Json} {d : Desk}
  {b b' : Book}

/-- What a callback answers is the answer, a failure being raised. -/
theorem apply_callback
    (run : Recording (Except Failure Json) → Desk → Except Stop (Except Failure Json) × Desk)
    (answered : Nat) (arguments : List Json)
    (body : Nat → List Json → Recording (Except Failure Json)) (d : Desk) :
    apply run answered arguments (.callback body) d =
      ((run (body answered arguments) d).1.map (Except.mapError .raised),
        (run (body answered arguments) d).2) := by
  rw [apply]
  rcases run (body answered arguments) d with ⟨stop | failure | v, d'⟩ <;> rfl

/-- A call that crashes in its look-up crashes. -/
theorem serve_invoke_crashed (depth : Nat) {c : Crash} (hd : d.book = b)
    (h : b.record saturate operation arguments = (.error c, b')) :
    (serve mode depth (.invoke saturate operation arguments) d).1 = .error (.crashed c) := by
  cases depth <;> simp [serve, invoke, record, hd, h]

/-- A call that nobody takes is answered by the mode. -/
theorem serve_invoke_none (depth : Nat) (hd : d.book = b)
    (h : b.record saturate operation arguments = (.ok none, b')) :
    (serve mode depth (.invoke saturate operation arguments) d).1 =
      .ok (if mode.isStrict then .error (.unexpectedCall operation arguments) else .ok .null) := by
  cases depth <;> simp [serve, invoke, record, hd, h]

/-- A call that hits an expectation which forbids it fails on a strict recorder, and nothing
happens after it is recorded. -/
theorem serve_invoke_forbidden (depth : Nat) {e : Expectation} (hd : d.book = b)
    (h : b.record saturate operation arguments = (.ok (some e), b'))
    (hf : (e.times.forbidsCalls && mode.isStrict) = true) :
    serve mode depth (.invoke saturate operation arguments) d =
      (.ok (.error e.violation), (record mode saturate operation arguments d).2) := by
  cases depth <;> simp [serve, invoke, record, hd, h, hf]

/-- Any other call runs the outcome of the expectation that takes it, and is answered by that. -/
theorem serve_invoke_apply (depth : Nat) {e : Expectation} (hd : d.book = b)
    (h : b.record saturate operation arguments = (.ok (some e), b'))
    (hf : (e.times.forbidsCalls && mode.isStrict) = false) :
    serve mode (depth + 1) (.invoke saturate operation arguments) d =
      apply (fun body d => body.run (serve mode depth) d) (e.consumed - 1) arguments e.outcome
        (record mode saturate operation arguments d).2 := by
  simp [serve, invoke, record, hd, h, hf]

/-- To answer with a value needs no depth. -/
theorem serve_invoke_returns (depth : Nat) {e : Expectation} {v : Json} (hd : d.book = b)
    (h : b.record saturate operation arguments = (.ok (some e), b'))
    (hf : (e.times.forbidsCalls && mode.isStrict) = false) (ho : e.outcome = .returns v) :
    serve mode depth (.invoke saturate operation arguments) d =
      (.ok (.ok v), (record mode saturate operation arguments d).2) := by
  cases depth <;> simp [serve, invoke, record, hd, h, hf, ho, apply]

/-- **The four ways in which a call is answered**: it crashes in its look-up; nobody takes it; it
hits an expectation which forbids it, on a strict recorder; or an expectation takes it and its
outcome runs. The desk is the one after the look-up, except that an outcome may change it. -/
theorem invoke_cases
    (run : Recording (Except Failure Json) → Desk → Except Stop (Except Failure Json) × Desk)
    (mode : Mode) (saturate : Bool) (operation : String) (arguments : List Json) (d : Desk) :
    let recorded := record mode saturate operation arguments d
    let answered := invoke run mode saturate operation arguments d
    (∃ c, answered = (.error (.crashed c), recorded.2)) ∨
      answered = (.ok (if mode.isStrict then .error (.unexpectedCall operation arguments)
        else .ok .null), recorded.2) ∨
      (∃ e, recorded.1 = .ok (some e) ∧ (e.times.forbidsCalls && mode.isStrict) = true ∧
        answered = (.ok (.error e.violation), recorded.2)) ∨
      ∃ e, recorded.1 = .ok (some e) ∧ (e.times.forbidsCalls && mode.isStrict) = false ∧
        answered = apply run (e.consumed - 1) arguments e.outcome recorded.2 := by
  intro recorded answered
  simp only [recorded, answered, invoke]
  rcases hr : d.book.record saturate operation arguments with ⟨c | hit, b⟩
  · exact .inl ⟨c, by simp only [record, hr]⟩
  simp only [record, hr]
  cases hit with
  | none => exact .inr (.inl rfl)
  | some e =>
    cases hf : e.times.forbidsCalls && mode.isStrict with
    | true => exact .inr (.inr (.inl ⟨e, rfl, hf, if_pos hf⟩))
    | false => exact .inr (.inr (.inr ⟨e, rfl, hf, if_neg (by simp [hf])⟩))

end TestDouble.Recorder
