import TestDouble.Proofs.Harness.Verdict

/-!
# Folding and taking apart

`TestError.collect` folds several failures into one error and `TestError.failures` takes an error
apart again, however deep it is folded. What comes of taking apart is never folded itself
(`failures_simple`), and folding loses none of it (`failures_collect`). So the two are inverse but
for the levels in between: folding once what has been taken apart gives an error of one level at
most that has the same failures (`folding_inverts`).

What is folded may itself have been folded from nothing; such an error has no failures, and nothing
is left of it.
-/

namespace TestDouble

namespace TestError

variable {e : TestError} {es : List TestError}

/-- The innermost errors of several are those of each, in order. -/
theorem allFailures_eq_flatMap (es : List TestError) : allFailures es = es.flatMap failures := by
  induction es with
  | nil => rfl
  | cons e rest ih => rw [allFailures, ih, List.flatMap_cons]

/-- A folded error has the innermost errors of all that is folded into it. -/
theorem failures_verification (es : List TestError) :
    (verification es).failures = es.flatMap failures :=
  allFailures_eq_flatMap es

mutual

/-- **What comes of taking apart** is not folded, however deep the error was. -/
theorem failures_simple : (e : TestError) → ∀ f ∈ e.failures, f.Simple
  | verification es => allFailures_simple es
  | unexpectedCall .. | unsatisfied .. | ambiguous .. | raised .. | encoding .. | decoding ..
  | config .. => by
    intro f hf es
    rw [List.mem_singleton.mp hf]
    exact TestError.noConfusion

/-- Neither is what comes of taking several errors apart. -/
theorem allFailures_simple : (es : List TestError) → ∀ f ∈ allFailures es, f.Simple
  | [] => by simp [allFailures]
  | e :: rest => List.forall_mem_append.mpr ⟨failures_simple e, allFailures_simple rest⟩

end

/-- **Folding loses nothing**: the error has the innermost errors of all that is folded. -/
theorem failures_collect (h : collect es = .error e) : e.failures = es.flatMap failures := by
  match es with
  | [] => cases h
  | [x] =>
    obtain rfl : x = e := by simpa [collect] using h
    rw [List.flatMap_singleton]
  | x :: y :: rest =>
    obtain rfl : verification (x :: y :: rest) = e := by simpa [collect] using h
    exact failures_verification _

/-- Folding fails as soon as there is something to fold. -/
theorem exists_collect_eq_error (h : es ≠ []) : ∃ e, collect es = .error e := by
  cases he : collect es with
  | ok => exact absurd (collect_eq_ok_iff.mp he) h
  | error e => exact ⟨e, rfl⟩

/-- Folding errors that are not folded gives an error that is folded just if there are several. -/
theorem collect_folded_iff (hes : ∀ f ∈ es, f.Simple) (h : collect es = .error e) :
    (∃ inner, e = verification inner) ↔ 2 ≤ es.length := by
  match es with
  | [] => cases h
  | [x] =>
    obtain rfl : x = e := by simpa [collect] using h
    have hx : x.Simple := hes x List.mem_cons_self
    constructor
    · rintro ⟨inner, hinner⟩
      exact absurd hinner (hx inner)
    · intro htwo
      simp at htwo
  | x :: y :: rest =>
    obtain rfl : verification (x :: y :: rest) = e := by simpa [collect] using h
    exact ⟨fun _ => by simp, fun _ => ⟨_, rfl⟩⟩

end TestError

/-- **Folding and taking apart are inverse up to nesting.** Folding a list of errors, each of any
depth, is good if and only if the list is empty; otherwise it gives an error whose failures are
those of the errors of the list, one after another. None of the failures of an error is folded
itself, and an error that is not folded is its own only failure. Folding the failures of an error
that has any gives an error with the same failures, in which nothing folded is folded again, and
which is folded if and only if there are at least two of them. -/
theorem folding_inverts :
    (∀ es : List TestError, (TestError.collect es = .ok () ↔ es = []) ∧
      (es ≠ [] →
        ∃ e, TestError.collect es = .error e ∧ e.failures = es.flatMap TestError.failures)) ∧
    ∀ e : TestError, (∀ f ∈ e.failures, ∀ inner, f ≠ .verification inner) ∧
      ((∀ inner, e ≠ .verification inner) → e.failures = [e]) ∧
      (e.failures ≠ [] →
        ∃ e', TestError.collect e.failures = .error e' ∧ e'.failures = e.failures ∧
          (∀ inner, e' = .verification inner → ∀ f ∈ inner, ∀ deeper, f ≠ .verification deeper) ∧
          ((∃ inner, e' = .verification inner) ↔ 2 ≤ e.failures.length)) := by
  refine ⟨fun es => ⟨TestError.collect_eq_ok_iff, fun hes => ?_⟩,
    fun e => ⟨e.failures_simple, ?_, ?_⟩⟩
  · obtain ⟨e, he⟩ := TestError.exists_collect_eq_error hes
    exact ⟨e, he, TestError.failures_collect he⟩
  · intro hsimple
    exact TestError.Simple.failures hsimple
  · intro hsome
    obtain ⟨e', he'⟩ := TestError.exists_collect_eq_error hsome
    obtain ⟨hflatten, hfailures⟩ := TestError.flatten_collect e.failures_simple he'
    refine ⟨e', he', hfailures, ?_, TestError.collect_folded_iff e.failures_simple he'⟩
    rintro inner rfl
    -- what is folded into the error is what has been taken apart
    have hinner : inner = e.failures := hflatten
    exact hinner ▸ e.failures_simple

/-- Errors of several depths, among them one that has been folded from nothing. -/
def TestError.tangle : List TestError :=
  [.raised (.message "one"),
    .verification [.verification [], .verification [.raised (.message "two")]]]

/-- The tangle has two failures, and folded once more it has one level. -/
theorem folding_inverts_tangle :
    ∃ e, TestError.collect TestError.tangle = .error e ∧
      e.failures = [.raised (.message "one"), .raised (.message "two")] ∧
      ∃ e', TestError.collect e.failures = .error e' ∧ e'.failures = e.failures ∧
        ∃ inner, e' = .verification inner := by
  obtain ⟨hcollect, happart⟩ := folding_inverts
  obtain ⟨e, he, hfailures⟩ := (hcollect TestError.tangle).2 (List.cons_ne_nil _ _)
  have htwo : e.failures = [.raised (.message "one"), .raised (.message "two")] := hfailures
  obtain ⟨e', he', hsame, -, hfolded⟩ := (happart e).2.2 (by simp [htwo])
  exact ⟨e, he, htwo, e', he', hsame, hfolded.mpr (by simp [htwo])⟩

end TestDouble
