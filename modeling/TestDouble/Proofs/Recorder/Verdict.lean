import TestDouble.Recorder

/-!
# Verdicts

What the two verifications of a recorder report. One reports the expectations whose counts are not
as they should be, the other the calls that are not accounted for; both fold what they report into
one error, from which `TestError.failures` gets it back (`Recorder.verifyAll_error`).
-/

namespace TestDouble

namespace TestError

/-- Failures that have no failures inside are all there is to get. -/
theorem allFailures_eq_self {es : List TestError} (h : ∀ e ∈ es, e.failures = [e]) :
    allFailures es = es := by
  induction es with
  | nil => rfl
  | cons e rest ih =>
    obtain ⟨he, hrest⟩ := List.forall_mem_cons.mp h
    rw [allFailures, he, ih hrest, List.singleton_append]

/-- What is folded into an error can be got back from it. -/
theorem collect_eq_error {es : List TestError} (h : ∀ e ∈ es, e.failures = [e]) (hne : es ≠ []) :
    ∃ e, collect es = .error e ∧ e.failures = es := by
  match es with
  | [] => exact absurd rfl hne
  | [e] => exact ⟨e, rfl, h e List.mem_cons_self⟩
  | e :: e' :: rest => exact ⟨_, rfl, allFailures_eq_self h⟩

end TestError

namespace Book

variable {b : Book}

theorem mem_violations {e : Expectation} (he : e ∈ b.expectations) (hs : e.isSatisfied = false) :
    e.violation ∈ b.violations :=
  List.mem_map_of_mem (List.mem_filter.mpr ⟨he, by rw [hs]; rfl⟩)

theorem failures_of_mem_violations (b : Book) : ∀ v ∈ b.violations, v.failures = [v] := by
  intro v hv
  obtain ⟨e, -, rfl⟩ := List.mem_map.mp hv
  rfl

/-- There is nothing to report if every count is as it should be. -/
theorem violations_eq_nil_iff :
    b.violations = [] ↔ ∀ e ∈ b.expectations, e.isSatisfied = true := by
  simp [violations]

/-- There is nothing to report if every call is accounted for. -/
theorem strayCalls_eq_nil_iff :
    b.strayCalls = [] ↔ ∀ c ∈ b.calls, c.isAccountedFor = true := by
  simp [strayCalls]

/-- The calls that some expectation has taken are not reported. -/
theorem strayCalls_without (b : Book) (id : Nat) :
    { b with calls := b.calls.filter fun c => c.matched ≠ some id }.strayCalls = b.strayCalls := by
  unfold strayCalls
  dsimp only
  rw [List.filter_filter]
  congr 1
  refine List.filter_congr fun c _ => ?_
  cases hm : c.matched <;> simp [RecordedCall.isAccountedFor, hm]

end Book

namespace Recorder

variable {mode : Mode} {depth : Nat}

@[simp] theorem serve_verifyAll (d : Desk) :
    (serve mode depth .verifyAll d).1 = .ok (TestError.collect d.book.violations) := by
  rw [serve]
  rfl

@[simp] theorem serve_verifyNoOtherCalls (d : Desk) :
    (serve mode depth .verifyNoOtherCalls d).1 = .ok (TestError.collect d.book.strayCalls) := by
  rw [serve]
  rfl

/-- **An expectation whose count is not as it should be is reported.** -/
theorem verifyAll_error {d : Desk} {e : Expectation} (he : e ∈ d.book.expectations)
    (hs : e.isSatisfied = false) :
    ∃ err, (serve mode depth .verifyAll d).1 = .ok (.error err) ∧ e.violation ∈ err.failures := by
  have hmem := Book.mem_violations he hs
  obtain ⟨err, herr, hfailures⟩ := TestError.collect_eq_error d.book.failures_of_mem_violations
    (List.ne_nil_of_mem hmem)
  exact ⟨err, by rw [serve_verifyAll, herr], hfailures ▸ hmem⟩

end Recorder
end TestDouble
