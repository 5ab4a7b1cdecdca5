import TestDouble.Proofs.Harness.Teardown
import TestDouble.Proofs.Recorder.Verdict

/-!
# The verdict of a harness

A harness verifies its recorder twice, once for the expectations and once for the other calls. Each
of the two folds what it has to report into one verdict; the harness takes both verdicts apart again
and folds everything into a verdict of its own. None of what is folded is folded itself
(`TestError.Simple`), so taking apart one level gives back everything (`TestError.flatten_collect`),
and the verdict of the harness holds what is wrong with the recorder (`Bench.Lacks`), all of it and
nothing else, in order (`verdict_loses_nothing`).
-/

namespace TestDouble

namespace TestError

/-- The error is not several failures folded into one. -/
def Simple (e : TestError) : Prop := ∀ es, e ≠ verification es

variable {e : TestError} {es : List TestError}

theorem Simple.flatten (h : e.Simple) : e.flatten = [e] := by
  cases e with
  | verification es => exact absurd rfl (h es)
  | _ => rfl

theorem Simple.failures (h : e.Simple) : e.failures = [e] := by
  cases e with
  | verification es => exact absurd rfl (h es)
  | _ => rfl

/-- **What is folded into an error can be got back from it**, from the first level and from all. -/
theorem flatten_collect (h : ∀ e ∈ es, e.Simple) (he : collect es = .error e) :
    e.flatten = es ∧ e.failures = es := by
  match es with
  | [] => cases he
  | [x] =>
    obtain rfl : x = e := by simpa [collect] using he
    have hx := h x List.mem_cons_self
    exact ⟨hx.flatten, hx.failures⟩
  | x :: y :: rest =>
    obtain rfl : verification (x :: y :: rest) = e := by simpa [collect] using he
    exact ⟨rfl, allFailures_eq_self fun e he => (h e he).failures⟩

end TestError

/-- What a verification reports is not folded. -/
theorem Book.violations_simple (b : Book) : ∀ v ∈ b.violations, v.Simple := by
  intro v hv es
  obtain ⟨e, -, rfl⟩ := List.mem_map.mp hv
  exact TestError.noConfusion

theorem Book.strayCalls_simple (b : Book) : ∀ v ∈ b.strayCalls, v.Simple := by
  intro v hv es
  obtain ⟨c, -, rfl⟩ := List.mem_map.mp hv
  exact TestError.noConfusion

namespace Bench

/-- Everything that is wrong with the recorder of a harness: the expectations whose counts are out
of their ranges, in the order of registration, and if the configuration asks for it the calls that
nobody took and nobody verified, in the order of arrival. -/
structure Lacks (b : Bench) (unmet : List Expectation) (stray : List RecordedCall) : Prop where
  mem_unmet : ∀ e, e ∈ unmet ↔ e ∈ b.book.expectations ∧
    ¬ (e.times.min ≤ e.consumed ∧ ∀ m ∈ e.times.max, e.consumed ≤ m)
  registered : (unmet.map (·.id)).Pairwise (· < ·)
  mem_stray : ∀ c, c ∈ stray ↔ b.config.verifyNoOtherCalls = true ∧ c ∈ b.book.calls ∧
    c.matched = none ∧ c.verified = false
  arrived : (stray.map (·.sequence)).Pairwise (· < ·)

variable {b : Bench}

/-- What a verification reports is what is wrong. -/
theorem exists_lacks (h : b.book.Consistent) : ∃ unmet stray, b.Lacks unmet stray ∧
    b.failures = unmet.map Expectation.violation ++ stray.map RecordedCall.unexpected := by
  refine ⟨b.book.expectations.filter fun e => !e.isSatisfied,
    if b.config.verifyNoOtherCalls then b.book.calls.filter fun c => !c.isAccountedFor else [],
    ⟨fun e => ?_, ?_, fun c => ?_, ?_⟩, ?_⟩
  · rw [List.mem_filter, ← Times.isSatisfiedBy_iff, Bool.not_eq_true, Bool.not_eq_true']
    rfl
  · exact h.ids_increasing.sublist (List.filter_sublist.map _)
  · split_ifs with hother
    · simp [hother, RecordedCall.isAccountedFor]
    · simp [hother]
  · split_ifs
    · exact h.increasing.sublist (List.filter_sublist.map _)
    · exact List.Pairwise.nil
  · unfold failures
    split_ifs <;> rfl

/-- Neither is what it reports folded. -/
theorem failures_simple (b : Bench) : ∀ e ∈ b.failures, e.Simple := by
  unfold failures
  refine List.forall_mem_append.mpr ⟨b.book.violations_simple, ?_⟩
  split_ifs
  · exact b.book.strayCalls_simple
  · simp

/-- What a test does with its harness takes the book through some turns. -/
theorem after_book (deeds : List Deed) (b : Bench) :
    ∃ ts, (b.after deeds).book = Turn.play b.config.mode ts b.book := by
  induction deeds generalizing b with
  | nil => exact ⟨[], rfl⟩
  | cons deed deeds ih =>
    obtain ⟨ts, hts⟩ := ih (b.does deed)
    cases deed with
    | ask q =>
      rw [does, perform_book] at hts
      exact ⟨_, hts.trans (Turn.play_append _ _).symm⟩
    | verify =>
      have hverify : (b.does .verify).book = b.book ∧ (b.does .verify).config = b.config := by
        obtain ⟨journal, h⟩ := verify_eq b
        rw [does, h]
        exact ⟨rfl, rfl⟩
      rw [hverify.1, hverify.2] at hts
      exact ⟨ts, hts⟩

end Bench

/-- **The verdict of a harness loses nothing and invents nothing.** Whatever a test does with its
harness, the book is one that turns lead to. Take any harness with such a book, and everything that
is wrong with its recorder. The verification always comes to a verdict, and leaves the book alone:
it is good if and only if nothing is wrong; it is the bare error if one thing is; otherwise it
holds all of them in order, the expectations first and then the other calls, none of them folded. So
everything can be got back from the error, from the first level as well as from all levels, which
also holds of the errors that the recorder gives to the harness. -/
theorem verdict_loses_nothing (config : Config) (journal : Journal) :
    (∀ deeds : List Deed, ∃ ts, ((Bench.start config journal).after deeds).book =
      Turn.play config.mode ts .empty) ∧
    ∀ (b : Bench) (mode : Mode) (ts : List Turn), b.book = Turn.play mode ts .empty →
      ∃ unmet stray, b.Lacks unmet stray ∧
        let reports : List TestError :=
          unmet.map (fun e => .unsatisfied e.operation e.matcher.text e.times e.consumed) ++
            stray.map fun c => .unexpectedCall c.operation c.arguments
        ∃ verdict after, Bench.verify b = (.ok verdict, after) ∧ after.book = b.book ∧
          (verdict = .ok () ↔ reports = []) ∧
          (∀ e, reports = [e] → verdict = .error e) ∧
          (2 ≤ reports.length → verdict = .error (.verification reports)) ∧
          (∀ r ∈ reports, ∀ es, r ≠ .verification es) ∧
          (∀ e, verdict = .error e → e.failures = reports ∧ e.flatten = reports) ∧
          ∀ e, (Bench.perform b.handle.verifyAll b).1 = .ok (.error e) ∨
              (Bench.perform b.handle.verifyNoOtherCalls b).1 = .ok (.error e) →
            e.flatten = e.failures := by
  refine ⟨fun deeds => Bench.after_book deeds _, fun b mode ts hb => ?_⟩
  have hconsistent : b.book.Consistent := hb ▸ Book.Consistent.empty.play mode ts
  obtain ⟨unmet, stray, hlacks, hfailures⟩ := Bench.exists_lacks hconsistent
  obtain ⟨journal, hverify⟩ := Bench.verify_eq b
  refine ⟨unmet, stray, hlacks, ?_⟩
  intro reports
  have hreports : b.failures = reports := hfailures
  have hsimple : ∀ r ∈ reports, r.Simple := hreports ▸ b.failures_simple
  rw [hreports] at hverify
  refine ⟨_, _, hverify, rfl, TestError.collect_eq_ok_iff, fun e he => by rw [he]; rfl, ?_, hsimple,
    fun e he => (TestError.flatten_collect hsimple he).symm, ?_⟩
  · intro hlength
    match reports, hlength with
    | _ :: _ :: _, _ => rfl
  · rintro e (he | he)
    · obtain ⟨_, hperform⟩ := Bench.perform_verifyAll b.handle b
      rw [hperform, Except.ok.injEq] at he
      obtain ⟨hflat, hall⟩ := TestError.flatten_collect b.book.violations_simple he
      rw [hflat, hall]
    · obtain ⟨_, hperform⟩ := Bench.perform_verifyNoOtherCalls b.handle b
      rw [hperform, Except.ok.injEq] at he
      obtain ⟨hflat, hall⟩ := TestError.flatten_collect b.book.strayCalls_simple he
      rw [hflat, hall]

/-- A run with an expectation that is never met, and one that is met once too often. -/
def Deed.excessiveRun : List Deed :=
  [.ask (.register true "load" .empty (.returns .null) .once),
    .ask (.register true "save" .empty (.returns .null) .once),
    .ask (.invoke true "save" []), .ask (.invoke true "save" [])]

/-- The first expectation is reported, and of the two calls the second one. -/
theorem verdict_loses_nothing_excessive :
    let b := (Bench.start .lenient .empty).after Deed.excessiveRun
    ∃ unmet stray, b.Lacks unmet stray ∧
      unmet.map Expectation.violation ++ stray.map RecordedCall.unexpected =
        [.unsatisfied "load" "" .once 0, .unexpectedCall "save" []] := by
  intro b
  obtain ⟨hdeeds, hverdict⟩ := verdict_loses_nothing .lenient .empty
  obtain ⟨ts, hts⟩ := hdeeds Deed.excessiveRun
  obtain ⟨unmet, stray, hlacks, verdict, after, hverify, -, -, -, -, -, hfailures, -⟩ :=
    hverdict b .lenient ts hts
  have hrun : (Bench.verify b).1 = .ok (.error (.verification
      [.unsatisfied "load" "" .once 0, .unexpectedCall "save" []])) := rfl
  obtain rfl : verdict = .error (.verification
      [.unsatisfied "load" "" .once 0, .unexpectedCall "save" []]) := by
    rw [hverify] at hrun
    exact Except.ok.inj hrun
  exact ⟨unmet, stray, hlacks, (hfailures _ rfl).1.symm⟩

end TestDouble
