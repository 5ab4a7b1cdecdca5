import TestDouble.Proofs.Recorder.Starvation
import TestDouble.Proofs.Recorder.Verdict

/-!
# Verdicts under caps

A count goes up before the callback of its expectation runs, so a callback that makes the same call
again finds the room it has left. `counts_within_caps` says that no count passes a cap other than
zero, in any state that requests lead through, and what a verification of all expectations can
report then: too few calls, or calls that are forbidden.
-/

namespace TestDouble

/-- Under caps a count is wrong if it is too small, or if there should be none. -/
theorem Expectation.isSatisfied_eq_false_iff {e : Expectation}
    (h : ∀ m ∈ e.times.max, 0 < m → e.consumed ≤ m) :
    e.isSatisfied = false ↔ e.consumed < e.times.min ∨ e.times.max = some 0 ∧ 0 < e.consumed := by
  rw [isSatisfied, ← Bool.not_eq_true, Times.isSatisfiedBy_iff]
  cases hmax : e.times.max with
  | none => simp
  | some m =>
    have hle := h m hmax
    simp only [Option.mem_some_iff, forall_eq', Option.some_inj]
    omega

/-- An expectation has counted a call if and only if a call names it. -/
theorem Book.Consistent.consumed_pos_iff {b : Book} (h : b.Consistent) {e : Expectation}
    (he : e ∈ b.expectations) : 0 < e.consumed ↔ some e.id ∈ b.matches := by
  rw [h.consumed e he, List.count_pos_iff]

/-- **What a verification reports under caps**: the expectations that took too few calls, and those
that took a call though they forbid it. -/
theorem Book.violations_of_withinCaps {b : Book} (h : b.Consistent) (hcaps : b.WithinCaps) :
    b.violations =
      (b.expectations.filter fun e =>
        e.consumed < e.times.min ∨ e.times.max = some 0 ∧ some e.id ∈ b.matches).map
          Expectation.violation := by
  unfold violations
  congr 1
  refine List.filter_congr fun e he => ?_
  rw [Bool.eq_iff_iff, Bool.not_eq_true', decide_eq_true_iff, ← h.consumed_pos_iff he,
    Expectation.isSatisfied_eq_false_iff (hcaps e he)]

/-- **Caps hold while they are enforced.** Whatever is asked of a new recorder through handles that
enforce caps, in callbacks too, no state that the requests lead through has a count above a cap
other than zero. So in every such state the verification of all expectations reports those that
took too few calls and those that took a call though they forbid it, and no others. -/
theorem counts_within_caps (mode : Mode) (depth : Nat) (qs : List ((k : RequestKind) × Request k))
    (hqs : ∀ q ∈ qs, Request.Within Turn.Saturates q.1 q.2) (diagnostics : List Diagnostic)
    (reported : Option TestError) :
    let start : Desk := ⟨.empty, diagnostics, reported⟩
    let ts := Recorder.turnsEach mode depth qs start
    (Recorder.serveEach mode depth qs start).book = Turn.play mode ts .empty ∧
      ∀ us, us <+: ts →
        let b := Turn.play mode us .empty
        (∀ e ∈ b.expectations, ∀ m ∈ e.times.max, 0 < m → e.consumed ≤ m) ∧
          ∀ depth (d : Desk), d.book = b →
            (Recorder.serve mode depth .verifyAll d).1 = .ok (TestError.collect
              ((b.expectations.filter fun e =>
                e.consumed < e.times.min ∨ e.times.max = some 0 ∧ some e.id ∈ b.matches).map
                  Expectation.violation)) := by
  intro start ts
  refine ⟨Recorder.serveEach_book mode depth qs start, fun us hus => ?_⟩
  intro b
  have hb : b.Capped mode := Recorder.turnsEach_capped depth hqs diagnostics reported hus
  refine ⟨hb.withinCaps, fun depth d hd => ?_⟩
  rw [Recorder.serve_verifyAll, hd, Book.violations_of_withinCaps hb.consistent hb.withinCaps]

/-- The callback of a capped expectation that makes the call again which it answers. -/
def Recorder.recurringRun : List ((k : RequestKind) × Request k) :=
  [⟨_, .register true "op" ⟨[]⟩
      (.callback fun _ _ => .ask (.invoke true "op" []) fun _ => .done (.ok .null)) (.exactly 2)⟩,
    ⟨_, .register true "op" ⟨[]⟩ (.returns .null) .never⟩,
    ⟨_, .invoke true "op" []⟩]

/-- One call makes two more: the second fills the cap, and the third hits the expectation that
forbids it, which is all that a verification reports. -/
theorem counts_within_caps_recurring :
    let start : Desk := ⟨.empty, [], none⟩
    let d := Recorder.serveEach .lenient 2 Recorder.recurringRun start
    d.book.expectations.map (·.consumed) = [2, 1] ∧
      (Recorder.serve .lenient 2 .verifyAll d).1 =
        .ok (.error (.unsatisfied "op" "" .never 1)) := by
  intro start d
  have hqs : ∀ q ∈ Recorder.recurringRun, Request.Within Turn.Saturates q.1 q.2 := by
    simp only [Recorder.recurringRun, List.forall_mem_cons]
    refine ⟨.register rfl (.callback fun _ _ => ?_), .register rfl (.returns _), .invoke rfl,
      by simp⟩
    exact .ask (.invoke rfl) fun _ => .done _
  obtain ⟨hbook, hall⟩ := counts_within_caps .lenient 2 Recorder.recurringRun hqs [] none
  obtain ⟨-, hverify⟩ := hall _ List.prefix_rfl
  exact ⟨rfl, (hverify 2 d hbook).trans rfl⟩

end TestDouble
