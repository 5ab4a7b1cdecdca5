import Mathlib.Algebra.BigOperators.Group.List.Basic
import Mathlib.Algebra.Order.BigOperators.Group.List
import Mathlib.Algebra.Order.Ring.Nat
import TestDouble.Proofs.Recorder.Demand
import TestDouble.Proofs.Recorder.Verdict

/-!
# Excess calls

A call beyond a cap is reported either way: while caps are enforced nobody takes it and the
verification of other calls reports it, and otherwise the count of the expectation is too great.
Both recorders record every call, and every call is counted once or by nobody
(`Book.Consistent.length_calls`), so the two verifications together come out the same
(`saturation_hides_no_excess`).
-/

namespace TestDouble

/-- A list of ids below a bound, with gaps, is as long as the gaps and the counts together. -/
theorem length_eq_sum_count {l : List (Option Nat)} {n : Nat} (h : ∀ i, some i ∈ l → i < n) :
    l.length = l.count none + ((List.range n).map fun i => l.count (some i)).sum := by
  induction l with
  | nil => simp
  | cons o l ih =>
    have ih := ih fun i hi => h i (List.mem_cons_of_mem o hi)
    cases o with
    | none => simp [ih, Nat.add_right_comm]
    | some j =>
      -- the first id is counted for one place of the range
      have hj : (List.range n).count j = 1 :=
        List.count_eq_one_of_mem List.nodup_range (List.mem_range.mpr (h j List.mem_cons_self))
      have hone : ((List.range n).map fun i => if (some j == some i) = true then 1 else 0).sum =
          1 := by
        rw [List.sum_map_eq_nsmul_single j _ fun i hi _ => by simp [hi.symm], hj]
        simp
      simp only [List.length_cons, ih, List.count_cons, List.sum_map_add, hone]
      rfl

/-- Calls that go to one taker or to nobody are counted there or there. -/
theorem countP_eq_unmatched_add {suits : RecordedCall → Prop} [DecidablePred suits] {id : Nat}
    {calls : List RecordedCall}
    (hsuits : ∀ c ∈ calls, suits c → c.matched = none ∨ c.matched = some id)
    (htaken : ∀ c ∈ calls, c.matched = some id → suits c) :
    (calls.countP fun c => suits c) =
      (calls.countP fun c => suits c ∧ c.matched = none) +
        (calls.map (·.matched)).count (some id) := by
  induction calls with
  | nil => rfl
  | cons c calls ih =>
    rw [List.forall_mem_cons] at hsuits htaken
    obtain ⟨hs, hsuits⟩ := hsuits
    obtain ⟨ht, htaken⟩ := htaken
    rw [List.countP_cons, List.countP_cons, List.map_cons, List.count_cons, ih hsuits htaken]
    by_cases hc : suits c
    · rcases hs hc with hm | hm <;> simp [hc, hm] <;> omega
    · have hm : c.matched ≠ some id := fun hm => hc (ht hm)
      simp [hc, hm]

/-- **Every call is counted once**, by the expectation that took it or as nobody's. -/
theorem Book.Consistent.length_calls {b : Book} (h : b.Consistent) :
    b.calls.length = b.matches.count none + (b.expectations.map (·.consumed)).sum := by
  have hcounts : b.expectations.map (·.consumed) =
      (List.range b.nextExpectation).map fun i => b.matches.count (some i) := by
    rw [← h.ids, List.map_map]
    exact List.map_congr_left h.consumed
  rw [hcounts, ← length_eq_sum_count fun i hi => h.matched_lt hi, Book.matches, List.length_map]

/-- **The calls that suit an expectation**, from a place on before which it took none: it took them
or nobody did, if no other expectation could. -/
theorem Book.Consistent.countP_suits {b : Book} (h : b.Consistent) {e : Expectation}
    (he : e ∈ b.expectations) {n : Nat} (hearlier : some e.id ∉ b.matches.take n)
    (hsuits : ∀ c ∈ b.calls, e.Suits c.operation c.arguments →
      c.matched = none ∨ c.matched = some e.id) :
    ((b.calls.drop n).countP fun c => e.Suits c.operation c.arguments) =
      ((b.calls.drop n).countP fun c => e.Suits c.operation c.arguments ∧ c.matched = none) +
        e.consumed := by
  have hconsumed := h.consumed e he
  rw [← List.take_append_drop n b.matches, List.count_append, List.count_eq_zero.mpr hearlier,
    Nat.zero_add, Book.matches, ← List.map_drop] at hconsumed
  rw [hconsumed]
  refine countP_eq_unmatched_add (fun c hc => hsuits c (List.mem_of_mem_drop hc)) ?_
  intro c hc hm
  obtain ⟨x, hx, hid, hs⟩ := h.fits c (List.mem_of_mem_drop hc) _ hm
  obtain rfl : x = e := List.inj_on_of_nodup_map h.nodup_ids hx he hid
  exact hs

namespace Book.Meets

variable {b : Book} {saturate : Bool} {ms : List Move}

/-- The expectations are satisfied if the shares of all demands are as they should be. -/
theorem violations_eq_nil_iff (h : b.Meets saturate ms) :
    b.violations = [] ↔ ∀ d ∈ Move.demands ms,
      d.registration.times.isSatisfiedBy (d.registration.share saturate d.calls) = true := by
  rw [Book.violations_eq_nil_iff, h.expectations, Move.expectations, List.forall_mem_map]
  conv_rhs => rw [← List.zipIdx_map_fst 0 (Move.demands ms), List.forall_mem_map]
  rfl

/-- No call is reported if every call was taken. -/
theorem strayCalls_eq_nil_iff (h : b.Meets saturate ms) :
    b.strayCalls = [] ↔ b.matches.count none = 0 := by
  rw [Book.strayCalls_eq_nil_iff, List.count_eq_zero, Book.matches, List.mem_map]
  push Not
  refine forall₂_congr fun c hc => ?_
  rw [RecordedCall.isAccountedFor, h.unverified c hc, Bool.or_false, Option.isSome_iff_ne_none]

/-- Every call is in the share of one demand, or nobody's. -/
theorem length_calls (h : b.Meets saturate ms) (hc : b.Consistent) :
    (Move.calls ms).length = b.matches.count none +
      ((Move.demands ms).map fun d => d.registration.share saturate d.calls).sum := by
  have hshares : b.expectations.map (·.consumed) =
      (Move.demands ms).map fun d => d.registration.share saturate d.calls := by
    rw [h.expectations, Move.expectations, List.map_map]
    conv_rhs => rw [← List.zipIdx_map_fst 0 (Move.demands ms), List.map_map]
    rfl
  rw [← h.calls, List.length_map, hc.length_calls, hshares]

/-- **When both verifications succeed**, whether caps are enforced or not: every demand is as it
should be, and every call is part of one. -/
theorem verified_iff (h : b.Meets saturate ms) (hc : b.Consistent)
    (hle : ((Move.demands ms).map Demand.calls).sum ≤ (Move.calls ms).length) :
    b.violations = [] ∧ b.strayCalls = [] ↔
      (∀ d ∈ Move.demands ms, d.registration.times.isSatisfiedBy d.calls = true) ∧
        ((Move.demands ms).map Demand.calls).sum = (Move.calls ms).length := by
  have hlength := h.length_calls hc
  rw [h.violations_eq_nil_iff, h.strayCalls_eq_nil_iff]
  constructor
  · rintro ⟨hsatisfied, hnone⟩
    -- nobody's calls being none, no demand can be greater than its share
    have hshare : ∀ d ∈ Move.demands ms, d.registration.share saturate d.calls = d.calls := by
      by_contra hnot
      push Not at hnot
      obtain ⟨d, hd, hne⟩ := hnot
      have := List.sum_lt_sum (l := Move.demands ms)
        (fun d => d.registration.share saturate d.calls) Demand.calls
        (fun d _ => d.registration.share_le saturate d.calls)
        ⟨d, hd, lt_of_le_of_ne (d.registration.share_le saturate d.calls) hne⟩
      omega
    refine ⟨fun d hd => hshare d hd ▸ hsatisfied d hd, ?_⟩
    rw [List.map_congr_left hshare] at hlength
    omega
  · rintro ⟨hsatisfied, hsum⟩
    have hshare : ∀ d ∈ Move.demands ms, d.registration.share saturate d.calls = d.calls :=
      fun d hd => Registration.share_eq_self (hsatisfied d hd) saturate
    rw [List.map_congr_left hshare] at hlength
    exact ⟨fun d hd => (hshare d hd).symm ▸ hsatisfied d hd, by omega⟩

/-! ### The calls of one expectation -/

variable {before after : List Move} {r : Registration}

/-- An expectation holds its share of the calls after its registration that suit it. -/
theorem expectation_at (h : b.Meets saturate (before ++ .register r :: after)) :
    b.expectations[(Move.registrations before).length]? =
      some (r.expectation (Move.registrations before).length
        (r.share saturate ((Move.calls after).countP fun c => r.Suits c.1 c.2))) := by
  rw [h.expectations, Move.expectations, List.getElem?_map, List.getElem?_zipIdx, Move.demands_at]
  simp [Demand.expectation]

/-- The calls after a registration are recorded after those before it. -/
theorem calls_drop (h : b.Meets saturate (before ++ .register r :: after)) :
    (b.calls.drop (Move.calls before).length).map (fun c => (c.operation, c.arguments)) =
      Move.calls after := by
  rw [List.map_drop, h.calls, Move.calls_append, Move.calls_register, List.drop_left]

/-- A call goes to the expectation that it suits, or to nobody. -/
theorem matched_of_suits (h : b.Meets saturate ms) (hc : b.Consistent)
    (hd : (Move.registrations ms).Pairwise Registration.Disjoint) {e : Expectation}
    (he : e ∈ b.expectations) {c : RecordedCall} (hcall : c ∈ b.calls)
    (hs : e.Suits c.operation c.arguments) : c.matched = none ∨ c.matched = some e.id := by
  cases hm : c.matched with
  | none => exact .inl rfl
  | some i =>
    obtain ⟨x, hx, rfl, hsuits⟩ := hc.fits c hcall i hm
    exact .inr (by rw [Expectation.eq_of_suits (h.pairwise hd) he hx hs hsuits])

/-- **What an expectation could not take** is nobody's: of the calls after its registration that
suit it, those beyond its share are unmatched. -/
theorem countP_unmatched (h : b.Meets saturate (before ++ .register r :: after))
    (hc : b.Consistent)
    (hd : (Move.registrations (before ++ .register r :: after)).Pairwise Registration.Disjoint)
    (hearlier : some (Move.registrations before).length ∉
      b.matches.take (Move.calls before).length) :
    ((b.calls.drop (Move.calls before).length).countP fun c =>
        r.Suits c.operation c.arguments ∧ c.matched = none) =
      ((Move.calls after).countP fun c => r.Suits c.1 c.2) -
        r.share saturate ((Move.calls after).countP fun c => r.Suits c.1 c.2) := by
  have he := List.mem_of_getElem? h.expectation_at
  have hsuits := hc.countP_suits he hearlier fun c hcall hs => h.matched_of_suits hc hd he hcall hs
  have hdemand : ((b.calls.drop (Move.calls before).length).countP fun c =>
      r.Suits c.operation c.arguments) = (Move.calls after).countP fun c => r.Suits c.1 c.2 := by
    rw [← h.calls_drop, List.countP_map]
    rfl
  exact Nat.eq_sub_of_add_eq (hsuits.symm.trans hdemand)

/-- No call names an expectation before it is registered. -/
theorem notMem_earlier {mode : Mode}
    (hd : (Move.registrations (before ++ .register r :: after)).Pairwise Registration.Disjoint)
    (hland : Move.AllLand mode saturate (before ++ .register r :: after) .empty) :
    some (Move.registrations before).length ∉
      (Turn.play mode ((before ++ .register r :: after).map (Move.turn saturate))
        .empty).matches.take (Move.calls before).length := by
  rw [Move.registrations_append, List.pairwise_append] at hd
  obtain ⟨hbefore, -⟩ := Move.allLand_append.mp hland
  set b₀ := Turn.play mode (before.map (Move.turn saturate)) .empty with hb₀
  have h : b₀.Meets saturate before := run hd.1 hbefore
  have hc : b₀.Consistent := Book.Consistent.empty.play mode _
  rw [List.map_append, Turn.play_append, ← hb₀]
  have hgrow := (Turn.play_extends mode b₀
    (Move.reset_notMem saturate (.register r :: after))).matches_grow
  have hlength : b₀.matches.length = (Move.calls before).length := by
    rw [← h.calls, Book.matches, List.length_map, List.length_map]
  rw [← hlength, ← List.prefix_iff_eq_take.mp hgrow, ← h.next]
  exact fun hmem => Nat.lt_irrefl _ (hc.matched_lt hmem)

end Book.Meets

/-- Both verifications find nothing to report. -/
def Recorder.Passes (mode : Mode) (depth : Nat) (d : Desk) : Prop :=
  (serve mode depth .verifyAll d).1 = .ok (.ok ()) ∧
    (serve mode depth .verifyNoOtherCalls d).1 = .ok (.ok ())

theorem Recorder.passes_iff {mode : Mode} {depth : Nat} {d : Desk} :
    Passes mode depth d ↔ d.book.violations = [] ∧ d.book.strayCalls = [] := by
  rw [Passes, serve_verifyAll, serve_verifyNoOtherCalls, Except.ok.injEq, Except.ok.injEq,
    TestError.collect_eq_ok_iff, TestError.collect_eq_ok_iff]

/-- **Saturation hides no excess.** Make the same registrations and calls on a new recorder whose
handle enforces caps and on one whose handle does not, where no call suits two registrations, no
outcome asks anything in turn, every registration is accepted and every call is recorded, no
predicate having crashed in its look-up. Then both verifications pass on the one recorder if and
only if they do on the other. Of the `k` calls after its registration that suit it, an expectation
has taken all on a recorder that does not enforce caps, and as many as fit under a cap other than
zero on one that does; the others are unmatched. -/
theorem saturation_hides_no_excess (mode : Bool → Mode) (depth : Nat)
    (diagnostics : List Diagnostic) (reported : Option TestError) (ms : List Move)
    (hdisjoint : (Move.registrations ms).Pairwise Registration.Disjoint)
    (hsilent : ∀ r ∈ Move.registrations ms, r.outcome.Silent)
    (hland : ∀ saturate, Move.AllLand (mode saturate) saturate ms .empty) :
    let d := fun saturate => Recorder.serveEach (mode saturate) depth
      ((ms.map (Move.turn saturate)).map Turn.request) ⟨.empty, diagnostics, reported⟩
    (Recorder.Passes (mode true) depth (d true) ↔ Recorder.Passes (mode false) depth (d false)) ∧
      ∀ before r after, ms = before ++ .register r :: after →
        let id := (Move.registrations before).length
        let k := (Move.calls after).countP fun c => r.Suits c.1 c.2
        (d false).book.expectations[id]? = some (r.expectation id k) ∧
        ∀ saturate,
          (d saturate).book.expectations[id]? = some (r.expectation id (r.share saturate k)) ∧
          (((d saturate).book.calls.drop (Move.calls before).length).countP fun c =>
            r.Suits c.operation c.arguments ∧ c.matched = none) = k - r.share saturate k := by
  intro d
  have hbook : ∀ saturate, (d saturate).book =
      Turn.play (mode saturate) (ms.map (Move.turn saturate)) .empty := fun saturate =>
    Recorder.serveEach_request_book depth (Move.turns_silent hsilent)
      (by simp [Book.Silent, Book.empty])
  have hmeets : ∀ saturate, (d saturate).book.Meets saturate ms := fun saturate =>
    hbook saturate ▸ Book.Meets.run hdisjoint (hland saturate)
  have hc : ∀ saturate, (d saturate).book.Consistent := fun saturate =>
    hbook saturate ▸ Book.Consistent.empty.play _ _
  constructor
  · -- where caps are not enforced the counts are the demands, so these are no more than the calls
    have hle := (hmeets false).length_calls (hc false)
    simp only [Registration.share_false] at hle
    have hsum : ((Move.demands ms).map Demand.calls).sum ≤ (Move.calls ms).length := by
      rw [hle]
      exact Nat.le_add_left _ _
    rw [Recorder.passes_iff, Recorder.passes_iff, (hmeets true).verified_iff (hc true) hsum,
      (hmeets false).verified_iff (hc false) hsum]
  · rintro before r after rfl
    intro id k
    refine ⟨?_, fun saturate => ⟨(hmeets saturate).expectation_at, ?_⟩⟩
    · rw [(hmeets false).expectation_at, Registration.share_false]
    · refine (hmeets saturate).countP_unmatched (hc saturate) hdisjoint ?_
      rw [hbook]
      exact Book.Meets.notMem_earlier hdisjoint (hland saturate)

/-- A registration with a cap, one for calls without arguments, and a call made once too often. -/
def Move.excessRun : List Move :=
  [.register ⟨"op", ⟨[.any]⟩, .returns (.bool true), .once⟩,
    .register ⟨"op", ⟨[]⟩, .returns .null, .anyNumber⟩,
    .call "op" [.null], .call "op" [.null]]

/-- The second call is nobody's where the cap is enforced, and otherwise it is counted. -/
theorem saturation_hides_no_excess_once :
    let r : Registration := ⟨"op", ⟨[.any]⟩, .returns (.bool true), .once⟩
    let d := fun saturate => Recorder.serveEach .strict 0
      ((Move.excessRun.map (Move.turn saturate)).map Turn.request) ⟨.empty, [], none⟩
    (Recorder.Passes .strict 0 (d true) ↔ Recorder.Passes .strict 0 (d false)) ∧
      (d false).book.expectations[0]? = some (r.expectation 0 2) ∧
      (d true).book.expectations[0]? = some (r.expectation 0 1) ∧
      ((d true).book.calls.countP fun c =>
        r.Suits c.operation c.arguments ∧ c.matched = none) = 1 := by
  intro r d
  have hdisjoint : (Move.registrations Move.excessRun).Pairwise Registration.Disjoint := by
    refine List.pairwise_pair.mpr ?_
    rintro operation arguments ⟨⟨-, hone⟩, -, hnone⟩
    cases arguments with
    | nil => cases hone
    | cons v arguments => cases hnone
  have hsilent : ∀ r ∈ Move.registrations Move.excessRun, r.outcome.Silent := by
    simp only [Move.excessRun, Move.registrations_register, List.forall_mem_cons]
    exact ⟨fun _ _ => ⟨_, rfl⟩, fun _ _ => ⟨_, rfl⟩, by simp [Move.registrations]⟩
  have hland : ∀ saturate, Move.AllLand .strict saturate Move.excessRun .empty := by
    intro saturate
    cases saturate <;> exact ⟨rfl, rfl, rfl, rfl, trivial⟩
  obtain ⟨hpasses, hcounts⟩ := saturation_hides_no_excess (fun _ => .strict) 0 [] none
    Move.excessRun hdisjoint hsilent hland
  obtain ⟨hall, hshare⟩ := hcounts [] r _ rfl
  obtain ⟨htaken, hunmatched⟩ := hshare true
  exact ⟨hpasses, hall, htaken, hunmatched⟩

/-- A registration with a cap, one whose predicate crashes, and a call made once too often. -/
def Move.crashingRun : List Move :=
  [.register ⟨"op", ⟨[.any]⟩, .returns .null, .once⟩,
    .register ⟨"op", ⟨[.predicate "crash" fun _ => .error ⟨"crash"⟩]⟩, .returns .null, .anyNumber⟩,
    .call "op" [.null], .call "op" [.null]]

/-- **A crash in a look-up can hide an excess.** Where the cap is enforced the second call gets to
the predicate that crashes, so it is not recorded, and both verifications pass. Otherwise the
expectation with the cap takes it and the verification of all expectations fails. -/
theorem crash_hides_excess :
    let r : Registration := ⟨"op", ⟨[.any]⟩, .returns .null, .once⟩
    let d := fun saturate => Recorder.serveEach .lenient 0
      ((Move.crashingRun.map (Move.turn saturate)).map Turn.request) ⟨.empty, [], none⟩
    (Move.registrations Move.crashingRun).Pairwise Registration.Disjoint ∧
      (∀ r ∈ Move.registrations Move.crashingRun, r.outcome.Silent) ∧
      (∀ saturate, (d saturate).book.expectations.length = 2) ∧
      ((Move.calls Move.crashingRun).countP fun c => r.Suits c.1 c.2) = 2 ∧
      (d true).book.expectations[0]? = some (r.expectation 0 1) ∧
      ((d true).book.calls.countP fun c =>
        r.Suits c.operation c.arguments ∧ c.matched = none) = 0 ∧
      Recorder.Passes .lenient 0 (d true) ∧ ¬ Recorder.Passes .lenient 0 (d false) := by
  intro r d
  refine ⟨?_, ?_, ?_, rfl, rfl, rfl, ?_, ?_⟩
  · -- what crashes accepts nothing
    refine List.pairwise_pair.mpr ?_
    rintro operation arguments ⟨-, -, hcrash⟩
    match arguments with
    | [] => cases hcrash
    | [v] => cases hcrash
    | v :: w :: rest => cases hcrash
  · simp only [Move.crashingRun, Move.registrations_register, List.forall_mem_cons]
    exact ⟨fun _ _ => ⟨_, rfl⟩, fun _ _ => ⟨_, rfl⟩, by simp [Move.registrations]⟩
  · intro saturate
    cases saturate <;> rfl
  · exact Recorder.passes_iff.mpr ⟨rfl, rfl⟩
  · rw [Recorder.passes_iff]
    rintro ⟨hviolations, -⟩
    cases hviolations

end TestDouble
