import TestDouble.Proofs.Log.Collection

/-!
# Sifting a snapshot

A snapshot is narrowed step by step, and every step is a sieve: it keeps the records that meet its
condition. A chain of sieves keeps the records that meet all conditions (`Snapshot.records_sift`),
so neither their order nor their number matters. What a sifted snapshot is asked is answered from
the records that are left (`sifting_keeps_matches`); which of them is the latest can be told from
their numbers, because a collector numbers its records in order (`LogAct.sequences_increasing`).
-/

namespace TestDouble

/-! ### Sieves -/

/-- A step that narrows a snapshot; `filter` takes any test. -/
inductive Sieve where
  | atLeast (level : LogLevel)
  | withLevel (level : LogLevel)
  | containing (text : String)
  | withCategory (category : String)
  | filter (test : LogRecord → Bool)

namespace Sieve

/-- Narrows a snapshot. -/
def apply (s : Snapshot) : Sieve → Snapshot
  | atLeast level => s.atLeast level
  | withLevel level => s.withLevel level
  | containing text => s.containing text
  | withCategory category => s.withCategory category
  | filter test => s.filter test

/-- The condition on the records that are kept. -/
def Admits (r : LogRecord) : Sieve → Prop
  | atLeast level => level.rank ≤ r.level.rank
  | withLevel level => r.level = level
  | containing text => text.toList <:+: r.message.toList
  | withCategory category => r.category = some category
  | filter test => test r = true

instance (r : LogRecord) (step : Sieve) : Decidable (step.Admits r) :=
  match step with
  | atLeast level => inferInstanceAs (Decidable (level.rank ≤ r.level.rank))
  | withLevel level => inferInstanceAs (Decidable (r.level = level))
  | containing _ => decidable_of_iff _ Text.occursIn_iff
  | withCategory category => inferInstanceAs (Decidable (r.category = some category))
  | filter test => inferInstanceAs (Decidable (test r = true))

/-- **A step** keeps the records that meet its condition. -/
theorem records_apply (s : Snapshot) (step : Sieve) :
    (step.apply s).records = s.records.filter fun r => step.Admits r := by
  cases step with
  | atLeast level => rfl
  | withLevel level => rfl
  | containing text =>
    refine List.filter_congr fun r _ => Bool.eq_iff_iff.mpr ?_
    rw [decide_eq_true_iff]
    exact Text.occursIn_iff
  | withCategory category =>
    refine List.filter_congr fun r _ => Bool.eq_iff_iff.mpr ?_
    rw [beq_iff_eq, decide_eq_true_iff]
    rfl
  | filter test =>
    refine List.filter_congr fun r _ => Bool.eq_iff_iff.mpr ?_
    rw [decide_eq_true_iff]
    rfl

end Sieve

/-- The sieve that a narrowing of a query is. -/
def Narrowing.sieve : Narrowing → Sieve
  | atLeast level => .atLeast level
  | withLevel level => .withLevel level
  | containing text => .containing text
  | withCategory category => .withCategory category
  | filter test => .filter test.holds

namespace Snapshot

/-- Narrows a snapshot step by step. -/
def sift (s : Snapshot) (steps : List Sieve) : Snapshot := steps.foldl Sieve.apply s

/-- **A chain of steps** keeps the records that meet all conditions. -/
theorem records_sift (s : Snapshot) (steps : List Sieve) :
    (s.sift steps).records = s.records.filter fun r => ∀ step ∈ steps, step.Admits r := by
  induction steps generalizing s with
  | nil => simp [sift]
  | cons step steps ih =>
    have hcons : s.sift (step :: steps) = (step.apply s).sift steps := rfl
    rw [hcons, ih, Sieve.records_apply, List.filter_filter]
    refine List.filter_congr fun r _ => ?_
    simp [Bool.and_comm]

theorem mem_sift {s : Snapshot} {steps : List Sieve} {r : LogRecord} :
    r ∈ (s.sift steps).records ↔ r ∈ s.records ∧ ∀ step ∈ steps, step.Admits r := by
  rw [records_sift, List.mem_filter, decide_eq_true_iff]

/-- Only which steps there are matters, not their order and not how often they occur. -/
theorem sift_congr {steps steps' : List Sieve} (s : Snapshot)
    (h : ∀ step, step ∈ steps' ↔ step ∈ steps) : s.sift steps' = s.sift steps := by
  have hrecords : (s.sift steps').records = (s.sift steps).records := by
    rw [records_sift, records_sift]
    simp only [h]
  exact congrArg mk hrecords

/-- Of two levels the higher one counts. -/
theorem atLeast_atLeast (s : Snapshot) (a b : LogLevel) :
    (s.atLeast a).atLeast b = s.atLeast (if a ≤ b then b else a) := by
  refine congrArg mk ((List.filter_filter ..).trans (List.filter_congr fun r _ => ?_))
  rw [← Bool.decide_and, decide_eq_decide]
  split_ifs with h
  · exact ⟨fun hr => hr.1, fun hr => ⟨hr, Nat.le_trans h hr⟩⟩
  · exact ⟨fun hr => hr.2, fun hr => ⟨Nat.le_trans (Nat.le_of_lt (Nat.not_le.mp h)) hr, hr⟩⟩

/-- The queries of a session narrow a snapshot by sieves. -/
theorem narrow_eq_sift (s : Snapshot) (q : Query) :
    q.narrow s = s.sift (q.narrowings.map Narrowing.sieve) := by
  rw [Query.narrow, sift, List.foldl_map]
  congr 1
  funext s step
  cases step <;> rfl

/-- Some record passes a test just if one is left when the others are taken away. -/
theorem any_iff (s : Snapshot) (test : LogRecord → Bool) :
    s.any test = true ↔ (s.filter test).records ≠ [] := by
  simp [any, filter]

/-- The latest record is the one with the greatest number. -/
theorem latest?_eq_some_iff {s : Snapshot} (h : (s.records.map (·.sequence)).Pairwise (· < ·))
    {r : LogRecord} :
    s.latest? = some r ↔ r ∈ s.records ∧ ∀ r' ∈ s.records, r'.sequence ≤ r.sequence := by
  have hpairwise := List.pairwise_map.mp h
  constructor
  · intro hr
    obtain ⟨earlier, hearlier⟩ := List.getLast?_eq_some_iff.mp hr
    rw [hearlier] at hpairwise ⊢
    obtain ⟨-, -, hlast⟩ := List.pairwise_append.mp hpairwise
    refine ⟨by simp, fun r' hr' => ?_⟩
    rcases List.mem_append.mp hr' with hr' | hr'
    · exact Nat.le_of_lt (hlast r' hr' r (List.mem_singleton_self r))
    · exact Nat.le_of_eq (congrArg _ (List.mem_singleton.mp hr'))
  · rintro ⟨hr, hgreatest⟩
    rcases s.records.eq_nil_or_concat with hnil | ⟨earlier, x, hx⟩
    · rw [hnil] at hr
      exact absurd hr List.not_mem_nil
    · rw [List.concat_eq_append] at hx
      rw [latest?, hx, List.getLast?_concat]
      rw [hx] at hr hpairwise hgreatest
      obtain ⟨-, -, hlast⟩ := List.pairwise_append.mp hpairwise
      rcases List.mem_append.mp hr with hr | hr
      · -- an earlier record has a smaller number than the last one
        have hlt := hlast r hr x (List.mem_singleton_self x)
        have hle := hgreatest x (by simp)
        omega
      · rw [List.mem_singleton.mp hr]

end Snapshot

/-! ### Levels -/

namespace LogLevel

/-- All levels, from the least grave to the gravest. -/
def all : List LogLevel := [trace, debug, information, warning, error, critical]

theorem mem_all (l : LogLevel) : l ∈ all := by cases l <;> decide

theorem nodup_all : all.Nodup := by decide

end LogLevel

namespace Snapshot

/-- The records of some levels are those of each of the levels, one level after another. -/
theorem flatMap_withLevel_perm {levels : List LogLevel} (hlevels : levels.Nodup) (s : Snapshot)
    (h : ∀ r ∈ s.records, r.level ∈ levels) :
    (levels.flatMap fun level => (s.withLevel level).records).Perm s.records := by
  induction levels generalizing s with
  | nil =>
    have hnil : s.records = [] := List.eq_nil_iff_forall_not_mem.mpr fun r hr =>
      List.not_mem_nil (h r hr)
    rw [hnil]
    exact .refl _
  | cons level levels ih =>
    obtain ⟨hlevel, hlevels⟩ := List.nodup_cons.mp hlevels
    -- the records of the other levels are those of what is left without the first level
    have hother : ∀ other ∈ levels, (s.withLevel other).records =
        ((s.filter fun r => !decide (r.level = level)).withLevel other).records := by
      intro other hother
      have hne : other ≠ level := fun heq => hlevel (heq ▸ hother)
      refine ((List.filter_filter ..).trans (List.filter_congr fun r _ => ?_)).symm
      by_cases hr : r.level = other
      · simp [hr, hne]
      · simp [hr]
    have hrest := ih hlevels (s.filter fun r => !decide (r.level = level)) fun r hr => by
      obtain ⟨hr, hne⟩ := List.mem_filter.mp hr
      exact (List.mem_cons.mp (h r hr)).resolve_left (by simpa using hne)
    rw [List.flatMap_cons, List.flatMap_congr hother]
    exact (hrest.append_left _).trans (List.filter_append_perm _ _)

end Snapshot

/-- **A collector numbers its records in order.** -/
theorem LogAct.sequences_increasing {j : Journal} {id : Nat} (hid : id < j.collectors.length)
    (hempty : j.collector id = .empty) (acts : List LogAct) :
    (((LogAct.play acts j).collector id).records.map (·.sequence)).Pairwise (· < ·) := by
  obtain ⟨new, hrecords, -, hsequences, -⟩ := LogAct.play_gains hid hempty acts
  obtain rfl : new = _ := hrecords.symm
  rw [hsequences]
  exact List.pairwise_lt_range'

/-- **Sifting keeps the matching records.** Take any snapshot of a collector after whatever has been
done to it, and any chain of narrowing steps. What is left are the records that meet the conditions
of all steps, unchanged and in order; so the order of the steps and repetitions do not matter, of
two least levels the higher one counts, and the numbers increase. Some record passes a test if and
only if filtering by it leaves something, the first one that does is the first that filtering
leaves, and the latest record is the matching one with the greatest number. The records of the six
levels are together all records, and none is of two levels. The queries of a session are such
chains. -/
theorem sifting_keeps_matches (j : Journal) (id : Nat) (hid : id < j.collectors.length)
    (hempty : j.collector id = .empty) (acts : List LogAct) (steps : List Sieve) :
    let s := ((LogAct.play acts j).collector id).snapshot
    let left := s.sift steps
    left.records = s.records.filter (fun r => ∀ step ∈ steps, step.Admits r) ∧
      (∀ steps' : List Sieve, (∀ step, step ∈ steps' ↔ step ∈ steps) → s.sift steps' = left) ∧
      (∀ a b, (left.atLeast a).atLeast b = left.atLeast (if a ≤ b then b else a)) ∧
      (left.records.map (·.sequence)).Pairwise (· < ·) ∧
      (∀ test, left.any test = true ↔ (left.filter test).records ≠ []) ∧
      (∀ test, left.firstWhere? test = (left.filter test).records.head?) ∧
      (∀ r, left.latest? = some r ↔ (r ∈ s.records ∧ ∀ step ∈ steps, step.Admits r) ∧
        ∀ r' ∈ s.records, (∀ step ∈ steps, step.Admits r') → r'.sequence ≤ r.sequence) ∧
      (LogLevel.all.flatMap fun level => (left.withLevel level).records).Perm left.records ∧
      (∀ a b r, r ∈ (left.withLevel a).records → r ∈ (left.withLevel b).records → a = b) ∧
      ∀ q : Query, q.narrow s = s.sift (q.narrowings.map Narrowing.sieve) := by
  intro s left
  have hincreasing : (left.records.map (·.sequence)).Pairwise (· < ·) := by
    refine (LogAct.sequences_increasing hid hempty acts).sublist (List.Sublist.map _ ?_)
    rw [s.records_sift]
    exact List.filter_sublist
  refine ⟨s.records_sift steps, fun _ h => s.sift_congr h, left.atLeast_atLeast, hincreasing,
    left.any_iff, fun _ => (List.head?_filter ..).symm, fun r => ?_,
    left.flatMap_withLevel_perm LogLevel.nodup_all fun r _ => r.level.mem_all, ?_, s.narrow_eq_sift⟩
  · rw [Snapshot.latest?_eq_some_iff hincreasing]
    simp only [left, Snapshot.mem_sift, and_imp]
  · intro a b r ha hb
    have hlevel : r.level = a := by simpa using (List.mem_filter.mp ha).2
    have hlevel' : r.level = b := by simpa using (List.mem_filter.mp hb).2
    exact hlevel.symm.trans hlevel'

/-- What a shop logs in a day: directly, by a logger, and by an event that a layer hears. -/
def LogAct.workday : List LogAct :=
  [.emit 0 .information "order A received" none,
    .log (.collecting "Orders" 0) .warning "order A late" none,
    .enter [⟨.information, 0⟩], .event ⟨.error, "Disk", [("message", .text "disk A full")]⟩,
    .log (.collecting "Orders" 0) .debug "order A asked for" none,
    .log (.collecting "Orders" 0) .error "order A lost" none]

/-- Of the day's records the steps leave two, in whatever order and however often they are taken,
and no matching record has a greater number than the latest. -/
theorem sifting_keeps_matches_workday :
    let s := ((LogAct.play LogAct.workday Journal.empty.openCollector.2).collector 0).snapshot
    let steps : List Sieve := [.withCategory "Orders", .containing "A", .atLeast .warning]
    (s.sift steps).records.map (·.sequence) = [1, 4] ∧
      s.sift (steps.reverse ++ steps) = s.sift steps ∧
      ∀ r, (s.sift steps).latest? = some r →
        ∀ r' ∈ s.records, (∀ step ∈ steps, step.Admits r') → r'.sequence ≤ r.sequence := by
  intro s steps
  obtain ⟨-, hcongr, -, -, -, -, hlatest, -⟩ :=
    sifting_keeps_matches Journal.empty.openCollector.2 0 Nat.one_pos rfl LogAct.workday steps
  exact ⟨rfl, hcongr _ (by simp), fun r hr => ((hlatest r).mp hr).2⟩

end TestDouble
