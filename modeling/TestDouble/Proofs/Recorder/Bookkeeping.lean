import Mathlib.Data.List.Nodup
import TestDouble.Proofs.Recorder.Trace

/-!
# Bookkeeping

A book keeps two lists and two counters that have to agree: the expectations are numbered in order,
the calls carry increasing sequence numbers, the expectation that a call names exists and fits the
call, and every count is the number of calls that name the expectation. `Book.Consistent` says so,
`Book.Consistent.step` that each turn keeps it, and `book_consistent` that it holds of every
book that a recorder can have, also in the middle of a callback and after a crash.
-/

namespace TestDouble

/-- The expectation that each call names, in the order of arrival. -/
def Book.matches (b : Book) : List (Option Nat) := b.calls.map (·.matched)

/-- The lists and the counters of a book agree. -/
structure Book.Consistent (b : Book) : Prop where
  /-- The expectations have the ids `0`, `1`, ... in order, and the next id is their number. -/
  ids : b.expectations.map (·.id) = List.range b.nextExpectation
  /-- Sequence numbers increase. -/
  increasing : (b.calls.map (·.sequence)).Pairwise (· < ·)
  sequence_lt : ∀ c ∈ b.calls, c.sequence < b.nextSequence
  /-- The expectation that a call names exists, is of the same operation and accepts the
  arguments. -/
  fits : ∀ c ∈ b.calls, ∀ i, c.matched = some i →
    ∃ e ∈ b.expectations, e.id = i ∧ e.operation = c.operation ∧
      e.matcher.accepts c.arguments = .ok true
  /-- The count of an expectation is the number of calls that name it. -/
  consumed : ∀ e ∈ b.expectations, e.consumed = b.matches.count (some e.id)

namespace Book.Consistent

variable {b : Book} {mode : Mode}

theorem empty : Book.empty.Consistent := by
  constructor <;> simp [Book.empty]

theorem ids_increasing (h : b.Consistent) : (b.expectations.map (·.id)).Pairwise (· < ·) := by
  rw [h.ids]
  exact List.pairwise_lt_range

theorem nodup_ids (h : b.Consistent) : (b.expectations.map (·.id)).Nodup := by
  rw [h.ids]
  exact List.nodup_range

theorem id_lt (h : b.Consistent) {e : Expectation} (he : e ∈ b.expectations) :
    e.id < b.nextExpectation := by
  have : e.id ∈ b.expectations.map (·.id) := List.mem_map_of_mem he
  rwa [h.ids, List.mem_range] at this

/-- A call names only ids that have been given. -/
theorem matched_lt (h : b.Consistent) {i : Nat} (hi : some i ∈ b.matches) :
    i < b.nextExpectation := by
  obtain ⟨c, hc, hm⟩ := List.mem_map.mp hi
  obtain ⟨e, he, rfl, -⟩ := h.fits c hc i hm
  exact h.id_lt he

/-- In a consistent book smaller ids stand before an expectation and greater ones after it. -/
theorem lt_of_split (h : b.Consistent) {l r : List Expectation} {e : Expectation}
    (hes : b.expectations = l ++ e :: r) : (∀ x ∈ l, x.id < e.id) ∧ ∀ x ∈ r, e.id < x.id := by
  have hlt := h.ids_increasing
  rw [hes, List.map_append, List.map_cons, List.pairwise_append, List.pairwise_cons] at hlt
  obtain ⟨-, ⟨hafter, -⟩, hbefore⟩ := hlt
  exact ⟨fun x hx => hbefore _ (List.mem_map_of_mem hx) _ List.mem_cons_self,
    fun x hx => hafter _ (List.mem_map_of_mem hx)⟩

/-- In a consistent book the two parts around an expectation hold other ids. -/
theorem ne_of_split (h : b.Consistent) {l r : List Expectation} {e : Expectation}
    (hes : b.expectations = l ++ e :: r) : ∀ x, x ∈ l ∨ x ∈ r → x.id ≠ e.id := by
  obtain ⟨hbefore, hafter⟩ := h.lt_of_split hes
  rintro x (hx | hx)
  · exact Nat.ne_of_lt (hbefore x hx)
  · exact Nat.ne_of_gt (hafter x hx)

/-! ### Each turn keeps the book consistent -/

/-- A new expectation has a new id, and no call names it yet. -/
theorem add (h : b.Consistent) (operation : String) (matcher : ArgumentMatcher)
    (outcome : Outcome) (times : Times) : (b.add operation matcher outcome times).Consistent where
  ids := by simp [Book.add, h.ids, List.range_succ]
  increasing := h.increasing
  sequence_lt := h.sequence_lt
  fits := by
    intro c hc i hi
    obtain ⟨e, he, hfit⟩ := h.fits c hc i hi
    exact ⟨e, List.mem_append_left _ he, hfit⟩
  consumed := by
    intro e he
    rcases List.mem_append.mp he with he | he
    · exact h.consumed e he
    · obtain rfl := List.mem_singleton.mp he
      refine (List.count_eq_zero.mpr fun hi => ?_).symm
      exact Nat.lt_irrefl _ (h.matched_lt hi)

/-- A sequence number may be lost. -/
theorem skip (h : b.Consistent) : b.skip.Consistent :=
  { h with sequence_lt := fun c hc => Nat.lt_succ_of_lt (h.sequence_lt c hc) }

variable {operation : String} {arguments : List Json}

/-- The sequence numbers still increase when the next one is added. -/
theorem increasing_enter (h : b.Consistent) (taker : Option Nat) (es : List Expectation) :
    ((b.enter operation arguments taker es).calls.map (·.sequence)).Pairwise (· < ·) := by
  rw [Book.enter_calls, List.map_append, List.pairwise_append]
  refine ⟨h.increasing, by simp, fun n hn m hm => ?_⟩
  obtain ⟨x, hx, rfl⟩ := List.mem_map.mp hn
  obtain rfl : m = b.nextSequence := by simpa using hm
  exact h.sequence_lt x hx

theorem sequence_lt_enter (h : b.Consistent) (taker : Option Nat) (es : List Expectation) :
    ∀ c ∈ (b.enter operation arguments taker es).calls, c.sequence < b.nextSequence + 1 := by
  intro c hc
  rcases List.mem_append.mp hc with hc | hc
  · exact Nat.lt_succ_of_lt (h.sequence_lt c hc)
  · obtain rfl := List.mem_singleton.mp hc
    exact Nat.lt_succ_self _

/-- A call that nobody takes is counted nowhere. -/
theorem miss (h : b.Consistent) :
    (b.enter operation arguments none b.expectations).Consistent where
  ids := h.ids
  increasing := h.increasing_enter none _
  sequence_lt := h.sequence_lt_enter none _
  fits := by
    intro c hc i hi
    rcases List.mem_append.mp hc with hc | hc
    · exact h.fits c hc i hi
    · obtain rfl := List.mem_singleton.mp hc
      cases hi
  consumed := by
    intro e he
    have := h.consumed e he
    simpa [Book.matches] using this

/-- A call that an expectation takes is counted there and nowhere else. -/
theorem hit (h : b.Consistent) {l r : List Expectation} {e : Expectation}
    (hes : b.expectations = l ++ e :: r) (ho : e.operation = operation)
    (hm : e.matcher.accepts arguments = .ok true) :
    (b.enter operation arguments (some e.id) (l ++ e.consume :: r)).Consistent where
  ids := by
    rw [Book.enter_nextExpectation, ← h.ids, hes]
    simp
  increasing := h.increasing_enter _ _
  sequence_lt := h.sequence_lt_enter _ _
  fits := by
    intro c hc i hi
    rcases List.mem_append.mp hc with hc | hc
    · obtain ⟨x, hx, hfit⟩ := h.fits c hc i hi
      rw [hes, List.mem_append, List.mem_cons] at hx
      rcases hx with hx | rfl | hx
      · exact ⟨x, by simp [hx], hfit⟩
      · exact ⟨x.consume, by simp, hfit⟩
      · exact ⟨x, by simp [hx], hfit⟩
    · obtain rfl := List.mem_singleton.mp hc
      obtain rfl : e.id = i := by simpa using hi
      exact ⟨e.consume, by simp, rfl, ho, hm⟩
  consumed := by
    intro x hx
    have hold := h.consumed
    rw [hes] at hold
    simp only [Book.matches, List.mem_append, List.mem_cons, Book.enter_expectations] at hx hold
    -- only the expectation that took the call is named once more
    have hother : x ∈ l ∨ x ∈ r → e.id ≠ x.id := fun hx => (h.ne_of_split hes x hx).symm
    rcases hx with hx | rfl | hx
    · simp [Book.matches, hold x (.inl hx), hother (.inl hx)]
    · simp [Book.matches, hold e (.inr (.inl rfl))]
    · simp [Book.matches, hold x (.inr (.inr hx)), hother (.inr hx)]

/-- Recording a call keeps a book consistent, also when a predicate crashes. -/
theorem record (h : b.Consistent) (saturate : Bool) (operation : String) (arguments : List Json) :
    (b.record saturate operation arguments).2.Consistent := by
  rcases b.record_cases saturate operation arguments with
    ⟨c, hr⟩ | ⟨-, hr⟩ | ⟨l, e, r, hes, -, he, hr⟩
  · rw [hr]
    exact h.skip
  · rw [hr]
    exact h.miss
  · rw [hr]
    obtain ⟨ho, -, hm⟩ := Expectation.accepts_eq_true_iff.mp he
    exact h.hit hes ho hm

/-- The marks on the calls do not matter. -/
theorem remark (h : b.Consistent) {calls : List RecordedCall}
    (hc : calls.map RecordedCall.unmarked = b.calls.map RecordedCall.unmarked) :
    { b with calls }.Consistent := by
  have hold : ∀ c ∈ calls, ∃ x ∈ b.calls, x.unmarked = c.unmarked := fun c hcs =>
    List.mem_map.mp (hc ▸ List.mem_map_of_mem hcs)
  have hproj : ∀ {α : Type} (f : RecordedCall → α), (∀ c, f c.unmarked = f c) →
      calls.map f = b.calls.map f := by
    intro α f hf
    have := congrArg (List.map f) hc
    simpa [Function.comp_def, hf] using this
  constructor
  · exact h.ids
  · rw [hproj _ fun _ => rfl]
    exact h.increasing
  · intro c hcs
    obtain ⟨x, hx, heq⟩ := hold c hcs
    rw [← (RecordedCall.unmarked_eq_iff.mp heq).1]
    exact h.sequence_lt x hx
  · intro c hcs i hi
    obtain ⟨x, hx, heq⟩ := hold c hcs
    obtain ⟨-, ho, ha, hm⟩ := RecordedCall.unmarked_eq_iff.mp heq
    rw [← ho, ← ha]
    exact h.fits x hx i (hm.trans hi)
  · intro e he
    rw [Book.matches, hproj _ fun _ => rfl]
    exact h.consumed e he

/-- **Each turn keeps a book consistent.** -/
theorem step (h : b.Consistent) (mode : Mode) (t : Turn) : (t.step mode b).Consistent := by
  cases t with
  | register saturate operation matcher outcome times =>
    rcases Turn.step_register_cases mode saturate operation matcher outcome times b with
      ⟨-, -, -, hb⟩ | hb
    · rw [hb]
      exact h.add operation matcher outcome times
    · rwa [hb]
  | call saturate operation arguments => exact h.record saturate operation arguments
  | verify operation matcher times =>
    obtain ⟨calls, hb, hc⟩ := Turn.step_verify mode b operation matcher times
    rw [hb]
    exact h.remark hc
  | reset => exact .empty

theorem play (h : b.Consistent) (mode : Mode) (ts : List Turn) :
    (Turn.play mode ts b).Consistent :=
  Turn.play_invariant (fun _ t _ hb => hb.step mode t) (fun _ _ => trivial) h

end Book.Consistent

/-- **Bookkeeping.** Whatever is asked of a new recorder, in callbacks too, and whatever crashes,
the turns of the requests lead to the book it has then; and after every list of turns, so after
every part of those, the book is consistent. -/
theorem book_consistent (mode : Mode) :
    (∀ (depth : Nat) (qs : List ((k : RequestKind) × Request k)) (diagnostics : List Diagnostic)
        (reported : Option TestError),
      let start : Desk := ⟨.empty, diagnostics, reported⟩
      (Recorder.serveEach mode depth qs start).book =
        Turn.play mode (Recorder.turnsEach mode depth qs start) .empty) ∧
    ∀ ts, (Turn.play mode ts .empty).Consistent :=
  ⟨fun depth qs _ _ => Recorder.serveEach_book mode depth qs _, Book.Consistent.empty.play mode⟩

end TestDouble
