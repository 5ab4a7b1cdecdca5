import TestDouble.Proofs.Recorder.Bookkeeping

/-!
# What a recorder keeps

Without a reset the lists of a book only grow. An expectation stays at its place and changes
nothing but its count, a call stays at its place and changes nothing but its mark, and new ones
come at the end: the later book *extends* the earlier one (`Turn.play_extends`).
-/

namespace TestDouble

/-- The expectation without its count. -/
def Expectation.unspent (e : Expectation) : Expectation := { e with consumed := 0 }

@[simp] theorem Expectation.unspent_consume (e : Expectation) : e.consume.unspent = e.unspent := rfl

/-- Expectations that differ at most in their counts. -/
theorem Expectation.unspent_eq_iff {e x : Expectation} :
    e.unspent = x.unspent ↔ e = { x with consumed := e.consumed } := by
  cases e
  cases x
  simp [unspent]

/-- Where one list of images begins another, an item of the first has a like one at its place. -/
theorem exists_getElem?_of_map_prefix {α β : Type} {f : α → β} {xs ys : List α}
    (h : xs.map f <+: ys.map f) {n : Nat} {x : α} (hx : xs[n]? = some x) :
    ∃ y, ys[n]? = some y ∧ f y = f x := by
  obtain ⟨hn, rfl⟩ := List.getElem?_eq_some_iff.mp hx
  have hsame := List.prefix_iff_getElem?.mp h n (by rwa [List.length_map])
  rw [List.getElem?_map, List.getElem_map] at hsame
  exact Option.map_eq_some_iff.mp hsame

namespace Book

/-- A book extends another if nothing in its lists is lost or moved; counts and marks aside,
nothing is changed either. -/
structure Extends (b b' : Book) : Prop where
  expectations : b.expectations.map Expectation.unspent <+: b'.expectations.map Expectation.unspent
  calls : b.calls.map RecordedCall.unmarked <+: b'.calls.map RecordedCall.unmarked

namespace Extends

variable {b b' b'' : Book}

theorem refl (b : Book) : b.Extends b := ⟨List.prefix_rfl, List.prefix_rfl⟩

theorem trans (h : b.Extends b') (h' : b'.Extends b'') : b.Extends b'' :=
  ⟨h.expectations.trans h'.expectations, h.calls.trans h'.calls⟩

/-- What the calls were matched to stays. -/
theorem matches_grow (h : b.Extends b') : b.matches <+: b'.matches := by
  have hproj : ∀ b : Book, b.matches = (b.calls.map RecordedCall.unmarked).map (·.matched) := by
    intro b
    rw [List.map_map]
    rfl
  rw [hproj b, hproj b']
  exact h.calls.map _

/-- An expectation is found again, with all but its count. -/
theorem exists_mem (h : b.Extends b') {e : Expectation} (he : e ∈ b.expectations) :
    ∃ n, { e with consumed := n } ∈ b'.expectations := by
  obtain ⟨e', he', hsame⟩ := List.mem_map.mp (h.expectations.subset (List.mem_map_of_mem he))
  exact ⟨e'.consumed, Expectation.unspent_eq_iff.mp hsame ▸ he'⟩

/-- An expectation is found again at its place, with all but its count. -/
theorem exists_expectation (h : b.Extends b') {n : Nat} {e : Expectation}
    (he : b.expectations[n]? = some e) :
    ∃ e', b'.expectations[n]? = some e' ∧ e'.unspent = e.unspent :=
  exists_getElem?_of_map_prefix h.expectations he

/-- A call is found again at its place, with all but its mark. -/
theorem exists_getElem? (h : b.Extends b') {n : Nat} {c : RecordedCall}
    (hc : b.calls[n]? = some c) : ∃ c', b'.calls[n]? = some c' ∧ c'.unmarked = c.unmarked :=
  exists_getElem?_of_map_prefix h.calls hc

end Extends
end Book

namespace Turn

variable {mode : Mode} {b : Book} {t : Turn} {ts : List Turn}

/-- **A turn that is no reset loses nothing.** -/
theorem step_extends (mode : Mode) (b : Book) (ht : t ≠ .reset) : b.Extends (t.step mode b) := by
  cases t with
  | register saturate operation matcher outcome times =>
    rcases step_register_cases mode saturate operation matcher outcome times b with
      ⟨-, -, -, hb⟩ | hb
    · rw [hb]
      exact ⟨(List.prefix_append _ _).map _, List.prefix_rfl⟩
    · rw [hb]
      exact .refl b
  | call saturate operation arguments =>
    rw [step_call]
    rcases b.record_cases saturate operation arguments with
      ⟨c, hr⟩ | ⟨-, hr⟩ | ⟨l, e, r, hes, -, -, hr⟩
    · rw [hr]
      exact ⟨List.prefix_rfl, List.prefix_rfl⟩
    · rw [hr]
      exact ⟨List.prefix_rfl, (List.prefix_append _ _).map _⟩
    · rw [hr]
      refine ⟨?_, (List.prefix_append _ _).map _⟩
      simp [hes]
  | verify operation matcher times =>
    obtain ⟨calls, hb, hc⟩ := step_verify mode b operation matcher times
    rw [hb]
    exact ⟨List.prefix_rfl, hc ▸ List.prefix_rfl⟩
  | reset => exact absurd rfl ht

/-- **Without a reset the lists only grow.** -/
theorem play_extends (mode : Mode) (b : Book) (hts : .reset ∉ ts) : b.Extends (play mode ts b) := by
  induction ts generalizing b with
  | nil => exact .refl b
  | cons t ts ih =>
    rw [List.mem_cons, not_or] at hts
    obtain ⟨ht, hts⟩ := hts
    exact (step_extends mode b (Ne.symm ht)).trans (ih (t.step mode b) hts)

/-- **An expectation stays**, and its count is the number of calls that it has taken. -/
theorem play_mem (mode : Mode) (h : b.Consistent) {e : Expectation} (he : e ∈ b.expectations)
    (hts : .reset ∉ ts) :
    { e with consumed := (play mode ts b).matches.count (some e.id) } ∈
      (play mode ts b).expectations := by
  obtain ⟨n, hn⟩ := (play_extends mode b hts).exists_mem he
  obtain rfl : n = (play mode ts b).matches.count (some e.id) := (h.play mode ts).consumed _ hn
  exact hn

end Turn
end TestDouble
