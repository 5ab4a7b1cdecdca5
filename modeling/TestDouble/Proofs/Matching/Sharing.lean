import TestDouble.Proofs.Matching.Overlap

/-!
# The overlap test as a decision

Two matchers *share* a call if both accept it. The overlap test compares them position by position
and never looks at a call, yet it answers whether there is one (`overlaps_iff_shares`): a shared call
is always found, and from a positive answer a shared call can be put together argument by argument
(`ArgumentMatcher.exists_accepted`). A predicate that faces `any` is not asked, so it has to be known
that it accepts something; two predicates that face each other are not compared at all.
-/

namespace TestDouble

namespace Matcher

variable {l r : Matcher}

/-- The first leaves something for the second to accept: if it is `any`, a predicate that faces it
accepts some value. -/
def Leaves (l r : Matcher) : Prop :=
  l = .any → r.isPredicate = true → ∃ v, r.accepts v = .ok true

/-- Two matchers that overlap accept a common argument. -/
theorem exists_accepted (hl : l.Leaves r) (hr : r.Leaves l) (h : l.overlaps r = .ok true) :
    ∃ v, l.accepts v = .ok true ∧ r.accepts v = .ok true := by
  cases l with
  | any =>
    cases r with
    | any => exact ⟨.null, rfl, rfl⟩
    | exact b => exact ⟨b, rfl, congrArg Except.ok b.beq_self⟩
    | predicate =>
      obtain ⟨v, hv⟩ := hl rfl rfl
      exact ⟨v, rfl, hv⟩
  | exact a =>
    have ha : (exact a).accepts a = .ok true := congrArg Except.ok a.beq_self
    cases r with
    | any => exact ⟨a, ha, rfl⟩
    | exact b =>
      -- what is expected on one side is what the other side is given, so they change places
      have hb : (exact b).accepts a = .ok true := (congrArg Except.ok (Json.same_comm b a)).trans h
      exact ⟨a, ha, hb⟩
    | predicate => exact ⟨a, ha, h⟩
  | predicate =>
    cases r with
    | any =>
      obtain ⟨v, hv⟩ := hr rfl rfl
      exact ⟨v, hv, rfl⟩
    | exact b => exact ⟨b, h, congrArg Except.ok b.beq_self⟩
    | predicate => cases h

end Matcher

namespace ArgumentMatcher

variable {l r : ArgumentMatcher}

/-- Every predicate of the second that faces `any` in the first accepts some value. -/
def Leaves (l r : ArgumentMatcher) : Prop := ∀ p ∈ l.matchers.zip r.matchers, p.1.Leaves p.2

theorem overlapsAll_cons {l r : Matcher} {ls rs : List Matcher} :
    overlapsAll (l :: ls) (r :: rs) = .ok true ↔
      l.overlaps r = .ok true ∧ overlapsAll ls rs = .ok true := by
  rw [overlapsAll]
  split
  · next h => simp [h]
  · next h => exact ⟨fun hv => absurd hv h, fun hv => absurd hv.1 h⟩

theorem exists_acceptsAll {ls rs : List Matcher} (hl : ∀ p ∈ ls.zip rs, p.1.Leaves p.2)
    (hr : ∀ p ∈ rs.zip ls, p.1.Leaves p.2) (h : overlapsAll ls rs = .ok true) :
    ∃ vs, acceptsAll ls vs = .ok true ∧ acceptsAll rs vs = .ok true := by
  induction ls generalizing rs with
  | nil =>
    cases rs with
    | nil => exact ⟨[], rfl, rfl⟩
    | cons => cases h
  | cons l ls ih =>
    cases rs with
    | nil => cases h
    | cons r rs =>
      obtain ⟨hl₀, hl⟩ := List.forall_mem_cons.mp hl
      obtain ⟨hr₀, hr⟩ := List.forall_mem_cons.mp hr
      obtain ⟨h₀, h⟩ := overlapsAll_cons.mp h
      obtain ⟨v, hv, hv'⟩ := Matcher.exists_accepted hl₀ hr₀ h₀
      obtain ⟨vs, hvs, hvs'⟩ := ih hl hr h
      exact ⟨v :: vs, acceptsAll_cons.mpr ⟨hv, hvs⟩, acceptsAll_cons.mpr ⟨hv', hvs'⟩⟩

theorem length_of_acceptsAll {ls : List Matcher} {vs : List Json}
    (h : acceptsAll ls vs = .ok true) : ls.length = vs.length := by
  induction ls generalizing vs with
  | nil =>
    cases vs with
    | nil => rfl
    | cons => cases h
  | cons l ls ih =>
    cases vs with
    | nil => cases h
    | cons v vs => rw [List.length_cons, List.length_cons, ih (acceptsAll_cons.mp h).2]

/-- **Two matchers that overlap accept a common call.** -/
theorem exists_accepted (hl : l.Leaves r) (hr : r.Leaves l) (h : l.overlaps r = .ok true) :
    ∃ arguments, l.accepts arguments = .ok true ∧ r.accepts arguments = .ok true := by
  unfold overlaps at h
  split_ifs at h with hn
  · obtain ⟨vs, hvs, hvs'⟩ := exists_acceptsAll hl hr h
    exact ⟨vs, accepts_eq_true_iff.mpr ⟨length_of_acceptsAll hvs, hvs⟩,
      accepts_eq_true_iff.mpr ⟨length_of_acceptsAll hvs', hvs'⟩⟩
  · cases h

end ArgumentMatcher

/-- **The overlap test decides whether two matchers share a call.** It has no direction, crashes of
predicates included. Where no two predicates face each other and predicates answer alike on equal
values, it finds every two matchers that share a call; and if every predicate that faces `any`
accepts something, any two matchers that it finds share a call. -/
theorem overlaps_iff_shares (l r : ArgumentMatcher) :
    l.overlaps r = r.overlaps l ∧
      (l.Comparable r → l.Respectful → r.Respectful →
        (∀ arguments, l.accepts arguments = .ok true → r.accepts arguments = .ok true →
          l.overlaps r = .ok true) ∧
        (l.Leaves r → r.Leaves l → (l.overlaps r = .ok true ↔
          ∃ arguments, l.accepts arguments = .ok true ∧ r.accepts arguments = .ok true))) := by
  refine ⟨l.overlaps_comm r, fun hc hl hr => ?_⟩
  have hfound : ∀ arguments, l.accepts arguments = .ok true → r.accepts arguments = .ok true →
      l.overlaps r = .ok true := fun _ h h' => ArgumentMatcher.overlaps_of_accepts hc hl hr h h'
  refine ⟨hfound, fun hlr hrl => ⟨ArgumentMatcher.exists_accepted hlr hrl, ?_⟩⟩
  rintro ⟨arguments, h, h'⟩
  exact hfound arguments h h'

/-- Two zeros, a predicate that faces a value, one that faces `any`, and nothing said at all. -/
theorem overlaps_iff_shares_zeros :
    let l : ArgumentMatcher := ⟨[.exact (.float .zero),
      .predicate "string" (Predicate.isKind "string"), .any, .any]⟩
    let r : ArgumentMatcher := ⟨[.exact (.float Double.zero.neg), .exact (.str "x"),
      .predicate "number" (Predicate.isKind "number"), .any]⟩
    l.accepts [.float .zero, .str "x", .int 1, .null] = .ok true ∧ r.overlaps l = .ok true ∧
      ∃ arguments, l.accepts arguments = .ok true ∧ r.accepts arguments = .ok true := by
  intro l r
  have hl : l.Respectful := by
    simp only [l, ArgumentMatcher.Respectful, List.forall_mem_cons]
    exact ⟨trivial, Predicate.isKind_respectful _ _, trivial, trivial, by simp⟩
  have hr : r.Respectful := by
    simp only [r, ArgumentMatcher.Respectful, List.forall_mem_cons]
    exact ⟨trivial, trivial, Predicate.isKind_respectful _ _, trivial, by simp⟩
  have hlr : l.Leaves r := by
    simp only [l, r, ArgumentMatcher.Leaves, Matcher.Leaves, Matcher.isPredicate, List.zip,
      List.zipWith, List.forall_mem_cons]
    exact ⟨by simp, by simp, fun _ _ => ⟨.int 1, rfl⟩, by simp, by simp⟩
  have hrl : r.Leaves l := by
    simp [l, r, ArgumentMatcher.Leaves, Matcher.Leaves, Matcher.isPredicate]
  obtain ⟨hcomm, hshares⟩ := overlaps_iff_shares l r
  obtain ⟨hfound, hiff⟩ := hshares (by decide) hl hr
  have h : l.overlaps r = .ok true :=
    hfound [.float .zero, .str "x", .int 1, .null] rfl rfl
  exact ⟨rfl, hcomm ▸ h, (hiff hlr hrl).mp h⟩

end TestDouble
