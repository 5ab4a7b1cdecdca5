import Mathlib.Tactic.SplitIfs
import TestDouble.Predicate

/-!
# Matchers that share a call

Equality of JSON values is an equivalence (`Json.same_comm`, `Json.same_trans`), so two matchers
that accept the same call are found to overlap, unless predicates stand on both sides of a
position or tell equal values apart. This is `ArgumentMatcher.overlaps_of_accepts`.
-/

namespace TestDouble

namespace Json

mutual

/-- Equality of values has no direction. -/
theorem same_comm : (v w : Json) → v.same w = w.same v
  | .null, w => by cases w <;> rfl
  | .bool a, w => by
    cases w with
    | bool b => exact BEq.comm
    | _ => rfl
  | .int a, w => by
    cases w with
    | int b => exact BEq.comm
    | _ => rfl
  | .float a, w => by
    cases w with
    | float b => exact Double.same_comm a b
    | _ => rfl
  | .str a, w => by
    cases w with
    | str b => exact BEq.comm
    | _ => rfl
  | .arr a, w => by
    cases w with
    | arr b => rw [same, same, sameItems_comm a b]
    | _ => rfl
  | .obj a, w => by
    cases w with
    | obj b => rw [same, same, sameEntries_comm a b]
    | _ => rfl

theorem sameItems_comm : (vs ws : List Json) → sameItems vs ws = sameItems ws vs
  | [], [] => rfl
  | [], _ :: _ => rfl
  | _ :: _, [] => rfl
  | v :: vs, w :: ws => by rw [sameItems, sameItems, same_comm v w, sameItems_comm vs ws]

theorem sameEntries_comm : (as bs : List (String × Json)) → sameEntries as bs = sameEntries bs as
  | [], [] => rfl
  | [], _ :: _ => rfl
  | _ :: _, [] => rfl
  | (k, v) :: as, (l, w) :: bs => by
    rw [sameEntries, sameEntries, same_comm v w, sameEntries_comm as bs, BEq.comm (a := k)]

end

mutual

/-- Values equal to the same value are equal. -/
theorem same_trans : (u v w : Json) → u.same v = true → v.same w = true → u.same w = true
  | .null, v, w, h, h' => by
    cases v with
    | null => exact h'
    | _ => cases h
  | .bool a, v, w, h, h' => by
    cases v with
    | bool b =>
      obtain rfl : a = b := by simpa [same] using h
      exact h'
    | _ => cases h
  | .int a, v, w, h, h' => by
    cases v with
    | int b =>
      obtain rfl : a = b := by simpa [same] using h
      exact h'
    | _ => cases h
  | .float a, v, w, h, h' => by
    cases v with
    | float b =>
      cases w with
      | float c => exact Double.same_trans h h'
      | _ => cases h'
    | _ => cases h
  | .str a, v, w, h, h' => by
    cases v with
    | str b =>
      obtain rfl : a = b := by simpa [same] using h
      exact h'
    | _ => cases h
  | .arr a, v, w, h, h' => by
    cases v with
    | arr b =>
      cases w with
      | arr c => exact sameItems_trans a b c h h'
      | _ => cases h'
    | _ => cases h
  | .obj a, v, w, h, h' => by
    cases v with
    | obj b =>
      cases w with
      | obj c => exact sameEntries_trans a b c h h'
      | _ => cases h'
    | _ => cases h

theorem sameItems_trans : (us vs ws : List Json) → sameItems us vs = true →
    sameItems vs ws = true → sameItems us ws = true
  | [], [], _, _, h' => h'
  | u :: us, v :: vs, w :: ws, h, h' => by
    rw [sameItems, Bool.and_eq_true] at h h' ⊢
    exact ⟨same_trans u v w h.1 h'.1, sameItems_trans us vs ws h.2 h'.2⟩

theorem sameEntries_trans : (as bs cs : List (String × Json)) → sameEntries as bs = true →
    sameEntries bs cs = true → sameEntries as cs = true
  | [], [], _, _, h' => h'
  | (k, u) :: as, (l, v) :: bs, (m, w) :: cs, h, h' => by
    rw [sameEntries, Bool.and_eq_true, Bool.and_eq_true, beq_iff_eq] at h h' ⊢
    exact ⟨⟨h.1.1.trans h'.1.1, same_trans u v w h.1.2 h'.1.2⟩,
      sameEntries_trans as bs cs h.2 h'.2⟩

end

/-- Two values equal to a third are equal. -/
theorem beq_of_beq {u v w : Json} (h : (u == w) = true) (h' : (v == w) = true) :
    (u == v) = true :=
  same_trans u w v h ((same_comm w v).trans h')

end Json

/-! ### One argument -/

namespace Matcher

/-- Whether somebody else decides. -/
def isPredicate : Matcher → Bool
  | predicate .. => true
  | exact _ | any => false

/-- A predicate that answers alike on equal values; other matchers always do. -/
def Respectful : Matcher → Prop
  | predicate _ test => ∀ v w, (v == w) = true → test v = test w
  | exact _ | any => True

/-- Overlapping has no direction: it does not matter on which side a predicate stands. -/
theorem overlaps_comm (l r : Matcher) : l.overlaps r = r.overlaps l := by
  cases l with
  | any => cases r <;> rfl
  | exact a =>
    cases r with
    | any => rfl
    | exact b => exact congrArg Except.ok (Json.same_comm a b)
    | predicate _ test => rfl
  | predicate _ test => cases r <;> rfl

variable {l r : Matcher} {v : Json}

/-- Two matchers that accept the same argument overlap. -/
theorem overlaps_of_accepts (hc : (l.isPredicate && r.isPredicate) = false) (hl : l.Respectful)
    (hr : r.Respectful) (h : l.accepts v = .ok true) (h' : r.accepts v = .ok true) :
    l.overlaps r = .ok true := by
  cases l with
  | any => cases r <;> rfl
  | exact a =>
    have ha : (a == v) = true := by simpa [accepts] using h
    cases r with
    | any => rfl
    | exact b =>
      have hb : (b == v) = true := by simpa [accepts] using h'
      rw [overlaps, Json.beq_of_beq ha hb]
    | predicate _ test => exact (hr a v ha).trans h'
  | predicate _ test =>
    cases r with
    | any => rfl
    | exact b =>
      have hb : (b == v) = true := by simpa [accepts] using h'
      exact (hl b v hb).trans h
    | predicate => cases hc

end Matcher

/-- Equal values are of the same kind. -/
theorem Predicate.isKind_respectful (description kind : String) :
    (Matcher.predicate description (isKind kind)).Respectful := by
  intro v w h
  have hkind : kindName v = kindName w := by
    cases v <;> cases w <;> first | rfl | cases h
  rw [isKind, isKind, hkind]

/-! ### All arguments -/

namespace ArgumentMatcher

/-- Every predicate of the matcher answers alike on equal values. -/
def Respectful (m : ArgumentMatcher) : Prop := ∀ p ∈ m.matchers, p.Respectful

/-- At no position does a predicate stand on both sides. -/
def Comparable (l r : ArgumentMatcher) : Prop :=
  ∀ p ∈ l.matchers.zip r.matchers, (p.1.isPredicate && p.2.isPredicate) = false

instance (l r : ArgumentMatcher) : Decidable (l.Comparable r) :=
  inferInstanceAs (Decidable (∀ p ∈ _, _))

theorem overlapsAll_comm (ls rs : List Matcher) : overlapsAll ls rs = overlapsAll rs ls := by
  induction ls generalizing rs with
  | nil => cases rs <;> rfl
  | cons l ls ih =>
    cases rs with
    | nil => rfl
    | cons r rs => rw [overlapsAll, overlapsAll, l.overlaps_comm r, ih rs]

/-- Overlapping has no direction, also where a predicate crashes. -/
theorem overlaps_comm (l r : ArgumentMatcher) : l.overlaps r = r.overlaps l := by
  simp only [overlaps, overlapsAll_comm l.matchers, eq_comm (a := l.matchers.length)]

theorem acceptsAll_cons {m : Matcher} {ms : List Matcher} {v : Json} {vs : List Json} :
    acceptsAll (m :: ms) (v :: vs) = .ok true ↔
      m.accepts v = .ok true ∧ acceptsAll ms vs = .ok true := by
  rw [acceptsAll]
  split
  · next h => simp [h]
  · next h => exact ⟨fun hv => absurd hv h, fun hv => absurd hv.1 h⟩

theorem overlapsAll_of_acceptsAll {ls rs : List Matcher} {vs : List Json}
    (hc : ∀ p ∈ ls.zip rs, (p.1.isPredicate && p.2.isPredicate) = false)
    (hl : ∀ p ∈ ls, p.Respectful) (hr : ∀ p ∈ rs, p.Respectful)
    (h : acceptsAll ls vs = .ok true) (h' : acceptsAll rs vs = .ok true) :
    overlapsAll ls rs = .ok true := by
  induction vs generalizing ls rs with
  | nil =>
    cases ls with
    | cons => cases h
    | nil =>
      cases rs with
      | cons => cases h'
      | nil => rfl
  | cons v vs ih =>
    cases ls with
    | nil => cases h
    | cons l ls =>
      cases rs with
      | nil => cases h'
      | cons r rs =>
        obtain ⟨hc₀, hc⟩ := List.forall_mem_cons.mp hc
        obtain ⟨hl₀, hl⟩ := List.forall_mem_cons.mp hl
        obtain ⟨hr₀, hr⟩ := List.forall_mem_cons.mp hr
        obtain ⟨h₀, h⟩ := acceptsAll_cons.mp h
        obtain ⟨h₀', h'⟩ := acceptsAll_cons.mp h'
        rw [overlapsAll, Matcher.overlaps_of_accepts hc₀ hl₀ hr₀ h₀ h₀']
        exact ih hc hl hr h h'

variable {l r : ArgumentMatcher} {arguments : List Json}

theorem accepts_eq_true_iff :
    l.accepts arguments = .ok true ↔
      l.matchers.length = arguments.length ∧ acceptsAll l.matchers arguments = .ok true := by
  unfold accepts
  split_ifs with h
  · simp [h]
  · simp [h]

/-- **Two matchers that accept the same call are found to overlap.** -/
theorem overlaps_of_accepts (hc : l.Comparable r) (hl : l.Respectful) (hr : r.Respectful)
    (h : l.accepts arguments = .ok true) (h' : r.accepts arguments = .ok true) :
    l.overlaps r = .ok true := by
  obtain ⟨hn, h⟩ := accepts_eq_true_iff.mp h
  obtain ⟨hn', h'⟩ := accepts_eq_true_iff.mp h'
  rw [overlaps, if_pos (hn.trans hn'.symm)]
  exact overlapsAll_of_acceptsAll hc hl hr h h'

end ArgumentMatcher
end TestDouble
