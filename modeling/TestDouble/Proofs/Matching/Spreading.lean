import TestDouble.Proofs.Matching.Overlap

/-!
# Arguments as one value

A client names the arguments of a call as one value, which is *spread* into a list of them: an array
into its items, `null` into none, and every other value is one argument itself. The spreading forgets
whether a single argument was written bare or as an array of one item, and whether no argument was
written as `null` or as an array of none. `Json.spread_beq_iff` says that apart from equal values
these are the only ones that are taken for each other.

The matcher of some arguments accepts exactly the lists equal to them, and two such matchers overlap
exactly if their lists are equal.
-/

namespace TestDouble

/-! ### Values that stand for the same arguments -/

namespace Json

/-- Whether a value is one argument itself, neither an array nor `null`. -/
def isSingle : Json → Bool
  | .arr _ | .null => false
  | _ => true

/-- A value and an array that are different and stand for the same arguments. -/
inductive Collides : Json → Json → Prop where
  | none : Collides .null (.arr [])
  | single {v w : Json} : v.isSingle = true → (v == w) = true → Collides v (.arr [w])

/-- Lists of values are compared as the items of arrays are. -/
theorem beq_eq_sameItems (vs ws : List Json) : (vs == ws) = sameItems vs ws := by
  induction vs generalizing ws with
  | nil => cases ws <;> rfl
  | cons v vs ih =>
    cases ws with
    | nil => rfl
    | cons w ws =>
      rw [sameItems, ← ih, List.cons_beq_cons]
      rfl

theorem items_comm (vs ws : List Json) : (vs == ws) = (ws == vs) := by
  rw [beq_eq_sameItems, beq_eq_sameItems, sameItems_comm]

theorem arr_beq_arr (vs ws : List Json) : (arr vs == arr ws) = (vs == ws) := by
  rw [beq_eq_sameItems, ← same]
  rfl

/-- A value is an array, `null`, or one argument itself. -/
theorem spread_cases (v : Json) :
    (∃ items, v = .arr items) ∨ v = .null ∨ v.isSingle = true ∧ spread v = [v] := by
  cases v <;> simp [isSingle, spread]

/-- Values other than arrays are compared as the arguments that they stand for. -/
theorem spread_beq_of_not_arr {v w : Json} (hv : ∀ vs, v ≠ .arr vs) (hw : ∀ ws, w ≠ .arr ws) :
    (spread v == spread w) = (v == w) := by
  rcases spread_cases v with ⟨vs, rfl⟩ | rfl | ⟨hv', hs⟩
  · exact absurd rfl (hv vs)
  · cases w <;> first | rfl | exact absurd rfl (hw _)
  · rcases spread_cases w with ⟨ws, rfl⟩ | rfl | ⟨-, hs'⟩
    · exact absurd rfl (hw ws)
    · cases v <;> first | rfl | cases hv'
    · rw [hs, hs', List.cons_beq_cons]
      exact Bool.and_true _

/-- A value other than an array that stands for the items of an array collides with it. -/
theorem spread_beq_arr_iff {v : Json} {items : List Json} (hv : ∀ vs, v ≠ .arr vs) :
    (spread v == items) = true ↔ Collides v (.arr items) := by
  constructor
  · intro h
    rcases spread_cases v with ⟨vs, rfl⟩ | rfl | ⟨hsingle, hs⟩
    · exact absurd rfl (hv vs)
    · obtain rfl : items = [] := by
        cases items with
        | nil => rfl
        | cons => cases h
      exact .none
    · rw [hs] at h
      match items with
      | [] => cases h
      | [w] => exact .single hsingle (by simpa using h)
      | _ :: _ :: _ => simp at h
  · intro h
    cases h with
    | none => rfl
    | single hsingle h =>
      rcases spread_cases v with ⟨vs, rfl⟩ | rfl | ⟨-, hs⟩
      · cases hsingle
      · cases hsingle
      · rw [hs]
        simpa using h

theorem beq_arr_of_not_arr {v : Json} (hv : ∀ vs, v ≠ .arr vs) (items : List Json) :
    (v == .arr items) = false := by
  cases v <;> first | rfl | exact absurd rfl (hv _)

/-- It is the second of two values that collide that is an array. -/
theorem Collides.exists_arr {v w : Json} (h : Collides v w) :
    (∀ vs, v ≠ .arr vs) ∧ ∃ ws, w = .arr ws := by
  cases h with
  | none => exact ⟨fun _ hv => (by cases hv), _, rfl⟩
  | single hsingle => exact ⟨fun _ hv => (by subst hv; cases hsingle), _, rfl⟩

/-- **Values that stand for equal arguments**: they are equal, or one is an array and the other is
what it is an array of. -/
theorem spread_beq_iff (v w : Json) :
    (spread v == spread w) = true ↔ (v == w) = true ∨ Collides v w ∨ Collides w v := by
  -- two arrays, or two other values, do not collide; an array and another value are not equal
  by_cases hv : ∃ vs, v = .arr vs <;> by_cases hw : ∃ ws, w = .arr ws
  · obtain ⟨vs, rfl⟩ := hv
    obtain ⟨ws, rfl⟩ := hw
    have hleft : ¬ Collides (.arr vs) (.arr ws) := fun h => h.exists_arr.1 vs rfl
    have hright : ¬ Collides (.arr ws) (.arr vs) := fun h => h.exists_arr.1 ws rfl
    rw [arr_beq_arr]
    simp [hleft, hright, spread]
  · obtain ⟨vs, rfl⟩ := hv
    have hleft : ¬ Collides (.arr vs) w := fun h => h.exists_arr.1 vs rfl
    have hne : (arr vs == w) = false :=
      (same_comm _ _).trans (beq_arr_of_not_arr (not_exists.mp hw) vs)
    rw [items_comm, ← spread_beq_arr_iff (not_exists.mp hw)]
    simp [hleft, hne, spread]
  · obtain ⟨ws, rfl⟩ := hw
    have hright : ¬ Collides (.arr ws) v := fun h => h.exists_arr.1 ws rfl
    have hne : (v == arr ws) = false := beq_arr_of_not_arr (not_exists.mp hv) ws
    rw [← spread_beq_arr_iff (not_exists.mp hv)]
    simp [hright, hne, spread]
  · have hleft : ¬ Collides v w := fun h => hw h.exists_arr.2
    have hright : ¬ Collides w v := fun h => hv h.exists_arr.2
    rw [spread_beq_of_not_arr (not_exists.mp hv) (not_exists.mp hw)]
    simp [hleft, hright]

end Json

instance : ReflBEq Json := ⟨Json.beq_self _⟩

/-! ### The matcher of arguments -/

namespace ArgumentMatcher

/-- Exactly these arguments. -/
def ofArguments (vs : List Json) : ArgumentMatcher := ⟨vs.map .exact⟩

theorem exactly_eq_ok {p : Payload} {vs : List Json} (h : encodeArguments p = .ok vs) :
    exactly p = .ok (ofArguments vs) := by
  rw [exactly, h]
  rfl

theorem acceptsAll_exact (vs ws : List Json) :
    acceptsAll (vs.map .exact) ws = .ok (vs == ws) := by
  induction vs generalizing ws with
  | nil => cases ws <;> rfl
  | cons v vs ih =>
    cases ws with
    | nil => rfl
    | cons w ws =>
      rw [List.map_cons, acceptsAll, Matcher.accepts, List.cons_beq_cons]
      cases hvw : v == w with
      | true => exact ih ws
      | false => rfl

theorem overlapsAll_exact (vs ws : List Json) :
    overlapsAll (vs.map .exact) (ws.map .exact) = .ok (vs == ws) := by
  induction vs generalizing ws with
  | nil => cases ws <;> rfl
  | cons v vs ih =>
    cases ws with
    | nil => rfl
    | cons w ws =>
      rw [List.map_cons, List.map_cons, overlapsAll, Matcher.overlaps, List.cons_beq_cons]
      cases hvw : v == w with
      | true => exact ih ws
      | false => rfl

theorem beq_of_length_ne {vs ws : List Json} (h : vs.length ≠ ws.length) : (vs == ws) = false :=
  Bool.eq_false_iff.mpr fun heq => h (List.length_eq_of_beq heq)

/-- **The matcher of some arguments accepts exactly those that are equal to them**, and always
answers. -/
theorem accepts_ofArguments (vs ws : List Json) :
    (ofArguments vs).accepts ws = .ok (vs == ws) := by
  rw [accepts, ofArguments, List.length_map, acceptsAll_exact]
  split_ifs with hlength
  · rfl
  · rw [beq_of_length_ne hlength]

/-- **The matchers of some arguments overlap exactly if the arguments are equal.** -/
theorem overlaps_ofArguments (vs ws : List Json) :
    (ofArguments vs).overlaps (ofArguments ws) = .ok (vs == ws) := by
  rw [overlaps, ofArguments, ofArguments, List.length_map, List.length_map, overlapsAll_exact]
  split_ifs with hlength
  · rfl
  · rw [beq_of_length_ne hlength]

end ArgumentMatcher

theorem encodeArguments_eq_ok {p : Payload} {v : Json} (h : p.encode = .ok v) :
    encodeArguments p = .ok (spread v) := by
  rw [encodeArguments, h]
  rfl

end TestDouble
