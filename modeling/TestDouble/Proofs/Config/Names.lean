import Mathlib.Data.List.Basic
import Mathlib.Data.List.TakeWhile
import TestDouble.Config.Load

/-!
# Names of settings

The names that a configuration has for its fields are identifiers in lower case. Such a name is no
path (`Identifier.path`) and putting it in lower case leaves it as it is (`Identifier.lower`). A
name from the environment is put in lower case twice, as the name of a variable and as the name of a
setting; the second time makes no identifier out of what was none (`Identifier.lower_eq_iff`).
-/

namespace TestDouble

namespace Text

/-! ### Characters that have been put in lower case -/

/-- No capital ASCII letter, and not the Kelvin sign, which is a capital of one. -/
def Settled (c : Char) : Prop := (c.toNat < 0x41 ∨ 0x5A < c.toNat) ∧ c.toNat ≠ 0x212A

instance (c : Char) : Decidable (Settled c) := inferInstanceAs (Decidable (_ ∧ _))

/-- The range of a character beyond ASCII that has a small letter of its own. -/
theorem exists_lowerRange {code : Nat} (h : 0x80 ≤ code) (hne : lowerOffset code ≠ 0) :
    ∃ r ∈ lowerRanges, r.1 ≤ code ∧ code ≤ r.2.1 ∧ lowerOffset code = r.2.2.2 := by
  rw [lowerOffset, if_neg (Nat.not_lt.mpr h)] at hne ⊢
  split at hne
  · next first last step offset hfind =>
    have hr := List.find?_some hfind
    simp only [Bool.and_eq_true, decide_eq_true_eq] at hr
    exact ⟨_, List.mem_of_find?_eq_some hfind, hr.1.1, hr.1.2, rfl⟩
  · exact absurd rfl hne

/-- The small letters of the table are no capitals. -/
theorem lowerRanges_settled : ∀ r ∈ lowerRanges,
    (0x5A : Int) < r.1 + r.2.2.2 ∧ ((r.2.1 : Int) + r.2.2.2 < 0x212A ∨ 0x212A < r.1 + r.2.2.2) := by
  decide +kernel

/-- Of the characters beyond ASCII only the Kelvin sign has a small letter in ASCII. -/
theorem lowerRanges_beyond : ∀ r ∈ lowerRanges,
    r.1 = 0x212A ∧ r.2.1 = 0x212A ∨ (0x80 : Int) ≤ r.1 + r.2.2.2 := by
  decide +kernel

theorem toNat_ofNat (n : Nat) : (Char.ofNat n).toNat = n ∨ (Char.ofNat n).toNat = 0 := by
  by_cases h : n.isValidChar
  · exact .inl (congrArg Char.toNat (dif_pos h))
  · exact .inr (congrArg Char.toNat (dif_neg h))

theorem lowerOffset_of_ascii {code : Nat} (h : code < 0x80) :
    lowerOffset code = if 0x41 ≤ code ∧ code ≤ 0x5A then 32 else 0 := if_pos h

/-- **The small letter of a character** is no capital again. -/
theorem settled_lowerChar (c : Char) : Settled (lowerChar c) := by
  rcases toNat_ofNat ((c.toNat : Int) + lowerOffset c.toNat).toNat with h | h
  · rw [Settled, lowerChar, h]
    by_cases hascii : c.toNat < 0x80
    · rw [lowerOffset_of_ascii hascii]
      split_ifs <;> omega
    · by_cases hzero : lowerOffset c.toNat = 0
      · have hkelvin : lowerOffset 0x212A ≠ 0 := by decide
        have hne : c.toNat ≠ 0x212A := fun heq => hkelvin (heq ▸ hzero)
        rw [hzero]
        omega
      · obtain ⟨r, hr, hfirst, hlast, hoffset⟩ := exists_lowerRange (Nat.not_lt.mp hascii) hzero
        have := lowerRanges_settled r hr
        rw [hoffset]
        omega
  · rw [Settled, lowerChar, h]
    omega

theorem settled_lowerSigma (before after : List Char) : Settled (lowerSigma before after) := by
  unfold lowerSigma
  split <;> decide

/-- What has been put in lower case has no capitals. -/
theorem settled_lowerChars (before cs : List Char) : ∀ c ∈ lowerChars before cs, Settled c := by
  induction cs generalizing before with
  | nil => simp [lowerChars]
  | cons c cs ih =>
    have hrest := ih (c :: before)
    rw [lowerChars]
    split_ifs
    · refine List.forall_mem_cons.mpr ⟨by decide, List.forall_mem_cons.mpr ⟨by decide, hrest⟩⟩
    · exact List.forall_mem_cons.mpr ⟨settled_lowerSigma before cs, hrest⟩
    · exact List.forall_mem_cons.mpr ⟨settled_lowerChar c, hrest⟩

/-- A character of ASCII; the one that stands for what is no character does not count. -/
def Plain (c : Char) : Prop := 0 < c.toNat ∧ c.toNat < 0x80

instance (c : Char) : Decidable (Plain c) := inferInstanceAs (Decidable (_ ∧ _))

/-- A character that has no capital ASCII letter for its small one is its own small letter, if that
is in ASCII at all. -/
theorem lowerChar_of_settled {c : Char} (h : Settled c) (hplain : Plain (lowerChar c)) :
    lowerChar c = c := by
  suffices hzero : lowerOffset c.toNat = 0 by
    rw [lowerChar, hzero, Int.add_zero, Int.toNat_natCast, Char.ofNat_toNat]
  by_contra hne
  by_cases hascii : c.toNat < 0x80
  · rw [lowerOffset_of_ascii hascii, if_neg (by have := h.1; omega)] at hne
    exact hne rfl
  · obtain ⟨r, hr, hfirst, hlast, hoffset⟩ := exists_lowerRange (Nat.not_lt.mp hascii) hne
    have hbeyond := lowerRanges_beyond r hr
    have hkelvin := h.2
    obtain ⟨hpos, hlt⟩ := hplain
    rcases toNat_ofNat ((c.toNat : Int) + lowerOffset c.toNat).toNat with h | h
    · rw [lowerChar, h, hoffset] at hlt
      omega
    · rw [lowerChar, h] at hpos
      exact absurd hpos (Nat.lt_irrefl 0)

/-- **Putting in lower case a second time** gives no text of ASCII that was not there before. -/
theorem lowerChars_of_settled {before cs : List Char} (h : ∀ c ∈ cs, Settled c)
    (hplain : ∀ c ∈ lowerChars before cs, Plain c) : lowerChars before cs = cs := by
  induction cs generalizing before with
  | nil => rfl
  | cons c cs ih =>
    obtain ⟨hc, hcs⟩ := List.forall_mem_cons.mp h
    rw [lowerChars] at hplain ⊢
    split_ifs at hplain ⊢ with hdot hsigma
    · -- the dot above the letter is not in ASCII
      exact absurd (hplain _ (List.mem_cons_of_mem _ List.mem_cons_self)) (by decide)
    · refine absurd (hplain _ List.mem_cons_self) ?_
      unfold lowerSigma
      split <;> decide
    · obtain ⟨hfirst, hrest⟩ := List.forall_mem_cons.mp hplain
      rw [lowerChar_of_settled hc hfirst, ih hcs hrest]

/-- A text without capitals in ASCII stays as it is. -/
theorem lowerChars_of_plain {before cs : List Char}
    (h : ∀ c ∈ cs, c.toNat < 0x80 ∧ (c.toNat < 0x41 ∨ 0x5A < c.toNat)) :
    lowerChars before cs = cs := by
  induction cs generalizing before with
  | nil => rfl
  | cons c cs ih =>
    obtain ⟨⟨hascii, hsmall⟩, hcs⟩ := List.forall_mem_cons.mp h
    rw [lowerChars, if_neg (by omega), if_neg (by omega), ih hcs, lowerChar,
      lowerOffset_eq_zero hascii hsmall, Int.add_zero, Int.toNat_natCast, Char.ofNat_toNat]

end Text

/-! ### Paths -/

namespace PathStep

theorem name?_eq_some {cs rest : List Char} {step : PathStep} (h : name? cs = some (step, rest)) :
    step = .entry (String.ofList (cs.takeWhile isNameChar)) ∧ rest = cs.dropWhile isNameChar := by
  unfold name? at h
  split at h
  · cases h
  · simp_all

theorem following?_eq_nil {fuel : Nat} {cs : List Char} (h : following? fuel cs = some []) :
    cs = [] := by
  match fuel, cs with
  | _, [] => rfl
  | 0, _ :: _ => cases h
  | fuel + 1, _ :: _ =>
    simp only [following?, Option.bind_eq_bind, Option.bind_eq_some_iff, Option.pure_def] at h
    obtain ⟨_, _, _, _, hcons⟩ := h
    cases hcons

/-- **A path begins with a name** that is a part of what is written, and all of it if the path has
no more steps. -/
theorem exists_path (name : String) : ∃ first steps,
    path name = .entry first :: steps ∧ (∀ c ∈ first.toList, c ∈ name.toList) ∧
      (steps = [] → first = name) := by
  cases hpath : path? name.toList with
  | none => exact ⟨name, [], path_of_none hpath, fun _ hc => hc, fun _ => rfl⟩
  | some found =>
    rw [path, hpath, Option.getD_some]
    simp only [path?, Option.bind_eq_bind, Option.bind_eq_some_iff, Option.pure_def,
      Option.some.injEq] at hpath
    obtain ⟨⟨step, rest⟩, hname, steps, hsteps, rfl⟩ := hpath
    obtain ⟨rfl, rfl⟩ := name?_eq_some hname
    refine ⟨_, steps, rfl, fun c hc => ?_, ?_⟩
    · exact (List.takeWhile_sublist _).subset (String.toList_ofList ▸ hc)
    · rintro rfl
      have hall := List.dropWhile_eq_nil_iff.mp (following?_eq_nil hsteps)
      rw [List.takeWhile_eq_self_iff.mpr hall, String.ofList_toList]

end PathStep

/-! ### Identifiers -/

/-- Small letters, digits and underscores, at least one of them. -/
def Identifier (name : String) : Prop :=
  name ≠ "" ∧ ∀ c ∈ name.toList, c.isLower ∨ c.isDigit ∨ c = '_'

instance (name : String) : Decidable (Identifier name) :=
  have : Decidable (∀ c ∈ name.toList, c.isLower ∨ c.isDigit ∨ c = '_') := List.decidableBAll _ _
  inferInstanceAs (Decidable (_ ∧ _))

namespace Identifier

variable {name : String}

/-- The codes of the characters of an identifier. -/
theorem codes (h : Identifier name) : ∀ c ∈ name.toList,
    0 < c.toNat ∧ c.toNat < 0x80 ∧ (c.toNat < 0x41 ∨ 0x5A < c.toNat) := by
  intro c hc
  rcases h.2 c hc with hlower | hdigit | rfl
  · have hrange : 0x61 ≤ c.toNat ∧ c.toNat ≤ 0x7A := by
      obtain ⟨hfirst, hlast⟩ := Bool.and_eq_true_iff.mp hlower
      exact ⟨of_decide_eq_true hfirst, of_decide_eq_true hlast⟩
    omega
  · have hrange : 0x30 ≤ c.toNat ∧ c.toNat ≤ 0x39 := by
      obtain ⟨hfirst, hlast⟩ := Bool.and_eq_true_iff.mp hdigit
      exact ⟨of_decide_eq_true hfirst, of_decide_eq_true hlast⟩
    omega
  · decide

theorem settled (h : Identifier name) : ∀ c ∈ name.toList, Text.Settled c := by
  intro c hc
  have hcodes := h.codes c hc
  rw [Text.Settled]
  omega

/-- An identifier is in lower case. -/
theorem lower (h : Identifier name) : Text.lower name = name := by
  rw [Text.lower, Text.lowerChars_of_plain fun c hc => (h.codes c hc).2, String.ofList_toList]

/-- An identifier is the lower case of nothing else that has no capitals. -/
theorem lower_eq_iff (h : Identifier name) {rest : List Char} (hrest : ∀ c ∈ rest, Text.Settled c) :
    Text.lower (String.ofList rest) = name ↔ String.ofList rest = name := by
  constructor
  · intro heq
    have hchars : Text.lowerChars [] rest = name.toList := by
      rw [← heq, Text.lower, String.toList_ofList, String.toList_ofList]
    have hplain : ∀ c ∈ Text.lowerChars [] rest, Text.Plain c := fun c hc =>
      ⟨(h.codes c (hchars ▸ hc)).1, (h.codes c (hchars ▸ hc)).2.1⟩
    rw [← Text.lowerChars_of_settled hrest hplain, hchars, String.ofList_toList]
  · intro heq
    rw [heq, h.lower]

/-- **An identifier is no path.** -/
theorem path (h : Identifier name) : PathStep.path name = [.entry name] := by
  have hname : ∀ c ∈ name.toList, PathStep.isNameChar c = true := by
    intro c hc
    have halnum : c.isAlphanum = (c.isUpper || c.isLower || c.isDigit) := rfl
    rcases h.2 c hc with hlower | hdigit | rfl
    · simp [PathStep.isNameChar, halnum, hlower]
    · simp [PathStep.isNameChar, halnum, hdigit]
    · decide
  have htake : name.toList.takeWhile PathStep.isNameChar = name.toList :=
    List.takeWhile_eq_self_iff.mpr hname
  have hdrop : name.toList.dropWhile PathStep.isNameChar = [] :=
    List.dropWhile_eq_nil_iff.mpr hname
  have hne : name.toList ≠ [] := fun hnil => h.1 (String.toList_eq_nil_iff.mp hnil)
  have hfirst : PathStep.name? name.toList = some (.entry name, []) := by
    rw [PathStep.name?, htake, hdrop]
    split
    · next hnil => exact absurd hnil hne
    · rw [String.ofList_toList]
  rw [PathStep.path, PathStep.path?, hfirst]
  rfl

end Identifier
end TestDouble
