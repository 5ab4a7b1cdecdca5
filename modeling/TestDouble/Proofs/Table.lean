import Mathlib.Data.List.Nodup
import TestDouble.Table

/-!
# Looking up entries

Where no key occurs twice a look-up finds an entry wherever it stands
(`Entries.lookup_eq_some_iff`), so the order of the entries does not matter (`Entries.lookup_perm`),
and a table is known by what its look-ups give (`Table.ext_get?`).
-/

namespace TestDouble

variable {α : Type}

namespace Entries

variable {entries entries' : List (String × α)}

/-- **What a look-up gives** is an entry, and if no key occurs twice every entry is given. -/
theorem lookup_eq_some_iff (h : (entries.map Prod.fst).Nodup) {name : String} {value : α} :
    entries.lookup name = some value ↔ (name, value) ∈ entries := by
  induction entries with
  | nil => simp
  | cons entry rest ih =>
    obtain ⟨key, first⟩ := entry
    obtain ⟨hkey, hrest⟩ := List.nodup_cons.mp h
    rw [lookup_cons, List.mem_cons, Prod.mk.injEq]
    by_cases hname : name = key
    · subst hname
      have hnot : (name, value) ∉ rest := fun hmem => hkey (List.mem_map.mpr ⟨_, hmem, rfl⟩)
      simp [hnot, eq_comm]
    · simp [hname, ih hrest]

/-- The order of entries does not matter. -/
theorem lookup_perm (hperm : entries'.Perm entries) (h : (entries.map Prod.fst).Nodup)
    (name : String) : entries'.lookup name = entries.lookup name := by
  have h' : (entries'.map Prod.fst).Nodup := (hperm.map Prod.fst).nodup_iff.mpr h
  refine Option.ext fun value => ?_
  rw [lookup_eq_some_iff h', lookup_eq_some_iff h]
  exact hperm.mem_iff

/-- Nor does it matter to a name that occurs at most once. -/
theorem lookup_reverse {name : String} (h : (entries.map Prod.fst).count name ≤ 1) :
    entries.reverse.lookup name = entries.lookup name := by
  induction entries with
  | nil => rfl
  | cons entry rest ih =>
    obtain ⟨key, value⟩ := entry
    rw [List.map_cons, List.count_cons] at h
    rw [List.reverse_cons, List.lookup_append, lookup_cons, lookup_cons]
    by_cases hname : name = key
    · have hrest : name ∉ rest.map Prod.fst := by
        rw [if_pos (by simp [hname])] at h
        exact List.count_eq_zero.mp (by omega)
      have hnone : rest.reverse.lookup name = none := by
        refine List.lookup_eq_none_iff.mpr fun p hp => bne_iff_ne.mpr ?_
        rintro rfl
        exact hrest (List.mem_map_of_mem (List.mem_reverse.mp hp))
      rw [hnone, if_pos hname, if_pos hname, Option.none_or]
    · rw [ih (by omega), if_neg hname, if_neg hname, List.lookup_nil, Option.or_none]

theorem Sorted.nodup_keys (h : Sorted entries) : (entries.map Prod.fst).Nodup :=
  List.pairwise_map.mpr (h.imp String.ne_of_lt)

/-- Entries in increasing order are known by what look-ups give. -/
theorem Sorted.ext_lookup (h : Sorted entries) (h' : Sorted entries')
    (heq : ∀ name, entries.lookup name = entries'.lookup name) : entries = entries' := by
  have hperm : entries.Perm entries' := by
    have hnodup : entries.Nodup := List.Nodup.of_map _ h.nodup_keys
    have hnodup' : entries'.Nodup := List.Nodup.of_map _ h'.nodup_keys
    refine (List.perm_ext_iff_of_nodup hnodup hnodup').mpr ?_
    rintro ⟨name, value⟩
    rw [← lookup_eq_some_iff h.nodup_keys, ← lookup_eq_some_iff h'.nodup_keys, heq]
  refine hperm.eq_of_pairwise (fun a b _ _ hab hba => ?_) h h'
  exact absurd hba (String.lt_asymm hab)

end Entries

/-- **Tables are equal** when every key has the same value in both. -/
theorem Table.ext_get? {s t : Table α} (h : ∀ name, s.get? name = t.get? name) : s = t :=
  Table.ext (s.sorted.ext_lookup t.sorted h)

end TestDouble
