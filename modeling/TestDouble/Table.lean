/-!
# Tables

A table gives values to texts. It is kept as a list of entries in increasing order of their keys,
so two tables with the same entries are equal. Putting a key that is there already replaces its
value: the last one wins.
-/

namespace TestDouble

variable {α : Type}

namespace Entries

/-- Puts an entry at its place among entries in increasing order of their keys. -/
def put (key : String) (value : α) : List (String × α) → List (String × α)
  | [] => [(key, value)]
  | (k, v) :: rest =>
    if key < k then (key, value) :: (k, v) :: rest
    else if key = k then (key, value) :: rest
    else (k, v) :: put key value rest

/-- The entries are in strictly increasing order of their keys. -/
def Sorted (entries : List (String × α)) : Prop := entries.Pairwise fun a b => a.1 < b.1

/-- A key of the entries after `put` is the key put or an earlier one. -/
theorem mem_put {key : String} {value : α} {entries : List (String × α)} {e : String × α}
    (h : e ∈ put key value entries) : e = (key, value) ∨ e ∈ entries := by
  induction entries with
  | nil => simp_all [put]
  | cons a rest ih =>
    obtain ⟨k, v⟩ := a
    simp only [put] at h
    split at h
    · simpa using h
    · split at h
      · simp only [List.mem_cons] at h ⊢
        rcases h with h | h
        · exact .inl h
        · exact .inr (.inr h)
      · simp only [List.mem_cons] at h ⊢
        rcases h with h | h
        · exact .inr (.inl h)
        · rcases ih h with h | h
          · exact .inl h
          · exact .inr (.inr h)

/-- Putting an entry keeps the order. -/
theorem sorted_put {key : String} {value : α} {entries : List (String × α)}
    (h : Sorted entries) : Sorted (put key value entries) := by
  induction entries with
  | nil => simp [put, Sorted]
  | cons a rest ih =>
    obtain ⟨k, v⟩ := a
    obtain ⟨hk, hr⟩ := List.pairwise_cons.1 h
    simp only [put]
    split
    next hlt =>
      refine List.pairwise_cons.2 ⟨fun e he => ?_, h⟩
      rcases List.mem_cons.1 he with rfl | he
      · exact hlt
      · exact String.lt_trans hlt (hk e he)
    next hnlt =>
      split
      next heq =>
        subst heq
        exact List.pairwise_cons.2 ⟨hk, hr⟩
      next hne =>
        refine List.pairwise_cons.2 ⟨fun e he => ?_, ih hr⟩
        rcases mem_put he with rfl | he
        · exact String.not_le.1 fun hle => hne (String.le_antisymm hle (String.not_lt.1 hnlt))
        · exact hk e he

/-- The value of a key is that of the first entry with the key. -/
theorem lookup_cons (k : String) (v : α) (rest : List (String × α)) (name : String) :
    ((k, v) :: rest).lookup name = if name = k then some v else rest.lookup name := by
  by_cases h : name = k
  · simp [h]
  · rw [List.lookup_cons, beq_false_of_ne h, if_neg h]

/-- The value of a key after `put`: the value put, or that of an earlier entry. -/
theorem lookup_put (key : String) (value : α) (entries : List (String × α)) (name : String) :
    (put key value entries).lookup name =
      if name = key then some value else entries.lookup name := by
  induction entries with
  | nil => exact lookup_cons key value [] name
  | cons a rest ih =>
    obtain ⟨k, v⟩ := a
    simp only [put]
    split
    next => exact lookup_cons key value _ name
    next =>
      split
      next heq =>
        subst heq
        rw [lookup_cons, lookup_cons]
        split <;> rfl
      next hne =>
        rw [lookup_cons, lookup_cons, ih]
        by_cases h : name = k
        · rw [if_pos h, if_pos h, if_neg fun hk => hne (hk.symm.trans h)]
        · rw [if_neg h, if_neg h]

/-- Entries put one after another, a later one replacing an earlier one of the same key. -/
def ofList (entries : List (String × α)) : List (String × α) :=
  entries.foldl (fun done (k, v) => put k v done) []

/-- Whatever is put, the order is kept. -/
theorem sorted_foldl_put (entries : List (String × α)) {done : List (String × α)}
    (h : Sorted done) : Sorted (entries.foldl (fun done (k, v) => put k v done) done) := by
  induction entries generalizing done with
  | nil => exact h
  | cons e rest ih => exact ih (sorted_put h)

theorem sorted_ofList (entries : List (String × α)) : Sorted (ofList entries) :=
  sorted_foldl_put entries List.Pairwise.nil

end Entries

/-- A finite map from texts to values. -/
structure Table (α : Type) where
  /-- The entries in increasing order of their keys. -/
  entries : List (String × α)
  /-- No key occurs twice. -/
  sorted : Entries.Sorted entries

namespace Table

/-- The table without entries. -/
def empty : Table α := ⟨[], List.Pairwise.nil⟩

instance : Inhabited (Table α) := ⟨empty⟩

/-- Gives a value to a key, replacing the one it had. -/
def put (t : Table α) (key : String) (value : α) : Table α :=
  ⟨Entries.put key value t.entries, Entries.sorted_put t.sorted⟩

/-- The table of some entries, a later one replacing an earlier one of the same key. -/
def ofList (entries : List (String × α)) : Table α :=
  ⟨Entries.ofList entries, Entries.sorted_ofList entries⟩

/-- The value of a key, if it has one. -/
def get? (t : Table α) (key : String) : Option α := t.entries.lookup key

/-- A key has the value that was put last. -/
theorem get?_put (t : Table α) (key : String) (value : α) (name : String) :
    (t.put key value).get? name = if name = key then some value else t.get? name :=
  Entries.lookup_put key value t.entries name

/-- Tables are equal when their entries are. -/
@[ext] theorem ext {s t : Table α} (h : s.entries = t.entries) : s = t := by
  cases s; cases t; simp_all

instance [DecidableEq α] : DecidableEq (Table α) := fun s t =>
  decidable_of_iff (s.entries = t.entries) ⟨ext, fun h => by rw [h]⟩

end Table
end TestDouble
