import TestDouble.Codec.ValueType

/-!
# Codecs that lose nothing

A codec is *faithful* if it reads back every value that it has written. The codecs of the plain
types are, and the ones for options, lists, pairs and tables are if the codecs of their parts are;
an option needs besides that no part is written `null`, which already stands for none. Every type
that a double can be asked for has a faithful codec (`ValueType.faithful`), and writes `null` for
nothing but its default value (`ValueType.eq_default_of_encode_eq_null`).
-/

namespace TestDouble

/-! ### Tables -/

namespace Entries

variable {α : Type}

/-- An entry whose key comes after all others is put at the end. -/
theorem put_eq_concat {key : String} {value : α} {entries : List (String × α)}
    (h : ∀ e ∈ entries, e.1 < key) : put key value entries = entries ++ [(key, value)] := by
  induction entries with
  | nil => rfl
  | cons e rest ih =>
    obtain ⟨hlt, hrest⟩ := List.forall_mem_cons.mp h
    have hne : key ≠ e.1 := fun heq => String.lt_irrefl _ (heq ▸ hlt)
    rw [put, if_neg (String.lt_asymm hlt), if_neg hne, ih hrest]
    rfl

/-- Entries that are in order already are put as they are. -/
theorem ofList_of_sorted {entries : List (String × α)} (h : Sorted entries) :
    ofList entries = entries := by
  -- by induction on what is still to be put, which comes after all that has been
  have hput : ∀ rest done : List (String × α), Sorted (done ++ rest) →
      rest.foldl (fun done e => put e.1 e.2 done) done = done ++ rest := by
    intro rest
    induction rest with
    | nil => intro done _; simp
    | cons e rest ih =>
      intro done hsorted
      have hlt : ∀ x ∈ done, x.1 < e.1 := fun x hx =>
        (List.pairwise_append.mp hsorted).2.2 x hx e List.mem_cons_self
      dsimp only [List.foldl_cons]
      rw [put_eq_concat hlt, ih _ (by simpa using hsorted), List.append_assoc]
      rfl
  exact hput entries [] h

end Entries

/-- The table of the entries of a table is the table. -/
@[simp] theorem Table.ofList_entries {α : Type} (t : Table α) : Table.ofList t.entries = t :=
  Table.ext (Entries.ofList_of_sorted t.sorted)

/-! ### Codecs -/

namespace Codec

variable {α β : Type}

/-- What is written is read back. -/
def Faithful (c : Codec α) : Prop := ∀ x, c.decode (c.encode x) = .ok x

theorem integer_of_mem {low high n : Int} (h : low ≤ n ∧ n ≤ high) (expected : String) :
    integer low high expected (.int n) = .ok n := if_pos h

theorem u8_faithful : u8.Faithful := by
  intro n
  have hn : (n.toNat : Int) ≤ 255 := by have := n.toNat_lt; omega
  simp [u8, integer_of_mem ⟨Int.natCast_nonneg _, hn⟩, Except.map]

theorem u64_faithful : u64.Faithful := by
  intro n
  have hn : (n.toNat : Int) ≤ 0xFFFFFFFFFFFFFFFF := by have := n.toNat_lt; omega
  simp [u64, integer_of_mem ⟨Int.natCast_nonneg _, hn⟩, Except.map]

theorem i64_faithful : i64.Faithful := by
  intro n
  have hlow : -0x8000000000000000 ≤ n.toInt := n.le_toInt
  have hhigh : n.toInt ≤ 0x7FFFFFFFFFFFFFFF := Int.le_of_lt_add_one n.toInt_lt
  simp only [i64, integer_of_mem ⟨hlow, hhigh⟩, Except.map, Int64.ofInt_toInt]

theorem f64_faithful : f64.Faithful := fun _ => rfl

theorem bool_faithful : bool.Faithful := fun _ => rfl

theorem text_faithful : text.Faithful := fun _ => rfl

theorem unit_faithful : unit.Faithful := fun _ => rfl

theorem json_faithful : json.Faithful := fun _ => rfl

/-- Options lose nothing if no value is written like none. -/
theorem Faithful.option {c : Codec α} (hc : c.Faithful) (hnull : ∀ x, c.encode x ≠ .null) :
    (Codec.option c).Faithful := by
  rintro (_ | x)
  · rfl
  · have hread : (Codec.option c).decode (c.encode x) = (c.decode (c.encode x)).map some := by
      have hne := hnull x
      simp only [Codec.option]
    exact hread.trans (congrArg (Except.map some) (hc x))

theorem decodeItems_map {c : Codec α} (hc : c.Faithful) (xs : List α) :
    decodeItems c.decode (xs.map c.encode) = .ok xs := by
  induction xs with
  | nil => rfl
  | cons x xs ih =>
    rw [List.map_cons, decodeItems, hc x]
    dsimp only
    rw [ih]
    rfl

theorem Faithful.list {c : Codec α} (hc : c.Faithful) : (Codec.list c).Faithful :=
  decodeItems_map hc

theorem decodeEntries_map {c : Codec α} (hc : c.Faithful) (entries : List (String × α)) :
    decodeEntries c.decode (entries.map fun (k, x) => (k, c.encode x)) = .ok entries := by
  induction entries with
  | nil => rfl
  | cons e rest ih =>
    rw [List.map_cons, decodeEntries, hc e.2]
    dsimp only
    rw [ih]
    rfl

theorem Faithful.table {c : Codec α} (hc : c.Faithful) : (Codec.table c).Faithful := by
  intro t
  simp only [Codec.table, decodeEntries_map hc, Except.map, Table.ofList_entries]

theorem Faithful.pair {a : Codec α} {b : Codec β} (ha : a.Faithful) (hb : b.Faithful) :
    (Codec.pair a b).Faithful := by
  intro p
  simp [Codec.pair, ha p.1, hb p.2, Except.bind]

end Codec

theorem Person.faithful : Person.codec.Faithful := by
  intro p
  have hid : Codec.u64.decode (Codec.u64.encode p.id) = .ok p.id := Codec.u64_faithful p.id
  have hname : Codec.text.decode (.str p.name) = .ok p.name := rfl
  have hread : Fields.read "User" [.of .required "id" .u64, .of .required "name" .text]
      (Person.codec.encode p) = .ok [("id", Codec.u64.encode p.id), ("name", .str p.name)] := by
    simp [Person.codec, Fields.read, Fields.firstFault, Fields.missing?, Field.of, Except.map, hid,
      hname]
  unfold Person.codec at hread ⊢
  simp [hread, Fields.get, Entries.lookup_cons, hid, hname, bind, Except.bind, pure, Except.pure]

namespace ValueType

/-- **Every type that a double can be asked for has a faithful codec.** -/
theorem faithful : (t : ValueType) → t.codec.Faithful
  | u8 => Codec.u8_faithful
  | u64 => Codec.u64_faithful
  | i64 => Codec.i64_faithful
  | f64 => Codec.f64_faithful
  | bool => Codec.bool_faithful
  | text => Codec.text_faithful
  | unit => Codec.unit_faithful
  | optionalU64 => Codec.u64_faithful.option nofun
  | texts => Codec.text_faithful.list
  | integers => Codec.i64_faithful.list
  | textAndFloat => Codec.text_faithful.pair Codec.f64_faithful
  | integerTable => Codec.i64_faithful.table
  | person => Person.faithful
  | optionalPerson => Person.faithful.option nofun
  | json => Codec.json_faithful

/-- A value that is written `null` is the default value of its type. -/
theorem eq_default_of_encode_eq_null (t : ValueType) {x : t.Carrier}
    (h : t.codec.encode x = .null) : x = t.default := by
  cases t with
  | unit => rfl
  | optionalU64 | optionalPerson =>
    cases x with
    | none => rfl
    | some => cases h
  | json => exact h
  | _ => cases h

end ValueType
end TestDouble
