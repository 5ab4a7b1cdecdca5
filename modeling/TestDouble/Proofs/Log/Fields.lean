import Mathlib.Data.List.Induction
import TestDouble.Proofs.Log.Emission
import TestDouble.Proofs.Table

/-!
# What an entry says of an event

A layer visits the fields of an event one after another. What the visit has found at any time is
what the fields visited so far say (`FieldVisit.Holds`): of each name the last value counts, three
names have a place of their own, and only the error keeps what caused it. So the entry says what the
event says, field by field (`Event.told_entry`), and the order of fields of different names does not
matter (`fields_distributed`).
-/

namespace TestDouble

namespace FieldValue

/-- The value of the last field of a name. -/
def last? (fields : List (String × FieldValue)) (name : String) : Option FieldValue :=
  fields.reverse.lookup name

/-- What a value says as an error: an error says what it is and all that caused it, any other value
only its text. -/
def detail : FieldValue → Fault
  | fault f => f
  | text s | shown s => ⟨s, []⟩

theorem last?_concat (fields : List (String × FieldValue)) (key : String) (value : FieldValue)
    (name : String) :
    last? (fields ++ [(key, value)]) name =
      if name = key then some value else last? fields name := by
  rw [last?, List.reverse_append, List.reverse_singleton, List.singleton_append]
  exact Entries.lookup_cons key value fields.reverse name

/-- The order of fields of different names does not matter. -/
theorem last?_perm {fields fields' : List (String × FieldValue)} (hperm : fields'.Perm fields)
    (h : (fields.map Prod.fst).Nodup) (name : String) : last? fields' name = last? fields name := by
  have hreverse : (fields.reverse.map Prod.fst).Nodup := by
    rw [List.map_reverse]
    exact List.nodup_reverse.mpr h
  have hreversed : fields'.reverse.Perm fields.reverse :=
    (List.reverse_perm _).trans (hperm.trans (List.reverse_perm _).symm)
  exact Entries.lookup_perm hreversed hreverse name

end FieldValue

namespace FieldVisit

/-- The names that have a place of their own. -/
def places : List String := ["message", "category", "error"]

/-- The visit has found what some fields say. -/
structure Holds (v : FieldVisit) (fields : List (String × FieldValue)) : Prop where
  message : v.message = (FieldValue.last? fields "message").map FieldValue.toText
  category : v.category = (FieldValue.last? fields "category").map FieldValue.toText
  error : v.error = (FieldValue.last? fields "error").map FieldValue.detail
  fields : ∀ name, v.fields.get? name =
    if name ∈ places then none else (FieldValue.last? fields name).map FieldValue.toText

variable {v : FieldVisit} {fields : List (String × FieldValue)}

theorem Holds.start : start.Holds [] :=
  ⟨rfl, rfl, rfl, fun _ => (ite_self _).symm⟩

theorem faultOf_eq_detail (value : FieldValue) : faultOf value = value.detail := by
  cases value <;> rfl

/-- **A field that is visited** adds to what the fields before it say. -/
theorem Holds.visit (h : v.Holds fields) (key : String) (value : FieldValue) :
    (v.visit key value).Holds (fields ++ [(key, value)]) := by
  obtain ⟨hmessage, hcategory, herror, hfields⟩ := h
  -- a field with a place of its own leaves the table of the others as it is
  have hkept : key ∈ places → ∀ name, v.fields.get? name = if name ∈ places then none else
      (FieldValue.last? (fields ++ [(key, value)]) name).map FieldValue.toText := by
    intro hkey name
    rw [hfields, FieldValue.last?_concat]
    split_ifs with hname heq
    · rfl
    · exact absurd (heq ▸ hkey) hname
    · rfl
  simp only [FieldVisit.visit]
  split_ifs with hm hc he
  · subst hm
    refine ⟨?_, ?_, ?_, hkept (by simp [places])⟩
    · simp [FieldValue.last?_concat]
    · simp [FieldValue.last?_concat, hcategory]
    · simp [FieldValue.last?_concat, herror]
  · subst hc
    refine ⟨?_, ?_, ?_, hkept (by simp [places])⟩
    · simp [FieldValue.last?_concat, hmessage]
    · simp [FieldValue.last?_concat]
    · simp [FieldValue.last?_concat, herror]
  · subst he
    refine ⟨?_, ?_, ?_, hkept (by simp [places])⟩
    · simp [FieldValue.last?_concat, hmessage]
    · simp [FieldValue.last?_concat, hcategory]
    · simp [FieldValue.last?_concat, faultOf_eq_detail]
  · refine ⟨?_, ?_, ?_, fun name => ?_⟩
    · simp [FieldValue.last?_concat, hmessage, Ne.symm hm]
    · simp [FieldValue.last?_concat, hcategory, Ne.symm hc]
    · simp [FieldValue.last?_concat, herror, Ne.symm he]
    · rw [Table.get?_put, hfields, FieldValue.last?_concat]
      by_cases hname : name = key
      · subst hname
        simp [places, hm, hc, he]
      · simp [hname]

/-- **A visit of all fields** finds what they say. -/
theorem ofFields_holds (fields : List (String × FieldValue)) : (ofFields fields).Holds fields := by
  induction fields using List.reverseRecOn with
  | nil => exact .start
  | append_singleton fields field ih =>
    rw [ofFields, List.foldl_concat]
    exact ih.visit field.1 field.2

end FieldVisit

namespace Event

/-- The entry says what the event says: its level, the text of the last message, the text of the
last category or else the target, the last error with all that caused it, and under each other name
the text of the last field of that name. -/
structure Told (e : Event) (entry : LogEntry) : Prop where
  level : entry.level = .ofEvent e.level
  message : entry.message = ((FieldValue.last? e.fields "message").map FieldValue.toText).getD ""
  category : entry.category =
    some (((FieldValue.last? e.fields "category").map FieldValue.toText).getD e.target)
  error : entry.error = (FieldValue.last? e.fields "error").map FieldValue.detail
  fields : ∀ name, entry.fields.get? name =
    if name = "message" ∨ name = "category" ∨ name = "error" then none
    else (FieldValue.last? e.fields name).map FieldValue.toText

variable {e e' : Event} {entry entry' : LogEntry}

/-- **The entry of an event** says what the event says. -/
theorem told_entry (e : Event) : e.Told e.entry := by
  obtain ⟨hmessage, hcategory, herror, hfields⟩ := FieldVisit.ofFields_holds e.fields
  refine ⟨rfl, congrArg (Option.getD · "") hmessage, ?_, herror, fun name => ?_⟩
  · exact congrArg (fun category => some (category.getD e.target)) hcategory
  · exact (hfields name).trans (by simp [FieldVisit.places])

/-- Events that say the same, each name for itself, have the same entry. -/
theorem Told.entry_eq (h : e.Told entry) (h' : e'.Told entry') (hlevel : e'.level = e.level)
    (htarget : e'.target = e.target)
    (hlast : ∀ name, FieldValue.last? e'.fields name = FieldValue.last? e.fields name) :
    entry' = entry := by
  have hlevels : entry'.level = entry.level := by rw [h'.level, h.level, hlevel]
  have hmessages : entry'.message = entry.message := by rw [h'.message, h.message, hlast]
  have herrors : entry'.error = entry.error := by rw [h'.error, h.error, hlast]
  have hcategories : entry'.category = entry.category := by
    rw [h'.category, h.category, hlast, htarget]
  have hfields : entry'.fields = entry.fields :=
    Table.ext_get? fun name => by rw [h'.fields, h.fields, hlast]
  cases entry
  cases entry'
  rw [LogEntry.mk.injEq]
  exact ⟨hlevels, hmessages, herrors, hcategories, hfields⟩

/-- Fields of different names can be given in any order. -/
theorem entry_perm {fields : List (String × FieldValue)} (hperm : fields.Perm e.fields)
    (h : (e.fields.map Prod.fst).Nodup) : { e with fields }.entry = e.entry :=
  (told_entry e).entry_eq (told_entry _) rfl rfl (FieldValue.last?_perm hperm h)

end Event

namespace Journal

variable (j : Journal) {e : Event} {l : Layer}

/-- An event that is grave enough is one more record of the layer's collector. -/
theorem layerHears_of_le (h : l.minimum ≤ .ofEvent e.level)
    (hid : l.collector < j.collectors.length) :
    ∃ r, ((layerHears e j l).collector l.collector).records =
      (j.collector l.collector).records ++ [r] ∧ r.entry = e.entry := by
  have hgains := (layerHears_brings l.collector j e l).gains hid
  rw [if_pos rfl, Event.capture?, if_pos h, Option.toList_some] at hgains
  obtain ⟨new, hrecords, hentries, -⟩ := hgains
  obtain ⟨r, rfl, hr⟩ := List.map_eq_singleton_iff.mp hentries
  exact ⟨r, hrecords, hr⟩

/-- An event that is not grave enough is not heard. -/
theorem layerHears_of_not_le (h : ¬ l.minimum ≤ .ofEvent e.level) : layerHears e j l = j := by
  rw [layerHears, Event.capture?, if_neg h]

/-- A layer writes into its own collector only. -/
theorem layerHears_of_ne {id : Nat} (h : l.collector ≠ id) :
    (layerHears e j l).collector id = j.collector id := by
  unfold layerHears
  cases e.capture? l.minimum with
  | none => rfl
  | some entry => simp [emit, collector, h]

end Journal

/-- **Fields are distributed without loss.** Let a layer hear an event with any fields, whose names
may occur several times. If the event is grave enough the layer's collector gets one more record,
and otherwise nothing changes; no other collector changes. The record is that of the event's entry:
its message is the text of the last field `message` or empty, its category the text of the last
field `category` or the target, its error what the last field `error` says, with all causes if that
is an error, and it has exactly the other names for fields, each with the text of its last value. So
if the names are distinct the fields can be given in any order. -/
theorem fields_distributed (e : Event) (minimum : LogLevel) (j : Journal) (id : Nat)
    (hid : id < j.collectors.length) :
    let heard := Journal.layerHears e j ⟨minimum, id⟩
    (minimum ≤ .ofEvent e.level →
      ∃ r, (heard.collector id).records = (j.collector id).records ++ [r] ∧ r.entry = e.entry) ∧
    (¬ minimum ≤ .ofEvent e.level → heard = j) ∧
    (∀ n, id ≠ n → heard.collector n = j.collector n) ∧
    e.Told e.entry ∧
    ((e.fields.map Prod.fst).Nodup → ∀ fields, fields.Perm e.fields →
      { e with fields }.entry = e.entry ∧
        Journal.layerHears { e with fields } j ⟨minimum, id⟩ = heard) := by
  intro heard
  refine ⟨fun h => j.layerHears_of_le h hid, fun h => j.layerHears_of_not_le h,
    fun n hn => j.layerHears_of_ne hn, e.told_entry, fun hnodup fields hperm => ?_⟩
  have hentry : { e with fields }.entry = e.entry := Event.entry_perm hperm hnodup
  refine ⟨hentry, ?_⟩
  have hcapture : { e with fields }.capture? minimum = e.capture? minimum := by
    rw [Event.capture?, hentry]
    rfl
  simp only [heard, Journal.layerHears, hcapture]

/-- An event with fields that occur twice, errors among them. -/
def Event.garbled : Event :=
  ⟨.error, "shop",
    [("message", .text "old"), ("error", .fault ⟨"no stock", ["timeout", "closed"]⟩),
      ("cause", .fault ⟨"late", ["strike"]⟩), ("message", .fault ⟨"gave up", ["no stock"]⟩),
      ("id", .shown "1"), ("error", .text "plain"), ("id", .shown "2")]⟩

/-- Of each name the last value counts, and causes are lost everywhere but in an error that counts;
an event whose names are distinct may give its fields the other way round. -/
theorem fields_distributed_garbled :
    let j := Journal.empty.openCollector.2
    let e : Event :=
      ⟨.warn, "shop", [("error", .fault ⟨"no stock", ["timeout"]⟩), ("id", .shown "7"),
        ("category", .text "Orders")]⟩
    (∃ r, ((Journal.layerHears .garbled j ⟨.warning, 0⟩).collector 0).records = [r] ∧
      r.entry = ⟨.error, "gave up", some ⟨"plain", []⟩, some "shop",
        .ofList [("cause", "late"), ("id", "2")]⟩) ∧
    { e with fields := e.fields.reverse }.entry = e.entry ∧
    e.entry =
      ⟨.warning, "", some ⟨"no stock", ["timeout"]⟩, some "Orders", .ofList [("id", "7")]⟩ := by
  intro j e
  obtain ⟨hheard, -⟩ := fields_distributed .garbled .warning j 0 Nat.one_pos
  obtain ⟨r, hrecords, hr⟩ := hheard (by decide)
  obtain ⟨-, -, -, -, hperm⟩ := fields_distributed e .trace j 0 Nat.one_pos
  exact ⟨⟨r, hrecords, hr⟩, (hperm (by decide) _ (List.reverse_perm _)).1, rfl⟩

end TestDouble
