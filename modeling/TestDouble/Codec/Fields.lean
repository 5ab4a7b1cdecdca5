import TestDouble.Codec

/-!
# Records as JSON

A record is read from an object, whose unknown entries are ignored, or from an array that holds
its fields in their order. `Fields.read` does what all records share: it settles which field has
which value and reports the first fault. In an object the present fields are checked in the order
of their keys, and only then is the first missing one reported. In an array the fields are checked
in their own order up to its end.
-/

namespace TestDouble

/-- What it means that a field is not there. -/
inductive Presence where
  /-- It is a fault. -/
  | required
  /-- An object may lack the field, an array may not. -/
  | optional
  /-- The field then has a value of its own. -/
  | defaulted
  deriving DecidableEq

/-- A field of a record: its name, what its absence means and which values it refuses. -/
structure Field where
  name : String
  presence : Presence
  check : Json → Except DecodeError Unit

namespace Field

/-- A field whose values a codec reads. -/
def of {α : Type} (presence : Presence) (name : String) (c : Codec α) : Field :=
  ⟨name, presence, fun v => (c.decode v).map fun _ => ()⟩

end Field

namespace Fields

/-- The first fault of the entries that belong to a field, in the order of the entries. -/
def firstFault (fields : List Field) : List (String × Json) → Except DecodeError Unit
  | [] => .ok ()
  | (k, v) :: rest =>
    match fields.find? (·.name == k) with
    | none => firstFault fields rest
    | some field =>
      match field.check v with
      | .error e => .error e
      | .ok () => firstFault fields rest

/-- The first field that has to be there and is not. -/
def missing? (fields : List Field) (entries : List (String × Json)) : Option String :=
  (fields.find? fun f => f.presence == .required && (entries.lookup f.name).isNone).map (·.name)

/-- Gives the items of an array to the fields in order. `total` is the length of the array. -/
def pairUp (expected : String) (total : Nat) :
    List Field → List Json → Except DecodeError (List (String × Json))
  | [], [] => .ok []
  | [], _ :: _ => Codec.tooLong total
  | f :: fields, [] =>
    if f.presence = .defaulted then pairUp expected total fields []
    else .error (.invalidLength total expected)
  | f :: fields, v :: rest =>
    match f.check v with
    | .error e => .error e
    | .ok () => (pairUp expected total fields rest).map ((f.name, v) :: ·)

/-- The values of the fields of a record. -/
def read (record : String) (fields : List Field) :
    Json → Except DecodeError (List (String × Json))
  | .obj entries =>
    match firstFault fields entries with
    | .error e => .error e
    | .ok () =>
      match missing? fields entries with
      | some name => .error (.missingField name)
      | none => .ok entries
  | .arr items =>
    let elements := if fields.length = 1 then " element" else " elements"
    pairUp ("struct " ++ record ++ " with " ++ toString fields.length ++ elements) items.length
      fields items
  | v => Codec.refuse v ("struct " ++ record)

/-- The value of a field that has to be there. -/
def get {α : Type} (c : Codec α) (name : String) (found : List (String × Json)) :
    Except DecodeError α :=
  match found.lookup name with
  | some v => c.decode v
  | none => .error (.missingField name)

/-- The value of a field, or the given one if the field is not there. -/
def getD {α : Type} (c : Codec α) (name : String) (found : List (String × Json)) (default : α) :
    Except DecodeError α :=
  match found.lookup name with
  | some v => c.decode v
  | none => .ok default

end Fields
end TestDouble
