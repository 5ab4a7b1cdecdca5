import TestDouble.Json.Printer
import TestDouble.Text.Place

/-!
# Typed values as JSON

A `Codec` writes the values of a type as JSON and reads them back. Reading refuses a value of
another shape with a `DecodeError` that says what was found and what was expected. Items of arrays
are read in order and entries of objects in the order of their keys; the first refusal is the one
reported.

`ValueType` lists the types that a double can be asked for by name.
-/

namespace TestDouble

/-- Why a JSON value is no value of a type, or a value could not be made JSON. -/
inductive DecodeError where
  /-- A value of another shape. -/
  | invalidType (found expected : String)
  /-- A value of the right shape that is out of range. -/
  | invalidValue (found expected : String)
  /-- An array of another length. -/
  | invalidLength (length : Nat) (expected : String)
  | missingField (name : String)
  | unknownVariant (name : String) (expected : List String)
  /-- A reason given by the value itself. -/
  | custom (text : String)
  deriving DecidableEq

namespace DecodeError

/-- The names that were expected, each between grave accents. -/
def alternatives : List String → String
  | [] => "there are no variants"
  | [a] => "expected `" ++ a ++ "`"
  | [a, b] => "expected `" ++ a ++ "` or `" ++ b ++ "`"
  | names => "expected one of " ++ ", ".intercalate (names.map fun n => "`" ++ n ++ "`")

/-- The text of the error. -/
def message : DecodeError → String
  | invalidType found expected => "invalid type: " ++ found ++ ", expected " ++ expected
  | invalidValue found expected => "invalid value: " ++ found ++ ", expected " ++ expected
  | invalidLength length expected =>
    "invalid length " ++ toString length ++ ", expected " ++ expected
  | missingField name => "missing field `" ++ name ++ "`"
  | unknownVariant name expected => "unknown variant `" ++ name ++ "`, " ++ alternatives expected
  | custom text => text

/-- The error with a reason of its own; a place at the end of the reason is put plainly. -/
def ofReason (reason : String) : DecodeError := custom (Text.plainPlace reason)

end DecodeError

/-- What kind of value was found, as an error says it. -/
def Json.kindText : Json → String
  | .null => "null"
  | .bool b => "boolean `" ++ (if b then "true" else "false") ++ "`"
  | .int n => "integer `" ++ toString n ++ "`"
  | .float x => "floating point `" ++ x.write .json ++ "`"
  | .str s => "string " ++ Text.quoted s
  | .arr _ => "sequence"
  | .obj _ => "map"

/-- A value to be made JSON: one that can be, or one that gives a reason why it cannot. -/
inductive Payload where
  | value (v : Json)
  | unencodable (reason : String)

/-- The JSON value of a payload. -/
def Payload.encode : Payload → Except DecodeError Json
  | value v => .ok v
  | unencodable reason => .error (.ofReason reason)

/-- How the values of a type are written as JSON and read back. -/
structure Codec (α : Type) where
  encode : α → Json
  decode : Json → Except DecodeError α

namespace Codec

/-- The refusal of a value of another shape. -/
def refuse {α : Type} (v : Json) (expected : String) : Except DecodeError α :=
  .error (.invalidType v.kindText expected)

/-- Reads an integer between two bounds, both included. -/
def integer (low high : Int) (expected : String) : Json → Except DecodeError Int
  | .int n =>
    if low ≤ n ∧ n ≤ high then .ok n
    else .error (.invalidValue (Json.int n).kindText expected)
  | v => refuse v expected

/-- Natural numbers below `256`. -/
def u8 : Codec UInt8 where
  encode n := .int n.toNat
  decode v := (integer 0 255 "u8" v).map fun n => .ofNat n.toNat

/-- Natural numbers of thirty-two bits. -/
def u32 : Codec UInt32 where
  encode n := .int n.toNat
  decode v := (integer 0 0xFFFFFFFF "u32" v).map fun n => .ofNat n.toNat

/-- Natural numbers of sixty-four bits. -/
def u64 : Codec UInt64 where
  encode n := .int n.toNat
  decode v := (integer 0 0xFFFFFFFFFFFFFFFF "u64" v).map fun n => .ofNat n.toNat

/-- Integers of sixty-four bits. -/
def i64 : Codec Int64 where
  encode n := .int n.toInt
  decode v := (integer (-0x8000000000000000) 0x7FFFFFFFFFFFFFFF "i64" v).map Int64.ofInt

/-- Floats; an integer is read as the float nearest to it. -/
def f64 : Codec Double where
  encode := .float
  decode
    | .int n => .ok (.ofInt n)
    | .float x => .ok x
    | v => refuse v "f64"

/-- Truth values. -/
def bool : Codec Bool where
  encode := .bool
  decode
    | .bool b => .ok b
    | v => refuse v "a boolean"

/-- Texts. -/
def text : Codec String where
  encode := .str
  decode
    | .str s => .ok s
    | v => refuse v "a string"

/-- The one value that says nothing, written `null`. -/
def unit : Codec Unit where
  encode _ := .null
  decode
    | .null => .ok ()
    | v => refuse v "unit"

/-- JSON values themselves. -/
def json : Codec Json where
  encode := id
  decode := .ok

/-- A value or none; none is written `null`. -/
def option {α : Type} (c : Codec α) : Codec (Option α) where
  encode
    | some x => c.encode x
    | none => .null
  decode
    | .null => .ok none
    | v => (c.decode v).map some

/-- Reads items one after another up to the first refusal. -/
def decodeItems {α : Type} (decode : Json → Except DecodeError α) :
    List Json → Except DecodeError (List α)
  | [] => .ok []
  | v :: rest =>
    match decode v with
    | .error e => .error e
    | .ok x => (decodeItems decode rest).map (x :: ·)

/-- Lists. -/
def list {α : Type} (c : Codec α) : Codec (List α) where
  encode xs := .arr (xs.map c.encode)
  decode
    | .arr items => decodeItems c.decode items
    | v => refuse v "a sequence"

/-- Reads the values of entries one after another up to the first refusal. -/
def decodeEntries {α : Type} (decode : Json → Except DecodeError α) :
    List (String × Json) → Except DecodeError (List (String × α))
  | [] => .ok []
  | (k, v) :: rest =>
    match decode v with
    | .error e => .error e
    | .ok x => (decodeEntries decode rest).map ((k, x) :: ·)

/-- Tables, written as objects. -/
def table {α : Type} (c : Codec α) : Codec (Table α) where
  encode t := .obj (t.entries.map fun (k, x) => (k, c.encode x))
  decode
    | .obj entries => (decodeEntries c.decode entries).map Table.ofList
    | v => refuse v "a map"

/-- The refusal of an array that goes on after everything expected has been read. -/
def tooLong {α : Type} (length : Nat) : Except DecodeError α :=
  .error (.invalidLength length "fewer elements in array")

/-- Pairs, written as arrays of two. -/
def pair {α β : Type} (a : Codec α) (b : Codec β) : Codec (α × β) where
  encode p := .arr [a.encode p.1, b.encode p.2]
  decode
    | .arr [] => .error (.invalidLength 0 "a tuple of size 2")
    | .arr [x] => (a.decode x).bind fun _ => .error (.invalidLength 1 "a tuple of size 2")
    | .arr (x :: y :: more) =>
      (a.decode x).bind fun x => (b.decode y).bind fun y =>
        if more.isEmpty then .ok (x, y) else tooLong (more.length + 2)
    | v => refuse v "a tuple of size 2"

end Codec
end TestDouble
