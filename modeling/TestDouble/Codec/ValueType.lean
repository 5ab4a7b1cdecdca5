import TestDouble.Codec.Fields

/-!
# The types a double can be asked for

`ValueType` names them, `ValueType.Carrier` says which values each has, and `ValueType.codec` how
these are written and read. Every one of them has a default value.
-/

namespace TestDouble

/-- A person known by a number and a name. -/
structure Person where
  id : UInt64
  name : String
  deriving DecidableEq, Inhabited

/-- People are written as objects. -/
def Person.codec : Codec Person where
  encode p := .obj [("id", Codec.u64.encode p.id), ("name", .str p.name)]
  decode v := do
    let found ← Fields.read "User" [.of .required "id" .u64, .of .required "name" .text] v
    return ⟨← Fields.get .u64 "id" found, ← Fields.get .text "name" found⟩

/-- The names of the types. -/
inductive ValueType where
  | u8
  | u64
  | i64
  | f64
  | bool
  | text
  | unit
  | optionalU64
  | texts
  | integers
  | textAndFloat
  | integerTable
  | person
  | optionalPerson
  | json
  deriving DecidableEq

namespace ValueType

/-- The values of a type. -/
abbrev Carrier : ValueType → Type
  | u8 => UInt8
  | u64 => UInt64
  | i64 => Int64
  | f64 => Double
  | bool => Bool
  | text => String
  | unit => Unit
  | optionalU64 => Option UInt64
  | texts => List String
  | integers => List Int64
  | textAndFloat => String × Double
  | integerTable => Table Int64
  | person => Person
  | optionalPerson => Option Person
  | json => Json

/-- How the values of a type are written and read. -/
def codec : (t : ValueType) → Codec t.Carrier
  | u8 => .u8
  | u64 => .u64
  | i64 => .i64
  | f64 => .f64
  | bool => .bool
  | text => .text
  | unit => .unit
  | optionalU64 => .option .u64
  | texts => .list .text
  | integers => .list .i64
  | textAndFloat => .pair .text .f64
  | integerTable => .table .i64
  | person => Person.codec
  | optionalPerson => .option Person.codec
  | json => .json

/-- The value of a type that stands for nothing given. -/
def default : (t : ValueType) → t.Carrier
  | u8 => 0
  | u64 => 0
  | i64 => 0
  | f64 => .zero
  | bool => false
  | text => ""
  | unit => ()
  | optionalU64 => none
  | texts => []
  | integers => []
  | textAndFloat => ("", .zero)
  | integerTable => .empty
  | person => ⟨0, ""⟩
  | optionalPerson => none
  | json => .null

end ValueType
end TestDouble
