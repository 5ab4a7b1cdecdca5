import TestDouble.Codec

/-!
# Choices written by name

A value of a finite type is written as its name. It is read from a text that is one of its names,
or from an object whose only key is one, with `null` for value.
-/

namespace TestDouble.Codec

/-- Finds a name among those of a type. -/
def variant {α : Type} (names : List (String × α)) (name : String) : Except DecodeError α :=
  match names.lookup name with
  | some x => .ok x
  | none => .error (.unknownVariant name (names.map (·.1)))

/-- Reads a choice. -/
def decodeNamed {α : Type} (names : List (String × α)) : Json → Except DecodeError α
  | .str s => variant names s
  | .obj [(name, v)] =>
    match variant names name with
    | .error e => .error e
    | .ok x => if v matches .null then .ok x else refuse v "unit"
  | .obj _ => .error (.invalidValue "map" "map with a single key")
  | v => refuse v "string or map"

/-- Choices written by name. -/
def named {α : Type} (text : α → String) (names : List (String × α)) : Codec α where
  encode x := .str (text x)
  decode := decodeNamed names

end TestDouble.Codec
