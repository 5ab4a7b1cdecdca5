import TestDouble.Json
import TestDouble.Number.Decimal
import TestDouble.Text.Quoted

/-!
# Writing JSON values

`Json.text` is the compact text of a value, without any blank. `Json.shown` is the other text of a
value, for people: it names the kind of every part.
-/

namespace TestDouble.Json

mutual

/-- The compact text of a value. -/
def text : Json → String
  | .null => "null"
  | .bool b => if b then "true" else "false"
  | .int n => toString n
  | .float x => x.write .json
  | .str s => Text.jsonQuoted s
  | .arr items => "[" ++ textItems items ++ "]"
  | .obj entries => "\x7b" ++ textEntries entries ++ "\x7d"

/-- The items of an array, separated by commas. -/
def textItems : List Json → String
  | [] => ""
  | [v] => v.text
  | v :: rest => v.text ++ "," ++ textItems rest

/-- The entries of an object, separated by commas. -/
def textEntries : List (String × Json) → String
  | [] => ""
  | [(k, v)] => Text.jsonQuoted k ++ ":" ++ v.text
  | (k, v) :: rest => Text.jsonQuoted k ++ ":" ++ v.text ++ "," ++ textEntries rest

end

instance : ToString Json := ⟨text⟩

mutual

/-- The text of a value with the kinds of its parts. -/
def shown : Json → String
  | .null => "Null"
  | .bool b => if b then "Bool(true)" else "Bool(false)"
  | .int n => "Number(" ++ toString n ++ ")"
  | .float x => "Number(" ++ x.write .json ++ ")"
  | .str s => "String(" ++ Text.quoted s ++ ")"
  | .arr items => "Array [" ++ shownItems items ++ "]"
  | .obj entries => "Object \x7b" ++ shownEntries entries ++ "\x7d"

/-- The items of an array with their kinds, separated by a comma and a space. -/
def shownItems : List Json → String
  | [] => ""
  | [v] => v.shown
  | v :: rest => v.shown ++ ", " ++ shownItems rest

/-- The entries of an object with their kinds, separated by a comma and a space. -/
def shownEntries : List (String × Json) → String
  | [] => ""
  | [(k, v)] => Text.quoted k ++ ": " ++ v.shown
  | (k, v) :: rest => Text.quoted k ++ ": " ++ v.shown ++ ", " ++ shownEntries rest

end

/-- The arguments of a call as they stand in a message. -/
def argumentsText (arguments : List Json) : String := ", ".intercalate (arguments.map text)

end TestDouble.Json
