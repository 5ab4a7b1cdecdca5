import TestDouble.Config.Content
import TestDouble.Number.Numeral

/-!
# What plain words of YAML mean

A plain scalar is nothing, a truth value, an integer, a real number, or else a text. A real number
is kept as it is written. Some words that count as real numbers are no numbers that can be read.
-/

namespace TestDouble.Yaml

/-- What a scalar means. -/
inductive Word where
  | nothing
  | bool (b : Bool)
  | int (n : Int)
  /-- A real number, as it is written. -/
  | real (written : String)
  | text (s : String)
  deriving DecidableEq, Inhabited

namespace Word

/-- A letter of ASCII in lower case. -/
def asciiLower (c : Char) : Char := if c.isUpper then Char.ofNat (c.toNat + 32) else c

/-- The number that a written real number is, if it can be read: a decimal float, or a word for an
infinity or for no number in whatever case. -/
def number? (written : List Char) : Option Scalar :=
  let (negative, rest) := Numeral.sign written
  let infinite := .notFinite (if negative then "-inf" else "inf")
  let word := String.ofList (rest.map asciiLower)
  if word = "inf" || word = "infinity" then some infinite
  else if word = "nan" then some (.notFinite "NaN")
  else (Numeral.float? written).map fun x => (x.map .float).getD infinite

/-- The words that mean an infinity or no number by the rules of the notation. -/
def realWords : List String :=
  [".inf", ".Inf", ".INF", "+.inf", "+.Inf", "+.INF", "-.inf", "-.Inf", "-.INF", ".nan", "NaN",
    ".NAN"]

/-- Whether a written scalar is a real number. -/
def isReal (written : String) : Bool :=
  realWords.contains written || (number? written.toList).isSome

/-- An integer with a mark of its base or with a plus in front of it. -/
def marked? : List Char → Option Int
  | '0' :: 'x' :: digits => Numeral.integer? 16 digits
  | '0' :: 'o' :: digits => Numeral.integer? 8 digits
  | '+' :: digits => Numeral.integer? 10 digits
  | _ => none

/-- What a plain scalar means. -/
def ofPlain (written : String) : Word :=
  let cs := written.toList
  if ["", "~", "null"].contains written then nothing
  else if written = "true" then bool true
  else if written = "false" then bool false
  else
    match (marked? cs).or (Numeral.integer? 10 cs) with
    | some n => int n
    | none => if isReal written then real written else text written

/-- The kinds of scalar that a tag may name. -/
def tagHome : String := "tag:yaml.org,2002:"

/-- What a plain scalar with a tag means. One that is not of the kind that its tag names means
nothing. -/
def ofTagged (handle suffix written : String) : Word :=
  if handle != tagHome then text written
  else
    match suffix with
    | "bool" =>
      if written = "true" then bool true else if written = "false" then bool false else nothing
    | "int" => ((Numeral.integer? 10 written.toList).map int).getD nothing
    | "float" => if isReal written then real written else nothing
    | "null" => nothing
    | _ => text written

/-- The value that a word is, if it can be read. -/
def scalar? : Word → Option Scalar
  | nothing => some .null
  | bool b => some (.bool b)
  | int n => some (.int n)
  | real written => number? written.toList
  | text s => some (.text s)

end Word
end TestDouble.Yaml
