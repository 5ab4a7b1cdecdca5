import TestDouble.Config.Content
import TestDouble.Number.Numeral

/-!
# Words of TOML

The values that are written without quotes and brackets, other than dates and times: truth values,
integers and floats. Underscores may stand between the digits of a number, and only there. A
decimal number does not begin with a needless zero, and a float has digits on both sides of its
point. A float too large to be finite is refused unless it is below zero.
-/

namespace TestDouble.Toml

/-- Digits without the underscores between them; there is at least one digit. -/
def digits? (isDigit : Char → Bool) : List Char → Option (List Char)
  | [] => none
  | [c] => if isDigit c then some [c] else none
  | c :: '_' :: rest => if isDigit c then (digits? isDigit rest).map (c :: ·) else none
  | c :: rest => if isDigit c then (digits? isDigit rest).map (c :: ·) else none

/-- Decimal digits that do not begin with a needless zero. -/
def whole? (cs : List Char) : Option (List Char) := do
  let digits ← digits? Char.isDigit cs
  match digits with
  | '0' :: _ :: _ => none
  | digits => return digits

/-- Whether a character is a digit of hexadecimal numbers. -/
def isHexDigit (c : Char) : Bool := (Json.Parser.hexDigit? c).isSome

/-- An integer of sixty-four bits; one in another base than ten has no sign. -/
def integer? (cs : List Char) : Option Int :=
  let based := fun base digits => do
    Numeral.integer? base (← digits? isHexDigit digits)
  match cs with
  | '0' :: 'x' :: digits => based 16 digits
  | '0' :: 'o' :: digits => based 8 digits
  | '0' :: 'b' :: digits => based 2 digits
  | cs => do
    let (negative, digits) := Numeral.sign cs
    let n ← Numeral.natural? 10 (← whole? digits)
    Numeral.int64? (if negative then -(n : Int) else n)

/-- Whether a character is a digit or an underscore. -/
def isDigitOrGap (c : Char) : Bool := c.isDigit || c = '_'

/-- The fraction after a number, if there is one, and the rest. -/
def fraction? : List Char → Option (List Char × List Char)
  | '.' :: rest =>
    (digits? Char.isDigit (rest.takeWhile isDigitOrGap)).map fun digits =>
      ('.' :: digits, rest.dropWhile isDigitOrGap)
  | rest => some ([], rest)

/-- The exponent of a number, which is all that is left, if there is one. -/
def exponent? : List Char → Option (List Char)
  | [] => some []
  | c :: rest =>
    if c = 'e' || c = 'E' then do
      let (negative, digits) := Numeral.sign rest
      let digits ← digits? Char.isDigit digits
      return (if negative then ['e', '-'] else ['e']) ++ digits
    else none

/-- A float with a fraction, an exponent or both. -/
def float? (cs : List Char) : Option Scalar := do
  let (negative, cs) := Numeral.sign cs
  let whole ← whole? (cs.takeWhile isDigitOrGap)
  let (fraction, rest) ← fraction? (cs.dropWhile isDigitOrGap)
  let exponent ← exponent? rest
  if fraction.isEmpty && exponent.isEmpty then none
  else
    let x ← Numeral.float? (whole ++ fraction ++ exponent)
    match x, negative with
    | some x, _ => return .float (if negative then x.neg else x)
    | none, true => return .notFinite "-inf"
    | none, false => none

/-- A float that is infinite or no number. -/
def notFinite? (cs : List Char) : Option Scalar :=
  let (negative, word) := Numeral.sign cs
  if word = "inf".toList then some (.notFinite (if negative then "-inf" else "inf"))
  else if word = "nan".toList then some (.notFinite "NaN")
  else none

/-- A word that is a truth value or a number. -/
def word? (cs : List Char) : Option Scalar :=
  if cs = "true".toList then some (.bool true)
  else if cs = "false".toList then some (.bool false)
  else (((integer? cs).map .int).or (float? cs)).or (notFinite? cs)

/-- An integer that is read fits into sixty-four bits. -/
theorem bounds_of_integer? {cs : List Char} {n : Int} (h : integer? cs = some n) :
    -0x8000000000000000 ≤ n ∧ n ≤ 0x7FFFFFFFFFFFFFFF := by
  have based : ∀ {base : Nat} {digits : List Char},
      Numeral.integer? base digits = some n →
        -0x8000000000000000 ≤ n ∧ n ≤ 0x7FFFFFFFFFFFFFFF := by
    intro base digits h
    simp only [Numeral.integer?, Option.bind_eq_bind, Option.bind_eq_some_iff] at h
    obtain ⟨_, _, h⟩ := h
    exact Numeral.bounds_of_int64? h
  unfold integer? at h
  split at h
  all_goals
    simp only [Option.bind_eq_bind, Option.bind_eq_some_iff] at h
    first
      | (obtain ⟨_, _, h⟩ := h; exact based h)
      | (obtain ⟨_, _, _, _, h⟩ := h; exact Numeral.bounds_of_int64? h)

end TestDouble.Toml
