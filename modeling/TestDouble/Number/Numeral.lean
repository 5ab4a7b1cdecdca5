import TestDouble.Json.Parser

/-!
# Numerals

What the written forms of numbers share: digits of a base, signs, the range of integers, floats in
decimal notation, and code points.
-/

namespace TestDouble.Numeral

/-- The number that digits of a base write, of which there is at least one. -/
def natural? (base : Nat) (digits : List Char) : Option Nat :=
  if digits.isEmpty then none
  else digits.foldl (fun n c => do
    let n ← n
    let d ← Json.Parser.hexDigit? c
    if d < base then some (base * n + d) else none) (some 0)

/-- An integer, if it fits into sixty-four bits with a sign. -/
def int64? (n : Int) : Option Int :=
  if -0x8000000000000000 ≤ n ∧ n ≤ 0x7FFFFFFFFFFFFFFF then some n else none

/-- Whether a minus stands at the beginning, and what follows the sign, if there is one. -/
def sign : List Char → Bool × List Char
  | '-' :: rest => (true, rest)
  | '+' :: rest => (false, rest)
  | rest => (false, rest)

/-- An integer of sixty-four bits, with or without a sign, in digits of a base. -/
def integer? (base : Nat) (cs : List Char) : Option Int := do
  let (negative, digits) := sign cs
  let n ← natural? base digits
  int64? (if negative then -(n : Int) else n)

/-- A float in decimal notation; it is none if it is too large to be finite. A point needs a digit
on one side only. -/
def float? (cs : List Char) : Option (Option Double) := do
  let (negative, cs) := sign cs
  let whole := cs.takeWhile Char.isDigit
  let (fraction, rest) :=
    match cs.dropWhile Char.isDigit with
    | '.' :: rest => (rest.takeWhile Char.isDigit, rest.dropWhile Char.isDigit)
    | rest => ([], rest)
  let (exponent, _, rest) ← Json.Parser.exponent? rest
  if whole.isEmpty && fraction.isEmpty || !rest.isEmpty then none
  else
    let n := Json.Parser.natOfDigits (whole ++ fraction)
    return Double.ofDecimal negative n (exponent - fraction.length)

/-- The character whose code point a count of hexadecimal digits writes, and the rest. -/
def codePoint? (count : Nat) (cs : List Char) : Option (Char × List Char) := do
  let values ← (cs.take count).mapM Json.Parser.hexDigit?
  if values.length < count then none
  else
    let code := values.foldl (fun n d => 16 * n + d) 0
    if h : code.isValidChar then some (Char.ofNatAux code h, cs.drop count) else none

/-- An integer that fits is within its bounds. -/
theorem bounds_of_int64? {n m : Int} (h : int64? n = some m) :
    -0x8000000000000000 ≤ m ∧ m ≤ 0x7FFFFFFFFFFFFFFF := by
  unfold int64? at h
  split at h
  · next hn => cases h; exact hn
  · simp at h

end TestDouble.Numeral
