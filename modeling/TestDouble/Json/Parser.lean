import TestDouble.Json

/-!
# Reading JSON texts

`Json.parse?` reads a whole text and refuses everything that is not JSON. Of two entries of an
object with one key the later one wins. A number without fraction and exponent is an integer if
it fits into sixty-four bits; every other number, and `-0`, is the nearest double; a number too
large for a double is refused.

Each reader takes the characters that are left and gives back those it did not need.
-/

namespace TestDouble.Json

namespace Parser

/-- The characters after the blanks that JSON allows between its parts. -/
def skipBlanks : List Char → List Char := List.dropWhile fun c =>
  c = ' ' || c = '\t' || c = '\n' || c = '\r'

/-- The number that decimal digits write. -/
def natOfDigits (digits : List Char) : Nat :=
  digits.foldl (fun n c => 10 * n + (c.toNat - '0'.toNat)) 0

/-- The value of a hexadecimal digit. -/
def hexDigit? (c : Char) : Option Nat :=
  if c.isDigit then some (c.toNat - '0'.toNat)
  else if 'a' ≤ c ∧ c ≤ 'f' then some (c.toNat - 'a'.toNat + 10)
  else if 'A' ≤ c ∧ c ≤ 'F' then some (c.toNat - 'A'.toNat + 10)
  else none

/-- Four hexadecimal digits and the rest. -/
def unit? : List Char → Option (Nat × List Char)
  | a :: b :: c :: d :: rest => do
    let a ← hexDigit? a
    let b ← hexDigit? b
    let c ← hexDigit? c
    let d ← hexDigit? d
    return (((a * 16 + b) * 16 + c) * 16 + d, rest)
  | _ => none

/-- The character of an escape after `\u`; two escapes of a surrogate pair make one. -/
def escaped? (rest : List Char) : Option (Char × List Char) := do
  let (high, rest) ← unit? rest
  if 0xD800 ≤ high ∧ high < 0xDC00 then
    match rest with
    | '\\' :: 'u' :: rest =>
      let (low, rest) ← unit? rest
      if 0xDC00 ≤ low ∧ low < 0xE000 then
        return (Char.ofNat (0x10000 + (high - 0xD800) * 0x400 + (low - 0xDC00)), rest)
      else none
    | _ => none
  else if 0xDC00 ≤ high ∧ high < 0xE000 then none
  else return (Char.ofNat high, rest)

/-- The characters of a string up to its closing quote; `fuel` bounds their number. -/
def string? : (fuel : Nat) → (done : List Char) → List Char → Option (String × List Char)
  | 0, _, _ => none
  | fuel + 1, done, rest =>
    match rest with
    | [] => none
    | '"' :: rest => some (String.ofList done.reverse, rest)
    | '\\' :: c :: rest =>
      match c with
      | '"' => string? fuel ('"' :: done) rest
      | '\\' => string? fuel ('\\' :: done) rest
      | '/' => string? fuel ('/' :: done) rest
      | 'b' => string? fuel (Char.ofNat 0x08 :: done) rest
      | 'f' => string? fuel (Char.ofNat 0x0C :: done) rest
      | 'n' => string? fuel ('\n' :: done) rest
      | 'r' => string? fuel ('\r' :: done) rest
      | 't' => string? fuel ('\t' :: done) rest
      | 'u' => match escaped? rest with
        | some (c, rest) => string? fuel (c :: done) rest
        | none => none
      | _ => none
    | c :: rest => if c.toNat < 0x20 then none else string? fuel (c :: done) rest

/-- The digits at the beginning, at least one, and the rest. -/
def digits? (rest : List Char) : Option (List Char × List Char) :=
  match rest.takeWhile Char.isDigit with
  | [] => none
  | digits => some (digits, rest.dropWhile Char.isDigit)

/-- The exponent of a number, zero if none is written, whether one is written, and the rest. -/
def exponent? : List Char → Option (Int × Bool × List Char)
  | c :: rest =>
    if c = 'e' ∨ c = 'E' then
      match rest with
      | '-' :: rest => (digits? rest).map fun (ds, rest) => (-(natOfDigits ds : Int), true, rest)
      | '+' :: rest => (digits? rest).map fun (ds, rest) => ((natOfDigits ds : Int), true, rest)
      | rest => (digits? rest).map fun (ds, rest) => ((natOfDigits ds : Int), true, rest)
    else some (0, false, c :: rest)
  | [] => some (0, false, [])

/-- A number whose sign has been read. -/
def unsigned? (negative : Bool) (rest : List Char) : Option (Json × List Char) := do
  let (whole, rest) ← digits? rest
  if whole.length > 1 ∧ whole.head? = some '0' then none
  else
    let (fraction, rest) ←
      match rest with
      | '.' :: rest => digits? rest
      | rest => some ([], rest)
    let (exponent, scientific, rest) ← exponent? rest
    let n := natOfDigits (whole ++ fraction)
    let value ←
      if fraction.isEmpty ∧ ¬scientific ∧ ¬(negative ∧ n = 0) then
        ofInteger (if negative then -(n : Int) else n)
      else (Double.ofDecimal negative n (exponent - fraction.length)).map .float
    return (value, rest)

/-- A number. -/
def number? : List Char → Option (Json × List Char)
  | '-' :: rest => unsigned? true rest
  | rest => unsigned? false rest

mutual

/-- A value, after blanks. `levels` is the number of arrays and objects that may be open at once. -/
def value? : (fuel levels : Nat) → List Char → Option (Json × List Char)
  | 0, _, _ => none
  | fuel + 1, levels, rest =>
    match skipBlanks rest, levels with
    | 'n' :: 'u' :: 'l' :: 'l' :: rest, _ => some (.null, rest)
    | 't' :: 'r' :: 'u' :: 'e' :: rest, _ => some (.bool true, rest)
    | 'f' :: 'a' :: 'l' :: 's' :: 'e' :: rest, _ => some (.bool false, rest)
    | '"' :: rest, _ => (string? (rest.length + 1) [] rest).map fun (s, rest) => (.str s, rest)
    | '[' :: rest, levels + 1 =>
      match skipBlanks rest with
      | ']' :: rest => some (.arr [], rest)
      | rest => (items? fuel levels rest).map fun (items, rest) => (.arr items, rest)
    | '\x7b' :: rest, levels + 1 =>
      match skipBlanks rest with
      | '\x7d' :: rest => some (.obj [], rest)
      | rest => (entries? fuel levels rest).map fun (entries, rest) => (object entries, rest)
    | rest, _ => number? rest

/-- The items of an array, at least one, up to its closing bracket. -/
def items? : (fuel levels : Nat) → List Char → Option (List Json × List Char)
  | 0, _, _ => none
  | fuel + 1, levels, rest => do
    let (v, rest) ← value? fuel levels rest
    match skipBlanks rest with
    | ',' :: rest =>
      let (vs, rest) ← items? fuel levels rest
      return (v :: vs, rest)
    | ']' :: rest => return ([v], rest)
    | _ => none

/-- The entries of an object, at least one, up to its closing brace. -/
def entries? : (fuel levels : Nat) → List Char → Option (List (String × Json) × List Char)
  | 0, _, _ => none
  | fuel + 1, levels, rest =>
    match skipBlanks rest with
    | '"' :: rest => do
      let (k, rest) ← string? (rest.length + 1) [] rest
      match skipBlanks rest with
      | ':' :: rest =>
        let (v, rest) ← value? fuel levels rest
        match skipBlanks rest with
        | ',' :: rest =>
          let (es, rest) ← entries? fuel levels rest
          return ((k, v) :: es, rest)
        | '\x7d' :: rest => return ([(k, v)], rest)
        | _ => none
      | _ => none
    | _ => none

end

end Parser

/-- Reads a whole text in which at most `levels` arrays and objects are open at once. -/
def parseWithin? (levels : Nat) (text : String) : Option Json := do
  let chars := text.toList
  let (v, rest) ← Parser.value? (2 * chars.length + 2) levels chars
  if (Parser.skipBlanks rest).isEmpty then some v else none

/-- Reads a whole text. Every level of nesting takes at least one character of it. -/
def parse? (text : String) : Option Json := parseWithin? text.length text

end TestDouble.Json
