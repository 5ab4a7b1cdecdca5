/-!
# Finite double-precision numbers

A finite binary64 value is a sign and a *magnitude*: the eleven exponent bits followed by the
fifty-two fraction bits, read as one natural number. Magnitudes grow with the absolute values
they stand for, so comparing two values is comparing two integers (`Double.order`), and the two
zeros, which differ in the sign alone, compare equal.
-/

namespace TestDouble

/-- The least magnitude that is no finite value: all exponent bits are set. -/
def Double.limit : Nat := 0x7FF0000000000000

/-- The least magnitude of a normal value, and how far the magnitudes of an exponent reach. -/
def Double.binade : Nat := 0x10000000000000

/-- A finite binary64 value. -/
structure Double where
  /-- Whether the sign bit is set; both zeros exist. -/
  negative : Bool
  /-- The exponent and fraction bits. -/
  magnitude : Nat
  /-- All exponent bits set would mean an infinity or no number. -/
  magnitude_lt : magnitude < Double.limit
  deriving DecidableEq

namespace Double

/-- The zero without a sign. -/
def zero : Double := ⟨false, 0, by decide⟩

instance : Inhabited Double := ⟨zero⟩

/-- The same value with the sign turned. -/
def neg (x : Double) : Double := { x with negative := !x.negative }

/-- Where a value stands among all values; both zeros stand at the same place. -/
def order (x : Double) : Int := if x.negative then -(x.magnitude : Int) else x.magnitude

/-- Equality of values: the two zeros are equal. -/
def same (x y : Double) : Bool := x.order == y.order

/-- Whether one value is less than another. -/
def less (x y : Double) : Bool := x.order < y.order

@[simp] theorem same_self (x : Double) : x.same x = true := by simp [same]

theorem same_comm (x y : Double) : x.same y = y.same x := by
  simp only [same]; exact BEq.comm

theorem same_trans {x y z : Double} (h : x.same y = true) (h' : y.same z = true) :
    x.same z = true := by
  simp_all [same]

/-- The absolute value as a multiple of the least positive value. -/
def scaled (x : Double) : Nat :=
  if x.magnitude < binade then x.magnitude
  else (binade + x.magnitude % binade) * Nat.pow 2 (x.magnitude / binade - 1)

/-- The quotient rounded to the nearest natural number, a half going to the even one. -/
def roundedQuotient (num den : Nat) : Nat :=
  let whole := num / den
  let twice := 2 * (num % den)
  if twice < den then whole
  else if den < twice then whole + 1
  else if whole % 2 = 0 then whole else whole + 1

/-- The value nearest to the quotient of two natural numbers, with the sign given; `none` if the
quotient is too large for a finite value. -/
def ofQuotient (negative : Bool) (num den : Nat) : Option Double :=
  let scaledNum := num * Nat.pow 2 1074
  let whole := scaledNum / den
  let magnitude :=
    if whole < 2 * binade then roundedQuotient scaledNum den
    else
      let shift := Nat.log2 whole - 52
      shift * binade + roundedQuotient scaledNum (den * Nat.pow 2 shift)
  if h : magnitude < limit then some ⟨negative, magnitude, h⟩ else none

/-- The value nearest to `digits * 10 ^ exponent`; `none` if it is too large. -/
def ofDecimal (negative : Bool) (digits : Nat) (exponent : Int) : Option Double :=
  let length := (Nat.toDigits 10 digits).length
  if digits = 0 || exponent + length < -330 then some ⟨negative, 0, by decide⟩
  else if exponent + length > 330 then none
  else if exponent < 0 then ofQuotient negative digits (Nat.pow 10 exponent.natAbs)
  else ofQuotient negative (digits * Nat.pow 10 exponent.natAbs) 1

/-- The value nearest to an integer, as far as integers of sixty-four bits go. -/
def ofInt (n : Int) : Double := (ofQuotient (n < 0) n.natAbs 1).getD zero

end Double
end TestDouble
