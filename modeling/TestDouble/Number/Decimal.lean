import TestDouble.Number.Double

/-!
# The shortest decimal of a double

`Double.shortest` gives the decimal with the fewest digits that rounds back to the value, and of
those with equally few digits the one nearest to the value. Where two are equally near, a `Tie` says
which one it is. All arithmetic is exact.

A finite value lies between the midpoints to its two neighbours, and every real strictly between
them rounds to it; the midpoints do as well when the last bit of the value is zero, since a half
goes to the even neighbour. A grid of decimals with `n` digits meets that interval only if one of
the two grid points beside the value lies in it, so these two are all that is tested for each `n`.
Seventeen digits always suffice.

How the digits are laid out is a separate matter: `Layout` says which numbers are written
without an exponent, whether a whole number shows a decimal point, and where ties go.
-/

namespace TestDouble

/-- The number `0.d₁d₂… * 10 ^ point`, where `d₁d₂…` are the digits. -/
structure Decimal where
  digits : List Char
  point : Int

/-- Which of two neighbouring decimals stands for a value halfway between them. -/
inductive Tie where
  /-- The one whose last digit is even. -/
  | toEven
  /-- The greater one. -/
  | up
  deriving DecidableEq

/-- Whether a value halfway above a number is taken to the next one. -/
def Tie.goesUp (tie : Tie) (n : Nat) : Bool :=
  match tie with
  | toEven => n % 2 == 1
  | up => true

namespace Double

/-- The absolute value and its two midpoints, all as multiples of a quarter of the least positive
value: below, value, above. -/
def interval (x : Double) : Nat × Nat × Nat :=
  let value := 4 * x.scaled
  let step := Nat.pow 2 (x.magnitude / binade - 1)
  let below := if x.magnitude % binade = 0 ∧ 2 * binade ≤ x.magnitude then step else 2 * step
  (value - below, value, value + 2 * step)

/-- The decimal point of `num / den`: the least `p ≥ 1` with `num / den < 10 ^ p` for a quotient
of at least one. -/
def pointAbove (whole : Nat) : Int := (Nat.toDigits 10 whole).length

/-- The decimal point of a quotient below one: minus the number of zeros after the point, at most
`fuel` of which are counted. -/
def pointBelow : (fuel num den : Nat) → Int
  | 0, _, _ => 0
  | fuel + 1, num, den => if den ≤ 10 * num then 0 else pointBelow fuel (10 * num) den - 1

/-- The digits of a number without the zeros at its end. -/
def trimmedDigits (n : Nat) : List Char :=
  ((Nat.toDigits 10 n).reverse.dropWhile (· == '0')).reverse

/-- Tests the grids of `17 - fuel`, `18 - fuel`, … digits in turn. The value is
`value / den * 10 ^ point` with `value / den` in `[1/10, 1)`, and `below` and `above` are its
midpoints over the same denominator. -/
def firstGrid (tie : Tie) (closed : Bool) (below value above den : Nat) (point : Int) :
    (fuel : Nat) → Decimal
  | 0 => ⟨trimmedDigits (roundedQuotient (value * Nat.pow 10 17) den), point⟩
  | fuel + 1 =>
    let scale := Nat.pow 10 (17 - fuel)
    let low := value * scale / den
    let inside := fun digits =>
      let d := digits * den
      if closed then below * scale ≤ d ∧ d ≤ above * scale
      else below * scale < d ∧ d < above * scale
    let lowFits := decide (inside low)
    let highFits := decide (inside (low + 1))
    if lowFits || highFits then
      let twice := 2 * (value * scale - low * den)
      let nearHigh := den < twice || twice == den && tie.goesUp low
      let chosen := if highFits && (nearHigh || !lowFits) then low + 1 else low
      if chosen = scale then ⟨['1'], point + 1⟩ else ⟨trimmedDigits chosen, point⟩
    else firstGrid tie closed below value above den point fuel

/-- The shortest decimal that rounds back to the absolute value of a double. -/
def shortest (tie : Tie) (x : Double) : Decimal :=
  if x.magnitude = 0 then ⟨['0'], 1⟩
  else
    let (below, value, above) := x.interval
    let den := Nat.pow 2 1076
    let point := if den ≤ value then pointAbove (value / den) else pointBelow 400 value den
    let closed := x.magnitude % 2 = 0
    if 0 ≤ point then firstGrid tie closed below value above (den * Nat.pow 10 point.natAbs) point 17
    else
      let up := Nat.pow 10 point.natAbs
      firstGrid tie closed (below * up) (value * up) (above * up) den point 17

end Double

/-- How a decimal is laid out as text. -/
structure Layout where
  /-- Whether a number with this decimal point is written without an exponent. -/
  positional : Int → Bool
  /-- Whether a whole number without an exponent ends in `.0`. -/
  pointed : Bool
  /-- Where ties go. -/
  tie : Tie

/-- Digits with a decimal point set among them, or zeros put before or after them. -/
def Decimal.positional (d : Decimal) (pointed : Bool) : List Char :=
  if d.point ≤ 0 then '0' :: '.' :: (List.replicate d.point.natAbs '0' ++ d.digits)
  else
    let whole := d.digits.take d.point.natAbs
    let zeros := List.replicate (d.point.natAbs - whole.length) '0'
    match d.digits.drop d.point.natAbs with
    | [] => whole ++ zeros ++ if pointed then ['.', '0'] else []
    | fraction => whole ++ '.' :: fraction

/-- One digit, a point if more follow, the others, and the exponent. -/
def Decimal.scientific (d : Decimal) : List Char :=
  let mantissa :=
    match d.digits with
    | [] => ['0']
    | [digit] => [digit]
    | digit :: rest => digit :: '.' :: rest
  mantissa ++ 'e' :: (toString (d.point - 1)).toList

/-- The text of a double in a layout: its shortest decimal, with its sign. -/
def Double.write (layout : Layout) (x : Double) : String :=
  let d := x.shortest layout.tie
  let text := if layout.positional d.point then d.positional layout.pointed else d.scientific
  String.ofList (if x.negative then '-' :: text else text)

/-- The layout of numbers in JSON: `100000.0`, `0.00001`, `1e16`, `1e-6`. -/
def Layout.json : Layout := ⟨fun p => -5 < p && p ≤ 16, true, .toEven⟩

/-- The layout of numbers in running text: never an exponent, and a whole number has no point. -/
def Layout.plain : Layout := ⟨fun _ => true, false, .up⟩

/-- The layout of numbers among the fields of an event: `1.0`, `0.0001`, `1e16`, `1e-5`. -/
def Layout.field : Layout := ⟨fun p => -4 < p && p ≤ 16, true, .up⟩

end TestDouble
