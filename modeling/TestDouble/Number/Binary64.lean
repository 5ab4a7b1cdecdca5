import TestDouble.Json
import TestDouble.Number.Decimal

/-!
# All double-precision values

A binary64 value is finite, an infinity, or no number at all. JSON knows finite numbers only and has
`null` for all the others; in running text each of them has a name.
-/

namespace TestDouble

/-- A binary64 value. -/
inductive Binary64 where
  | finite (x : Double)
  | infinite (negative : Bool)
  | nan
  deriving DecidableEq

namespace Binary64

instance : Coe Double Binary64 := ⟨finite⟩

/-- The value as JSON. -/
def encode : Binary64 → Json
  | finite x => .float x
  | infinite _ | nan => .null

/-- The value in running text. -/
def text : Binary64 → String
  | finite x => x.write .plain
  | infinite true => "-inf"
  | infinite false => "inf"
  | nan => "NaN"

end Binary64
end TestDouble
