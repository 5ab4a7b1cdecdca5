import TestDouble.Matcher
import TestDouble.Text.Search

/-!
# Ready-made predicates

Tests of one value for the use of matchers. Each is false for values of another kind than it is
about.
-/

namespace TestDouble.Predicate

/-- A test that gives the same answer for every value. -/
def always (answer : Bool) : Json → Verdict := fun _ => .ok answer

/-- A test that crashes. -/
def crash : Json → Verdict := fun _ => .error ⟨"predicate panicked"⟩

/-- The name of the kind of a value. -/
def kindName : Json → String
  | .null => "null"
  | .bool _ => "bool"
  | .int _ | .float _ => "number"
  | .str _ => "string"
  | .arr _ => "array"
  | .obj _ => "object"

/-- Values of a kind. -/
def isKind (kind : String) : Json → Verdict := fun v => .ok (kindName v == kind)

/-- Texts with a given beginning. -/
def startsWith (start : String) : Json → Verdict
  | .str s => .ok (Text.startsWith s start)
  | _ => .ok false

/-- Numbers above a bound. -/
def greater (bound : Double) : Json → Verdict := fun v =>
  .ok (v.toDouble?.any fun x => bound.less x)

/-- Values equal to a given one. -/
def equals (expected : Json) : Json → Verdict := fun v => .ok (v == expected)

/-- Objects that have a key. -/
def hasKey (key : String) : Json → Verdict := fun v => .ok (v.get? key).isSome

/-- The opposite answer. -/
def not (test : Json → Verdict) : Json → Verdict := fun v => (test v).map Bool.not

end TestDouble.Predicate
