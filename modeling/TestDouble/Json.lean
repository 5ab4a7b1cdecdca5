import TestDouble.Number.Double
import TestDouble.Table

/-!
# JSON values

The values that calls carry as arguments and get as answers. Integers and floats are different
kinds of number and never equal to each other; integers are equal when they are the same number,
floats when they are the same value, so `0.0` equals `-0.0`. The entries of an object are kept in
increasing order of their keys, so objects compare without regard to the order they were written.
-/

namespace TestDouble

/-- A JSON value. -/
inductive Json where
  | null
  | bool (b : Bool)
  /-- An integer; those that texts can give lie between `-2^63` and `2^64 - 1`. -/
  | int (n : Int)
  | float (x : Double)
  | str (s : String)
  | arr (items : List Json)
  /-- The entries are in strictly increasing order of their keys. -/
  | obj (entries : List (String × Json))
  deriving Inhabited

namespace Json

mutual

/-- Equality of JSON values. -/
def same : Json → Json → Bool
  | .null, .null => true
  | .bool a, .bool b => a == b
  | .int a, .int b => a == b
  | .float a, .float b => a.same b
  | .str a, .str b => a == b
  | .arr a, .arr b => sameItems a b
  | .obj a, .obj b => sameEntries a b
  | _, _ => false

/-- Equality of lists of JSON values, item by item. -/
def sameItems : List Json → List Json → Bool
  | [], [] => true
  | a :: as, b :: bs => a.same b && sameItems as bs
  | _, _ => false

/-- Equality of the entries of two objects. -/
def sameEntries : List (String × Json) → List (String × Json) → Bool
  | [], [] => true
  | (k, a) :: as, (l, b) :: bs => k == l && a.same b && sameEntries as bs
  | _, _ => false

end

instance : BEq Json := ⟨same⟩

/-- The object with the given entries, a later one replacing an earlier one of the same key. -/
def object (entries : List (String × Json)) : Json := .obj (Entries.ofList entries)

/-- A list of texts. -/
def texts (items : List String) : Json := .arr (items.map .str)

/-- A natural number. -/
def nat (n : Nat) : Json := .int n

/-- The value, or `null` if there is none. -/
def optional : Option Json → Json := fun v => v.getD .null

/-- A text, or `null` if there is none. -/
def optionalText (s : Option String) : Json := optional (s.map .str)

/-- The integer, if it fits into sixty-four bits with or without a sign, else the nearest float. -/
def ofInteger (n : Int) : Option Json :=
  if -0x8000000000000000 ≤ n ∧ n ≤ 0xFFFFFFFFFFFFFFFF then some (.int n)
  else (Double.ofQuotient (n < 0) n.natAbs 1).map .float

/-- The value of a key, if this is an object that has it. -/
def get? (key : String) : Json → Option Json
  | .obj entries => entries.lookup key
  | _ => none

/-- The value of a number as a double. -/
def toDouble? : Json → Option Double
  | .int n => some (.ofInt n)
  | .float x => some x
  | _ => none

mutual

/-- A value is equal to itself. -/
theorem same_self : (v : Json) → v.same v = true
  | .null => rfl
  | .bool _ => by simp [same]
  | .int _ => by simp [same]
  | .float _ => by simp [same]
  | .str _ => by simp [same]
  | .arr items => by simp [same, sameItems_self items]
  | .obj entries => by simp [same, sameEntries_self entries]

/-- A list of values is equal to itself. -/
theorem sameItems_self : (vs : List Json) → sameItems vs vs = true
  | [] => rfl
  | v :: vs => by simp [sameItems, same_self v, sameItems_self vs]

/-- Entries are equal to themselves. -/
theorem sameEntries_self : (es : List (String × Json)) → sameEntries es es = true
  | [] => rfl
  | (_, v) :: es => by simp [sameEntries, same_self v, sameEntries_self es]

end

@[simp] theorem beq_self (v : Json) : (v == v) = true := same_self v

end Json
end TestDouble
