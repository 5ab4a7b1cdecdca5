import TestDouble.Json

/-!
# What configuration files say

Every kind of configuration file says the same sort of thing: plain values, lists of them and
tables, which give them names.
-/

namespace TestDouble

/-- A plain value. -/
inductive Scalar where
  | null
  | bool (b : Bool)
  /-- An integer of sixty-four bits with a sign. -/
  | int (n : Int)
  | float (x : Double)
  /-- A float that is infinite or no number, as its text. -/
  | notFinite (text : String)
  | text (s : String)
  deriving DecidableEq

/-- What a file says, or a part of one. -/
inductive Content where
  | scalar (v : Scalar)
  | list (items : List Content)
  /-- The names are those of the file, in its order. -/
  | table (entries : List (String × Content))
  deriving Inhabited

namespace Content

/-- Nothing. -/
def null : Content := .scalar .null

/-- A text. -/
def text (s : String) : Content := .scalar (.text s)

mutual

/-- What a JSON value says. An integer beyond sixty-four bits with a sign is taken as a float. -/
def ofJson : Json → Content
  | .null => null
  | .bool b => .scalar (.bool b)
  | .int n => .scalar (if n ≤ 0x7FFFFFFFFFFFFFFF then .int n else .float (.ofInt n))
  | .float x => .scalar (.float x)
  | .str s => text s
  | .arr vs => .list (ofItems vs)
  | .obj es => .table (ofEntries es)

/-- What the items of an array say. -/
def ofItems : List Json → List Content
  | [] => []
  | v :: rest => ofJson v :: ofItems rest

/-- What the entries of an object say. -/
def ofEntries : List (String × Json) → List (String × Content)
  | [] => []
  | (name, v) :: rest => (name, ofJson v) :: ofEntries rest

end

end Content
end TestDouble
