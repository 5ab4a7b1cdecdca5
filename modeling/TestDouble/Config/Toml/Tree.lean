import TestDouble.Config.Content

/-!
# Tables in the making

While a file is read, a table grows in several places: under its header, by keys with dots, and by
headers of tables inside it. How a table was made says where it may still grow. A table made by its
header or by keys with dots gets no other header, and one made by its header gets no entry by a key
with dots from outside.
-/

namespace TestDouble.Toml

/-- How a table was made. -/
inductive Making where
  /-- By the header of a table inside it. -/
  | implied
  /-- By a key with dots. -/
  | dotted
  /-- By a header of its own. -/
  | header
  deriving DecidableEq

/-- What is kept under a name while a file is read. -/
inductive Tree where
  /-- A finished value. -/
  | leaf (v : Content)
  | table (making : Making) (entries : List (String × Tree))
  /-- Tables with a common header, the last one first. -/
  | tables (items : List (List (String × Tree)))
  deriving Inhabited

namespace Tree

/-- Puts a tree under a name, in the place of the one that has the name. -/
def replace (name : String) (t : Tree) : List (String × Tree) → List (String × Tree)
  | [] => [(name, t)]
  | (n, u) :: rest => if n = name then (name, t) :: rest else (n, u) :: replace name t rest

/-- Changes the entries of the table that a path leads to, given how that table was made; tables
that are missing on the way are made. If `dotted`, the path is that of a key. -/
def change? (dotted : Bool)
    (f : Making → List (String × Tree) → Option (List (String × Tree))) (making : Making) :
    (path : List String) → List (String × Tree) → Option (List (String × Tree))
  | [], entries => f making entries
  | name :: path, entries => do
    let changed ← match entries.lookup name with
      | none =>
        let making := if dotted then .dotted else .implied
        (change? dotted f making path []).map (.table making)
      | some (.leaf _) => none
      | some (.table making es) =>
        if dotted && making = .header then none
        else (change? dotted f making path es).map (.table making)
      | some (.tables []) => none
      | some (.tables (es :: more)) =>
        (change? dotted f .header path es).map fun es => .tables (es :: more)
    return replace name changed entries

/-- Puts a value under the last name of a key. The name must be new, and a table that a key with
dots leads to must have been made by such keys. -/
def insert? (key : List String) (v : Content) (entries : List (String × Tree)) :
    Option (List (String × Tree)) :=
  let path := key.dropLast
  change? true
    (fun making es =>
      if !path.isEmpty && making != .dotted then none
      else do
        let name ← key.getLast?
        if (es.lookup name).isSome then none else some (es ++ [(name, .leaf v)]))
    .header path entries

/-- The entries of a table in braces. -/
def ofEntries? (entries : List (List String × Content)) : Option (List (String × Tree)) :=
  entries.foldlM (fun es (key, v) => insert? key v es) []

/-- Begins the table of a header. -/
def open? (header : List String) (entries : List (String × Tree)) :
    Option (List (String × Tree)) := do
  let name ← header.getLast?
  change? false
    (fun _ es =>
      match es.lookup name with
      | none => some (replace name (.table .header []) es)
      | some (.table .implied inner) => some (replace name (.table .header inner) es)
      | some _ => none)
    .header header.dropLast entries

/-- Begins one more of the tables of a common header. -/
def openNext? (header : List String) (entries : List (String × Tree)) :
    Option (List (String × Tree)) := do
  let name ← header.getLast?
  change? false
    (fun _ es =>
      match es.lookup name with
      | none => some (replace name (.tables [[]]) es)
      | some (.tables items) => some (replace name (.tables ([] :: items)) es)
      | some _ => none)
    .header header.dropLast entries

/-- Puts a value under a key in the table of a header. -/
def insertUnder? (header key : List String) (v : Content) (entries : List (String × Tree)) :
    Option (List (String × Tree)) :=
  change? false (fun _ es => insert? key v es) .header header entries

mutual

/-- What a finished tree says. -/
def content : Tree → Content
  | .leaf v => v
  | .table _ es => .table (contents es)
  | .tables items => .list (contentsOfAll items).reverse

/-- What the entries of a finished table say. -/
def contents : List (String × Tree) → List (String × Content)
  | [] => []
  | (name, t) :: rest => (name, content t) :: contents rest

/-- What finished tables say. -/
def contentsOfAll : List (List (String × Tree)) → List Content
  | [] => []
  | es :: rest => .table (contents es) :: contentsOfAll rest

end

end Tree
end TestDouble.Toml
