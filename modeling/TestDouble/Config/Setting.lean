import TestDouble.Config.Content
import TestDouble.Config.Path
import TestDouble.Text.Lower

/-!
# Settings

What configuration files and the environment say, before it is known what a configuration needs.
A setting is a plain value or a list, which remember where they come from, or a table of settings
by name. Names are in lower case.

Sources are laid over one another name by name: a plain value or a list replaces what was there,
and a table is merged into a table. A name may be a path into tables and lists.
-/

namespace TestDouble

/-- A plain value or a list with its origin, if it has one, or a table. -/
inductive Setting where
  | value (origin : Option String) (v : Scalar)
  | list (origin : Option String) (items : List Setting)
  /-- The entries are in increasing order of their names. -/
  | table (entries : List (String × Setting))
  deriving Inhabited

/-- Settings by name. -/
abbrev Settings : Type := List (String × Setting)

namespace Setting

/-- The entries of a table; all else has none. -/
def entries : Option Setting → Settings
  | some (.table es) => es
  | _ => []

mutual

/-- What is there after a setting has been laid over what was there. A table without entries
changes nothing where something was. -/
def merge : Option Setting → Setting → Setting
  | _, .value origin v => .value origin v
  | _, .list origin items => .list origin items
  | some old, .table [] => old
  | old, .table es => .table (mergeAll (entries old) es)

/-- Lays entries over a table. -/
def mergeAll (target : Settings) : Settings → Settings
  | [] => target
  | (name, s) :: rest =>
    let name := Text.lower name
    mergeAll (Entries.put name (merge (target.lookup name) s) target) rest

end

/-- The place in a list that a position means; one that is too far below zero means the first. -/
def placeOf (position : Int) (length : Nat) : Nat :=
  if position < 0 then (length + position).toNat else position.toNat

/-- A list in which one more place is filled; places before it that were missing hold nothing. -/
def setItem (items : List Setting) (place : Nat) (s : Setting) : List Setting :=
  (items ++ List.replicate (place + 1 - items.length) (Setting.value none .null)).set place s

/-- What is there after a setting has been laid over the one that a path leads to from what was
there. Whatever is in the way becomes a table or a list. -/
def mergeAlong : List PathStep → Setting → Option Setting → Setting
  | [], s, old => merge old s
  | .entry name :: path, s, old =>
    let name := Text.lower name
    let es := entries old
    .table (Entries.put name (mergeAlong path s (es.lookup name)) es)
  | .item position :: path, s, old =>
    let (origin, items) := match old with
      | some (.list origin items) => (origin, items)
      | _ => (none, [])
    let place := placeOf position items.length
    .list origin (setItem items place (mergeAlong path s items[place]?))

/-- Lays named settings over others. -/
def overlay (target source : Settings) : Settings :=
  source.foldl
    (fun target (name, s) => entries (mergeAlong (PathStep.path name) s (some (.table target))))
    target

mutual

/-- The setting that a file with a name gives by what it says. -/
def ofContent (origin : String) : Content → Setting
  | .scalar v => .value (some origin) v
  | .list vs => .list (some origin) (ofItems origin vs)
  | .table es => .table (ofEntries origin es)

/-- The settings that items give. -/
def ofItems (origin : String) : List Content → List Setting
  | [] => []
  | v :: rest => ofContent origin v :: ofItems origin rest

/-- The settings that entries give. -/
def ofEntries (origin : String) : List (String × Content) → Settings
  | [] => []
  | (name, v) :: rest => (name, ofContent origin v) :: ofEntries origin rest

end

end Setting
end TestDouble
