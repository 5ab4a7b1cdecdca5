import TestDouble.Codec

/-!
# Matchers

A `Matcher` accepts or refuses one argument, an `ArgumentMatcher` all arguments of a call by
position. A predicate is a test that somebody else wrote, and it may crash instead of answering:
`Verdict` is the answer of a test that can. Matchers run from left to right, and those after the
first refusal or crash do not run.

Two matchers *overlap* when some argument could be accepted by both. Two predicates cannot be
compared and count as apart.
-/

namespace TestDouble

/-- Somebody else's code gave up with a message. -/
structure Crash where
  message : String
  deriving DecidableEq

/-- The answer of a test that may crash. -/
abbrev Verdict := Except Crash Bool

/-- Accepts or refuses one argument. -/
inductive Matcher where
  /-- Exactly the values equal to this one. -/
  | exact (expected : Json)
  | any
  | predicate (description : String) (test : Json → Verdict)

namespace Matcher

/-- A test of the values that a codec can read; other values are refused. -/
def satisfying {α : Type} (c : Codec α) (description : String) (test : α → Verdict) : Matcher :=
  predicate description fun v =>
    match c.decode v with
    | .ok x => test x
    | .error _ => .ok false

/-- Exactly the value of a payload, if it has one. -/
def ofPayload (p : Payload) : Except DecodeError Matcher := p.encode.map exact

/-- Whether the matcher accepts an argument. -/
def accepts : Matcher → Json → Verdict
  | exact expected, v => .ok (expected == v)
  | any, _ => .ok true
  | predicate _ test, v => test v

/-- Whether some argument could be accepted by both matchers. -/
def overlaps : Matcher → Matcher → Verdict
  | any, _ | _, any => .ok true
  | exact a, exact b => .ok (a == b)
  | exact v, predicate _ test | predicate _ test, exact v => test v
  | predicate .., predicate .. => .ok false

/-- The text of a matcher. -/
def text : Matcher → String
  | exact expected => expected.text
  | any => "_"
  | predicate description _ => "<" ++ description ++ ">"

/-- The text of a matcher with the kinds of its parts. -/
def shown : Matcher → String
  | exact expected => "Exact(" ++ expected.shown ++ ")"
  | any => "Any"
  | predicate description _ => "Predicate(" ++ Text.quoted description ++ ")"

end Matcher

/-- One matcher for every argument of a call. -/
structure ArgumentMatcher where
  matchers : List Matcher

namespace ArgumentMatcher

/-- The matcher of calls without arguments. -/
def empty : ArgumentMatcher := ⟨[]⟩

instance : Inhabited ArgumentMatcher := ⟨empty⟩

/-- Whether matchers accept arguments one by one, up to the first refusal. Left over matchers or
arguments are a refusal. -/
def acceptsAll : List Matcher → List Json → Verdict
  | [], [] => .ok true
  | m :: ms, v :: vs =>
    match m.accepts v with
    | .ok true => acceptsAll ms vs
    | verdict => verdict
  | _, _ => .ok false

/-- Whether the arguments of a call are accepted. Their number is compared first. -/
def accepts (m : ArgumentMatcher) (arguments : List Json) : Verdict :=
  if m.matchers.length = arguments.length then acceptsAll m.matchers arguments else .ok false

/-- Whether matchers overlap one by one, up to the first two that do not. -/
def overlapsAll : List Matcher → List Matcher → Verdict
  | [], [] => .ok true
  | l :: ls, r :: rs =>
    match l.overlaps r with
    | .ok true => overlapsAll ls rs
    | verdict => verdict
  | _, _ => .ok false

/-- Whether some call could be accepted by both. The numbers of arguments are compared first. -/
def overlaps (l r : ArgumentMatcher) : Verdict :=
  if l.matchers.length = r.matchers.length then overlapsAll l.matchers r.matchers else .ok false

/-- The texts of the matchers, separated by commas. -/
def text (m : ArgumentMatcher) : String := ", ".intercalate (m.matchers.map Matcher.text)

/-- The text with the kinds of the parts. -/
def shown (m : ArgumentMatcher) : String :=
  "ArgumentMatcher([" ++ ", ".intercalate (m.matchers.map Matcher.shown) ++ "])"

end ArgumentMatcher

/-- The arguments that a value stands for: an array gives one argument for each item, `null` none,
and every other value is one argument itself. -/
def spread : Json → List Json
  | .arr items => items
  | .null => []
  | v => [v]

/-- The arguments that a payload stands for. -/
def encodeArguments (p : Payload) : Except DecodeError (List Json) := p.encode.map spread

/-- Exactly the arguments that a payload stands for. -/
def ArgumentMatcher.exactly (p : Payload) : Except DecodeError ArgumentMatcher :=
  (encodeArguments p).map fun arguments => ⟨arguments.map .exact⟩

/-- One argument by position, as a value of a type; `none` if it is missing or of another type. -/
def decodeArgument? {α : Type} (c : Codec α) (arguments : List Json) (index : Nat) : Option α :=
  match arguments[index]? with
  | some v => (c.decode v).toOption
  | none => none

end TestDouble
