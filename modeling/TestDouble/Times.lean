/-!
# How often

`Times` says how many calls an expectation asks for or allows. It is a range of counts: a least
one and, for a capped one, a greatest one. An expectation that has reached its cap is *exhausted*;
one whose cap is zero *forbids* calls and is never exhausted, so that the calls it forbids keep
landing on it and are counted.
-/

namespace TestDouble

/-- How many calls are asked for or allowed. -/
inductive Times where
  | never
  | once
  | exactly (n : Nat)
  | atLeast (n : Nat)
  | atLeastOnce
  | atMost (n : Nat)
  | anyNumber
  deriving DecidableEq

namespace Times

instance : Inhabited Times := ⟨once⟩

/-- The least number of calls asked for. -/
def min : Times → Nat
  | never | atMost _ | anyNumber => 0
  | once | atLeastOnce => 1
  | exactly n | atLeast n => n

/-- The greatest number of calls allowed, if there is one. -/
def max : Times → Option Nat
  | never => some 0
  | once => some 1
  | exactly n | atMost n => some n
  | atLeast _ | atLeastOnce | anyNumber => none

/-- Whether there is a greatest number of calls. -/
def isCapped (t : Times) : Bool := t.max.isSome

/-- Whether a count is in the range. -/
def isSatisfiedBy (t : Times) (count : Nat) : Bool :=
  t.min ≤ count && t.max.all fun m => count ≤ m

/-- Whether a count has reached a cap other than zero. -/
def isExhaustedBy (t : Times) (count : Nat) : Bool :=
  t.max.any fun m => 0 < m && m ≤ count

/-- Whether every call breaks the rule. -/
def forbidsCalls (t : Times) : Bool := t.max == some 0

/-- The text of the rule. -/
def text : Times → String
  | never => "never"
  | once => "exactly 1 time"
  | exactly n => "exactly " ++ toString n ++ " time(s)"
  | atLeast n => "at least " ++ toString n ++ " time(s)"
  | atLeastOnce => "at least 1 time"
  | atMost n => "at most " ++ toString n ++ " time(s)"
  | anyNumber => "any number of times"

theorem isSatisfiedBy_iff {t : Times} {count : Nat} :
    t.isSatisfiedBy count = true ↔ t.min ≤ count ∧ ∀ m ∈ t.max, count ≤ m := by
  cases h : t.max <;> simp [isSatisfiedBy, h]

theorem isExhaustedBy_iff {t : Times} {count : Nat} :
    t.isExhaustedBy count = true ↔ ∃ m ∈ t.max, 0 < m ∧ m ≤ count := by
  cases h : t.max <;> simp [isExhaustedBy, h]

theorem forbidsCalls_iff {t : Times} : t.forbidsCalls = true ↔ t.max = some 0 := by
  simp [forbidsCalls]

/-- What forbids calls is never exhausted. -/
theorem isExhaustedBy_of_forbidsCalls {t : Times} (h : t.forbidsCalls = true) (count : Nat) :
    t.isExhaustedBy count = false := by
  simp [isExhaustedBy, forbidsCalls_iff.mp h]

end Times
end TestDouble
