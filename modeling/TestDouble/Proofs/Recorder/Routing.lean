import Mathlib.Tactic.SplitIfs
import TestDouble.Recorder.Book

/-!
# Where a call goes

What `Book.route`, `Book.shadowOf` and `Book.tally` do to the lists they walk through, said once
without their recursion. A call goes to the first expectation that accepts it (`route_cases`,
`route_split`), a registration passes when no earlier expectation shadows it (`shadowOf_eq_none_iff`), and
a verification changes nothing but the marks (`tally_unmarked`).
-/

namespace TestDouble

/-- A verdict can be compared with another. -/
instance : DecidableEq Verdict
  | .ok a, .ok b => decidable_of_iff (a = b) (by simp)
  | .error a, .error b => decidable_of_iff (a = b) (by simp)
  | .ok _, .error _ => isFalse (by simp)
  | .error _, .ok _ => isFalse (by simp)

/-- The matcher answers for some arguments: no predicate crashes on them. -/
def ArgumentMatcher.Answers (m : ArgumentMatcher) (arguments : List Json) : Prop :=
  ∃ v, m.accepts arguments = .ok v

/-- The matcher answers for all arguments. -/
def ArgumentMatcher.Total (m : ArgumentMatcher) : Prop := ∀ arguments, m.Answers arguments

/-- A matcher whose parts answer for every value answers. -/
theorem ArgumentMatcher.total_of_parts {m : ArgumentMatcher}
    (h : ∀ p ∈ m.matchers, ∀ v, ∃ b, p.accepts v = .ok b) : m.Total := by
  have hall : ∀ (ps : List Matcher), (∀ p ∈ ps, ∀ v, ∃ b, p.accepts v = .ok b) →
      ∀ vs, ∃ b, acceptsAll ps vs = .ok b := by
    intro ps hps
    induction ps with
    | nil => intro vs; cases vs <;> exact ⟨_, rfl⟩
    | cons p ps ih =>
      obtain ⟨hp, hps⟩ := List.forall_mem_cons.mp hps
      rintro (_ | ⟨v, vs⟩)
      · exact ⟨_, rfl⟩
      · obtain ⟨b, hb⟩ := hp v
        simp only [acceptsAll, hb]
        cases b with
        | false => exact ⟨_, rfl⟩
        | true => exact ih hps vs
  intro arguments
  unfold Answers accepts
  split_ifs
  · exact hall m.matchers h arguments
  · exact ⟨_, rfl⟩

namespace Expectation

@[simp] theorem consume_id (e : Expectation) : e.consume.id = e.id := rfl

@[simp] theorem consume_operation (e : Expectation) : e.consume.operation = e.operation := rfl

@[simp] theorem consume_matcher (e : Expectation) : e.consume.matcher = e.matcher := rfl

@[simp] theorem consume_outcome (e : Expectation) : e.consume.outcome = e.outcome := rfl

@[simp] theorem consume_times (e : Expectation) : e.consume.times = e.times := rfl

@[simp] theorem consume_consumed (e : Expectation) : e.consume.consumed = e.consumed + 1 := rfl

variable {saturate : Bool} {operation : String} {arguments : List Json} {e : Expectation}

/-- An expectation is exhausted if caps are enforced and it has reached a cap other than zero. -/
def isExhausted (saturate : Bool) (e : Expectation) : Bool :=
  saturate && e.times.isExhaustedBy e.consumed

theorem accepts_eq_true_iff :
    e.accepts saturate operation arguments = .ok true ↔
      e.operation = operation ∧ e.isExhausted saturate = false ∧
        e.matcher.accepts arguments = .ok true := by
  unfold accepts isExhausted
  split_ifs with ho hx
  · simp [ho]
  · simp [hx]
  · simp_all

/-- A call is refused for its operation, because of the cap, or by the matcher. -/
theorem accepts_eq_false_iff :
    e.accepts saturate operation arguments = .ok false ↔
      e.operation = operation → e.isExhausted saturate = false →
        e.matcher.accepts arguments = .ok false := by
  unfold accepts isExhausted
  split_ifs with ho hx
  · simp [ho]
  · simp [hx]
  · simp_all

/-- If its matcher answers, an expectation refuses the calls that it does not accept. -/
theorem accepts_eq_false_of_ne (h : e.operation = operation → e.matcher.Answers arguments)
    (hne : e.accepts saturate operation arguments ≠ .ok true) :
    e.accepts saturate operation arguments = .ok false := by
  rw [accepts_eq_false_iff]
  intro ho hx
  obtain ⟨v, hv⟩ := h ho
  cases v with
  | false => exact hv
  | true => exact absurd (accepts_eq_true_iff.mpr ⟨ho, hx, hv⟩) hne

/-- If the matchers answer, every expectation refuses a call or a first one accepts it. -/
theorem refuse_or_first (saturate : Bool) (operation : String) {es : List Expectation}
    (h : ∀ e ∈ es, e.matcher.Answers arguments) :
    (∀ e ∈ es, e.accepts saturate operation arguments = .ok false) ∨
      ∃ l e r, es = l ++ e :: r ∧ (∀ x ∈ l, x.accepts saturate operation arguments = .ok false) ∧
        e.accepts saturate operation arguments = .ok true := by
  cases hfind : es.find? fun e => e.accepts saturate operation arguments = .ok true with
  | none =>
    simp only [List.find?_eq_none, decide_eq_true_eq] at hfind
    exact .inl fun e he => accepts_eq_false_of_ne (fun _ => h e he) (hfind e he)
  | some e =>
    obtain ⟨he, l, r, rfl, hbefore⟩ := List.find?_eq_some_iff_append.mp hfind
    simp only [decide_eq_true_eq, Bool.not_eq_true', decide_eq_false_iff_not] at he hbefore
    refine .inr ⟨l, e, r, rfl, fun x hx => ?_, he⟩
    exact accepts_eq_false_of_ne (fun _ => h x (by simp [hx])) (hbefore x hx)

/-- An expectation that shadows nothing is of another operation, has a cap that is enforced, or
does not overlap. -/
theorem shadows_eq_false_iff {matcher : ArgumentMatcher} :
    e.shadows saturate operation matcher = .ok false ↔
      e.operation = operation → (saturate && e.times.isCapped) = false →
        e.matcher.overlaps matcher = .ok false := by
  unfold shadows
  split_ifs with ho hx
  · simp [ho]
  · simp [hx]
  · simp_all

end Expectation

namespace Book

variable {saturate : Bool} {operation : String} {arguments : List Json} {matcher : ArgumentMatcher}

/-! ### Routing -/

/-- **The two ends of a look-up that does not crash**: every expectation refuses the call, or there
is a first one that accepts it, and its count goes up. -/
theorem route_cases {es es' : List Expectation} {hit : Option Expectation}
    (h : route saturate operation arguments es = .ok (hit, es')) :
    (hit = none ∧ es' = es ∧ ∀ e ∈ es, e.accepts saturate operation arguments = .ok false) ∨
      ∃ l e r, es = l ++ e :: r ∧ (∀ x ∈ l, x.accepts saturate operation arguments = .ok false) ∧
        e.accepts saturate operation arguments = .ok true ∧ hit = some e.consume ∧
        es' = l ++ e.consume :: r := by
  induction es generalizing hit es' with
  | nil =>
    simp only [route, Except.ok.injEq, Prod.mk.injEq] at h
    exact .inl ⟨h.1.symm, h.2.symm, by simp⟩
  | cons e rest ih =>
    simp only [route] at h
    split at h
    · cases h
    · next he =>
      simp only [Except.ok.injEq, Prod.mk.injEq] at h
      exact .inr ⟨[], e, rest, rfl, by simp, he, h.1.symm, h.2.symm⟩
    · next he =>
      split at h
      · cases h
      · next hit' es'' hr =>
        simp only [Except.ok.injEq, Prod.mk.injEq] at h
        obtain ⟨rfl, rfl⟩ := h
        rcases ih hr with ⟨rfl, rfl, hall⟩ | ⟨l, x, r, rfl, hl, hx, rfl, rfl⟩
        · exact .inl ⟨rfl, rfl, List.forall_mem_cons.mpr ⟨he, hall⟩⟩
        · exact .inr ⟨e :: l, x, r, rfl, List.forall_mem_cons.mpr ⟨he, hl⟩, hx, rfl, rfl⟩

/-- Expectations that refuse the call are passed over. -/
theorem route_append {l : List Expectation} (es : List Expectation)
    (hl : ∀ x ∈ l, x.accepts saturate operation arguments = .ok false) :
    route saturate operation arguments (l ++ es) =
      (route saturate operation arguments es).map fun p => (p.1, l ++ p.2) := by
  induction l with
  | nil => cases h : route saturate operation arguments es <;> simp [h, Except.map]
  | cons x l ih =>
    obtain ⟨hx, hl⟩ := List.forall_mem_cons.mp hl
    simp only [List.cons_append, route, hx, ih hl]
    cases route saturate operation arguments es <;> rfl

/-- A call goes to the first expectation that accepts it. -/
theorem route_split {l r : List Expectation} {e : Expectation}
    (hl : ∀ x ∈ l, x.accepts saturate operation arguments = .ok false)
    (he : e.accepts saturate operation arguments = .ok true) :
    route saturate operation arguments (l ++ e :: r) =
      .ok (some e.consume, l ++ e.consume :: r) := by
  rw [route_append _ hl, route, he]
  rfl

/-- A call that every expectation refuses goes nowhere. -/
theorem route_none {es : List Expectation}
    (h : ∀ x ∈ es, x.accepts saturate operation arguments = .ok false) :
    route saturate operation arguments es = .ok (none, es) := by
  rw [← List.append_nil es, route_append [] h]
  rfl

/-- A look-up crashes because a matcher does. -/
theorem route_error {es : List Expectation} {c : Crash}
    (h : route saturate operation arguments es = .error c) :
    ∃ e ∈ es, e.accepts saturate operation arguments = .error c := by
  induction es with
  | nil => cases h
  | cons e rest ih =>
    simp only [route] at h
    split at h
    · next he =>
      cases h
      exact ⟨e, List.mem_cons_self, he⟩
    · cases h
    · split at h
      · next hr =>
        obtain ⟨x, hx, hcrash⟩ := ih (hr.trans h)
        exact ⟨x, List.mem_cons_of_mem e hx, hcrash⟩
      · cases h

/-- The book without the next sequence number. -/
def skip (b : Book) : Book := { b with nextSequence := b.nextSequence + 1 }

/-- The book with a call added that was taken by the expectation of an id, or by none. -/
def enter (b : Book) (operation : String) (arguments : List Json) (taker : Option Nat)
    (expectations : List Expectation) : Book :=
  { b with
    expectations
    calls := b.calls ++ [⟨b.nextSequence, operation, arguments, taker, false⟩]
    nextSequence := b.nextSequence + 1 }

section

variable (b : Book) (taker : Option Nat) (es : List Expectation)

@[simp] theorem enter_expectations :
    (b.enter operation arguments taker es).expectations = es := rfl

@[simp] theorem enter_calls :
    (b.enter operation arguments taker es).calls =
      b.calls ++ [⟨b.nextSequence, operation, arguments, taker, false⟩] := rfl

@[simp] theorem enter_nextExpectation :
    (b.enter operation arguments taker es).nextExpectation = b.nextExpectation := rfl

@[simp] theorem enter_nextSequence :
    (b.enter operation arguments taker es).nextSequence = b.nextSequence + 1 := rfl

end

/-- A call that every expectation refuses is recorded as nobody's. -/
theorem record_none {b : Book}
    (h : ∀ e ∈ b.expectations, e.accepts saturate operation arguments = .ok false) :
    b.record saturate operation arguments =
      (.ok none, b.enter operation arguments none b.expectations) := by
  simp [record, enter, route_none h]

/-- A call goes to the first expectation that accepts it, which counts it. -/
theorem record_split {b : Book} {l r : List Expectation} {e : Expectation}
    (hes : b.expectations = l ++ e :: r)
    (hl : ∀ x ∈ l, x.accepts saturate operation arguments = .ok false)
    (he : e.accepts saturate operation arguments = .ok true) :
    b.record saturate operation arguments =
      (.ok (some e.consume), b.enter operation arguments (some e.id) (l ++ e.consume :: r)) := by
  simp [record, enter, hes, route_split hl he]

theorem record_error {b : Book} {c : Crash}
    (h : (b.record saturate operation arguments).1 = .error c) :
    ∃ e ∈ b.expectations, e.accepts saturate operation arguments = .error c := by
  refine route_error ?_
  simp only [Book.record] at h
  split at h
  · next hr =>
    cases h
    exact hr
  · cases h

/-- **What recording a call does to the book**: after a crash only the sequence number is gone;
otherwise the call is added at the end, and the expectation that took it, if any, has counted it. -/
theorem record_cases (b : Book) (saturate : Bool) (operation : String) (arguments : List Json) :
    (∃ c, b.record saturate operation arguments = (.error c, b.skip)) ∨
      ((∀ e ∈ b.expectations, e.accepts saturate operation arguments = .ok false) ∧
        b.record saturate operation arguments =
          (.ok none, b.enter operation arguments none b.expectations)) ∨
      ∃ l e r, b.expectations = l ++ e :: r ∧
        (∀ x ∈ l, x.accepts saturate operation arguments = .ok false) ∧
        e.accepts saturate operation arguments = .ok true ∧
        b.record saturate operation arguments =
          (.ok (some e.consume),
            b.enter operation arguments (some e.id) (l ++ e.consume :: r)) := by
  cases h : route saturate operation arguments b.expectations with
  | error c => exact .inl ⟨c, by simp [record, skip, h]⟩
  | ok p =>
    obtain ⟨hit, es⟩ := p
    rcases route_cases h with ⟨-, -, hall⟩ | ⟨l, e, r, hes, hl, he, -, -⟩
    · exact .inr (.inl ⟨hall, record_none hall⟩)
    · exact .inr (.inr ⟨l, e, r, hes, hl, he, record_split hes hl he⟩)

/-- Expectations that refuse a call are left as they are. -/
theorem record_append {b : Book} {l r : List Expectation} (hes : b.expectations = l ++ r)
    (hl : ∀ x ∈ l, x.accepts saturate operation arguments = .ok false) :
    ∃ r', (b.record saturate operation arguments).2.expectations = l ++ r' := by
  simp only [record, hes, route_append r hl]
  cases route saturate operation arguments r with
  | error c => exact ⟨r, rfl⟩
  | ok p => exact ⟨p.2, rfl⟩

/-- What a call does to an expectation that it comes to. -/
theorem record_getElem? {b : Book} {n : Nat} {e : Expectation} (he : b.expectations[n]? = some e)
    (hbefore : ∀ x ∈ b.expectations.take n, x.accepts saturate operation arguments = .ok false)
    {accepted : Bool} (haccepts : e.accepts saturate operation arguments = .ok accepted) :
    (b.record saturate operation arguments).2.expectations[n]? =
      some (if accepted then e.consume else e) := by
  obtain ⟨hn, rfl⟩ := List.getElem?_eq_some_iff.mp he
  cases accepted with
  | true =>
    have hsplit : b.expectations =
        b.expectations.take n ++ b.expectations[n] :: b.expectations.drop (n + 1) := by simp
    have hlength : (b.expectations.take n).length = n := List.length_take_of_le (Nat.le_of_lt hn)
    rw [record_split hsplit hbefore haccepts, enter_expectations]
    simp [hlength]
  | false =>
    have hupto : ∀ x ∈ b.expectations.take (n + 1),
        x.accepts saturate operation arguments = .ok false := by
      intro x hx
      rw [List.take_succ_eq_append_getElem hn, List.mem_append, List.mem_singleton] at hx
      rcases hx with hx | rfl
      · exact hbefore x hx
      · exact haccepts
    obtain ⟨r', hr⟩ := record_append (List.take_append_drop (n + 1) b.expectations).symm hupto
    have hlength : n < (b.expectations.take (n + 1)).length := by
      rw [List.length_take]
      omega
    rw [hr, List.getElem?_append_left hlength, List.getElem?_take_of_lt (Nat.lt_succ_self n)]
    exact he

/-- A call whose look-up does not crash is recorded with its arguments. -/
theorem record_calls {b : Book} {hit : Option Expectation}
    (h : (b.record saturate operation arguments).1 = .ok hit) :
    ∃ c, (b.record saturate operation arguments).2.calls = b.calls ++ [c] ∧
      c.operation = operation ∧ c.arguments = arguments := by
  rcases b.record_cases saturate operation arguments with
    ⟨c, hr⟩ | ⟨-, hr⟩ | ⟨l, e, r, -, -, -, hr⟩
  · rw [hr] at h
    cases h
  · exact ⟨_, by rw [hr, enter_calls], rfl, rfl⟩
  · exact ⟨_, by rw [hr, enter_calls], rfl, rfl⟩

/-! ### Registering -/

/-- A registration passes the check without a finding if no expectation shadows it. -/
theorem shadowOf_eq_none_iff {es : List Expectation} :
    shadowOf saturate operation matcher es = .ok none ↔
      ∀ e ∈ es, e.shadows saturate operation matcher = .ok false := by
  induction es with
  | nil => simp [shadowOf]
  | cons e rest ih =>
    rw [List.forall_mem_cons, ← ih, shadowOf]
    split
    · next he => simp [he]
    · next he => simp [he]
    · next he => simp [he]

/-- The check of a registration crashes because a comparison does. -/
theorem shadowOf_error {es : List Expectation} {c : Crash}
    (h : shadowOf saturate operation matcher es = .error c) :
    ∃ e ∈ es, e.shadows saturate operation matcher = .error c := by
  induction es with
  | nil => cases h
  | cons e rest ih =>
    simp only [shadowOf] at h
    split at h
    · next he =>
      cases h
      exact ⟨e, List.mem_cons_self, he⟩
    · cases h
    · obtain ⟨x, hx, hcrash⟩ := ih h
      exact ⟨x, List.mem_cons_of_mem e hx, hcrash⟩

/-! ### Verifying -/

end Book

/-- The call without the mark that a verification leaves. -/
def RecordedCall.unmarked (c : RecordedCall) : RecordedCall := { c with verified := false }

theorem RecordedCall.unmarked_eq_iff {c x : RecordedCall} :
    c.unmarked = x.unmarked ↔
      c.sequence = x.sequence ∧ c.operation = x.operation ∧ c.arguments = x.arguments ∧
        c.matched = x.matched := by
  cases c
  cases x
  simp [unmarked]

namespace Book

variable {operation : String} {matcher : ArgumentMatcher}

/-- Counting calls changes nothing but their marks. -/
theorem tally_unmarked {cs marked : List RecordedCall} {n : Nat}
    (h : tally operation matcher cs = .ok (n, marked)) :
    marked.map RecordedCall.unmarked = cs.map RecordedCall.unmarked := by
  induction cs generalizing n marked with
  | nil =>
    simp only [tally, Except.ok.injEq, Prod.mk.injEq] at h
    rw [← h.2]
  | cons c rest ih =>
    simp only [tally] at h
    split at h
    · cases h
    · split at h
      · cases h
      · next m marked' hm =>
        have := ih hm
        split_ifs at h <;> simp only [Except.ok.injEq, Prod.mk.injEq] at h <;> obtain ⟨-, rfl⟩ := h
        · simp [this, RecordedCall.unmarked]
        · simp [this]

/-- A verification changes nothing in the book but the marks on its calls. -/
theorem verify_eq_ok {b b' : Book} {times : Times} {verdict : Except TestError Unit}
    (h : b.verify operation matcher times = .ok (verdict, b')) :
    b' = { b with calls := b'.calls } ∧
      b'.calls.map RecordedCall.unmarked = b.calls.map RecordedCall.unmarked := by
  simp only [verify] at h
  split at h
  · cases h
  · next hm =>
    split_ifs at h <;> simp only [Except.ok.injEq, Prod.mk.injEq] at h <;> obtain ⟨-, rfl⟩ := h
    · exact ⟨rfl, tally_unmarked hm⟩
    · exact ⟨rfl, rfl⟩

end Book
end TestDouble
