import TestDouble.Proofs.Recorder.Routing

/-!
# What a look-up reads

A look-up reads the expectations of its own operation only, and of those neither the ids nor the
outcomes; a verification reads the calls of its own operation only, and of those neither the
sequence numbers nor what they were matched to. So all of them commute with leaving the rest out
(`Book.route_filter`, `shadowOf_filter`, `tally_filter`) and with a relabelling of what they do not
read (`route_map`, `shadowOf_map`, `tally_map`).
-/

namespace TestDouble

/-- A change to expectations that no look-up notices: of ids and of outcomes. -/
structure Expectation.Relabels (f : Expectation → Expectation) : Prop where
  operation : ∀ e, (f e).operation = e.operation
  matcher : ∀ e, (f e).matcher = e.matcher
  times : ∀ e, (f e).times = e.times
  consumed : ∀ e, (f e).consumed = e.consumed
  consume : ∀ e, (f e).consume = f e.consume

/-- A change to calls that no verification notices: of sequence numbers and of what they were
matched to. -/
structure RecordedCall.Relabels (f : RecordedCall → RecordedCall) : Prop where
  operation : ∀ c, (f c).operation = c.operation
  arguments : ∀ c, (f c).arguments = c.arguments
  mark : ∀ c, { f c with verified := true } = f { c with verified := true }

section

variable {saturate : Bool} {operation : String} {arguments : List Json} {matcher : ArgumentMatcher}

namespace Expectation

variable {f : Expectation → Expectation}

theorem Relabels.accepts (hf : Relabels f) (e : Expectation) :
    (f e).accepts saturate operation arguments = e.accepts saturate operation arguments := by
  simp only [Expectation.accepts, hf.operation, hf.matcher, hf.times, hf.consumed]

theorem Relabels.shadows (hf : Relabels f) (e : Expectation) :
    (f e).shadows saturate operation matcher = e.shadows saturate operation matcher := by
  simp only [Expectation.shadows, hf.operation, hf.matcher, hf.times]

/-- An expectation of another operation refuses the call. -/
theorem accepts_of_ne {e : Expectation} (h : e.operation ≠ operation) :
    e.accepts saturate operation arguments = .ok false :=
  accepts_eq_false_iff.mpr fun ho => absurd ho h

/-- An expectation of another operation shadows nothing. -/
theorem shadows_of_ne {e : Expectation} (h : e.operation ≠ operation) :
    e.shadows saturate operation matcher = .ok false :=
  shadows_eq_false_iff.mpr fun ho => absurd ho h

end Expectation

theorem RecordedCall.Relabels.countedBy {f : RecordedCall → RecordedCall} (hf : Relabels f)
    (c : RecordedCall) : (f c).countedBy operation matcher = c.countedBy operation matcher := by
  simp only [RecordedCall.countedBy, hf.operation, hf.arguments]

namespace Book

/-! ### Relabelling -/

/-- Relabelled expectations route a call in the same way. -/
theorem route_map {f : Expectation → Expectation} (hf : Expectation.Relabels f)
    (es : List Expectation) :
    route saturate operation arguments (es.map f) =
      (route saturate operation arguments es).map fun p => (p.1.map f, p.2.map f) := by
  induction es with
  | nil => rfl
  | cons e rest ih =>
    simp only [List.map_cons, route, hf.accepts, hf.consume, ih]
    cases e.accepts saturate operation arguments with
    | error c => rfl
    | ok accepted =>
      cases accepted with
      | true => rfl
      | false => cases route saturate operation arguments rest <;> rfl

/-- Relabelled expectations shadow the same registrations. -/
theorem shadowOf_map {f : Expectation → Expectation} (hf : Expectation.Relabels f)
    (es : List Expectation) :
    shadowOf saturate operation matcher (es.map f) =
      (shadowOf saturate operation matcher es).map (Option.map f) := by
  induction es with
  | nil => rfl
  | cons e rest ih =>
    simp only [List.map_cons, shadowOf, hf.shadows, ih]
    cases e.shadows saturate operation matcher with
    | error c => rfl
    | ok shadowed => cases shadowed <;> rfl

/-- Relabelled calls are counted in the same way. -/
theorem tally_map {f : RecordedCall → RecordedCall} (hf : RecordedCall.Relabels f)
    (cs : List RecordedCall) :
    tally operation matcher (cs.map f) =
      (tally operation matcher cs).map fun p => (p.1, p.2.map f) := by
  induction cs with
  | nil => rfl
  | cons c rest ih =>
    simp only [List.map_cons, tally, hf.countedBy, hf.mark, ih]
    cases c.countedBy operation matcher with
    | error crash => rfl
    | ok counted =>
      cases tally operation matcher rest with
      | error crash => rfl
      | ok p => cases counted <;> rfl

/-! ### Leaving other operations out -/

/-- Expectations of other operations have no part in routing. -/
theorem route_filter (es : List Expectation) :
    route saturate operation arguments (es.filter (·.operation = operation)) =
      (route saturate operation arguments es).map fun p =>
        (p.1, p.2.filter (·.operation = operation)) := by
  induction es with
  | nil => rfl
  | cons e rest ih =>
    by_cases ho : e.operation = operation
    · rw [List.filter_cons_of_pos (by simpa using ho), route, route, ih]
      cases e.accepts saturate operation arguments with
      | error c => rfl
      | ok accepted =>
        cases accepted with
        | true => simp [Except.map, ho]
        | false =>
          cases route saturate operation arguments rest with
          | error c => rfl
          | ok p => simp [Except.map, ho]
    · rw [List.filter_cons_of_neg (by simpa using ho), route, ih, Expectation.accepts_of_ne ho]
      cases route saturate operation arguments rest with
      | error c => rfl
      | ok p => simp [Except.map, ho]

/-- Expectations of other operations have no part in the check of a registration. -/
theorem shadowOf_filter (es : List Expectation) :
    shadowOf saturate operation matcher (es.filter (·.operation = operation)) =
      shadowOf saturate operation matcher es := by
  induction es with
  | nil => rfl
  | cons e rest ih =>
    by_cases ho : e.operation = operation
    · rw [List.filter_cons_of_pos (by simpa using ho), shadowOf, shadowOf, ih]
    · rw [List.filter_cons_of_neg (by simpa using ho), shadowOf, ih, Expectation.shadows_of_ne ho]

/-- Calls of other operations are not counted. -/
theorem tally_filter (cs : List RecordedCall) :
    tally operation matcher (cs.filter (·.operation = operation)) =
      (tally operation matcher cs).map fun p => (p.1, p.2.filter (·.operation = operation)) := by
  induction cs with
  | nil => rfl
  | cons c rest ih =>
    by_cases ho : c.operation = operation
    · rw [List.filter_cons_of_pos (by simpa using ho), tally, tally, ih]
      cases c.countedBy operation matcher with
      | error crash => rfl
      | ok counted =>
        cases tally operation matcher rest with
        | error crash => rfl
        | ok p => cases counted <;> simp [Except.map, ho]
    · rw [List.filter_cons_of_neg (by simpa using ho), tally, ih,
        RecordedCall.countedBy, if_neg ho]
      cases tally operation matcher rest with
      | error crash => rfl
      | ok p => simp [Except.map, ho]

/-- A verification marks no calls of other operations. -/
theorem tally_of_ne {o : String} (h : operation ≠ o) {cs marked : List RecordedCall} {n : Nat}
    (htally : tally operation matcher cs = .ok (n, marked)) :
    marked.filter (·.operation = o) = cs.filter (·.operation = o) := by
  induction cs generalizing n marked with
  | nil =>
    simp only [tally, Except.ok.injEq, Prod.mk.injEq] at htally
    rw [← htally.2]
  | cons c rest ih =>
    simp only [tally] at htally
    split at htally
    · cases htally
    · next counted hcounted =>
      split at htally
      · cases htally
      · next m marked' hm =>
        have hrest := ih hm
        split_ifs at htally with hmarked <;>
          simp only [Except.ok.injEq, Prod.mk.injEq] at htally <;> obtain ⟨-, rfl⟩ := htally
        · -- only calls of its own operation are counted
          have hc : c.operation ≠ o := by
            rintro rfl
            rw [RecordedCall.countedBy, if_neg (Ne.symm h)] at hcounted
            exact Bool.false_ne_true ((Except.ok.inj hcounted).trans hmarked)
          simp [hrest, hc]
        · simp [hrest, List.filter_cons]

end Book
end
end TestDouble
