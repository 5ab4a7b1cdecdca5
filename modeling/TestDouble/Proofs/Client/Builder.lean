import TestDouble.Proofs.Client.Handle

/-!
# What a builder registers

An expectation is built from parts given one after another. A part about the matcher, the outcome or
the count replaces an earlier one about the same; a part that cannot be encoded replaces nothing,
and the first such part is remembered. So all that the parts leave of each other can be said without
adding them in turn (`ExpectationBuilder.addAll_eq`), and a registration either fails with the first
part that cannot be encoded or is that of the last parts (`last_parts_registered`).
-/

namespace TestDouble
namespace ExpectationBuilder

namespace Part

/-- Why the part cannot be encoded, if it cannot. -/
def refusal? : Part → Option DecodeError
  | arguments payload | returns payload =>
    match payload.encode with
    | .ok _ => none
    | .error reason => some reason
  | matching _ | computes _ | fails _ | calls _ | times _ => none

/-- The matcher that the part asks for, if it is about that. -/
def matcher? : Part → Option ArgumentMatcher
  | matching matchers => some ⟨matchers⟩
  | arguments payload => (ArgumentMatcher.exactly payload).toOption
  | returns _ | computes _ | fails _ | calls _ | times _ => none

/-- The outcome that the part asks for, if it is about that. A computed answer is a callback that
never fails. -/
def outcome? : Part → Option Outcome
  | returns payload => payload.encode.toOption.map .returns
  | computes body =>
    some (.callback fun answered arguments => (body answered arguments).bind fun v => .done (.ok v))
  | fails failure => some (.fails failure)
  | calls body => some (.callback body)
  | matching _ | arguments _ | times _ => none

/-- The count that the part asks for, if it is about that. -/
def times? : Part → Option Times
  | times t => some t
  | matching _ | arguments _ | returns _ | computes _ | fails _ | calls _ => none

end Part

variable (b : ExpectationBuilder)

/-- **One part** replaces what it is about, or is remembered as the first that cannot be encoded. -/
theorem add_eq (part : Part) :
    b.add part =
      { b with
        matcher := part.matcher?.getD b.matcher
        outcome := part.outcome?.getD b.outcome
        times := part.times?.getD b.times
        fault := b.fault.or part.refusal? } := by
  cases part with
  | arguments payload =>
    simp only [add, Part.matcher?, Part.outcome?, Part.times?, Part.refusal?,
      ArgumentMatcher.exactly, encodeArguments]
    cases payload.encode with
    | ok v => simp [Except.map, Except.toOption]
    | error reason => simp [Except.map, Except.toOption, encodingFailed]
  | returns payload =>
    simp only [add, Part.matcher?, Part.outcome?, Part.times?, Part.refusal?]
    cases payload.encode with
    | ok v => simp [Except.toOption]
    | error reason => simp [Except.toOption, encodingFailed]
  | matching | computes | fails | calls | times =>
    -- the other parts need no encoding, so nothing is remembered
    simp [add, Part.matcher?, Part.outcome?, Part.times?, Part.refusal?]

/-- **All parts together**: the last one about the matcher, the outcome and the count, and the first
one that cannot be encoded. -/
theorem addAll_eq (parts : List Part) :
    b.addAll parts =
      { b with
        matcher := (parts.reverse.findSome? Part.matcher?).getD b.matcher
        outcome := (parts.reverse.findSome? Part.outcome?).getD b.outcome
        times := (parts.reverse.findSome? Part.times?).getD b.times
        fault := b.fault.or (parts.findSome? Part.refusal?) } := by
  -- the parts are added from the first to the last, so what is there already is generalised
  induction parts generalizing b with
  | nil => simp [addAll]
  | cons part parts ih =>
    have hcons : b.addAll (part :: parts) = (b.add part).addAll parts := rfl
    rw [hcons, ih, add_eq, List.reverse_cons, List.findSome?_cons]
    simp only [List.findSome?_append, Option.getD_or, List.findSome?_singleton, Option.or_assoc]
    cases part.refusal? <;> simp

end ExpectationBuilder

open ExpectationBuilder in
/-- **The last parts are registered.** Build an expectation of a method from any parts. If some of
them cannot be encoded, the registration fails with the reason of the first of these, whatever comes
after it, and leaves everything as it was. Otherwise it does and replies what registering does with
the operation of the method, the last matcher given (none for no arguments), the last outcome (or
`null`) and the last count (or once). -/
theorem last_parts_registered (mode : Mode) (depth : Nat) (s : Surface) (method : String)
    (parts : List Part) (d : Desk) :
    ((s.expect method).addAll parts).register.run (Recorder.serve mode depth) d =
      match parts.findSome? Part.refusal? with
      | some reason => (.ok (.error (.encoding (s.operation method) reason)), d)
      | none =>
        (s.handle.register (s.operation method)
          ((parts.reverse.findSome? Part.matcher?).getD .empty)
          ((parts.reverse.findSome? Part.outcome?).getD (.returns .null))
          ((parts.reverse.findSome? Part.times?).getD .once)).run (Recorder.serve mode depth) d := by
  rw [addAll_eq, register]
  simp only [Surface.expect, Option.none_or]
  cases parts.findSome? Part.refusal? with
  | some reason => rfl
  | none => rfl

/-- Each part is given twice, and of each the second one counts. -/
example (h : Handle) :
    (((h.surface "svc").expect "m").addAll
      [.matching [.any], .returns (.value (.int 1)), .times .never, .fails (.message "down"),
        .arguments (.value (.arr [.int 7])), .returns (.value (.int 2)), .times .anyNumber]).register =
      h.register ("svc" ++ h.separator ++ "m") ⟨[.exact (.int 7)]⟩ (.returns (.int 2)) .anyNumber :=
  rfl

end TestDouble
