import TestDouble.Proofs.Client.Encoding
import TestDouble.Proofs.Codec.Faithful

/-!
# Values that go through a double

A value is written when it is given to an expectation and read when the call is answered; an
argument is written when the call is made and read when the call is looked at. In between the
recorder keeps both as they are. So with faithful codecs the answer of a call is the value that was
given for it, and the arguments of the recorded call are those that it was made with
(`values_survive`).
-/

namespace TestDouble

/-! ### Arguments of recorded calls -/

namespace RecordedCall

variable {c : RecordedCall}

/-- An argument that has been written by a faithful codec is read back by it. -/
theorem argument?_of_encode {α : Type} {codec : Codec α} (hcodec : codec.Faithful) {i : Nat} {y : α}
    (h : c.arguments[i]? = some (codec.encode y)) : c.argument? codec i = some y := by
  rw [argument?, decodeArgument?, h]
  exact congrArg Except.toOption (hcodec y)

/-- There is nothing to read past the last argument. -/
theorem argument?_of_length_le {α : Type} (codec : Codec α) {i : Nat}
    (h : c.arguments.length ≤ i) : c.argument? codec i = none := by
  rw [argument?, decodeArgument?, List.getElem?_eq_none h]

end RecordedCall

/-! ### The call after the registration -/

/-- An expectation of exactly some arguments accepts the first call with them. -/
theorem Expectation.accepts_first {e : Expectation} {ws : List Json}
    (hmatcher : e.matcher = .ofArguments ws) (hfresh : e.consumed = 0) (saturate : Bool) :
    e.accepts saturate e.operation ws = .ok true := by
  have hopen : e.isExhausted saturate = false := by
    have hcap : ¬ e.times.isExhaustedBy 0 = true := by
      rw [Times.isExhaustedBy_iff]
      rintro ⟨m, -, hpos, hle⟩
      omega
    rw [isExhausted, hfresh, Bool.eq_false_iff.mpr hcap, Bool.and_false]
  rw [accepts_ofArguments hmatcher hopen, BEq.rfl]

namespace Surface

variable {mode : Mode} {depth : Nat} {d : Desk} {s : Surface} {method : String} {p : Payload}
  {ws : List Json} {v : Json} {times : Times} {id : Nat}

/-- What is built from arguments, a value to answer with and a count. -/
theorem expect_addAll (hp : encodeArguments p = .ok ws) :
    (s.expect method).addAll [.arguments p, .returns (.value v), .times times] =
      ⟨s.handle, s.operation method, .ofArguments ws, .returns v, times, none⟩ := by
  simp [ExpectationBuilder.addAll, ExpectationBuilder.add, ArgumentMatcher.exactly_eq_ok hp,
    Payload.encode, expect]

/-- **A call right after its registration** is answered with the value that was given, and entered
with its own arguments, unless an earlier expectation takes it. -/
theorem answered_of_registered (hp : encodeArguments p = .ok ws) (htimes : times.max ≠ some 0)
    (hrefused : ∀ e ∈ d.book.expectations,
      e.accepts s.handle.saturate (s.operation method) ws = .ok false)
    (hid : (((s.expect method).addAll
      [.arguments p, .returns (.value v), .times times]).register.run
        (Recorder.serve mode depth) d).1 = .ok (.ok id)) :
    let registered := ((s.expect method).addAll
      [.arguments p, .returns (.value v), .times times]).register.run
        (Recorder.serve mode depth) d
    let answered := (s.invokeWith method p).run (Recorder.serve mode depth) registered.2
    answered.1 = .ok (.ok v) ∧
      answered.2.book.calls =
        d.book.calls ++ [⟨d.book.nextSequence, s.operation method, ws, some id, false⟩] := by
  intro registered answered
  obtain ⟨rfl, hbook⟩ := ExpectationBuilder.register_book hid
  let e : Expectation :=
    ⟨d.book.nextExpectation, s.operation method, .ofArguments ws, .returns v, times, 0⟩
  have hadded : registered.2.book = d.book.add e.operation e.matcher e.outcome e.times := by
    rw [show registered.2.book = _ from hbook, expect_addAll hp]
  -- the new expectation is the first one that accepts the call
  have haccepts : e.accepts s.handle.saturate (s.operation method) ws = .ok true :=
    Expectation.accepts_first rfl rfl _
  have hrecord := Book.record_split (b := registered.2.book) (r := [])
    (by rw [hadded]; rfl) hrefused haccepts
  have hallowed : (e.consume.times.forbidsCalls && mode.isStrict) = false := by
    have hforbids : e.times.forbidsCalls = false :=
      Bool.eq_false_iff.mpr fun h => htimes (Times.forbidsCalls_iff.mp h)
    rw [Expectation.consume_times, hforbids, Bool.false_and]
  have hanswered : answered = _ :=
    (s.run_invokeWith method hp).trans
      (Recorder.serve_invoke_returns depth rfl hrecord hallowed rfl)
  rw [hanswered, Recorder.record, hrecord]
  exact ⟨rfl, by rw [hadded]; rfl⟩

/-- Whoever reads `null` as the default value reads every value back, too. -/
theorem decodeOrDefault_encode (s : Surface) (method : String) {type : ValueType}
    (x : type.Carrier) :
    s.decodeOrDefault method type.codec type.default (type.codec.encode x) = .ok x := by
  by_cases hnull : type.codec.encode x = .null
  · rw [hnull, decodeOrDefault, ← type.eq_default_of_encode_eq_null hnull]
  · rw [s.decodeOrDefault_of_ne_null method _ _ hnull, decodeAnswer, type.faithful x]

end Surface

/-- **Values survive.** Take a value of one of the types that a double can be asked for, arguments
that can be encoded, and a count whose maximum is not zero. Expect a call of a method with these
arguments, the value being its answer. If this is registered, and every earlier expectation refuses
the call, then the call right after it gives the value back, read either way. It is recorded once,
after the calls that were there, for the new expectation and with the arguments. From the recorded
call each argument that is of one of the types is read back by that type, and past the last argument
nothing is. -/
theorem values_survive (mode : Mode) (depth : Nat) (s : Surface) (method : String)
    (type : ValueType) (x : type.Carrier) {p : Payload} {ws : List Json}
    (hp : encodeArguments p = .ok ws) (times : Times) (htimes : times.max ≠ some 0) (d : Desk)
    (hrefused : ∀ e ∈ d.book.expectations,
      e.accepts s.handle.saturate (s.operation method) ws = .ok false) (id : Nat) :
    let expected := (s.expect method).addAll
      [.arguments p, .returns (.value (type.codec.encode x)), .times times]
    let registered := expected.register.run (Recorder.serve mode depth) d
    let called :=
      (s.call method type.codec p).run (Recorder.serve mode depth) registered.2
    let defaulted := (s.callOrDefault method type.codec type.default p).run
      (Recorder.serve mode depth) registered.2
    registered.1 = .ok (.ok id) →
      called.1 = .ok (.ok x) ∧ defaulted.1 = .ok (.ok x) ∧ defaulted.2 = called.2 ∧
      ∃ c : RecordedCall, called.2.book.calls = d.book.calls ++ [c] ∧
        c.operation = s.operation method ∧ c.arguments = ws ∧ c.matched = some id ∧
        (∀ (i : Nat) (t : ValueType) (y : t.Carrier), ws[i]? = some (t.codec.encode y) →
          c.argument? t.codec i = some y) ∧
        ∀ {α : Type} (codec : Codec α) (i : Nat), ws.length ≤ i → c.argument? codec i = none := by
  intro expected registered called defaulted hid
  obtain ⟨hanswer, hcalls⟩ := Surface.answered_of_registered hp htimes hrefused hid
  have hcalled : called = _ := s.run_call method type.codec p
  have hdefaulted : defaulted = _ := s.run_callOrDefault method type.codec type.default p
  have hread : s.decodeAnswer method type.codec (type.codec.encode x) = .ok x := by
    rw [Surface.decodeAnswer, type.faithful x]
  refine ⟨?_, ?_, by rw [hcalled, hdefaulted], _, by rw [hcalled]; exact hcalls, rfl, rfl, rfl,
    fun i t y hy => RecordedCall.argument?_of_encode t.faithful hy,
    fun codec i hi => RecordedCall.argument?_of_length_le codec hi⟩
  · rw [hcalled, hanswer]
    exact congrArg Except.ok hread
  · rw [hdefaulted, hanswer]
    exact congrArg Except.ok (s.decodeOrDefault_encode method x)

/-- The same call is expected a second time when the first expectation is exhausted. The second
answer is written `null` and so is the second argument, and both are read back as none. -/
theorem values_survive_null :
    let s : Surface := (⟨.strict, true, "::"⟩ : Handle).surface "svc"
    let p : Payload := .value (.arr [.int 5, .null])
    let expected (v : Json) := (s.expect "m").addAll [.arguments p, .returns (.value v), .times .once]
    let first := ((expected (.int 7)).register.run (Recorder.serve .strict 0) (.ofBook .empty)).2
    let d := ((s.invokeWith "m" p).run (Recorder.serve .strict 0) first).2
    let registered := (expected .null).register.run (Recorder.serve .strict 0) d
    let called := (s.call "m" ValueType.optionalU64.codec p).run (Recorder.serve .strict 0)
      registered.2
    registered.1 = .ok (.ok 1) ∧ called.1 = .ok (.ok none) ∧
      ∃ c : RecordedCall, called.2.book.calls = d.book.calls ++ [c] ∧ c.matched = some 1 ∧
        c.argument? ValueType.u8.codec 0 = some 5 ∧
        c.argument? ValueType.optionalU64.codec 1 = some none ∧
        c.argument? ValueType.json.codec 2 = none := by
  intro s p expected first d registered called
  have hrefused : ∀ e ∈ d.book.expectations,
      e.accepts s.handle.saturate (s.operation "m") [.int 5, .null] = .ok false :=
    List.forall_mem_singleton.mpr rfl
  obtain ⟨hcalled, -, -, c, hcalls, -, -, hmatched, hread, hnone⟩ :=
    values_survive .strict 0 s "m" .optionalU64 none (p := p) rfl .once (by decide) d hrefused 1 rfl
  exact ⟨rfl, hcalled, c, hcalls, hmatched, hread 0 .u8 5 rfl, hread 1 .optionalU64 none rfl,
    hnone _ 2 le_rfl⟩

end TestDouble
