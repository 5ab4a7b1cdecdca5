import TestDouble.Proofs.Client.Handle
import TestDouble.Proofs.Recorder.Numbering

/-!
# Typed calls

A surface has two ways to make a call and read its answer as a value of a type: one reads `null` as
the type does, the other as a given default value. Both make the same request, so they leave the
same desk, and both work on the reply alone, so that an answer which cannot be read is an error of a
call that has been made and counted (`Recorder.entered_of_answered`). They differ in nothing but the
reading of `null` (`typed_calls_agree`).
-/

namespace TestDouble

/-- The second book is the first one with a call added as a whole: nobody takes it, or the first
expectation that accepts it takes and counts it. -/
inductive Book.Entered (saturate : Bool) (operation : String) (arguments : List Json) (b : Book) :
    Book → Prop where
  | miss : (∀ e ∈ b.expectations, e.accepts saturate operation arguments = .ok false) →
    Entered saturate operation arguments b (b.enter operation arguments none b.expectations)
  | hit {l r : List Expectation} {e : Expectation} : b.expectations = l ++ e :: r →
    (∀ x ∈ l, x.accepts saturate operation arguments = .ok false) →
    e.accepts saturate operation arguments = .ok true →
    Entered saturate operation arguments b
      (b.enter operation arguments (some e.id) (l ++ e.consume :: r))

/-- A call that is answered, by a value or by an error, has been entered in the turn of its own. -/
theorem Recorder.entered_of_answered {mode : Mode} {depth : Nat} {saturate : Bool}
    {operation : String} {arguments : List Json} {d : Desk} {reply : Except TestError Json}
    (h : (serve mode depth (.invoke saturate operation arguments) d).1 = .ok reply) :
    Book.Entered saturate operation arguments d.book
      ((Turn.call saturate operation arguments).step mode d.book) := by
  rw [Turn.step_call]
  rcases d.book.record_cases saturate operation arguments with
    ⟨c, hr⟩ | ⟨hall, hr⟩ | ⟨l, e, r, hes, hl, he, hr⟩
  · rw [serve_invoke_crashed depth rfl hr] at h
    cases h
  · rw [hr]
    exact .miss hall
  · rw [hr]
    exact .hit hes hl he

namespace Surface

variable {mode : Mode} {depth : Nat} {d : Desk} {α : Type} (s : Surface) (method : String)
  (c : Codec α) (default : α)

/-- Reads the answer of a call as a value of a type, but `null` as a given value. -/
def decodeOrDefault : Json → Except TestError α
  | .null => .ok default
  | v => s.decodeAnswer method c v

theorem decodeOrDefault_of_ne_null {v : Json} (h : v ≠ .null) :
    s.decodeOrDefault method c default v = s.decodeAnswer method c v := by
  cases v with
  | null => exact absurd rfl h
  | _ => rfl

/-- A call with a payload works on the reply to its request and does nothing else. -/
theorem run_call (p : Payload) :
    let made := (s.invokeWith method p).run (Recorder.serve mode depth) d
    (s.call method c p).run (Recorder.serve mode depth) d =
      (made.1.map (·.bind (s.decodeAnswer method c)), made.2) :=
  Program.run_bind_done _ _

/-- So does a call with a default value, which reads `null` otherwise. -/
theorem run_callOrDefault (p : Payload) :
    let made := (s.invokeWith method p).run (Recorder.serve mode depth) d
    (s.callOrDefault method c default p).run (Recorder.serve mode depth) d =
      (made.1.map (·.bind (s.decodeOrDefault method c default)), made.2) :=
  Program.run_bind_done _ _

variable {c default}

/-- If the type reads `null` as its default value, both ways are the same program. -/
theorem call_eq_callOrDefault (h : c.decode .null = .ok default) (p : Payload) :
    s.call method c p = s.callOrDefault method c default p := by
  have hread : s.decodeAnswer method c = s.decodeOrDefault method c default := by
    funext v
    cases v with
    | null => rw [decodeAnswer, h, decodeOrDefault]
    | _ => rfl
  rw [call, hread]
  rfl

end Surface

/-- **The two ways of a typed call agree.** On every desk they leave the same one. A payload that
cannot be encoded is the error of both, and then nothing is done. Otherwise the desk is the one
after the request with the arguments, whose own turn has entered the call as soon as it is answered,
also if the answer cannot be read. A stop or an error of the request is that of both ways, a value
is read by the type, and only `null` is read by the second way as the default value instead. So for
a type that reads `null` as its default value, such as the unit type, options and plain JSON, the
two ways are the same program. -/
theorem typed_calls_agree (mode : Mode) (depth : Nat) {α : Type} (c : Codec α) (default : α)
    (s : Surface) (method : String) (p : Payload) (d : Desk) :
    let operation := s.operation method
    let called := (s.call method c p).run (Recorder.serve mode depth) d
    let defaulted := (s.callOrDefault method c default p).run (Recorder.serve mode depth) d
    defaulted.2 = called.2 ∧
    (∀ reason, encodeArguments p = .error reason →
      called = (.ok (.error (.encoding operation reason)), d) ∧ defaulted = called) ∧
    (∀ ws, encodeArguments p = .ok ws →
      let request : Request .invocation := .invoke s.handle.saturate operation ws
      let served := Recorder.serve mode depth request d
      let entered := (Turn.call s.handle.saturate operation ws).step mode d.book
      called.2 = served.2 ∧
      (∀ stop, served.1 = .error stop → called.1 = .error stop ∧ defaulted.1 = .error stop) ∧
      (∀ e, served.1 = .ok (.error e) →
        called.1 = .ok (.error e) ∧ defaulted.1 = .ok (.error e)) ∧
      (∀ v, served.1 = .ok (.ok v) →
        (∀ x, c.decode v = .ok x → called.1 = .ok (.ok x)) ∧
        (∀ reason, c.decode v = .error reason →
          called.1 = .ok (.error (.decoding operation reason))) ∧
        (v ≠ .null → defaulted.1 = called.1) ∧
        (v = .null → defaulted.1 = .ok (.ok default))) ∧
      (∀ reply, served.1 = .ok reply →
        d.book.Entered s.handle.saturate operation ws entered ∧
          ∃ inner, Recorder.turns mode depth request d =
              .call s.handle.saturate operation ws :: inner ∧
            served.2.book = Turn.play mode inner entered)) ∧
    (c.decode .null = .ok default → s.call method c p = s.callOrDefault method c default p) ∧
    s.call method .unit p = s.callOrDefault method .unit () p ∧
    (∀ {β : Type} (c : Codec β),
      s.call method (.option c) p = s.callOrDefault method (.option c) none p) ∧
    s.call method .json p = s.callOrDefault method .json .null p := by
  intro operation called defaulted
  have hcalled : called = _ := s.run_call method c p
  have hdefaulted : defaulted = _ := s.run_callOrDefault method c default p
  refine ⟨by rw [hcalled, hdefaulted], fun reason hp => ?_, fun ws hp => ?_,
    fun hnull => s.call_eq_callOrDefault method hnull p, s.call_eq_callOrDefault method rfl p,
    fun c => s.call_eq_callOrDefault method rfl p, s.call_eq_callOrDefault method rfl p⟩
  · rw [s.run_invokeWith_error method hp] at hcalled hdefaulted
    exact ⟨hcalled, hdefaulted.trans hcalled.symm⟩
  · intro request served entered
    rw [s.run_invokeWith method hp] at hcalled hdefaulted
    refine ⟨by rw [hcalled], fun stop hstop => ?_, fun e he => ?_, fun v hv => ?_,
      fun reply hreply => ?_⟩
    · rw [hcalled, hdefaulted]
      exact ⟨by rw [hstop]; rfl, by rw [hstop]; rfl⟩
    · rw [hcalled, hdefaulted]
      exact ⟨by rw [he]; rfl, by rw [he]; rfl⟩
    · have hread : called.1 = .ok (s.decodeAnswer method c v) := by
        rw [hcalled, hv]
        rfl
      have hreadOr : defaulted.1 = .ok (s.decodeOrDefault method c default v) := by
        rw [hdefaulted, hv]
        rfl
      refine ⟨fun x hx => ?_, fun reason hreason => ?_, fun hne => ?_, fun hnull => ?_⟩
      · rw [hread, Surface.decodeAnswer, hx]
      · rw [hread, Surface.decodeAnswer, hreason]
      · rw [hread, hreadOr, s.decodeOrDefault_of_ne_null method c default hne]
      · rw [hreadOr, hnull, Surface.decodeOrDefault]
    · obtain ⟨inner, hturns⟩ :=
        Recorder.turns_invoke mode depth s.handle.saturate operation ws d
      refine ⟨Recorder.entered_of_answered hreply, inner, hturns, ?_⟩
      rw [Recorder.serve_book, hturns, Turn.play_cons]

/-- An answer that is a text is asked for as a number. Both ways fail to read it, and the call has
been recorded and counted all the same. -/
theorem typed_calls_agree_unreadable :
    let s : Surface := (⟨.strict, true, "::"⟩ : Handle).surface "svc"
    let d := Desk.ofBook (Book.empty.add "svc::m" .empty (.returns (.str "many")) .once)
    let called := (s.call "m" .u8 (.value .null)).run (Recorder.serve .strict 0) d
    let defaulted := (s.callOrDefault "m" .u8 0 (.value .null)).run (Recorder.serve .strict 0) d
    (∃ reason, called.1 = .ok (.error (.decoding "svc::m" reason)) ∧ defaulted.1 = called.1) ∧
      called.2.book.calls = [⟨0, "svc::m", [], some 0, false⟩] ∧
      called.2.book.expectations.map (·.consumed) = [1] ∧ defaulted.2 = called.2 := by
  intro s d called defaulted
  obtain ⟨hdesk, -, hencodes, -⟩ := typed_calls_agree .strict 0 .u8 0 s "m" (.value .null) d
  obtain ⟨hserved, -, -, hvalue, -⟩ := hencodes [] rfl
  obtain ⟨-, hunreadable, hsame, -⟩ := hvalue (.str "many") rfl
  refine ⟨⟨_, hunreadable _ rfl, hsame nofun⟩, ?_, ?_, hdesk⟩
  · simp only [called, hserved]
    rfl
  · simp only [called, hserved]
    rfl

end TestDouble
