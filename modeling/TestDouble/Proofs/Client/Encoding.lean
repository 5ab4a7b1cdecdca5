import TestDouble.Proofs.Client.Builder
import TestDouble.Proofs.Client.TypedCall
import TestDouble.Proofs.Matching.Spreading
import TestDouble.Proofs.Recorder.Recount

/-!
# How arguments are written

A client names the arguments of a call as one value in four places: when it expects the call, when
it makes it, when it verifies calls, and when two matchers are compared. Each place spreads the value
and compares lists of arguments item by item. So the four places agree, and what they say depends on
the two lists alone (`encodings_agree`).
-/

namespace TestDouble

/-! ### Expecting -/

namespace ExpectationBuilder

/-- The part says nothing about the arguments. -/
def Part.KeepsArguments : Part → Prop
  | .matching _ | .arguments _ => False
  | .returns _ | .computes _ | .fails _ | .calls _ | .times _ => True

variable (b : ExpectationBuilder)

theorem addAll_operation (parts : List Part) : (b.addAll parts).operation = b.operation := by
  rw [addAll_eq]

theorem matcher?_of_keepsArguments {part : Part} (h : part.KeepsArguments) :
    part.matcher? = none := by
  cases part with
  | matching => cases h
  | arguments => cases h
  | returns | computes | fails | calls | times => rfl

/-- The last word on the arguments counts. -/
theorem matcher_of_arguments {p : Payload} {vs : List Json} (hp : encodeArguments p = .ok vs)
    (before : List Part) {after : List Part} (hafter : ∀ part ∈ after, part.KeepsArguments) :
    (b.addAll (before ++ .arguments p :: after)).matcher = .ofArguments vs := by
  have hnone : after.reverse.findSome? Part.matcher? = none :=
    List.findSome?_eq_none_iff.mpr fun part hpart =>
      matcher?_of_keepsArguments (hafter part (List.mem_reverse.mp hpart))
  have hsome : Part.matcher? (.arguments p) = some (.ofArguments vs) := by
    rw [Part.matcher?, ArgumentMatcher.exactly_eq_ok hp]
    rfl
  rw [addAll_eq]
  simp [hnone, hsome]

variable {b}
variable {mode : Mode} {depth : Nat} {d : Desk} {id : Nat}

/-- A registration that gives an id has added what was built. -/
theorem register_book
    (h : (b.register.run (Recorder.serve mode depth) d).1 = .ok (.ok id)) :
    id = d.book.nextExpectation ∧
      (b.register.run (Recorder.serve mode depth) d).2.book =
        d.book.add b.operation b.matcher b.outcome b.times := by
  revert h
  unfold register
  cases b.fault with
  | some reason =>
    intro h
    cases h
  | none =>
    dsimp only
    rw [Handle.run_register]
    intro h
    rcases Recorder.register_cases mode b.handle.saturate b.operation b.matcher b.outcome b.times
      d with ⟨-, -, -, hreply, hbook⟩ | ⟨hnone, -⟩
    · rw [hreply, Except.ok.injEq, Except.ok.injEq] at h
      exact ⟨h.symm, hbook⟩
    · exact absurd h (hnone id)

/-- What was registered stays at its place as long as nothing is forgotten, and changes nothing but
its count. -/
theorem register_stays (h : (b.register.run (Recorder.serve mode depth) d).1 = .ok (.ok id))
    {ts : List Turn} (hts : .reset ∉ ts) :
    ∃ e, (Turn.play mode ts (b.register.run (Recorder.serve mode depth) d).2.book).expectations[
        d.book.expectations.length]? = some e ∧
      e.unspent = ⟨id, b.operation, b.matcher, b.outcome, b.times, 0⟩ := by
  obtain ⟨rfl, hbook⟩ := register_book h
  have hadded : (d.book.add b.operation b.matcher b.outcome b.times).expectations[
      d.book.expectations.length]? =
        some ⟨d.book.nextExpectation, b.operation, b.matcher, b.outcome, b.times, 0⟩ := by
    simp [Book.add]
  rw [hbook]
  exact (Turn.play_extends mode _ hts).exists_expectation hadded

end ExpectationBuilder

/-! ### Verifying -/

namespace Check

variable {operation : String} {vs : List Json} {times : Times}

/-- A verification with the matcher of some arguments counts the calls with equal ones. -/
theorem counts_ofArguments (c : RecordedCall) :
    Check.counts ⟨operation, .ofArguments vs, times⟩ c =
      (c.operation = operation && vs == c.arguments) := by
  rw [Bool.eq_iff_iff, counts_iff, ArgumentMatcher.accepts_ofArguments]
  simp

/-- Such a verification always ends. -/
theorem reply_ofArguments (b : Book) :
    let k : Check := ⟨operation, .ofArguments vs, times⟩
    k.reply b = .ok (k.verdict
      (b.calls.countP fun c => c.operation = operation && vs == c.arguments)) := by
  intro k
  have hends : k.Ends b := fun c _ _ => ⟨_, ArgumentMatcher.accepts_ofArguments vs c.arguments⟩
  rw [reply_of_ends hends, funext counts_ofArguments]

end Check

theorem Surface.run_verify {mode : Mode} {depth : Nat} (s : Surface) (method : String)
    (matcher : ArgumentMatcher) (times : Times) (d : Desk) :
    ((s.verify method matcher times).run (Recorder.serve mode depth) d).1 =
      Check.reply ⟨s.operation method, matcher, times⟩ d.book := by
  rw [verify, Handle.run_verify]
  exact (Recorder.verify_congr _ matcher times (Desk.ofBook_book d.book).symm).1

/-! ### The four places -/

/-- An expectation of exactly some arguments takes a call if its arguments are equal to them. -/
theorem Expectation.accepts_ofArguments {e : Expectation} {vs : List Json} {saturate : Bool}
    (hmatcher : e.matcher = .ofArguments vs) (hopen : e.isExhausted saturate = false)
    (ws : List Json) : e.accepts saturate e.operation ws = .ok (vs == ws) := by
  rw [isExhausted] at hopen
  rw [accepts, if_neg (by simp), hopen, if_neg (by simp), hmatcher,
    ArgumentMatcher.accepts_ofArguments]

/-- Two payloads that stand for some arguments are written alike in every place. -/
structure Surface.WritesAlike (mode : Mode) (depth : Nat) (s : Surface) (method : String)
    (p q : Payload) (vs ws : List Json) : Prop where
  /-- A call with the second payload is a request with its arguments, whether the handle enforces
  caps or not. -/
  called : ∀ {α : Type} (c : Codec α) (saturate : Bool) (d : Desk),
    let caller : Surface := { s with handle := s.handle.withSaturation saturate }
    let served := Recorder.serve mode depth (.invoke saturate (s.operation method) ws) d
    (caller.call method c q).run (Recorder.serve mode depth) d =
      (served.1.map (·.bind (caller.decodeAnswer method c)), served.2)
  /-- An expectation of the first payload, once registered, accepts that request if the arguments
  are equal, unless it is exhausted; and if the request comes to it, it counts it on the same
  condition. -/
  expected : ∀ (before after : List ExpectationBuilder.Part),
    (∀ part ∈ after, part.KeepsArguments) → ∀ (d : Desk) (id : Nat),
      let registered := ((s.expect method).addAll (before ++ .arguments p :: after)).register.run
        (Recorder.serve mode depth) d
      registered.1 = .ok (.ok id) → ∀ ts, .reset ∉ ts →
        let b := Turn.play mode ts registered.2.book
        let place := d.book.expectations.length
        ∃ e, b.expectations[place]? = some e ∧ e.id = id ∧
          ∀ saturate, e.isExhausted saturate = false →
            e.accepts saturate (s.operation method) ws = .ok (vs == ws) ∧
            ((∀ x ∈ b.expectations.take place,
                x.accepts saturate (s.operation method) ws = .ok false) →
              ((Turn.call saturate (s.operation method) ws).step mode b).expectations[place]? =
                some (if vs == ws then e.consume else e))
  /-- The matchers of both payloads overlap if the arguments are equal. -/
  compared : ∃ l r, ArgumentMatcher.exactly p = .ok l ∧ ArgumentMatcher.exactly q = .ok r ∧
    l.overlaps r = .ok (vs == ws)
  /-- A verification with the matcher of the first payload replies to the number of calls with equal
  arguments, and counts the call of the request, once recorded, if its arguments are. -/
  verified : ∀ l, ArgumentMatcher.exactly p = .ok l → ∀ times,
    let k : Check := ⟨s.operation method, l, times⟩
    (∀ d : Desk, ((s.verify method l times).run (Recorder.serve mode depth) d).1 =
      .ok (k.verdict (d.book.calls.countP fun c =>
        c.operation = s.operation method && vs == c.arguments))) ∧
    ∀ (b : Book) (saturate : Bool) (hit : Option Expectation),
      (b.record saturate (s.operation method) ws).1 = .ok hit →
        ∃ c, ((Turn.call saturate (s.operation method) ws).step mode b).calls = b.calls ++ [c] ∧
          c.countedBy k.operation l = .ok (vs == ws)

theorem Surface.WritesAlike.of_encodeArguments (mode : Mode) (depth : Nat) (s : Surface)
    (method : String) {p q : Payload} {vs ws : List Json} (hp : encodeArguments p = .ok vs)
    (hq : encodeArguments q = .ok ws) : s.WritesAlike mode depth method p q vs ws where
  called := by
    intro α c saturate d caller served
    rw [caller.run_call method c q, caller.run_invokeWith method hq]
    rfl
  expected := by
    intro before after hafter d id registered hid ts hts b place
    obtain ⟨e, he, hsame⟩ := ExpectationBuilder.register_stays hid hts
    have hoperation : e.operation = s.operation method :=
      (congrArg Expectation.operation hsame).trans ((s.expect method).addAll_operation _)
    have hmatcher : e.matcher = .ofArguments vs :=
      (congrArg Expectation.matcher hsame).trans
        ((s.expect method).matcher_of_arguments hp before hafter)
    refine ⟨e, he, congrArg Expectation.id hsame, fun saturate hopen => ?_⟩
    have haccepts : e.accepts saturate (s.operation method) ws = .ok (vs == ws) :=
      hoperation ▸ Expectation.accepts_ofArguments hmatcher hopen ws
    exact ⟨haccepts, fun hbefore => Book.record_getElem? he hbefore haccepts⟩
  compared := ⟨_, _, ArgumentMatcher.exactly_eq_ok hp, ArgumentMatcher.exactly_eq_ok hq,
    ArgumentMatcher.overlaps_ofArguments vs ws⟩
  verified := by
    intro l hl times k
    obtain rfl : .ofArguments vs = l := by
      rw [ArgumentMatcher.exactly_eq_ok hp] at hl
      exact Except.ok.inj hl
    refine ⟨fun d => (s.run_verify method _ times d).trans (Check.reply_ofArguments d.book),
      fun b saturate hit hhit => ?_⟩
    obtain ⟨c, hc, ho, ha⟩ := Book.record_calls hhit
    refine ⟨c, hc, ?_⟩
    rw [RecordedCall.countedBy, if_pos ho, ha, ArgumentMatcher.accepts_ofArguments]

/-- **Arguments are written alike in every place.** Take two payloads that can be encoded. A call
with the second is accepted by an expectation of the first, and counted by a verification with the
first, and the matchers of both overlap, each if and only if the two stand for equal arguments. That
is so if their values are equal, or if one is an array and the other what it is an array of. So the
call of a payload itself is always accepted and counted. -/
theorem encodings_agree (mode : Mode) (depth : Nat) (s : Surface) (method : String)
    {p q : Payload} {v w : Json} (hp : p.encode = .ok v) (hq : q.encode = .ok w) :
    encodeArguments p = .ok (spread v) ∧ encodeArguments q = .ok (spread w) ∧
      ((spread v == spread w) = true ↔ (v == w) = true ∨ v.Collides w ∨ w.Collides v) ∧
      s.WritesAlike mode depth method p q (spread v) (spread w) ∧
      (spread v == spread v) = true ∧
      s.WritesAlike mode depth method p p (spread v) (spread v) := by
  have hv := encodeArguments_eq_ok hp
  have hw := encodeArguments_eq_ok hq
  have hself : (spread v == spread v) = true := (v.spread_beq_iff v).mpr (.inl v.beq_self)
  exact ⟨hv, hw, v.spread_beq_iff w, .of_encodeArguments mode depth s method hv hw, hself,
    .of_encodeArguments mode depth s method hv hv⟩

/-- A zero in an array is expected, and the other zero is given bare. -/
theorem encodings_agree_zeros :
    let s : Surface := (⟨.strict, true, "."⟩ : Handle).surface "svc"
    let wrapped : Payload := .value (.arr [.float .zero])
    let bare : Payload := .value (.float Double.zero.neg)
    let expected := (s.expect "m").addAll [.matching [.any], .arguments wrapped, .times .anyNumber]
    let registered := expected.register.run (Recorder.serve .strict 0) (.ofBook .empty)
    registered.1 = .ok (.ok 0) ∧
      (∃ e, registered.2.book.expectations[0]? = some e ∧ e.id = 0 ∧
        e.accepts true "svc.m" [.float Double.zero.neg] = .ok true) ∧
      ∃ l r, ArgumentMatcher.exactly wrapped = .ok l ∧ ArgumentMatcher.exactly bare = .ok r ∧
        l.overlaps r = .ok true := by
  intro s wrapped bare expected registered
  obtain ⟨-, -, hiff, hwrites, -⟩ :=
    encodings_agree .strict 0 s "m" (p := wrapped) (q := bare) rfl rfl
  have halike := hiff.mpr (.inr (.inr (.single rfl rfl)))
  have hafter : ∀ part ∈ [ExpectationBuilder.Part.times .anyNumber], part.KeepsArguments :=
    List.forall_mem_singleton.mpr trivial
  obtain ⟨e, he, hid, haccepts⟩ :=
    hwrites.expected [.matching [.any]] _ hafter (.ofBook .empty) 0 rfl [] List.not_mem_nil
  have hopen : e.isExhausted true = false := by
    cases he
    rfl
  refine ⟨rfl, ⟨e, he, hid, ?_⟩, ?_⟩
  · exact (haccepts true hopen).1.trans (congrArg Except.ok halike)
  · obtain ⟨l, r, hl, hr, hoverlaps⟩ := hwrites.compared
    exact ⟨l, r, hl, hr, hoverlaps.trans (congrArg Except.ok halike)⟩

end TestDouble
