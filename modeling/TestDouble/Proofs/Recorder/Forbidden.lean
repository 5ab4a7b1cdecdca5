import TestDouble.Callback
import TestDouble.Proofs.Recorder.Answer
import TestDouble.Proofs.Recorder.Growth
import TestDouble.Proofs.Recorder.Verdict

/-!
# Forbidden calls

An expectation with the cap zero is never exhausted. Every call that gets to it is taken by it, and
by none that was registered later (`Book.record_forbidden`). Since counts never go down without a
reset, every later verification reports the expectation (`Turn.forbidden_stays`).
-/

namespace TestDouble

variable {mode : Mode} {depth : Nat} {saturate : Bool} {arguments : List Json} {f : Expectation}

/-- What forbids calls is never exhausted. -/
theorem Expectation.isExhausted_eq_false (hf : f.times.max = some 0) (saturate : Bool) :
    f.isExhausted saturate = false := by
  rw [isExhausted, Times.isExhaustedBy_of_forbidsCalls (Times.forbidsCalls_iff.mpr hf),
    Bool.and_false]

/-- What forbids calls accepts every call that its matcher accepts. -/
theorem Expectation.accepts_of_forbids (hf : f.times.max = some 0) (saturate : Bool)
    (ha : f.matcher.accepts arguments = .ok true) :
    f.accepts saturate f.operation arguments = .ok true :=
  accepts_eq_true_iff.mpr ⟨rfl, isExhausted_eq_false hf saturate, ha⟩

/-- One call is one too many. -/
theorem Expectation.isSatisfied_eq_false (hf : f.times.max = some 0) (hpos : 0 < f.consumed) :
    f.isSatisfied = false := by
  rw [isSatisfied, ← Bool.not_eq_true, Times.isSatisfiedBy_iff, hf]
  rintro ⟨-, hle⟩
  exact Nat.not_le_of_lt hpos (hle 0 rfl)

namespace Book

variable {b : Book}

/-- **A call that gets to an expectation that forbids it is taken by it.** -/
theorem record_forbidden (h : b.Consistent) (hf : f ∈ b.expectations)
    (hmax : f.times.max = some 0) (ha : f.matcher.accepts arguments = .ok true)
    (hbefore : ∀ x ∈ b.expectations, x.id < f.id →
      x.accepts saturate f.operation arguments = .ok false) :
    ∃ es, b.record saturate f.operation arguments =
      (.ok (some f.consume), b.enter f.operation arguments (some f.id) es) := by
  obtain ⟨l, r, hes⟩ := List.append_of_mem hf
  obtain ⟨hlt, -⟩ := h.lt_of_split hes
  refine ⟨_, record_split hes (fun x hx => hbefore x ?_ (hlt x hx))
    (Expectation.accepts_of_forbids hmax saturate ha)⟩
  rw [hes]
  exact List.mem_append_left _ hx

/-- A call that an expectation forbids is taken by it or by an earlier one, if it is recorded. -/
theorem record_forbidden_le (h : b.Consistent) (hf : f ∈ b.expectations)
    (hmax : f.times.max = some 0) (ha : f.matcher.accepts arguments = .ok true)
    {c : RecordedCall}
    (hc : (b.record saturate f.operation arguments).2.calls = b.calls ++ [c]) :
    ∃ i ≤ f.id, c.matched = some i := by
  have haccepts := Expectation.accepts_of_forbids hmax saturate ha
  rcases b.record_cases saturate f.operation arguments with
    ⟨crash, hr⟩ | ⟨hall, -⟩ | ⟨l, e, r, hes, hrefuse, -, hr⟩
  · simp [hr, skip] at hc
  · rw [hall f hf] at haccepts
    cases haccepts
  · obtain rfl : _ = c := by simpa [hr] using hc
    refine ⟨e.id, Nat.le_of_not_lt fun hlt => ?_, rfl⟩
    -- the expectations after the one that takes the call have greater ids
    obtain ⟨-, hafter⟩ := h.lt_of_split hes
    rw [hes, List.mem_append, List.mem_cons] at hf
    rcases hf with hf | rfl | hf
    · rw [hrefuse f hf] at haccepts
      cases haccepts
    · exact Nat.lt_irrefl _ hlt
    · exact Nat.lt_asymm hlt (hafter f hf)

end Book

/-- **The answer to a call that is forbidden**: a strict recorder fails it and does no more than
record it; on a lenient one a value is returned, a failure is raised, and a callback runs and what it
answers is the answer. -/
theorem Recorder.answer_forbidden {b b' : Book} {d : Desk} (hd : d.book = b)
    (hmax : f.times.max = some 0)
    (hr : b.record saturate f.operation arguments = (.ok (some f), b')) :
    let recorded := (record mode saturate f.operation arguments d).2
    (mode = .strict → serve mode depth (.invoke saturate f.operation arguments) d =
        (.ok (.error f.violation), recorded)) ∧
      (mode = .lenient →
        let served := serve mode (depth + 1) (.invoke saturate f.operation arguments) d
        (∀ v, f.outcome = .returns v → served = (.ok (.ok v), recorded)) ∧
        (∀ failure, f.outcome = .fails failure →
          served = (.ok (.error (.raised failure)), recorded)) ∧
        ∀ body, f.outcome = .callback body →
          let ran := (body (f.consumed - 1) arguments).run (serve mode depth) recorded
          served = (ran.1.map (Except.mapError .raised), ran.2)) := by
  constructor
  · rintro rfl
    exact serve_invoke_forbidden depth hd hr (by rw [Times.forbidsCalls_iff.mpr hmax]; rfl)
  · rintro rfl served
    have hserved : served = apply (fun body d => body.run (serve .lenient depth) d) (f.consumed - 1)
        arguments f.outcome (record .lenient saturate f.operation arguments d).2 :=
      serve_invoke_apply depth hd hr (Bool.and_false _)
    refine ⟨fun v hv => ?_, fun failure hfailure => ?_, fun body hbody => ?_⟩
    · rw [hserved, hv, apply]
    · rw [hserved, hfailure, apply]
    · rw [hserved, hbody, apply_callback]

/-- **A call that was forbidden stays on record.** It keeps its place, every later verification of
all expectations fails for the one that took it, and the verification of other calls does not see
the calls that this one took. -/
theorem Turn.forbidden_stays (mode : Mode) {b : Book} (h : b.Consistent)
    (hf : f ∈ b.expectations) (hmax : f.times.max = some 0) {n : Nat} {c : RecordedCall}
    (hc : b.calls[n]? = some c) (hm : c.matched = some f.id) {ts : List Turn}
    (hts : .reset ∉ ts) :
    let w := play mode ts b
    let e := { f with consumed := w.matches.count (some f.id) }
    (∃ x, w.calls[n]? = some x ∧ x.unmarked = c.unmarked) ∧ e ∈ w.expectations ∧
      ∀ depth (d : Desk), d.book = w →
        (∃ err, (Recorder.serve mode depth .verifyAll d).1 = .ok (.error err) ∧
          e.violation ∈ err.failures) ∧
        (Recorder.serve mode depth .verifyNoOtherCalls d).1 = .ok (TestError.collect
          { w with calls := w.calls.filter fun c => c.matched ≠ some f.id }.strayCalls) := by
  intro w e
  have hgrow := play_extends mode b hts
  have hlater : e ∈ w.expectations := play_mem mode h hf hts
  have htaken : some f.id ∈ b.matches := hm ▸ List.mem_map_of_mem (List.mem_of_getElem? hc)
  refine ⟨hgrow.exists_getElem? hc, hlater, fun depth d hd => ⟨?_, ?_⟩⟩
  · refine Recorder.verifyAll_error (hd ▸ hlater) (Expectation.isSatisfied_eq_false hmax ?_)
    exact List.count_pos_iff.mpr (hgrow.matches_grow.subset htaken)
  · rw [Recorder.serve_verifyNoOtherCalls, Book.strayCalls_without, hd]

/-- **Forbidden calls are never lost.** Take any book that turns lead to and an expectation in it
whose cap is zero, and go on in any way without a reset. A call that the expectation forbids is
taken by it or by an earlier one, if it is recorded; and if the earlier ones refuse it, it is
recorded as taken by this one. A strict recorder then answers with the count and runs nothing. A
lenient one returns the value or raises the failure that it was told to, or it runs the callback and
answers what that answers. From then on the call stays where it is, every
verification of all expectations fails for this one with its count, and the verification of other
calls reports what it would if the calls that this one took had not been made. -/
theorem forbidden_calls_never_lost (mode : Mode) (ts us : List Turn) (f : Expectation)
    (hf : f ∈ (Turn.play mode ts .empty).expectations) (hmax : f.times.max = some 0)
    (hus : .reset ∉ us) (saturate : Bool) (arguments : List Json)
    (ha : f.matcher.accepts arguments = .ok true) :
    let b := Turn.play mode us (Turn.play mode ts .empty)
    let b' := (Turn.call saturate f.operation arguments).step mode b
    let call : RecordedCall := ⟨b.nextSequence, f.operation, arguments, some f.id, false⟩
    (∀ c, b'.calls = b.calls ++ [c] → ∃ i ≤ f.id, c.matched = some i) ∧
    ((∀ x ∈ b.expectations, x.id < f.id → x.accepts saturate f.operation arguments = .ok false) →
      b'.calls = b.calls ++ [call] ∧
      (∀ depth (d : Desk), d.book = b →
        let recorded := (Recorder.record mode saturate f.operation arguments d).2
        recorded.book = b' ∧
        (mode = .strict →
          Recorder.serve mode depth (.invoke saturate f.operation arguments) d =
            (.ok (.error (.unsatisfied f.operation f.matcher.text f.times
              (b'.matches.count (some f.id)))), recorded)) ∧
        (mode = .lenient →
          let served := Recorder.serve mode (depth + 1) (.invoke saturate f.operation arguments) d
          (∀ v, f.outcome = .returns v → served = (.ok (.ok v), recorded)) ∧
          (∀ failure, f.outcome = .fails failure →
            served = (.ok (.error (.raised failure)), recorded)) ∧
          ∀ body, f.outcome = .callback body →
            let ran := (body (b.matches.count (some f.id)) arguments).run
              (Recorder.serve mode depth) recorded
            served = (ran.1.map (Except.mapError .raised), ran.2))) ∧
      ∀ vs : List Turn, .reset ∉ vs →
        let w := Turn.play mode vs b'
        let e := { f with consumed := w.matches.count (some f.id) }
        (∃ c, w.calls[b.calls.length]? = some c ∧ c.unmarked = call) ∧ e ∈ w.expectations ∧
          ∀ depth (d : Desk), d.book = w →
            (∃ err, (Recorder.serve mode depth .verifyAll d).1 = .ok (.error err) ∧
              e.violation ∈ err.failures) ∧
            (Recorder.serve mode depth .verifyNoOtherCalls d).1 = .ok (TestError.collect
              { w with calls := w.calls.filter fun c => c.matched ≠ some f.id }.strayCalls)) := by
  intro b b' call
  have hstart : (Turn.play mode ts .empty).Consistent := Book.Consistent.empty.play mode ts
  have hb : b.Consistent := hstart.play mode us
  have hb' : b'.Consistent := hb.step mode _
  -- the expectation as the call finds it
  have he : { f with consumed := b.matches.count (some f.id) } ∈ b.expectations :=
    Turn.play_mem mode hstart hf hus
  refine ⟨fun c hc => Book.record_forbidden_le hb he hmax ha hc, fun hbefore => ?_⟩
  obtain ⟨es, hrecord⟩ := Book.record_forbidden hb he hmax ha hbefore
  have hcalls : b'.calls = b.calls ++ [call] := congrArg (·.2.calls) hrecord
  -- and as it leaves it
  have hmem : { f with consumed := b.matches.count (some f.id) + 1 } ∈ b'.expectations :=
    Book.record_mem (congrArg Prod.fst hrecord)
  have hcount : b.matches.count (some f.id) + 1 = b'.matches.count (some f.id) :=
    hb'.consumed _ hmem
  refine ⟨hcalls, fun depth d hd => ?_, fun vs hvs => ?_⟩
  · refine ⟨by rw [Recorder.record_book, hd], ?_⟩
    rw [← hcount]
    exact Recorder.answer_forbidden
      (f := { f with consumed := b.matches.count (some f.id) + 1 }) hd hmax hrecord
  · refine Turn.forbidden_stays mode hb' hmem hmax (c := call) ?_ rfl hvs
    rw [hcalls, List.getElem?_append_right (Nat.le_refl _), Nat.sub_self]
    rfl

/-- A registration with a cap and one that forbids what it overlaps, with a callback that counts. -/
def Turn.forbiddenRun : List Turn :=
  [.register true "op" ⟨[.any]⟩ (.returns (.bool true)) .once,
    .register true "op" ⟨[.any]⟩ (.callback (Callback.counter 7)) .never]

/-- The second call hits the registration that forbids it: a strict recorder fails it, and after a
third one the verification reports two; a lenient one gives the answer of the callback. -/
theorem forbidden_calls_never_lost_twice :
    let t := Turn.call true "op" [.null]
    let b := Turn.play .strict [t] (Turn.play .strict Turn.forbiddenRun .empty)
    let w := Turn.play .strict [t, t] b
    let l := Turn.play .lenient [t] (Turn.play .lenient Turn.forbiddenRun .empty)
    (Recorder.serve .strict 0 (.invoke true "op" [.null]) (.ofBook b)).1 =
        .ok (.error (.unsatisfied "op" "_" .never 1)) ∧
      (∃ err, (Recorder.serve .strict 0 .verifyAll (.ofBook w)).1 = .ok (.error err) ∧
        .unsatisfied "op" "_" .never 2 ∈ err.failures) ∧
      (Recorder.serve .lenient 1 (.invoke true "op" [.null]) (.ofBook l)).1 =
        .ok (.ok (.int 7)) := by
  intro t b w l
  let first : Expectation := ⟨0, "op", ⟨[.any]⟩, .returns (.bool true), .once, 1⟩
  let f : Expectation := ⟨1, "op", ⟨[.any]⟩, .callback (Callback.counter 7), .never, 0⟩
  have hreset : .reset ∉ [t] := by simp [t]
  -- the first registration is used up by the call that has been made
  have hbefore : ∀ x ∈ [first, f], x.id < f.id → x.accepts true "op" [.null] = .ok false := by
    refine List.forall_mem_cons.mpr ⟨fun _ => rfl, List.forall_mem_singleton.mpr fun hlt => ?_⟩
    exact absurd hlt (Nat.lt_irrefl _)
  have hes : b.expectations = [first, f] := rfl
  have hes' : l.expectations = [first, f] := rfl
  obtain ⟨-, hcall⟩ := forbidden_calls_never_lost .strict Turn.forbiddenRun [t] f
    (.tail _ (.head _)) rfl hreset true [.null] rfl
  obtain ⟨-, hanswer, hlater⟩ := hcall (hes ▸ hbefore)
  obtain ⟨-, hstrict, -⟩ := hanswer 0 (.ofBook b) rfl
  obtain ⟨-, -, hreport⟩ := hlater [t] hreset
  obtain ⟨-, hcall'⟩ := forbidden_calls_never_lost .lenient Turn.forbiddenRun [t] f
    (.tail _ (.head _)) rfl hreset true [.null] rfl
  obtain ⟨-, hanswer', -⟩ := hcall' (hes' ▸ hbefore)
  obtain ⟨-, -, hlenient⟩ := hanswer' 0 (.ofBook l) rfl
  obtain ⟨-, -, hcallback⟩ := hlenient rfl
  exact ⟨congrArg Prod.fst (hstrict rfl), (hreport 0 (.ofBook w) rfl).1,
    congrArg Prod.fst (hcallback _ rfl)⟩

end TestDouble
