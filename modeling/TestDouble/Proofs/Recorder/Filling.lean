import TestDouble.Callback
import TestDouble.Proofs.Recorder.Answer
import TestDouble.Proofs.Recorder.Demand
import TestDouble.Proofs.Recorder.Relevance
import TestDouble.Proofs.Recorder.Starvation

/-!
# Filling caps in order

Some capped expectations of one operation all take the same call. When it is made again and again
the first one is filled up to its cap, then the second, and so on, and when all are full nobody takes
the call any more. `filled` says what the counts are after any number of calls and `pours` which
expectation takes the next one; one look-up leads from each such state to the next (`route_filled`).
How full each expectation is, and who takes which call, can then be said by the sums of the caps
alone (`caps_filled_in_order`).
-/

namespace TestDouble

variable {mode : Mode} {operation : String} {arguments : List Json}

namespace Registration

/-- The greatest number of calls, zero if there is none. -/
def cap (r : Registration) : Nat := r.times.max.getD 0

/-- The registration takes such calls up to a cap other than zero, and its outcome leaves the
recorder alone. -/
structure TakesUpToCap (operation : String) (arguments : List Json) (r : Registration) : Prop where
  suits : r.Suits operation arguments
  limited : ∃ m ∈ r.times.max, 0 < m
  silent : r.outcome.Silent

/-- The request to register with a handle that enforces caps. -/
def cappedRequest (r : Registration) : Request .registration :=
  .register true r.operation r.matcher r.outcome r.times

end Registration

/-- How many calls the first `i` of some registrations take together. -/
def capsBefore (rs : List Registration) (i : Nat) : Nat := ((rs.take i).map Registration.cap).sum

@[simp] theorem capsBefore_zero (rs : List Registration) : capsBefore rs 0 = 0 := rfl

@[simp] theorem capsBefore_succ (r : Registration) (rs : List Registration) (i : Nat) :
    capsBefore (r :: rs) (i + 1) = r.cap + capsBefore rs i := by
  simp [capsBefore]

/-! ### Who is full and who is next -/

/-- The expectations of some registrations, numbered from an id on, after `k` calls: each is filled
up to its cap before the next one gets any. -/
def filled : List Registration → Nat → Nat → List Expectation
  | [], _, _ => []
  | r :: rs, id, k => r.expectation id (min r.cap k) :: filled rs (id + 1) (k - r.cap)

/-- The expectation that takes the call after `k` others, with the call counted. -/
def pours : List Registration → Nat → Nat → Option Expectation
  | [], _, _ => none
  | r :: rs, id, k =>
    if k < r.cap then some (r.expectation id (k + 1)) else pours rs (id + 1) (k - r.cap)

theorem filled_eq_mapIdx (rs : List Registration) (id k : Nat) :
    filled rs id k =
      rs.mapIdx fun i r => r.expectation (id + i) (min r.cap (k - capsBefore rs i)) := by
  induction rs generalizing id k with
  | nil => rfl
  | cons r rs ih =>
    rw [filled, ih, List.mapIdx_cons]
    simp [Nat.sub_add_eq, Nat.add_assoc, Nat.add_comm 1]

theorem pours_eq_none_iff {rs : List Registration} {id k : Nat} :
    pours rs id k = none ↔ capsBefore rs rs.length ≤ k := by
  induction rs generalizing id k with
  | nil => simp [pours]
  | cons r rs ih =>
    rw [pours, List.length_cons, capsBefore_succ]
    split_ifs with hk
    · simp only [false_iff]
      omega
    · rw [ih]
      omega

theorem pours_eq_some_iff {rs : List Registration} {id k : Nat} {e : Expectation} :
    pours rs id k = some e ↔
      ∃ i r, rs[i]? = some r ∧ capsBefore rs i ≤ k ∧ k < capsBefore rs (i + 1) ∧
        e = r.expectation (id + i) (k - capsBefore rs i + 1) := by
  induction rs generalizing id k with
  | nil => simp [pours]
  | cons r rs ih =>
    rw [pours]
    split_ifs with hk
    · constructor
      · intro he
        exact ⟨0, r, rfl, Nat.zero_le k, by simpa using hk, (Option.some.inj he).symm⟩
      · rintro ⟨i, x, hx, hle, -, rfl⟩
        cases i with
        | zero =>
          obtain rfl : r = x := by simpa using hx
          rfl
        | succ i =>
          rw [capsBefore_succ] at hle
          omega
    · rw [ih]
      constructor
      · rintro ⟨i, x, hx, hle, hlt, rfl⟩
        refine ⟨i + 1, x, by simpa using hx, ?_, ?_, ?_⟩
        · rw [capsBefore_succ]
          omega
        · rw [capsBefore_succ]
          omega
        · rw [capsBefore_succ, Nat.sub_add_eq, Nat.add_assoc, Nat.add_comm 1]
      · rintro ⟨i, x, hx, hle, hlt, rfl⟩
        cases i with
        | zero =>
          rw [capsBefore_succ, capsBefore_zero] at hlt
          omega
        | succ i =>
          rw [capsBefore_succ] at hle hlt ⊢
          refine ⟨i, x, by simpa using hx, by omega, by omega, ?_⟩
          rw [Nat.sub_add_eq, Nat.add_assoc, Nat.add_comm 1]

/-- The id says which registration takes the call. -/
theorem pours_id_eq_iff {rs : List Registration} {id k i : Nat} {r : Registration}
    (hr : rs[i]? = some r) :
    (pours rs id k).map (·.id) = some (id + i) ↔
      capsBefore rs i ≤ k ∧ k < capsBefore rs (i + 1) := by
  constructor
  · intro hid
    obtain ⟨e, he, hid⟩ := Option.map_eq_some_iff.mp hid
    obtain ⟨i', r', -, hle, hlt, rfl⟩ := pours_eq_some_iff.mp he
    obtain rfl : i' = i := Nat.add_left_cancel hid
    exact ⟨hle, hlt⟩
  · rintro ⟨hle, hlt⟩
    rw [pours_eq_some_iff.mpr ⟨i, r, hr, hle, hlt, rfl⟩]
    rfl

/-! ### One call -/

namespace Registration.TakesUpToCap

variable {r : Registration} (h : r.TakesUpToCap operation arguments)
include h

theorem max_eq : r.times.max = some r.cap ∧ 0 < r.cap := by
  obtain ⟨m, hm, hpos⟩ := h.limited
  have hmax : r.times.max = some m := hm
  rw [cap, hmax]
  exact ⟨rfl, hpos⟩

theorem not_forbidding : r.times.forbidsCalls = false := by
  obtain ⟨hmax, hpos⟩ := h.max_eq
  rw [← Bool.not_eq_true, Times.forbidsCalls_iff, hmax, Option.some.injEq]
  omega

/-- Calls are taken below the cap. -/
theorem accepts {consumed : Nat} (hlt : consumed < r.cap) (id : Nat) :
    (r.expectation id consumed).accepts true operation arguments = .ok true := by
  refine Registration.accepts_iff_fits.mpr ⟨h.suits.1, h.suits.2, fun _ m hm _ => ?_⟩
  obtain rfl : r.cap = m := Option.some.inj (h.max_eq.1.symm.trans hm)
  exact hlt

/-- Calls are refused when the cap is reached. -/
theorem refuses {consumed : Nat} (hle : r.cap ≤ consumed) (id : Nat) :
    (r.expectation id consumed).accepts true operation arguments = .ok false := by
  refine Expectation.accepts_eq_false_iff.mpr fun _ hopen => ?_
  rw [Expectation.isExhausted_iff.mpr ⟨r.cap, h.max_eq.1, h.max_eq.2, hle⟩] at hopen
  cases hopen

end Registration.TakesUpToCap

/-- **One look-up pours one call**, and leads to the counts after one call more. -/
theorem route_filled {rs : List Registration}
    (hrs : ∀ r ∈ rs, r.TakesUpToCap operation arguments) (id k : Nat) :
    Book.route true operation arguments (filled rs id k) =
      .ok (pours rs id k, filled rs id (k + 1)) := by
  induction rs generalizing id k with
  | nil => rfl
  | cons r rs ih =>
    obtain ⟨hr, hrs⟩ := List.forall_mem_cons.mp hrs
    rw [filled, filled, pours, Book.route]
    by_cases hk : k < r.cap
    · -- the first one has room, so nothing has got past it before or gets past it now
      have hcount : min r.cap k = k := by omega
      have hfull : min r.cap (k + 1) = k + 1 := by omega
      have hrest : k - r.cap = k + 1 - r.cap := by omega
      rw [hcount, hr.accepts hk, if_pos hk, hfull, hrest]
      rfl
    · -- the first one is full and stays so, and the call is the next one for the rest
      have hcount : min r.cap k = r.cap := by omega
      have hfull : min r.cap (k + 1) = r.cap := by omega
      have hrest : k + 1 - r.cap = k - r.cap + 1 := by omega
      rw [hcount, hr.refuses r.cap.le_refl, if_neg hk, hfull, hrest, ih hrs]

/-- Behind expectations of other operations it is the same: the call is recorded as taken by the
expectation that is next. -/
theorem Book.record_filled {b : Book} {rs : List Registration} {others : List Expectation}
    {id k : Nat} (hrs : ∀ r ∈ rs, r.TakesUpToCap operation arguments)
    (hothers : ∀ e ∈ others, e.operation ≠ operation)
    (hb : b.expectations = others ++ filled rs id k) :
    b.record true operation arguments =
      (.ok (pours rs id k), b.enter operation arguments ((pours rs id k).map (·.id))
        (others ++ filled rs id (k + 1))) := by
  have hroute : route true operation arguments b.expectations =
      .ok (pours rs id k, others ++ filled rs id (k + 1)) := by
    rw [hb, route_append _ fun e he => Expectation.accepts_of_ne (hothers e he), route_filled hrs]
    rfl
  rw [record, hroute]
  rfl

/-- A call was recorded as taken by an expectation and answered by its outcome, or was taken by none
and answered by the mode. -/
structure Poured (mode : Mode) (operation : String) (arguments : List Json)
    (taker : Option Expectation) (c : RecordedCall) (answer : Except Stop (Except TestError Json)) :
    Prop where
  operation_eq : c.operation = operation
  arguments_eq : c.arguments = arguments
  matched : c.matched = taker.map (·.id)
  hit : ∀ e, taker = some e → ∃ reply, e.outcome.reply? (e.consumed - 1) arguments = some reply ∧
    answer = reply.mapError .crashed
  miss : taker = none → answer =
    .ok (if mode.isStrict then .error (.unexpectedCall operation arguments) else .ok .null)

namespace Recorder

variable {rs : List Registration} {id k : Nat} {d : Desk} {others : List Expectation}

/-- **One call to the recorder** goes where the look-up pours it. -/
theorem serve_filled (mode : Mode) (depth : Nat)
    (hrs : ∀ r ∈ rs, r.TakesUpToCap operation arguments)
    (hothers : ∀ e ∈ others, e.operation ≠ operation)
    (hd : d.book.expectations = others ++ filled rs id k) :
    let served := serve mode (depth + 1) (.invoke true operation arguments) d
    served.2.book.expectations = others ++ filled rs id (k + 1) ∧
      ∃ c, served.2.book.calls = d.book.calls ++ [c] ∧
        Poured mode operation arguments (pours rs id k) c served.1 := by
  intro served
  have hrecord := Book.record_filled hrs hothers hd
  have htaker : ∀ e, pours rs id k = some e →
      e.outcome.Silent ∧ e.times.forbidsCalls = false := by
    intro e he
    obtain ⟨i, r, hr, -, -, rfl⟩ := pours_eq_some_iff.mp he
    have htakes := hrs r (List.mem_of_getElem? hr)
    exact ⟨htakes.silent, htakes.not_forbidding⟩
  have hbook : served.2.book = d.book.enter operation arguments ((pours rs id k).map (·.id))
      (others ++ filled rs id (k + 1)) := by
    rw [serve_invoke_book_of_hit, hrecord]
    intro e he
    rw [hrecord] at he
    exact (htaker e (Except.ok.inj he)).1
  refine ⟨by rw [hbook, Book.enter_expectations], _, by rw [hbook, Book.enter_calls], rfl, rfl, rfl,
    fun e he => ?_, fun hnone => ?_⟩
  · obtain ⟨hsilent, hforbids⟩ := htaker e he
    obtain ⟨reply, hreply⟩ := hsilent (e.consumed - 1) arguments
    rw [he] at hrecord
    refine ⟨reply, hreply, ?_⟩
    simp only [served]
    rw [serve_invoke_apply depth rfl hrecord (by rw [hforbids, Bool.false_and])]
    exact apply_silent hreply _
  · rw [hnone] at hrecord
    exact serve_invoke_none _ rfl hrecord

/-- **The same call again and again**: each call is poured where the ones before it have left off. -/
theorem repeated_filled (mode : Mode) (depth : Nat)
    (hrs : ∀ r ∈ rs, r.TakesUpToCap operation arguments)
    (hothers : ∀ e ∈ others, e.operation ≠ operation)
    (hd : d.book.expectations = others ++ filled rs id k) (n : Nat) :
    let after := repeated mode (depth + 1) operation arguments n d
    let answers := replies mode (depth + 1) (List.replicate n (.invoke true operation arguments)) d
    after.book.expectations = others ++ filled rs id (k + n) ∧
      ∃ cs, after.book.calls = d.book.calls ++ cs ∧ cs.length = n ∧ answers.length = n ∧
        ∀ j c answer, cs[j]? = some c → answers[j]? = some answer →
          Poured mode operation arguments (pours rs id (k + j)) c answer := by
  induction n generalizing d k with
  | zero => exact ⟨hd, [], (List.append_nil _).symm, rfl, rfl, by simp⟩
  | succ n ih =>
    intro after answers
    obtain ⟨hes, c, hc, hanswered⟩ := serve_filled mode depth hrs hothers hd
    obtain ⟨hes', cs, hcs, hlength, hanswers, hrest⟩ := ih hes
    refine ⟨?_, c :: cs, ?_, ?_, ?_, ?_⟩
    · rw [Nat.add_right_comm] at hes'
      exact hes'
    · rw [hc, List.append_assoc] at hcs
      exact hcs
    · rw [List.length_cons, hlength]
    · simp only [answers, List.replicate_succ, replies, List.length_cons, hanswers]
    · intro j c' answer hc' hanswer
      cases j with
      | zero =>
        obtain rfl : c = c' := by simpa using hc'
        obtain rfl := Option.some.inj hanswer
        exact hanswered
      | succ j =>
        have := hrest j c' answer (by simpa using hc') hanswer
        rwa [Nat.add_assoc, Nat.add_comm 1] at this

/-- Behind capped expectations a registration is accepted. -/
theorem serve_cappedRequest (mode : Mode) (depth : Nat) (r : Registration)
    (hcapped : ∀ e ∈ d.book.expectations, e.operation = r.operation → e.times.isCapped = true) :
    (serve mode depth r.cappedRequest d).1 = .ok (.ok d.book.nextExpectation) ∧
      (serve mode depth r.cappedRequest d).2.book =
        d.book.add r.operation r.matcher r.outcome r.times := by
  have hshadow : Book.shadowOf true r.operation r.matcher d.book.expectations = .ok none := by
    refine Book.shadowOf_eq_none_iff.mpr fun e he => Expectation.shadows_eq_false_iff.mpr ?_
    intro ho hcap
    rw [hcapped e he ho] at hcap
    cases hcap
  rw [Registration.cappedRequest, serve, register, hshadow]
  exact ⟨rfl, rfl⟩

/-- **All registrations are accepted**, in both modes, and nothing is poured yet. -/
theorem serveEach_cappedRequests (mode : Mode) (depth : Nat)
    (hrs : ∀ r ∈ rs, r.TakesUpToCap operation arguments)
    (hcapped : ∀ e ∈ d.book.expectations, e.operation = operation → e.times.isCapped = true) :
    let ready := serveEach mode depth (rs.map fun r => ⟨_, r.cappedRequest⟩) d
    replies mode depth (rs.map Registration.cappedRequest) d =
        (List.range' d.book.nextExpectation rs.length).map (fun id => .ok (.ok id)) ∧
      ready.book.expectations = d.book.expectations ++ filled rs d.book.nextExpectation 0 ∧
      ready.book.calls = d.book.calls := by
  induction rs generalizing d with
  | nil => exact ⟨rfl, (List.append_nil _).symm, rfl⟩
  | cons r rs ih =>
    obtain ⟨hr, hrs⟩ := List.forall_mem_cons.mp hrs
    obtain ⟨hreply, hbook⟩ := serve_cappedRequest mode depth r (d := d)
      fun e he ho => hcapped e he (ho.trans hr.suits.1)
    -- what was just registered is capped as well, so it does not shadow those after it
    have hcapped' : ∀ e ∈ (serve mode depth r.cappedRequest d).2.book.expectations,
        e.operation = operation → e.times.isCapped = true := by
      intro e he
      rw [hbook, Book.add, List.mem_append, List.mem_singleton] at he
      rcases he with he | rfl
      · exact hcapped e he
      · exact fun _ => Option.isSome_iff_exists.mpr ⟨_, hr.max_eq.1⟩
    obtain ⟨hreplies, hes, hcalls⟩ := ih hrs hcapped'
    refine ⟨?_, ?_, ?_⟩
    · rw [List.map_cons, replies, hreply, hreplies, hbook]
      rfl
    · refine hes.trans ?_
      rw [hbook, Book.add, List.append_assoc, filled, Nat.min_zero, Nat.zero_sub]
      rfl
    · refine hcalls.trans ?_
      rw [hbook]
      rfl

end Recorder

/-- **Caps are filled in order.** A recorder that has no expectation of an operation yet gets some
from a handle that enforces caps, each with a cap other than zero, all accepting the same arguments,
and none with an outcome that asks something of the recorder. They are all accepted. Then the call
with these arguments is made any number of times. Each expectation has counted the calls that the
caps before it have left, up to its own cap. The call after `j` others has gone to the expectation
whose cap takes it, and was answered by its outcome; from the sum of all caps on the calls went
nowhere, and were answered by the mode. -/
theorem caps_filled_in_order (mode : Mode) (depth : Nat) (operation : String)
    (arguments : List Json) (rs : List Registration)
    (hrs : ∀ r ∈ rs, r.TakesUpToCap operation arguments) (d : Desk)
    (hd : ∀ e ∈ d.book.expectations, e.operation ≠ operation) (k : Nat) :
    let id := d.book.nextExpectation
    let ready := Recorder.serveEach mode (depth + 1) (rs.map fun r => ⟨_, r.cappedRequest⟩) d
    let after := Recorder.repeated mode (depth + 1) operation arguments k ready
    let answers := Recorder.replies mode (depth + 1)
      (List.replicate k (.invoke true operation arguments)) ready
    Recorder.replies mode (depth + 1) (rs.map Registration.cappedRequest) d =
        (List.range' id rs.length).map (fun i => .ok (.ok i)) ∧
      after.book.expectations = d.book.expectations ++
        rs.mapIdx (fun i r => r.expectation (id + i) (min r.cap (k - capsBefore rs i))) ∧
      ∃ cs, after.book.calls = d.book.calls ++ cs ∧ cs.length = k ∧ answers.length = k ∧
        ∀ j c answer, cs[j]? = some c → answers[j]? = some answer →
          c.operation = operation ∧ c.arguments = arguments ∧
          (∀ i r, rs[i]? = some r →
            (c.matched = some (id + i) ↔ capsBefore rs i ≤ j ∧ j < capsBefore rs (i + 1)) ∧
            (c.matched = some (id + i) →
              ∃ reply, r.outcome.reply? (j - capsBefore rs i) arguments = some reply ∧
                answer = reply.mapError .crashed)) ∧
          (c.matched = none ↔ capsBefore rs rs.length ≤ j) ∧
          (c.matched = none → answer =
            .ok (if mode.isStrict then .error (.unexpectedCall operation arguments)
              else .ok .null)) := by
  intro id ready after answers
  obtain ⟨hreplies, hready, hcalls⟩ := Recorder.serveEach_cappedRequests mode (depth + 1) hrs
    (d := d) fun e he ho => absurd ho (hd e he)
  obtain ⟨hes, cs, hcs, hlength, hanswers, hanswered⟩ :=
    Recorder.repeated_filled mode depth hrs hd hready k
  rw [Nat.zero_add, filled_eq_mapIdx] at hes
  rw [hcalls] at hcs
  refine ⟨hreplies, hes, cs, hcs, hlength, hanswers, fun j c answer hc hanswer => ?_⟩
  obtain ⟨hoperation, harguments, hmatched, hhit, hmiss⟩ := hanswered j c answer hc hanswer
  -- nothing was poured before the first call, so the call after `j` others is the one poured at `j`
  rw [Nat.zero_add] at hmatched hhit hmiss
  refine ⟨hoperation, harguments, fun i r hr => ⟨?_, fun hc => ?_⟩, ?_, fun hc => ?_⟩
  · rw [hmatched]
    exact pours_id_eq_iff hr
  · rw [hmatched, pours_id_eq_iff hr] at hc
    obtain ⟨reply, hreply, hanswer⟩ := hhit _ (pours_eq_some_iff.mpr ⟨i, r, hr, hc.1, hc.2, rfl⟩)
    exact ⟨reply, hreply, hanswer⟩
  · rw [hmatched, Option.map_eq_none_iff, pours_eq_none_iff]
  · rw [hmatched, Option.map_eq_none_iff] at hc
    exact hmiss hc

/-- An expectation of at most two calls, and one of exactly one call behind it. -/
def Registration.twoThenOne : List Registration :=
  [⟨"op", ⟨[.any]⟩, .returns (.int 1), .atMost 2⟩,
    ⟨"op", ⟨[.exact (.str "x")]⟩, .callback (Callback.counter 5), .once⟩]

/-- Four calls: two go to the first expectation, one to the second, and one nowhere. -/
theorem caps_filled_in_order_twoThenOne :
    let rs := Registration.twoThenOne
    let d := Desk.ofBook (Book.empty.add "other" .empty (.returns .null) .anyNumber)
    let ready := Recorder.serveEach .strict 1 (rs.map fun r => ⟨_, r.cappedRequest⟩) d
    let after := Recorder.repeated .strict 1 "op" [.str "x"] 4 ready
    let answers := Recorder.replies .strict 1 (List.replicate 4 (.invoke true "op" [.str "x"])) ready
    after.book.expectations.map (·.consumed) = [0, 2, 1] ∧
      ∃ c c' answer answer', after.book.calls[2]? = some c ∧ answers[2]? = some answer ∧
        c.matched = some 2 ∧ answer = .ok (.ok (.int 5)) ∧
        after.book.calls[3]? = some c' ∧ answers[3]? = some answer' ∧
        c'.matched = none ∧ answer' = .ok (.error (.unexpectedCall "op" [.str "x"])) := by
  intro rs d ready after answers
  have hrs : ∀ r ∈ rs, r.TakesUpToCap "op" [.str "x"] := by
    refine List.forall_mem_cons.mpr ⟨?_, List.forall_mem_singleton.mpr ?_⟩
    · exact ⟨⟨rfl, rfl⟩, ⟨2, rfl, by decide⟩, fun _ _ => ⟨_, rfl⟩⟩
    · exact ⟨⟨rfl, rfl⟩, ⟨1, rfl, by decide⟩, fun _ _ => ⟨_, rfl⟩⟩
  have hd : ∀ e ∈ d.book.expectations, e.operation ≠ "op" :=
    List.forall_mem_singleton.mpr (by decide)
  have hrun := caps_filled_in_order .strict 0 "op" [.str "x"] rs hrs d hd 4
  simp only [Nat.zero_add] at hrun
  obtain ⟨-, hes, cs, hcs, hlength, hanswers, hcalls⟩ := hrun
  obtain ⟨c, hc⟩ : ∃ c, cs[2]? = some c := ⟨_, List.getElem?_eq_getElem (by omega)⟩
  obtain ⟨c', hc'⟩ : ∃ c, cs[3]? = some c := ⟨_, List.getElem?_eq_getElem (by omega)⟩
  obtain ⟨answer, hanswer⟩ : ∃ answer, answers[2]? = some answer :=
    ⟨_, List.getElem?_eq_getElem (by rw [hanswers]; decide)⟩
  obtain ⟨answer', hanswer'⟩ : ∃ answer, answers[3]? = some answer :=
    ⟨_, List.getElem?_eq_getElem (by rw [hanswers]; decide)⟩
  obtain ⟨-, -, htaken, -⟩ := hcalls 2 c answer hc hanswer
  obtain ⟨hiff, hanswered⟩ := htaken 1 _ rfl
  have hmatched := hiff.mpr ⟨by decide, by decide⟩
  obtain ⟨reply, hreply, rfl⟩ := hanswered hmatched
  obtain rfl : reply = .ok (.ok (.int 5)) := (Option.some.inj hreply).symm
  obtain ⟨-, -, -, hmiss, hmissed⟩ := hcalls 3 c' answer' hc' hanswer'
  have hunmatched := hmiss.mpr (by decide)
  have hcalls : d.book.calls ++ cs = cs := rfl
  simp only [after, answers, ready, hes, hcs, hcalls]
  exact ⟨rfl, c, c', _, answer', hc, hanswer, hmatched, rfl, hc', hanswer', hunmatched,
    hmissed hunmatched⟩

end TestDouble
