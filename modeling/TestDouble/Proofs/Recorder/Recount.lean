import TestDouble.Predicate
import TestDouble.Proofs.Matching.Overlap
import TestDouble.Proofs.Recorder.Accounting
import TestDouble.Proofs.Recorder.Saturation

/-!
# Counting again

An expectation counts the calls that it takes, one by one; a verification with the operation and
the matcher of the expectation counts all calls that it would accept, after the fact. The second
number is never smaller, because every call that an expectation has taken suits it
(`Book.Consistent.consumed_le_recount`). It can be greater: a call may have gone to an earlier
expectation, may have come before the registration, or may have found the cap reached. Where none of
this can happen the two numbers are the same and the two ways of verifying agree
(`recounts_agree`), but for one thing: a verification asks the matcher about every call to the
operation, so it can meet a predicate that crashes where no look-up has come (`crash_stops_recount`).
-/

namespace TestDouble

/-! ### What a verification replies -/

namespace Check

/-- The matcher of the verification answers for every call that it is asked about. -/
def Ends (k : Check) (b : Book) : Prop :=
  ∀ c ∈ b.calls, c.operation = k.operation → k.matcher.Answers c.arguments

/-- What the verification says to a number of calls. -/
def verdict (k : Check) (n : Nat) : Except TestError Unit :=
  if k.times.isSatisfiedBy n then .ok ()
  else .error (.unsatisfied k.operation k.matcher.text k.times n)

theorem counts_iff {k : Check} {c : RecordedCall} :
    k.counts c = true ↔ c.operation = k.operation ∧ k.matcher.accepts c.arguments = .ok true := by
  rw [counts, decide_eq_true_iff, RecordedCall.countedBy]
  split_ifs with ho <;> simp [ho]

end Check

namespace Book

variable {operation : String} {matcher : ArgumentMatcher}

/-- A matcher that answers for every call counts those that it accepts. -/
theorem tally_of_answers {cs : List RecordedCall}
    (h : ∀ c ∈ cs, c.operation = operation → matcher.Answers c.arguments) (times : Times) :
    ∃ marked, tally operation matcher cs =
      .ok (cs.countP (Check.counts ⟨operation, matcher, times⟩), marked) := by
  induction cs with
  | nil => exact ⟨[], rfl⟩
  | cons c cs ih =>
    obtain ⟨hc, hcs⟩ := List.forall_mem_cons.mp h
    obtain ⟨marked, hmarked⟩ := ih hcs
    have hcounted : ∃ v, c.countedBy operation matcher = .ok v := by
      unfold RecordedCall.countedBy
      split_ifs with ho
      · exact hc ho
      · exact ⟨false, rfl⟩
    obtain ⟨v, hv⟩ := hcounted
    simp only [tally, hv, hmarked, List.countP_cons, Check.counts]
    cases v <;> simp

/-- A matcher that crashes on a call counts nothing. -/
theorem tally_of_crash {cs : List RecordedCall}
    (h : ¬ ∀ c ∈ cs, c.operation = operation → matcher.Answers c.arguments) :
    ∃ crash, tally operation matcher cs = .error crash := by
  induction cs with
  | nil => simp at h
  | cons c cs ih =>
    rw [tally]
    cases hc : c.countedBy operation matcher with
    | error crash => exact ⟨crash, rfl⟩
    | ok v =>
      -- the first call is not the one, so it is among the others
      have hrest : ¬ ∀ c ∈ cs, c.operation = operation → matcher.Answers c.arguments := by
        refine fun hall => h (List.forall_mem_cons.mpr ⟨fun ho => ⟨v, ?_⟩, hall⟩)
        rwa [RecordedCall.countedBy, if_pos ho] at hc
      obtain ⟨crash, hcrash⟩ := ih hrest
      exact ⟨crash, by rw [hcrash]⟩

end Book

namespace Check

variable {k : Check} {b : Book}

/-- **A verification that ends** says what is to be said to the number of calls that it counts. -/
theorem reply_of_ends (h : k.Ends b) : k.reply b = .ok (k.verdict (b.calls.countP k.counts)) := by
  obtain ⟨marked, hmarked⟩ := Book.tally_of_answers h k.times
  rw [reply, Recorder.verify, Desk.ofBook_book, Book.verify, hmarked, verdict]
  dsimp only
  split_ifs <;> rfl

/-- A verification whose matcher crashes on a call crashes. -/
theorem reply_of_not_ends (h : ¬ k.Ends b) : ∃ crash, k.reply b = .error (.crashed crash) := by
  obtain ⟨crash, hcrash⟩ := Book.tally_of_crash h
  exact ⟨crash, by rw [reply, Recorder.verify, Desk.ofBook_book, Book.verify, hcrash]⟩

/-- The errors among the replies to some verifications. -/
def errors (reply : Check → Except Stop (Except TestError Unit)) (ks : List Check) :
    List TestError :=
  ks.filterMap fun k =>
    match reply k with
    | .ok (.error e) => some e
    | _ => none

end Check

/-! ### Both counts of one expectation -/

/-- The verification that asks after the fact for what the expectation asks for up front. -/
def Expectation.check (e : Expectation) : Check := ⟨e.operation, e.matcher, e.times⟩

/-- How many calls a verification counts that asks for what an expectation asks for. -/
def Book.recount (b : Book) (e : Expectation) : Nat := b.calls.countP e.check.counts

theorem Expectation.check_counts_iff {e : Expectation} {c : RecordedCall} :
    e.check.counts c = true ↔ e.Suits c.operation c.arguments := by
  rw [Check.counts_iff, Suits, check, eq_comm]

/-- The verification says of the count of the expectation what the expectation says of it. -/
theorem Expectation.check_verdict (e : Expectation) :
    e.check.verdict e.consumed = if e.isSatisfied then .ok () else .error e.violation := rfl

namespace Book.Consistent

variable {b : Book} {e : Expectation}

/-- A call that names an expectation suits it. -/
theorem suits_of_matched (h : b.Consistent) (he : e ∈ b.expectations) {c : RecordedCall}
    (hc : c ∈ b.calls) (hm : c.matched = some e.id) : e.Suits c.operation c.arguments := by
  obtain ⟨x, hx, hid, hs⟩ := h.fits c hc _ hm
  obtain rfl : x = e := List.inj_on_of_nodup_map h.nodup_ids hx he hid
  exact hs

/-- **A verification counts at least as many calls as the expectation has taken.** -/
theorem consumed_le_recount (h : b.Consistent) (he : e ∈ b.expectations) :
    e.consumed ≤ b.recount e := by
  rw [h.consumed e he, Book.matches, List.count_eq_countP, List.countP_map, Book.recount]
  refine List.countP_mono_left fun c hc hm => ?_
  exact Expectation.check_counts_iff.mpr (h.suits_of_matched he hc (beq_iff_eq.mp hm))

end Book.Consistent

/-! ### Expectations that miss no call -/

/-- Every call that suits an expectation was taken by one. -/
def Book.Attentive (b : Book) : Prop :=
  ∀ c ∈ b.calls, c.matched = none → ∀ e ∈ b.expectations, ¬ e.Suits c.operation c.arguments

/-- If besides no call suits two expectations, the two counts are the same. -/
theorem Book.Attentive.recount_eq {b : Book} (h : b.Attentive) (hc : b.Consistent)
    (hd : b.expectations.Pairwise Expectation.Disjoint) {e : Expectation}
    (he : e ∈ b.expectations) : b.recount e = e.consumed := by
  have hmatched : ∀ c ∈ b.calls, e.check.counts c = (c.matched == some e.id) := by
    intro c hcall
    rw [Bool.eq_iff_iff, Expectation.check_counts_iff, beq_iff_eq]
    refine ⟨fun hs => ?_, hc.suits_of_matched he hcall⟩
    cases hm : c.matched with
    | none => exact absurd hs (h c hcall hm e he)
    | some i =>
      obtain ⟨x, hx, rfl, hxs⟩ := hc.fits c hcall i hm
      rw [Expectation.eq_of_suits hd he hx hs hxs]
  rw [hc.consumed e he, Book.matches, List.count_eq_countP, List.countP_map, Book.recount]
  exact List.countP_congr fun c hcall => by rw [hmatched c hcall]; rfl

namespace Turn

variable {mode : Mode} {b : Book} {t : Turn} {ts : List Turn}

/-- Whether a turn is taken with a handle that does not enforce caps, if it is a call. -/
def IgnoresCaps : Turn → Prop
  | register .. => True
  | call saturate .. => saturate = false
  | verify .. => True
  | reset => True

/-- While caps are not enforced, what a call suits does not refuse it. -/
theorem step_attentive (ht : t.IgnoresCaps)
    (hlength : (t.step mode b).expectations.length = b.expectations.length) (h : b.Attentive) :
    (t.step mode b).Attentive := by
  cases t with
  | register saturate operation matcher outcome times =>
    rcases step_register_cases mode saturate operation matcher outcome times b with
      ⟨-, -, -, hb⟩ | hb
    · simp [hb, Book.add] at hlength
    · rwa [hb]
  | call saturate operation arguments =>
    obtain rfl : saturate = false := ht
    rw [step_call]
    rcases b.record_cases false operation arguments with
      ⟨c, hr⟩ | ⟨hall, hr⟩ | ⟨l, e, r, hes, -, -, hr⟩
    · rwa [hr]
    · rw [hr]
      intro c hc hm e he hs
      rcases List.mem_append.mp hc with hc | hc
      · exact h c hc hm e he hs
      · obtain rfl := List.mem_singleton.mp hc
        have hrefused := Expectation.accepts_eq_false_iff.mp (hall e he) hs.1 rfl
        cases hs.2.symm.trans hrefused
    · rw [hr]
      intro c hc hm x hx
      rcases List.mem_append.mp hc with hc | hc
      · -- counting a call does not change which calls suit
        have hsame : ∃ y ∈ b.expectations, ∀ o vs, x.Suits o vs ↔ y.Suits o vs := by
          rw [Book.enter_expectations, List.mem_append, List.mem_cons] at hx
          rw [hes]
          rcases hx with hx | rfl | hx
          · exact ⟨x, by simp [hx], fun _ _ => Iff.rfl⟩
          · exact ⟨e, by simp, fun _ _ => Iff.rfl⟩
          · exact ⟨x, by simp [hx], fun _ _ => Iff.rfl⟩
        obtain ⟨y, hy, hxy⟩ := hsame
        exact fun hs => h c hc hm y hy ((hxy _ _).mp hs)
      · obtain rfl := List.mem_singleton.mp hc
        cases hm
  | verify operation matcher times =>
    have hstep := Check.step_turn ⟨operation, matcher, times⟩ mode b
    rw [Check.turn] at hstep
    rw [hstep]
    intro c hc
    obtain ⟨x, hx, rfl⟩ := List.mem_map.mp hc
    exact h x hx
  | reset => simp [Book.Attentive, Book.empty]

/-- **A run that adds no expectation** misses no call. -/
theorem play_attentive (hts : ∀ t ∈ ts, t.IgnoresCaps) (hreset : .reset ∉ ts)
    (hlength : (play mode ts b).expectations.length = b.expectations.length) (h : b.Attentive) :
    (play mode ts b).Attentive := by
  induction ts generalizing b with
  | nil => exact h
  | cons t ts ih =>
    obtain ⟨ht, hts⟩ := List.forall_mem_cons.mp hts
    rw [List.mem_cons, not_or] at hreset
    -- the list of expectations does not shrink, so it has its final length all along
    have hstep := (step_extends mode b (Ne.symm hreset.1)).expectations.length_le
    have hrest := (play_extends mode (t.step mode b) hreset.2).expectations.length_le
    simp only [List.length_map] at hstep hrest
    rw [play_cons] at hlength
    exact ih hts hreset.2 (by omega) (step_attentive ht (by omega) h)

/-- Since the last reset there was a moment when no call had been recorded yet and all expectations
were registered. -/
def RegisteredFirst (mode : Mode) (ts : List Turn) : Prop :=
  ∃ us vs, sinceReset ts = us ++ vs ∧ (play mode us .empty).calls = [] ∧
    (play mode us .empty).expectations.length = (play mode ts .empty).expectations.length

/-- **If all expectations are registered before the first call**, no call is missed. -/
theorem RegisteredFirst.attentive (h : RegisteredFirst mode ts)
    (hts : ∀ t ∈ sinceReset ts, t.IgnoresCaps) : (play mode ts .empty).Attentive := by
  obtain ⟨us, vs, hsplit, hcalls, hlength⟩ := h
  have hreset : .reset ∉ us ++ vs := hsplit ▸ reset_notMem_sinceReset ts
  rw [← play_sinceReset mode ts, hsplit, play_append] at hlength ⊢
  rw [hsplit] at hts
  refine play_attentive (fun t ht => hts t (List.mem_append_right us ht))
    (fun ht => hreset (List.mem_append_right us ht)) hlength.symm ?_
  simp [Book.Attentive, hcalls]

end Turn

/-- **Counting up front and counting again.** Take any book that turns lead to, so any that requests
on a new recorder lead through. A verification that ends, its matcher answering for every call that
it is asked about, replies to the number of calls that it counts; otherwise it crashes. Of the calls
that suit an expectation it counts at least as many as the expectation has taken. If since the last
reset no call was made under caps, all expectations were registered before the first call, and no
call suits two expectations, then the two numbers are the same, so a verification with the operation,
the matcher and the count of an expectation replies what the expectation says of itself, unless it
crashes. If besides none of them crashes, the verification of all expectations reports their errors
and no others, and it succeeds if and only if all of them do. -/
theorem recounts_agree (mode : Mode) (depth : Nat) :
    (∀ (qs : List ((k : RequestKind) × Request k)) (diagnostics : List Diagnostic)
        (reported : Option TestError),
      let start : Desk := ⟨.empty, diagnostics, reported⟩
      (Recorder.serveEach mode depth qs start).book =
        Turn.play mode (Recorder.turnsEach mode depth qs start) .empty) ∧
    ∀ (ts : List Turn) (d : Desk), d.book = Turn.play mode ts .empty →
      let b := d.book
      let reply := fun k : Check => (Recorder.serve mode depth k.request d).1
      let verdict := (Recorder.serve mode depth .verifyAll d).1
      (∀ k : Check, (k.Ends b → reply k = .ok (k.verdict (b.calls.countP k.counts))) ∧
        (¬ k.Ends b → ∃ c, reply k = .error (.crashed c))) ∧
      (∀ e ∈ b.expectations, e.consumed ≤ b.recount e) ∧
      ((∀ t ∈ Turn.sinceReset ts, t.IgnoresCaps) → Turn.RegisteredFirst mode ts →
        b.expectations.Pairwise Expectation.Disjoint →
        (∀ e ∈ b.expectations, b.recount e = e.consumed ∧ (e.check.Ends b →
          reply e.check = .ok (if e.isSatisfied then .ok () else .error e.violation))) ∧
        ((∀ e ∈ b.expectations, e.check.Ends b) →
          verdict = .ok (TestError.collect
            (Check.errors reply (b.expectations.map Expectation.check))) ∧
          (verdict = .ok (.ok ()) ↔ ∀ e ∈ b.expectations, reply e.check = .ok (.ok ())))) := by
  refine ⟨fun qs _ _ => Recorder.serveEach_book mode depth qs _, fun ts d hd => ?_⟩
  intro b reply verdict
  have hreply : ∀ k : Check, reply k = k.reply b := fun k => (k.serve_request mode depth d).1
  have hc : d.book.Consistent := hd ▸ Book.Consistent.empty.play mode ts
  refine ⟨fun k => ⟨fun hk => ?_, fun hk => ?_⟩, fun e he => hc.consumed_le_recount he,
    fun hts hfirst hdisjoint => ?_⟩
  · rw [hreply, Check.reply_of_ends hk]
  · rw [hreply]
    exact Check.reply_of_not_ends hk
  · have hattentive : d.book.Attentive := hd ▸ hfirst.attentive hts
    have hcount : ∀ e ∈ b.expectations, b.recount e = e.consumed :=
      fun e he => hattentive.recount_eq hc hdisjoint he
    have hagrees : ∀ e ∈ b.expectations, e.check.Ends b →
        reply e.check = .ok (if e.isSatisfied then .ok () else .error e.violation) := by
      intro e he hends
      rw [hreply, Check.reply_of_ends hends, ← Book.recount, hcount e he, e.check_verdict]
    refine ⟨fun e he => ⟨hcount e he, hagrees e he⟩, fun hends => ?_⟩
    have hverdict : verdict = .ok (TestError.collect b.violations) :=
      Recorder.serve_verifyAll d
    have herrors : Check.errors reply (b.expectations.map Expectation.check) = b.violations := by
      rw [Check.errors, List.filterMap_map, Book.violations, ← List.filterMap_eq_map,
        List.filterMap_filter]
      refine List.filterMap_congr fun e he => ?_
      rw [Function.comp_apply, hagrees e he (hends e he)]
      cases e.isSatisfied <;> rfl
    refine ⟨by rw [hverdict, herrors], ?_⟩
    rw [hverdict, Except.ok.injEq, TestError.collect_eq_ok_iff, Book.violations_eq_nil_iff]
    refine forall₂_congr fun e he => ?_
    rw [hagrees e he (hends e he)]
    cases e.isSatisfied <;> simp

/-- A call before a reset, two registrations after it, and a call more than the first one allows. -/
def Turn.rehearsal : List Turn :=
  [.call true "op" [], .reset, .register false "op" ⟨[.any]⟩ (.returns .null) .once,
    .register false "op" ⟨[]⟩ (.returns .null) .anyNumber, .call false "op" [.int 1],
    .call false "op" [], .call false "op" [.int 2]]

/-- Both ways of counting find the call that is one too many, and say the same about it. -/
theorem recounts_agree_rehearsal :
    let d := Desk.ofBook (Turn.play .lenient Turn.rehearsal .empty)
    let reply := fun e : Expectation => (Recorder.serve .lenient 0 e.check.request d).1
    let overdone : TestError := .unsatisfied "op" "_" .once 2
    d.book.expectations.map d.book.recount = [2, 1] ∧
      d.book.expectations.map reply = [.ok (.error overdone), .ok (.ok ())] ∧
      (Recorder.serve .lenient 0 .verifyAll d).1 = .ok (.error overdone) := by
  intro d reply overdone
  have hts : ∀ t ∈ Turn.sinceReset Turn.rehearsal, t.IgnoresCaps := by
    have hsince : Turn.sinceReset Turn.rehearsal = Turn.rehearsal.drop 2 := rfl
    rw [hsince]
    simp [Turn.rehearsal, Turn.IgnoresCaps]
  have hfirst : Turn.RegisteredFirst .lenient Turn.rehearsal :=
    ⟨Turn.rehearsal.extract 2 4, Turn.rehearsal.drop 4, rfl, rfl, rfl⟩
  have hdisjoint : d.book.expectations.Pairwise Expectation.Disjoint := by
    refine List.pairwise_pair.mpr ?_
    rintro operation arguments ⟨⟨-, hone⟩, -, hnone⟩
    cases arguments with
    | nil => cases hone
    | cons v arguments => cases hnone
  have hends : ∀ e ∈ d.book.expectations, e.check.Ends d.book := by
    have htotal : ∀ e ∈ d.book.expectations, e.matcher.Total := by
      refine List.forall_mem_cons.mpr ⟨?_, List.forall_mem_singleton.mpr ?_⟩ <;>
        refine ArgumentMatcher.total_of_parts ?_
      · exact List.forall_mem_singleton.mpr fun _ => ⟨true, rfl⟩
      · exact List.forall_mem_nil _
    exact fun e he c _ _ => htotal e he c.arguments
  obtain ⟨-, -, hagree⟩ := (recounts_agree .lenient 0).2 Turn.rehearsal d rfl
  obtain ⟨hcount, hverdict⟩ := hagree hts hfirst hdisjoint
  refine ⟨(List.map_congr_left fun e he => (hcount e he).1).trans rfl,
    (List.map_congr_left fun e he => (hcount e he).2 (hends e he)).trans rfl,
    (hverdict hends).1.trans rfl⟩

/-- Two registrations that no call suits both, the second with a predicate that crashes, and a call
that the first one takes. -/
def Turn.sheltered : List Turn :=
  [.register false "op" ⟨[.any, .exact (.int 1)]⟩ (.returns .null) .anyNumber,
    .register false "op" ⟨[.predicate "crash" Predicate.crash, .exact (.int 2)]⟩ (.returns .null)
      .anyNumber,
    .call false "op" [.int 0, .int 1]]

/-- **A crash stops the second count only.** The look-up of the call ends at the first expectation
and does not come to the predicate that crashes. So the verification of all expectations succeeds,
but the verification that asks for the same as the second expectation crashes. -/
theorem crash_stops_recount :
    let d := Desk.ofBook (Turn.play .lenient Turn.sheltered .empty)
    let crashing : Check :=
      ⟨"op", ⟨[.predicate "crash" Predicate.crash, .exact (.int 2)]⟩, .anyNumber⟩
    (∀ t ∈ Turn.sinceReset Turn.sheltered, t.IgnoresCaps) ∧
      Turn.RegisteredFirst .lenient Turn.sheltered ∧
      d.book.expectations.Pairwise Expectation.Disjoint ∧
      d.book.expectations.map Expectation.check =
        [⟨"op", ⟨[.any, .exact (.int 1)]⟩, .anyNumber⟩, crashing] ∧
      (Recorder.serve .lenient 0 .verifyAll d).1 = .ok (.ok ()) ∧
      (Recorder.serve .lenient 0 crashing.request d).1 =
        .error (.crashed ⟨"predicate panicked"⟩) := by
  intro d crashing
  refine ⟨?_, ⟨Turn.sheltered.take 2, Turn.sheltered.drop 2, rfl, rfl, rfl⟩, ?_, rfl, rfl, rfl⟩
  · have hsince : Turn.sinceReset Turn.sheltered = Turn.sheltered := rfl
    rw [hsince]
    simp [Turn.sheltered, Turn.IgnoresCaps]
  · -- what crashes on the first argument accepts nothing
    refine List.pairwise_pair.mpr ?_
    rintro operation arguments ⟨-, -, hcrash⟩
    obtain ⟨hlength, hcrash⟩ := ArgumentMatcher.accepts_eq_true_iff.mp hcrash
    obtain ⟨v, w, rfl⟩ := List.length_eq_two.mp hlength.symm
    cases (ArgumentMatcher.acceptsAll_cons.mp hcrash).1

end TestDouble
