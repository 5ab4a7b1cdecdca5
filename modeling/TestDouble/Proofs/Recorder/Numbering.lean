import Mathlib.Data.List.Range
import TestDouble.Predicate
import TestDouble.Proofs.Recorder.Answer
import TestDouble.Proofs.Recorder.Bookkeeping

/-!
# Sequence numbers

A call takes its sequence number before the matchers run. If none of them crashes the call is
entered under that number, as a whole: it is added at the end, and the expectation that took it, if
any, has counted it (`Book.Consistent.record_whole`). If one crashes the call leaves nothing behind
but its number, which is gone. So the numbers of the calls are the places of the look-ups that ended
among all look-ups since the last reset (`Book.Counts`), and there are gaps where look-ups have
crashed. `calls_entered_whole` says this of every book that a recorder can have.
-/

namespace TestDouble

/-- The expectation after a call, if it is the one that took it. -/
def Expectation.credit (taker : Option Nat) (e : Expectation) : Expectation :=
  if taker = some e.id then e.consume else e

/-- The places at which a list holds `true`. -/
def places (l : List Bool) : List Nat := (l.zipIdx.filter (·.1)).map (·.2)

theorem places_concat (l : List Bool) (x : Bool) :
    places (l ++ [x]) = places l ++ if x then [l.length] else [] := by
  cases x <;> simp [places, List.zipIdx_append]

/-- Where all is `true`, every place counts. -/
theorem places_of_notMem {l : List Bool} (h : false ∉ l) : places l = List.range l.length := by
  have hall : ∀ p ∈ l.zipIdx, p.1 = true := by
    intro p hp
    rw [← Bool.not_eq_false]
    intro hfalse
    exact h (hfalse ▸ List.fst_mem_of_mem_zipIdx hp)
  rw [places, List.filter_eq_self.mpr hall, List.zipIdx_map_snd, List.range_eq_range']

/-! ### A call is entered as a whole -/

namespace Book

variable {b : Book} {saturate : Bool} {operation : String} {arguments : List Json}

/-- In a consistent book a call is credited to one expectation. -/
theorem Consistent.map_credit (h : b.Consistent) {l r : List Expectation} {e : Expectation}
    (hes : b.expectations = l ++ e :: r) :
    b.expectations.map (·.credit (some e.id)) = l ++ e.consume :: r := by
  have hother : ∀ x, x ∈ l ∨ x ∈ r → x.credit (some e.id) = x := by
    intro x hx
    have hne : e.id ≠ x.id := (h.ne_of_split hes x hx).symm
    rw [Expectation.credit, if_neg (by simpa using hne)]
  rw [hes, List.map_append, List.map_cons, List.map_congr_left fun x hx => hother x (.inl hx),
    List.map_congr_left fun x hx => hother x (.inr hx), List.map_id', List.map_id',
    Expectation.credit, if_pos rfl]

/-- **A call is entered as a whole**, and credited to the expectation that took it, if any; or a
matcher has crashed, and nothing is left of the call but that its number is gone. -/
theorem Consistent.record_whole (h : b.Consistent) (saturate : Bool) (operation : String)
    (arguments : List Json) :
    (∃ c, (∃ e ∈ b.expectations, e.accepts saturate operation arguments = .error c) ∧
        b.record saturate operation arguments = (.error c, b.skip)) ∨
      ∃ taker, (∀ id ∈ taker, ∃ e ∈ b.expectations, e.id = id ∧
          e.accepts saturate operation arguments = .ok true) ∧
        (b.record saturate operation arguments).1.isOk = true ∧
        (b.record saturate operation arguments).2 =
          b.enter operation arguments taker (b.expectations.map (·.credit taker)) := by
  rcases b.record_cases saturate operation arguments with
    ⟨c, hr⟩ | ⟨-, hr⟩ | ⟨l, e, r, hes, -, he, hr⟩
  · exact .inl ⟨c, record_error (congrArg Prod.fst hr), hr⟩
  · refine .inr ⟨none, by simp, by rw [hr]; rfl, ?_⟩
    have hsame : b.expectations.map (·.credit none) = b.expectations := by
      simp [Expectation.credit]
    rw [hr, hsame]
  · refine .inr ⟨some e.id, ?_, by rw [hr]; rfl, by rw [hr, h.map_credit hes]⟩
    rintro _ ⟨⟩
    exact ⟨e, by simp [hes], rfl, he⟩

end Book

/-! ### The numbers of the calls -/

namespace Turn

/-- What is known of the look-ups since the last reset after one more turn: for each of them whether
it has ended. -/
def look (b : Book) (past : List Bool) : Turn → List Bool
  | register .. => past
  | call saturate operation arguments =>
    past ++ [(b.record saturate operation arguments).1.isOk]
  | verify .. => past
  | reset => []

/-- For each look-up since the last reset, whether it has ended. -/
def lookups (mode : Mode) : List Turn → Book → List Bool → List Bool
  | [], _, past => past
  | t :: ts, b, past => lookups mode ts (t.step mode b) (t.look b past)

end Turn

/-- The numbers of a book count look-ups: the next one counts all of them, and that of a call those
before it. -/
structure Book.Counts (lookups : List Bool) (b : Book) : Prop where
  next : b.nextSequence = lookups.length
  calls : b.calls.map (·.sequence) = places lookups

namespace Book.Counts

variable {mode : Mode} {b : Book} {past : List Bool}

theorem empty : Book.empty.Counts [] := ⟨rfl, rfl⟩

/-- Look-ups that end and look-ups that crash take one number each. -/
theorem record (h : b.Counts past) (saturate : Bool) (operation : String)
    (arguments : List Json) :
    (b.record saturate operation arguments).2.Counts
      (past ++ [(b.record saturate operation arguments).1.isOk]) := by
  rcases b.record_cases saturate operation arguments with
    ⟨c, hr⟩ | ⟨-, hr⟩ | ⟨l, e, r, -, -, -, hr⟩ <;> rw [hr]
  · exact ⟨by simp [skip, h.next], by simp [skip, h.calls, places_concat, Except.isOk, Except.toBool]⟩
  · exact ⟨by simp [h.next],
      by simp [h.calls, h.next, places_concat, Except.isOk, Except.toBool]⟩
  · exact ⟨by simp [h.next],
      by simp [h.calls, h.next, places_concat, Except.isOk, Except.toBool]⟩

/-- **Each turn keeps the numbers and the look-ups together.** -/
theorem step (h : b.Counts past) (t : Turn) : (t.step mode b).Counts (t.look b past) := by
  cases t with
  | register saturate operation matcher outcome times =>
    rcases Turn.step_register_cases mode saturate operation matcher outcome times b with
      ⟨-, -, -, hb⟩ | hb
    · rw [hb]
      exact ⟨h.next, h.calls⟩
    · rwa [hb]
  | call saturate operation arguments => exact h.record saturate operation arguments
  | verify operation matcher times =>
    obtain ⟨calls, hb, hc⟩ := Turn.step_verify mode b operation matcher times
    have hsequence : ∀ cs : List RecordedCall,
        cs.map (·.sequence) = (cs.map RecordedCall.unmarked).map (·.sequence) := by
      intro cs
      rw [List.map_map]
      rfl
    rw [hb]
    exact ⟨h.next, by rw [hsequence, hc, ← hsequence]; exact h.calls⟩
  | reset => exact empty

theorem play (h : b.Counts past) (ts : List Turn) :
    (Turn.play mode ts b).Counts (Turn.lookups mode ts b past) := by
  induction ts generalizing b past with
  | nil => exact h
  | cons t ts ih => exact ih (h.step t)

end Book.Counts

/-- A call begins with a turn of its own; the turns after it are those of its callback. -/
theorem Recorder.turns_invoke (mode : Mode) (depth : Nat) (saturate : Bool) (operation : String)
    (arguments : List Json) (d : Desk) :
    ∃ inner, turns mode depth (.invoke saturate operation arguments) d =
      .call saturate operation arguments :: inner := by
  cases depth with
  | zero =>
    rw [turns, invokeTurns]
    exact ⟨_, rfl⟩
  | succ depth =>
    rw [turns, invokeTurns]
    exact ⟨_, rfl⟩

/-- **Calls are entered as a whole, unless a matcher crashes.** Take any book that turns lead to, so
any that requests on a new recorder lead through, and any call. The turn of its own that it begins
with, before its callback takes any, adds the call at the end under the next number and counts it
with the expectation that took it, if any, and does nothing else; or a matcher crashes, the call
crashes, and the turn does nothing but skip the number. The numbers of the calls are the places of
the look-ups that ended among all since the last reset, so there is no gap if all of them ended. -/
theorem calls_entered_whole (mode : Mode) :
    (∀ (depth : Nat) (qs : List ((k : RequestKind) × Request k)) (diagnostics : List Diagnostic)
        (reported : Option TestError),
      let start : Desk := ⟨.empty, diagnostics, reported⟩
      (Recorder.serveEach mode depth qs start).book =
        Turn.play mode (Recorder.turnsEach mode depth qs start) .empty) ∧
    ∀ ts : List Turn,
      let b := Turn.play mode ts .empty
      let lookups := Turn.lookups mode ts .empty []
      (∀ saturate operation arguments,
        let call : Request .invocation := .invoke saturate operation arguments
        let own := (Turn.call saturate operation arguments).step mode b
        (∀ depth (d : Desk), d.book = b → ∃ inner,
          Recorder.turns mode depth call d = .call saturate operation arguments :: inner ∧
            (Recorder.serve mode depth call d).2.book = Turn.play mode inner own) ∧
        ((∃ c, (∃ e ∈ b.expectations, e.accepts saturate operation arguments = .error c) ∧
            (∀ depth (d : Desk), d.book = b →
              (Recorder.serve mode depth call d).1 = .error (.crashed c)) ∧
            own = { b with nextSequence := b.nextSequence + 1 }) ∨
          ∃ taker, (∀ id ∈ taker, ∃ e ∈ b.expectations, e.id = id ∧
              e.accepts saturate operation arguments = .ok true) ∧
            own = { b with
              expectations := b.expectations.map (·.credit taker)
              calls := b.calls ++ [⟨b.nextSequence, operation, arguments, taker, false⟩]
              nextSequence := b.nextSequence + 1 })) ∧
      b.nextSequence = lookups.length ∧ b.calls.map (·.sequence) = places lookups ∧
      (false ∉ lookups → b.nextSequence = b.calls.length ∧
        b.calls.map (·.sequence) = List.range b.calls.length) := by
  refine ⟨fun depth qs _ _ => Recorder.serveEach_book mode depth qs _, fun ts => ?_⟩
  intro b lookups
  have hb : b.Consistent := Book.Consistent.empty.play mode ts
  have hcounts : b.Counts lookups := Book.Counts.empty.play ts
  refine ⟨fun saturate operation arguments => ?_, hcounts.next, hcounts.calls, fun hended => ?_⟩
  · intro call own
    refine ⟨fun depth d hd => ?_, ?_⟩
    · obtain ⟨inner, hturns⟩ :=
        Recorder.turns_invoke mode depth saturate operation arguments d
      refine ⟨inner, hturns, ?_⟩
      rw [Recorder.serve_book, hturns, Turn.play_cons, hd]
    · rcases hb.record_whole saturate operation arguments with
        ⟨c, hcrash, hr⟩ | ⟨taker, htaker, -, hr⟩
      · refine .inl ⟨c, hcrash, fun depth d hd => ?_, congrArg Prod.snd hr⟩
        exact Recorder.serve_invoke_crashed depth hd hr
      · exact .inr ⟨taker, htaker, hr⟩
  · have hlength : b.calls.length = lookups.length := by
      rw [← List.length_map (f := (·.sequence)), hcounts.calls, places_of_notMem hended,
        List.length_range]
    rw [hlength, hcounts.calls, places_of_notMem hended]
    exact ⟨hcounts.next, rfl⟩

/-- A capped registration, and a call made once too often. -/
def Turn.numberedRun : List Turn :=
  [.register true "op" ⟨[.any]⟩ (.returns .null) .once,
    .call true "op" [.null], .call true "op" [.null]]

/-- Both calls are numbered, though only the first one is taken; and so is a third one, under the
next number. -/
theorem calls_entered_whole_numbered :
    let b := Turn.play .lenient Turn.numberedRun .empty
    b.calls.map (·.sequence) = [0, 1] ∧
      ∃ taker, (Turn.call true "op" [.null]).step .lenient b =
        { b with
          expectations := b.expectations.map (·.credit taker)
          calls := b.calls ++ [⟨2, "op", [.null], taker, false⟩]
          nextSequence := 3 } := by
  intro b
  obtain ⟨-, hall⟩ := calls_entered_whole .lenient
  obtain ⟨hcall, -, -, hrange⟩ := hall Turn.numberedRun
  obtain ⟨-, hown⟩ := hcall true "op" [.null]
  refine ⟨(hrange (by decide)).2, ?_⟩
  rcases hown with ⟨c, ⟨e, he, hcrash⟩, -⟩ | ⟨taker, -, hown⟩
  · -- the only expectation is exhausted, and what is exhausted refuses the call
    obtain rfl := List.mem_singleton.mp he
    cases hcrash
  · exact ⟨taker, hown⟩

/-- A registration whose predicate crashes. -/
def Turn.crashingRegistration : Turn :=
  .register true "op" ⟨[.predicate "crash" Predicate.crash]⟩ (.returns .null) .once

/-- **A crash leaves a gap.** A call whose look-up crashes is not recorded, and yet the book is not
as it was before: the call after it is the first one of the book and has the number `1`. -/
theorem crash_leaves_gap :
    let before := Turn.play .lenient [Turn.crashingRegistration] .empty
    let crashed := (Turn.call true "op" [.int 1]).step .lenient before
    let after := (Turn.call true "op" []).step .lenient crashed
    crashed ≠ before ∧ crashed.calls = before.calls ∧
      crashed.nextSequence = before.nextSequence + 1 ∧
      after.calls.map (·.sequence) = [1] ∧
      after.calls.map (·.sequence) ≠ List.range after.calls.length := by
  intro before crashed after
  refine ⟨fun h => ?_, rfl, rfl, rfl, by decide⟩
  cases congrArg Book.nextSequence h

end TestDouble
