import TestDouble.Proofs.Recorder.Answer
import TestDouble.Proofs.Recorder.Growth
import TestDouble.Proofs.Recorder.Relevance
import TestDouble.Proofs.Recorder.Silence

/-!
# One operation at a time

All operations of a recorder share its lists and its counters. Yet what a run shows of one
operation is what the turns on that operation show by themselves on a new recorder: the same
replies, the same calls with the same marks, the same expectations with the same counts. Only the
ids differ, which in the whole run count the expectations of all operations
(`operations_separate`). So it does not matter how the turns on different operations are
interleaved.

The proof keeps the book of the turns by themselves as a *part* of the book of the whole run
(`Book.Part`): a turn on another operation leaves the part as it is (`Turn.step_of_not_isOn`), and
one on the operation changes both books alike (`Book.Part.serve`).
-/

namespace TestDouble

/-- Whether a turn is on an operation; a reset is on none. -/
def Turn.isOn (operation : String) : Turn → Bool
  | register _ o .. => o = operation
  | call _ o _ => o = operation
  | verify o .. => o = operation
  | reset => false

/-- The expectation under another id. -/
def Expectation.renumber (f : Nat → Nat) (e : Expectation) : Expectation := { e with id := f e.id }

/-- The call without its sequence number, the expectation that took it under another id. -/
def RecordedCall.renumber (f : Nat → Nat) (c : RecordedCall) : RecordedCall :=
  { c with sequence := 0, matched := c.matched.map f }

namespace Book

/-- The expectations of an operation. -/
def expectationsOf (b : Book) (operation : String) : List Expectation :=
  b.expectations.filter (·.operation = operation)

/-- The calls to an operation. -/
def callsTo (b : Book) (operation : String) : List RecordedCall :=
  b.calls.filter (·.operation = operation)

/-- The place of an id among those of the expectations of an operation. -/
def rank (b : Book) (operation : String) (id : Nat) : Nat :=
  ((b.expectationsOf operation).map (·.id)).idxOf id

end Book

/-- A turn, and what was replied to the request that begins with it. -/
structure Answered where
  turn : Turn
  reply : Except Stop turn.request.1.Reply

/-- The reply with another id; only to a registration is the reply an id. -/
def Answered.renumber (f : Nat → Nat) : Answered → Answered
  | ⟨.register saturate operation matcher outcome times, reply⟩ =>
    ⟨.register saturate operation matcher outcome times, Except.map (Except.map f) reply⟩
  | a => a

/-- What a run shows of an operation. -/
structure Showing where
  answers : List Answered
  calls : List RecordedCall
  expectations : List Expectation

namespace Recorder

/-- The replies to the requests that begin with some turns, made one after another. -/
def answers (mode : Mode) (depth : Nat) : List Turn → Desk → List Answered
  | [], _ => []
  | t :: ts, d =>
    ⟨t, (serve mode depth t.request.2 d).1⟩ ::
      answers mode depth ts (serve mode depth t.request.2 d).2

/-- What the requests that begin with some turns show of an operation, made one after another: the
replies on it, and its calls and expectations at the end. Ids count the expectations of the
operation, and sequence numbers are left out. -/
def showing (mode : Mode) (depth : Nat) (operation : String) (ts : List Turn) (d : Desk) :
    Showing :=
  let b := (serveEach mode depth (ts.map Turn.request) d).book
  let rank := b.rank operation
  { answers := ((answers mode depth ts d).filter (·.turn.isOn operation)).map (·.renumber rank)
    calls := (b.callsTo operation).map (·.renumber rank)
    expectations := (b.expectationsOf operation).map (·.renumber rank) }

end Recorder

/-! ### Numbers -/

section

variable {f : Nat → Nat} {o : String}

/-- Look-ups do not notice other ids. -/
theorem Expectation.renumber_relabels (f : Nat → Nat) : Relabels (renumber f) := by
  constructor <;> intro e <;> rfl

/-- Verifications do not notice other numbers. -/
theorem RecordedCall.renumber_relabels (f : Nat → Nat) : Relabels (renumber f) := by
  constructor <;> intro c <;> rfl

namespace Book

variable {b b' : Book}

/-- The expectations of an operation are numbered from zero. -/
def Numbered (f : Nat → Nat) (o : String) (b : Book) : Prop :=
  ((b.expectationsOf o).map (·.id)).map f = List.range (b.expectationsOf o).length

/-- The rank numbers the expectations of a consistent book. -/
theorem Consistent.numbered (h : b.Consistent) (o : String) : b.Numbered (b.rank o) o := by
  have hnodup : ((b.expectationsOf o).map (·.id)).Nodup :=
    h.nodup_ids.sublist (List.filter_sublist.map _)
  refine List.ext_getElem (by simp) fun i hi hi' => ?_
  rw [List.getElem_map, List.getElem_range, rank, hnodup.idxOf_getElem]

/-- What is numbered in a later book was numbered before. -/
theorem Extends.numbered (h : b.Extends b') (hf : b'.Numbered f o) : b.Numbered f o := by
  have hids : ∀ b : Book, (b.expectationsOf o).map (·.id) =
      ((b.expectations.map Expectation.unspent).filter (·.operation = o)).map (·.id) := by
    intro b
    rw [List.filter_map, List.map_map]
    rfl
  have hprefix : (b.expectationsOf o).map (·.id) <+: (b'.expectationsOf o).map (·.id) := by
    rw [hids b, hids b']
    exact (h.expectations.filter _).map _
  have hrange := hprefix.map f
  rw [hf, List.prefix_iff_eq_take, List.take_range, List.length_map, List.length_map,
    Nat.min_eq_left (by simpa using hprefix.length_le)] at hrange
  exact hrange

end Book

/-! ### A turn on another operation -/

/-- **A turn on another operation leaves alone what is about this one.** -/
theorem Turn.step_of_not_isOn (mode : Mode) (b : Book) {t : Turn} (hreset : t ≠ .reset)
    (ht : t.isOn o = false) :
    (t.step mode b).expectationsOf o = b.expectationsOf o ∧
      (t.step mode b).callsTo o = b.callsTo o := by
  cases t with
  | register saturate operation matcher outcome times =>
    have ho : operation ≠ o := by simpa [isOn] using ht
    rcases step_register_cases mode saturate operation matcher outcome times b with
      ⟨-, -, -, hb⟩ | hb
    · rw [hb]
      exact ⟨by simp [Book.expectationsOf, Book.add, ho], rfl⟩
    · rw [hb]
      exact ⟨rfl, rfl⟩
  | call saturate operation arguments =>
    have ho : operation ≠ o := by simpa [isOn] using ht
    rw [step_call]
    rcases b.record_cases saturate operation arguments with
      ⟨c, hr⟩ | ⟨-, hr⟩ | ⟨l, e, r, hes, -, he, hr⟩
    · rw [hr]
      exact ⟨rfl, rfl⟩
    · rw [hr]
      exact ⟨rfl, by simp [Book.callsTo, ho]⟩
    · rw [hr]
      obtain ⟨rfl, -, -⟩ := Expectation.accepts_eq_true_iff.mp he
      exact ⟨by simp [Book.expectationsOf, hes, ho], by simp [Book.callsTo, ho]⟩
  | verify operation matcher times =>
    have ho : operation ≠ o := by simpa [isOn] using ht
    rw [step]
    rcases Recorder.verify_cases operation matcher times (.ofBook b) with
      ⟨c, hv⟩ | ⟨n, marked, hr, -, hv⟩ | ⟨n, marked, -, -, hv⟩ <;> rw [hv]
    · exact ⟨rfl, rfl⟩
    · exact ⟨rfl, Book.tally_of_ne ho hr⟩
    · exact ⟨rfl, rfl⟩
  | reset => exact absurd rfl hreset

/-! ### A turn on the operation -/

/-- A book is the part of another that is about an operation, under other numbers. -/
structure Book.Part (f : Nat → Nat) (o : String) (b a : Book) : Prop where
  expectations : (b.expectationsOf o).map (·.renumber f) = a.expectations
  calls : (b.callsTo o).map (·.renumber f) = a.calls.map (·.renumber id)

namespace Book.Part

variable {b a : Book} {saturate : Bool} {matcher : ArgumentMatcher}

theorem shadowOf (h : Part f o b a) :
    Book.shadowOf saturate o matcher a.expectations =
      (Book.shadowOf saturate o matcher b.expectations).map (Option.map (·.renumber f)) := by
  rw [← h.expectations, shadowOf_map (Expectation.renumber_relabels f), expectationsOf,
    shadowOf_filter]

/-- Both books take an expectation of the operation, under the same number. -/
theorem add (h : Part f o b a) (ha : a.Consistent) {outcome : Outcome} {times : Times}
    (hf : (b.add o matcher outcome times).Numbered f o) :
    f b.nextExpectation = a.nextExpectation ∧
      Part f o (b.add o matcher outcome times) (a.add o matcher outcome times) := by
  have hlength : (b.expectationsOf o).length = a.nextExpectation := by
    have hids := congrArg List.length ha.ids
    rwa [← h.expectations, List.length_map, List.length_map, List.length_range] at hids
  have hes : (b.add o matcher outcome times).expectationsOf o =
      b.expectationsOf o ++ [⟨b.nextExpectation, o, matcher, outcome, times, 0⟩] := by
    simp [expectationsOf, Book.add]
  have hnext : f b.nextExpectation = a.nextExpectation := by
    rw [Numbered, hes, List.map_append, List.map_append, List.length_append, hlength] at hf
    exact List.singleton_inj.mp (List.append_inj' (hf.trans List.range_succ) rfl).2
  refine ⟨hnext, ?_, h.calls⟩
  rw [hes, List.map_append, h.expectations]
  simp [Expectation.renumber, hnext, Book.add]

theorem route (h : Part f o b a) (arguments : List Json) :
    Book.route saturate o arguments a.expectations =
      (Book.route saturate o arguments b.expectations).map fun p =>
        (p.1.map (·.renumber f), (p.2.filter (·.operation = o)).map (·.renumber f)) := by
  rw [← h.expectations, route_map (Expectation.renumber_relabels f), expectationsOf, route_filter]
  cases Book.route saturate o arguments b.expectations <;> rfl

/-- Both books record a call of the operation in the same way. -/
theorem record (h : Part f o b a) (saturate : Bool) (arguments : List Json) :
    (a.record saturate o arguments).1 =
        (b.record saturate o arguments).1.map (Option.map (·.renumber f)) ∧
      Part f o (b.record saturate o arguments).2 (a.record saturate o arguments).2 := by
  simp only [Book.record, h.route]
  cases Book.route saturate o arguments b.expectations with
  | error c => exact ⟨rfl, h.expectations, h.calls⟩
  | ok p =>
    refine ⟨rfl, rfl, ?_⟩
    have hcalls := h.calls
    rw [callsTo] at hcalls
    simp only [Except.map, callsTo, List.filter_append, List.map_append, hcalls]
    -- the two numbers of the expectation that took the call agree
    cases p.1 <;> simp [RecordedCall.renumber, Expectation.renumber]

/-- Both books count and mark the calls of the operation in the same way. -/
theorem tally (h : Part f o b a) (matcher : ArgumentMatcher) :
    (Book.tally o matcher b.calls).map (fun p =>
        (p.1, (p.2.filter (·.operation = o)).map (·.renumber f))) =
      (Book.tally o matcher a.calls).map fun p => (p.1, p.2.map (·.renumber id)) := by
  rw [← tally_map (RecordedCall.renumber_relabels id), ← h.calls, callsTo,
    tally_map (RecordedCall.renumber_relabels f), tally_filter]
  cases Book.tally o matcher b.calls <;> rfl

end Book.Part
end

namespace Recorder

variable {mode : Mode} {depth : Nat} {f : Nat → Nat} {o : String} {d e : Desk}
  {matcher : ArgumentMatcher} {times : Times}

/-- A registration of the operation gets the same reply, under the same number. -/
theorem register_part (h : Book.Part f o d.book e.book) (he : e.book.Consistent) (saturate : Bool)
    {outcome : Outcome}
    (hf : (register mode saturate o matcher outcome times d).2.book.Numbered f o) :
    (register mode saturate o matcher outcome times d).1.map (Except.map f) =
        (register mode saturate o matcher outcome times e).1 ∧
      Book.Part f o (register mode saturate o matcher outcome times d).2.book
        (register mode saturate o matcher outcome times e).2.book := by
  simp only [register, h.shadowOf] at hf ⊢
  cases hs : Book.shadowOf saturate o matcher d.book.expectations with
  | error c => exact ⟨rfl, h⟩
  | ok shadow =>
    rw [hs] at hf
    cases shadow with
    | none =>
      obtain ⟨hnext, hpart⟩ := h.add he hf
      exact ⟨by rw [← hnext]; rfl, hpart⟩
    | some existing =>
      cases mode with
      | strict => exact ⟨rfl, h⟩
      | lenient =>
        obtain ⟨hnext, hpart⟩ := h.add he hf
        exact ⟨by rw [← hnext]; rfl, hpart⟩

/-- A verification of the operation gets the same reply and marks the same calls. -/
theorem verify_part (h : Book.Part f o d.book e.book) (matcher : ArgumentMatcher) (times : Times) :
    (verify o matcher times d).1 = (verify o matcher times e).1 ∧
      Book.Part f o (verify o matcher times d).2.book (verify o matcher times e).2.book := by
  have htally := h.tally matcher
  simp only [verify, Book.verify]
  revert htally
  rcases Book.tally o matcher d.book.calls with c | ⟨n, marked⟩ <;>
    rcases Book.tally o matcher e.book.calls with c' | ⟨n', marked'⟩ <;> intro htally
  · cases htally
    exact ⟨rfl, h⟩
  · cases htally
  · cases htally
  · simp only [Except.map, Except.ok.injEq, Prod.mk.injEq] at htally
    obtain ⟨rfl, hmarked⟩ := htally
    dsimp only
    cases times.isSatisfiedBy n with
    | true => exact ⟨rfl, h.expectations, hmarked⟩
    | false => exact ⟨rfl, h⟩

/-- The reply to a call does not depend on the id of the expectation that takes it. -/
theorem invoke_congr_of_hit (hd : d.book.Silent) {saturate : Bool} {arguments : List Json}
    (hhit : (e.book.record saturate o arguments).1 =
      (d.book.record saturate o arguments).1.map (Option.map (·.renumber f))) :
    (serve mode (depth + 1) (.invoke saturate o arguments) d).1 =
      (serve mode (depth + 1) (.invoke saturate o arguments) e).1 := by
  rcases hr : d.book.record saturate o arguments with ⟨c | hit, b⟩ <;>
    rcases hr' : e.book.record saturate o arguments with ⟨hit', a⟩ <;>
    rw [hr, hr'] at hhit <;> dsimp only at hhit <;> subst hhit
  · rw [serve_invoke_crashed _ rfl hr, serve_invoke_crashed _ rfl hr']
  · cases hit with
    | none => rw [serve_invoke_none _ rfl hr, serve_invoke_none _ rfl hr']
    | some x =>
      have hx : x.outcome.Silent := by
        exact hd.record saturate o arguments x (Book.record_mem (congrArg Prod.fst hr))
      obtain ⟨r, hreply⟩ := hx (x.consumed - 1) arguments
      cases hf : x.times.forbidsCalls && mode.isStrict with
      | true =>
        rw [serve_invoke_forbidden _ rfl hr hf, serve_invoke_forbidden _ rfl hr' hf]
        rfl
      | false =>
        rw [serve_invoke_apply depth rfl hr hf, serve_invoke_apply depth rfl hr' hf,
          apply_silent hreply]
        exact (apply_silent hreply _).symm

/-- A call of the operation gets the same reply. -/
theorem invoke_part (h : Book.Part f o d.book e.book) (hd : d.book.Silent) (saturate : Bool)
    (arguments : List Json) :
    (serve mode (depth + 1) (.invoke saturate o arguments) d).1 =
      (serve mode (depth + 1) (.invoke saturate o arguments) e).1 :=
  invoke_congr_of_hit hd (h.record saturate arguments).1

/-- **A turn on the operation** gets the same reply on its part of the book, and leaves the part of
the book that it leaves. -/
theorem serve_part (depth : Nat) (h : Book.Part f o d.book e.book) (hd : d.book.Silent)
    (he : e.book.Consistent) {t : Turn} (ht : t.isOn o = true)
    (hf : (t.step mode d.book).Numbered f o) :
    Answered.renumber f ⟨t, (serve mode (depth + 1) t.request.2 d).1⟩ =
        ⟨t, (serve mode (depth + 1) t.request.2 e).1⟩ ∧
      Book.Part f o (t.step mode d.book) (t.step mode e.book) := by
  cases t with
  | register saturate operation matcher outcome times =>
    obtain rfl : operation = o := by simpa [Turn.isOn] using ht
    rw [← register_book] at hf ⊢
    rw [← register_book]
    obtain ⟨hreply, hpart⟩ := register_part h he saturate hf
    refine ⟨?_, hpart⟩
    simp only [Turn.request, serve, Answered.renumber, hreply]
  | call saturate operation arguments =>
    obtain rfl : operation = o := by simpa [Turn.isOn] using ht
    refine ⟨?_, (h.record saturate arguments).2⟩
    simp only [Turn.request, Answered.renumber, invoke_part h hd]
  | verify operation matcher times =>
    obtain rfl : operation = o := by simpa [Turn.isOn] using ht
    obtain ⟨hreply, hpart⟩ := verify_part h matcher times
    rw [← verify_book, ← verify_book]
    refine ⟨?_, hpart⟩
    simp only [Turn.request, serve, Answered.renumber, hreply]
  | reset => cases ht

/-! ### A run -/

/-- **Turns one after another**: those on the operation get the same replies by themselves, and
lead to the part of the book that all of them lead to. -/
theorem answers_part (depth : Nat) {ts : List Turn} (hts : ∀ t ∈ ts, t.Silent)
    (hreset : .reset ∉ ts) (h : Book.Part f o d.book e.book) (hd : d.book.Silent)
    (he : e.book.Silent) (hconsistent : e.book.Consistent)
    (hf : (Turn.play mode ts d.book).Numbered f o) :
    ((answers mode (depth + 1) ts d).filter (·.turn.isOn o)).map (·.renumber f) =
        answers mode (depth + 1) (ts.filter (·.isOn o)) e ∧
      Book.Part f o (Turn.play mode ts d.book) (Turn.play mode (ts.filter (·.isOn o)) e.book) := by
  -- by induction on the turns: a turn on another operation leaves the part alone, and one on the
  -- operation is taken on both books
  induction ts generalizing d e with
  | nil => exact ⟨rfl, h⟩
  | cons t ts ih =>
    obtain ⟨ht, hts⟩ := List.forall_mem_cons.mp hts
    rw [List.mem_cons, not_or] at hreset
    obtain ⟨htr, hreset⟩ := hreset
    have hbook : (serve mode (depth + 1) t.request.2 d).2.book = t.step mode d.book :=
      serve_request_book (depth + 1) t hd
    have hd' : (serve mode (depth + 1) t.request.2 d).2.book.Silent :=
      hbook ▸ Turn.step_silent mode ht hd
    rw [Turn.play_cons, ← hbook] at hf ⊢
    cases hon : t.isOn o with
    | true =>
      have hbook' : (serve mode (depth + 1) t.request.2 e).2.book = t.step mode e.book :=
        serve_request_book (depth + 1) t he
      have hnumbered : (t.step mode d.book).Numbered f o := by
        rw [← hbook]
        exact (Turn.play_extends mode _ hreset).numbered hf
      obtain ⟨hreply, hpart⟩ := serve_part depth h hd hconsistent hon hnumbered
      rw [← hbook, ← hbook'] at hpart
      obtain ⟨hreplies, hbooks⟩ := ih hts hreset hpart hd'
        (hbook' ▸ Turn.step_silent mode ht he) (hbook' ▸ hconsistent.step mode t) hf
      simp only [answers, List.filter_cons, hon, if_true, List.map_cons, hreply, hreplies,
        Turn.play_cons, ← hbook', true_and]
      exact hbooks
    | false =>
      obtain ⟨hes, hcs⟩ := Turn.step_of_not_isOn mode d.book (Ne.symm htr) hon
      have hpart : Book.Part f o (serve mode (depth + 1) t.request.2 d).2.book e.book := by
        rw [hbook]
        exact ⟨hes ▸ h.expectations, hcs ▸ h.calls⟩
      simp only [answers, List.filter_cons, hon, Bool.false_eq_true, if_false]
      exact ih hts hreset hpart hd' he hconsistent hf

/-- What a run shows of an operation on a new recorder is what its turns on the operation lead to
by themselves. -/
theorem showing_eq {ts : List Turn} (hts : ∀ t ∈ ts, t.Silent) (hreset : .reset ∉ ts)
    (hd : d.book = .empty) :
    showing mode (depth + 1) o ts d =
      ⟨answers mode (depth + 1) (ts.filter (·.isOn o)) d,
        (Turn.play mode (ts.filter (·.isOn o)) .empty).calls.map (·.renumber id),
        (Turn.play mode (ts.filter (·.isOn o)) .empty).expectations⟩ := by
  have hsilent : d.book.Silent := hd ▸ Book.Silent.empty
  have hconsistent : d.book.Consistent := hd ▸ Book.Consistent.empty
  have hpart : Book.Part ((Turn.play mode ts d.book).rank o) o d.book d.book := by
    rw [hd]
    exact ⟨rfl, rfl⟩
  obtain ⟨hanswers, hbooks⟩ := answers_part depth hts hreset hpart hsilent hsilent
    hconsistent ((hconsistent.play mode ts).numbered o)
  rw [← hd, ← hbooks.calls, ← hbooks.expectations, ← hanswers, showing,
    serveEach_request_book (depth + 1) hts hsilent]

end Recorder

/-- **Operations do not interfere.** Make the requests of some registrations, calls and
verifications on a new recorder, no outcome asking anything of it. What the run shows of an
operation is what the requests on that operation show by themselves on a new recorder. So any other
run with the same requests on the operation, whatever it does to other ones and however the two are
interleaved, shows the same. -/
theorem operations_separate (mode : Mode) (depth : Nat) (diagnostics : List Diagnostic)
    (reported : Option TestError) (operation : String) (ts : List Turn)
    (hts : ∀ t ∈ ts, t.Silent) (hreset : .reset ∉ ts) :
    let start : Desk := ⟨.empty, diagnostics, reported⟩
    let own := ts.filter (·.isOn operation)
    let alone := (Recorder.serveEach mode (depth + 1) (own.map Turn.request) start).book
    let shown := Recorder.showing mode (depth + 1) operation ts start
    shown.answers = Recorder.answers mode (depth + 1) own start ∧
      shown.calls = alone.calls.map (·.renumber id) ∧
      shown.expectations = alone.expectations ∧
      ∀ us : List Turn, (∀ t ∈ us, t.Silent) → .reset ∉ us →
        us.filter (·.isOn operation) = own →
        Recorder.showing mode (depth + 1) operation us start = shown := by
  intro start own alone shown
  have hown : ∀ t ∈ own, t.Silent := fun t ht => hts t (List.mem_of_mem_filter ht)
  have halone : alone = Turn.play mode own .empty :=
    Recorder.serveEach_request_book (depth + 1) hown (by simp [start, Book.Silent, Book.empty])
  have hshown : shown = ⟨Recorder.answers mode (depth + 1) own start,
      alone.calls.map (·.renumber id), alone.expectations⟩ := by
    rw [halone]
    exact Recorder.showing_eq hts hreset rfl
  refine ⟨congrArg Showing.answers hshown, congrArg Showing.calls hshown,
    congrArg Showing.expectations hshown, fun us hus hreset' hsame => ?_⟩
  rw [Recorder.showing_eq hus hreset' rfl, hsame, hshown, halone]

/-- Two operations side by side. -/
def Turn.sideBySide : List Turn :=
  [.register true "a" ⟨[.any]⟩ (.returns .null) .once,
    .register true "b" ⟨[.any]⟩ (.returns (.bool true)) .once,
    .call true "a" [.null], .call true "b" [.null], .verify "b" ⟨[.any]⟩ .once]

/-- The call of the second operation is taken by the expectation `1`, the first one on its
operation. What the second operation shows is the same when the other one comes in between and
registers nothing. -/
theorem operations_separate_sideBySide :
    let start : Desk := ⟨.empty, [], none⟩
    let shown := Recorder.showing .strict 1 "b" Turn.sideBySide start
    let others : List Turn :=
      [.register true "b" ⟨[.any]⟩ (.returns (.bool true)) .once, .call true "a" [.str "x"],
        .call true "b" [.null], .verify "a" ⟨[]⟩ .never, .verify "b" ⟨[.any]⟩ .once]
    (Turn.play .strict Turn.sideBySide .empty).matches = [some 0, some 1] ∧
      shown.calls = [⟨0, "b", [.null], some 0, true⟩] ∧
      Recorder.showing .strict 1 "b" others start = shown := by
  intro start shown others
  have hts : ∀ t ∈ Turn.sideBySide, t.Silent := by
    simp only [Turn.sideBySide, List.forall_mem_cons]
    exact ⟨fun _ _ => ⟨_, rfl⟩, fun _ _ => ⟨_, rfl⟩, trivial, trivial, trivial, by simp⟩
  have hus : ∀ t ∈ others, t.Silent := by
    simp only [others, List.forall_mem_cons]
    exact ⟨fun _ _ => ⟨_, rfl⟩, trivial, trivial, trivial, trivial, by simp⟩
  obtain ⟨-, hcalls, -, hother⟩ :=
    operations_separate .strict 0 [] none "b" Turn.sideBySide hts (by simp [Turn.sideBySide])
  exact ⟨rfl, hcalls.trans rfl, hother others hus (by simp [others]) rfl⟩

end TestDouble
