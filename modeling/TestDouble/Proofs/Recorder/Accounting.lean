import Mathlib.Data.List.DropRight
import TestDouble.Proofs.Recorder.Bookkeeping
import TestDouble.Proofs.Recorder.Congruence
import TestDouble.Proofs.Recorder.Verdict

/-!
# Accounting for calls

A recorder can be asked whether every call is accounted for. It keeps two marks for each call, the
expectation that took it and whether a verification has counted it, and reports the calls that have
neither. `Turn.unclaimed` says from the history alone which calls these are: those that every
expectation refused when they were made and that no successful verification after them has counted.
`Turn.play_calls` says what a run does to the marks: nothing but what `Turn.vouched` says. So
nothing but a reset takes a mark away, and nothing but a successful verification gives a later one
(`unclaimed_calls_reported`).

A verification looks at the operations and the arguments of the calls, which no verification
changes. So a list of verifications gets the replies that each of them would get by itself, and
leaves marks that depend on what is on the list, in whatever order and how often.
-/

namespace TestDouble

namespace RecordedCall

/-- What was called: the part of a call that verifications look at. -/
def content (c : RecordedCall) : String × List Json := (c.operation, c.arguments)

/-- The call, verified if it was before or is now. -/
def mark (c : RecordedCall) (now : Bool) : RecordedCall := { c with verified := c.verified || now }

@[simp] theorem mark_false (c : RecordedCall) : c.mark false = c := by simp [mark]

@[simp] theorem mark_mark (c : RecordedCall) (v w : Bool) : (c.mark v).mark w = c.mark (v || w) := by
  simp [mark, Bool.or_assoc]

@[simp] theorem isAccountedFor_mark (c : RecordedCall) (now : Bool) :
    (c.mark now).isAccountedFor = (c.isAccountedFor || now) := by
  simp [isAccountedFor, mark, Bool.or_assoc]

/-- Marks account for the calls that they are put on. -/
theorem filter_mark (v : RecordedCall → Bool) (cs : List RecordedCall) :
    (cs.map fun c => c.mark (v c)).filter (!·.isAccountedFor) =
      (cs.filter (!·.isAccountedFor)).filter (!v ·) := by
  induction cs with
  | nil => rfl
  | cons c rest ih =>
    simp only [List.map_cons, List.filter_cons, isAccountedFor_mark, ih]
    cases c.isAccountedFor <;> cases hv : v c <;> simp [hv]

end RecordedCall

/-- A verification that counts the calls to an operation with accepted arguments. -/
structure Check where
  operation : String
  matcher : ArgumentMatcher
  times : Times

namespace Check

/-- The request to make the verification. -/
def request (k : Check) : Request .verification := .verify k.operation k.matcher k.times

/-- The turn that making the verification takes. -/
def turn (k : Check) : Turn := .verify k.operation k.matcher k.times

/-- What is replied to the verification. -/
def reply (k : Check) (b : Book) : Except Stop (Except TestError Unit) :=
  (Recorder.verify k.operation k.matcher k.times (.ofBook b)).1

/-- Whether the verification succeeds. -/
def passes (k : Check) (b : Book) : Bool :=
  match k.reply b with
  | .ok (.ok ()) => true
  | _ => false

/-- Whether the verification counts a call. -/
def counts (k : Check) (c : RecordedCall) : Bool := c.countedBy k.operation k.matcher = .ok true

/-- Whether the verification accounts for a call: it succeeds and counts it. -/
def vouches (k : Check) (b : Book) (c : RecordedCall) : Bool := k.passes b && k.counts c

end Check

namespace Turn

/-- Whether a turn is a verification that accounts for a call. -/
def vouches (b : Book) (c : RecordedCall) : Turn → Bool
  | verify operation matcher times => Check.vouches ⟨operation, matcher, times⟩ b c
  | _ => false

/-- Whether one of some turns is a verification that accounts for a call. -/
def vouched (mode : Mode) (c : RecordedCall) : List Turn → Book → Bool
  | [], _ => false
  | t :: ts, b => t.vouches b c || vouched mode c ts (t.step mode b)

/-- The call of a turn if every expectation refuses it. -/
def leaves (b : Book) : Turn → List RecordedCall
  | call saturate operation arguments =>
    if ∀ e ∈ b.expectations, e.accepts saturate operation arguments = .ok false then
      [⟨b.nextSequence, operation, arguments, none, false⟩]
    else []
  | _ => []

/-- The calls of some turns that every expectation refused when they were made and that no turn
after them has accounted for. -/
def unclaimed (mode : Mode) : List Turn → Book → List RecordedCall
  | [], _ => []
  | t :: ts, b =>
    (t.leaves b).filter (fun c => !vouched mode c ts (t.step mode b)) ++
      unclaimed mode ts (t.step mode b)

/-- Whether a turn forgets everything. -/
def isReset : Turn → Bool
  | reset => true
  | _ => false

/-- The turns since the last reset, if there was one. -/
def sinceReset (ts : List Turn) : List Turn := ts.rtakeWhile fun t => !t.isReset

theorem reset_notMem_sinceReset (ts : List Turn) : .reset ∉ sinceReset ts := by
  intro h
  simpa [isReset] using List.mem_rtakeWhile_imp h

/-- Only the turns since the last reset matter to a book that was empty at the start. -/
theorem play_sinceReset (mode : Mode) (ts : List Turn) :
    play mode (sinceReset ts) .empty = play mode ts .empty := by
  induction ts using List.reverseRecOn with
  | nil => rfl
  | append_singleton ts t ih =>
    rw [sinceReset, List.rtakeWhile_concat, ← sinceReset, play_append]
    cases t with
    | reset => rfl
    | register => simp [isReset, ih]
    | call => simp [isReset, ih]
    | verify => simp [isReset, ih]

end Turn

/-! ### One verification -/

namespace Book

variable {operation : String} {matcher : ArgumentMatcher}

/-- A verification marks the calls that it counts. -/
theorem tally_marked {cs marked : List RecordedCall} {n : Nat}
    (h : tally operation matcher cs = .ok (n, marked)) :
    marked = cs.map fun c => c.mark (c.countedBy operation matcher = .ok true) := by
  induction cs generalizing n marked with
  | nil =>
    simp only [tally, Except.ok.injEq, Prod.mk.injEq] at h
    rw [← h.2, List.map_nil]
  | cons c rest ih =>
    simp only [tally] at h
    split at h
    · cases h
    · next counted hcounted =>
      split at h
      · cases h
      · next m marked' hm =>
        rw [List.map_cons, hcounted, ← ih hm]
        cases counted <;> simp_all [RecordedCall.mark]

/-- How many calls a verification counts depends on what was called. -/
theorem tally_congr {cs cs' : List RecordedCall}
    (h : cs.map RecordedCall.content = cs'.map RecordedCall.content) :
    (tally operation matcher cs).map Prod.fst = (tally operation matcher cs').map Prod.fst := by
  induction cs generalizing cs' with
  | nil =>
    obtain rfl : cs' = [] := by simpa using h.symm
    rfl
  | cons c rest ih =>
    obtain ⟨c', rest', rfl, hc, hrest⟩ := List.map_eq_cons_iff.mp h.symm
    have hcounted : c'.countedBy operation matcher = c.countedBy operation matcher := by
      rw [RecordedCall.content, RecordedCall.content, Prod.mk.injEq] at hc
      rw [RecordedCall.countedBy, RecordedCall.countedBy, hc.1, hc.2]
    have htally := ih hrest.symm
    simp only [tally, hcounted]
    cases c.countedBy operation matcher with
    | error crash => rfl
    | ok counted =>
      revert htally
      rcases tally operation matcher rest with crash | ⟨n, marked⟩ <;>
        rcases tally operation matcher rest' with crash' | ⟨n', marked'⟩ <;>
        intro htally <;> cases htally
      · rfl
      · cases counted <;> rfl

end Book

namespace Check

variable {k : Check} {b b' : Book}

/-- A verification succeeds if that is the reply to it. -/
theorem passes_iff : k.passes b = true ↔ k.reply b = .ok (.ok ()) := by
  unfold passes
  split <;> simp_all

/-- The reply to a verification depends on how many calls it counts. -/
theorem reply_congr_of_tally (k : Check)
    (h : (Book.tally k.operation k.matcher b.calls).map Prod.fst =
      (Book.tally k.operation k.matcher b'.calls).map Prod.fst) : k.reply b = k.reply b' := by
  simp only [reply, Recorder.verify, Book.verify, Desk.ofBook_book]
  revert h
  rcases Book.tally k.operation k.matcher b.calls with c | ⟨n, marked⟩ <;>
    rcases Book.tally k.operation k.matcher b'.calls with c' | ⟨n', marked'⟩ <;>
    intro h <;> cases h
  · rfl
  · dsimp only
    cases k.times.isSatisfiedBy n <;> rfl

/-- **The reply to a verification depends on what was called.** -/
theorem reply_congr (k : Check) (h : b.calls.map RecordedCall.content =
    b'.calls.map RecordedCall.content) : k.reply b = k.reply b' :=
  k.reply_congr_of_tally (Book.tally_congr h)

theorem vouches_congr (k : Check) (h : b.calls.map RecordedCall.content =
    b'.calls.map RecordedCall.content) (c : RecordedCall) : k.vouches b c = k.vouches b' c := by
  simp only [vouches, passes, k.reply_congr h]

/-- **A verification marks the calls that it accounts for**, and does nothing else. -/
theorem step_turn (k : Check) (mode : Mode) (b : Book) :
    k.turn.step mode b = { b with calls := b.calls.map fun c => c.mark (k.vouches b c) } := by
  have hnone : k.passes b = false →
      b = { b with calls := b.calls.map fun c => c.mark (k.vouches b c) } := by
    intro h
    simp [vouches, h]
  rw [turn, Turn.step]
  rcases Recorder.verify_cases k.operation k.matcher k.times (.ofBook b) with
    ⟨c, hv⟩ | ⟨n, marked, ht, -, hv⟩ | ⟨n, marked, -, -, hv⟩
  · rw [hv]
    exact hnone (by rw [passes, reply, hv])
  · have hpasses : k.passes b = true := by rw [passes_iff, reply, hv]
    rw [hv, Book.tally_marked ht]
    simp [vouches, hpasses, counts]
  · rw [hv]
    exact hnone (by rw [passes, reply, hv])

end Check

/-! ### What a run does to the marks -/

namespace Turn

variable {mode : Mode} {b : Book} {t : Turn} {ts : List Turn}

/-- What a mark changes does not matter to a verification. -/
theorem vouches_mark (c : RecordedCall) (v : Bool) : t.vouches b (c.mark v) = t.vouches b c := by
  cases t <;> rfl

theorem vouched_mark (c : RecordedCall) (v : Bool) :
    vouched mode (c.mark v) ts b = vouched mode c ts b := by
  induction ts generalizing b with
  | nil => rfl
  | cons t ts ih => rw [vouched, vouched, ih, vouches_mark]

theorem step_register_calls (mode : Mode) (saturate : Bool) (operation : String)
    (matcher : ArgumentMatcher) (outcome : Outcome) (times : Times) (b : Book) :
    ((register saturate operation matcher outcome times).step mode b).calls = b.calls := by
  rcases step_register_cases mode saturate operation matcher outcome times b with
    ⟨-, -, -, hb⟩ | hb <;> rw [hb]
  rfl

/-- **One turn**: the calls before it get the marks that it gives, and of a new call it is known
whether somebody expected it. -/
theorem step_calls (mode : Mode) (b : Book) (ht : t ≠ .reset) :
    ∃ new, (t.step mode b).calls = b.calls.map (fun c => c.mark (t.vouches b c)) ++ new ∧
      new.filter (!·.isAccountedFor) = t.leaves b := by
  cases t with
  | register saturate operation matcher outcome times =>
    refine ⟨[], ?_, rfl⟩
    rw [step_register_calls]
    simp [vouches]
  | call saturate operation arguments =>
    have hsame : b.calls = b.calls.map fun c => c.mark (vouches b c (call saturate operation
        arguments)) := by simp [vouches]
    rw [step_call, ← hsame]
    rcases b.record_cases saturate operation arguments with
      ⟨c, hr⟩ | ⟨hall, hr⟩ | ⟨l, e, r, hes, -, he, hr⟩
    · refine ⟨[], by simp [hr, Book.skip], ?_⟩
      rw [leaves, if_neg fun hall => ?_, List.filter_nil]
      rw [Book.record_none hall] at hr
      cases hr
    · refine ⟨_, by rw [hr, Book.enter_calls], ?_⟩
      rw [leaves, if_pos hall]
      rfl
    · refine ⟨_, by rw [hr, Book.enter_calls], ?_⟩
      rw [leaves, if_neg fun hall => ?_]
      · rfl
      · rw [hall e (by simp [hes])] at he
        cases he
  | verify operation matcher times =>
    have hstep := Check.step_turn ⟨operation, matcher, times⟩ mode b
    rw [Check.turn] at hstep
    exact ⟨[], by rw [hstep, List.append_nil]; rfl, rfl⟩
  | reset => exact absurd rfl ht

/-- **A run without a reset**: the calls before it get the marks of the verifications that account
for them, and of the new ones those are not accounted for that were left to nobody. -/
theorem play_calls (mode : Mode) (b : Book) (hts : .reset ∉ ts) :
    ∃ new, (play mode ts b).calls = b.calls.map (fun c => c.mark (vouched mode c ts b)) ++ new ∧
      new.filter (!·.isAccountedFor) = unclaimed mode ts b := by
  induction ts generalizing b with
  | nil => exact ⟨[], by simp [vouched], rfl⟩
  | cons t ts ih =>
    rw [List.mem_cons, not_or] at hts
    obtain ⟨ht, hts⟩ := hts
    obtain ⟨new, hcalls, hnew⟩ := step_calls mode b (Ne.symm ht)
    obtain ⟨new', hcalls', hnew'⟩ := ih (t.step mode b) hts
    refine ⟨new.map (fun c => c.mark (vouched mode c ts (t.step mode b))) ++ new', ?_, ?_⟩
    · rw [play_cons, hcalls', hcalls, List.map_append, List.map_map, List.append_assoc]
      congr 1
      refine List.map_congr_left fun c _ => ?_
      rw [Function.comp_apply, vouched_mark, RecordedCall.mark_mark, vouched]
    · rw [List.filter_append, RecordedCall.filter_mark, hnew, hnew', unclaimed]

/-- The calls of a recorder that are not accounted for, by its history. -/
theorem play_unclaimed (mode : Mode) (ts : List Turn) :
    (play mode ts .empty).calls.filter (!·.isAccountedFor) =
      unclaimed mode (sinceReset ts) .empty := by
  obtain ⟨new, hcalls, hnew⟩ := play_calls mode .empty (reset_notMem_sinceReset ts)
  rw [← play_sinceReset, hcalls]
  exact hnew

end Turn

/-! ### Verifications one after another -/

namespace Check

variable {mode : Mode} {d : Desk}

theorem serve_request (k : Check) (mode : Mode) (depth : Nat) (d : Desk) :
    (Recorder.serve mode depth k.request d).1 = k.reply d.book ∧
      (Recorder.serve mode depth k.request d).2.book =
        { d.book with calls := d.book.calls.map fun c => c.mark (k.vouches d.book c) } := by
  have hbook : d.book = (Desk.ofBook d.book).book := rfl
  rw [request, Recorder.serve]
  exact ⟨(Recorder.verify_congr k.operation k.matcher k.times hbook).1,
    (Recorder.verify_book mode d).trans (k.step_turn mode d.book)⟩

/-- **A list of verifications**: each gets the reply that it would get at the start, and a call gets
a mark if one of them accounts for it. -/
theorem serveEach_requests (mode : Mode) (depth : Nat) (ks : List Check) (d : Desk) :
    Recorder.replies mode depth (ks.map request) d = ks.map (·.reply d.book) ∧
      (Recorder.serveEach mode depth (ks.map fun k => ⟨_, k.request⟩) d).book =
        { d.book with
          calls := d.book.calls.map fun c => c.mark (ks.any (·.vouches d.book c)) } := by
  induction ks generalizing d with
  | nil => simp [Recorder.replies, Recorder.serveEach]
  | cons k ks ih =>
    obtain ⟨hreply, hbook⟩ := k.serve_request mode depth d
    obtain ⟨hreplies, hbooks⟩ := ih (Recorder.serve mode depth k.request d).2
    have hcontent : (Recorder.serve mode depth k.request d).2.book.calls.map RecordedCall.content =
        d.book.calls.map RecordedCall.content := by
      rw [hbook, List.map_map]
      rfl
    have hvouches : ∀ (k' : Check) c,
        k'.vouches (Recorder.serve mode depth k.request d).2.book c = k'.vouches d.book c :=
      fun k' => k'.vouches_congr hcontent
    refine ⟨?_, hbooks.trans ?_⟩
    · rw [List.map_cons, Recorder.replies, hreply, hreplies, List.map_cons]
      exact congrArg _ (List.map_congr_left fun k' _ => k'.reply_congr hcontent)
    · simp only [hvouches]
      simp only [hbook, List.map_map]
      congr 1
      refine List.map_congr_left fun c _ => ?_
      rw [Function.comp_apply, List.any_cons, ← RecordedCall.mark_mark]
      rfl

/-- What a list of verifications leaves depends on what is on it. -/
theorem serveEach_requests_congr (mode : Mode) (depth : Nat) {ks ks' : List Check}
    (h : ∀ k, k ∈ ks ↔ k ∈ ks') (d : Desk) :
    (Recorder.serveEach mode depth (ks.map fun k => ⟨_, k.request⟩) d).book =
      (Recorder.serveEach mode depth (ks'.map fun k => ⟨_, k.request⟩) d).book := by
  have hany : ∀ c, ks.any (·.vouches d.book c) = ks'.any (·.vouches d.book c) := by
    intro c
    rw [Bool.eq_iff_iff, List.any_eq_true, List.any_eq_true]
    simp only [h]
  rw [(serveEach_requests mode depth ks d).2, (serveEach_requests mode depth ks' d).2]
  simp only [hany]

end Check

/-- **Exactly the unclaimed calls are reported.** Take any book that turns lead to, so any that
requests on a new recorder lead through. Asked whether every call is accounted for, the recorder
reports, once each and in the order of arrival, the calls since the last reset that every
expectation refused when they were made and that no successful verification after them has counted;
it succeeds if there is none. A registration and a verification that does not succeed account for
nothing, and without a reset a call loses no mark. The reply to a verification depends on what was
called, and nothing else about the calls. So a list of verifications gets the replies that each of
them would get at the start, and the marks that it leaves depend on what is on the list. -/
theorem unclaimed_calls_reported (mode : Mode) (depth : Nat) :
    (∀ (qs : List ((k : RequestKind) × Request k)) (diagnostics : List Diagnostic)
        (reported : Option TestError),
      let start : Desk := ⟨.empty, diagnostics, reported⟩
      (Recorder.serveEach mode depth qs start).book =
        Turn.play mode (Recorder.turnsEach mode depth qs start) .empty) ∧
    (∀ (ts : List Turn) (d : Desk), d.book = Turn.play mode ts .empty →
      let rest := Turn.unclaimed mode (Turn.sinceReset ts) .empty
      let reply := (Recorder.serve mode depth .verifyNoOtherCalls d).1
      reply = .ok (TestError.collect (rest.map RecordedCall.unexpected)) ∧
        (reply = .ok (.ok ()) ↔ rest = []) ∧ (rest.map (·.sequence)).Pairwise (· < ·)) ∧
    (∀ (k : Check) (d : Desk),
      k.passes d.book = true ↔ (Recorder.serve mode depth k.request d).1 = .ok (.ok ())) ∧
    (∀ (b : Book) saturate operation matcher outcome times,
      ((Turn.register saturate operation matcher outcome times).step mode b).calls = b.calls) ∧
    (∀ (b : Book) (k : Check), k.passes b = false → k.turn.step mode b = b) ∧
    (∀ (b : Book) (ts : List Turn), .reset ∉ ts → ∃ new, (Turn.play mode ts b).calls =
      b.calls.map (fun c => c.mark (Turn.vouched mode c ts b)) ++ new) ∧
    (∀ d d' : Desk,
      d.book.calls.map RecordedCall.content = d'.book.calls.map RecordedCall.content →
      ∀ k : Check, (Recorder.serve mode depth k.request d).1 =
        (Recorder.serve mode depth k.request d').1) ∧
    ∀ (d : Desk) (ks : List Check),
      Recorder.replies mode depth (ks.map Check.request) d =
          ks.map (fun k => (Recorder.serve mode depth k.request d).1) ∧
        ∀ ks' : List Check, (∀ k, k ∈ ks ↔ k ∈ ks') →
          (Recorder.serveEach mode depth (ks.map fun k => ⟨_, k.request⟩) d).book =
            (Recorder.serveEach mode depth (ks'.map fun k => ⟨_, k.request⟩) d).book := by
  have hreply : ∀ (k : Check) (d : Desk),
      (Recorder.serve mode depth k.request d).1 = k.reply d.book :=
    fun k d => (k.serve_request mode depth d).1
  refine ⟨fun qs _ _ => Recorder.serveEach_book mode depth qs _, fun ts d hd => ?_, fun k d => ?_,
    fun b saturate operation matcher outcome times => ?_, fun b k hk => ?_, fun b ts hts => ?_,
    fun d d' h k => ?_, fun d ks => ⟨?_, fun ks' h => ?_⟩⟩
  · intro rest reply
    have hrest : d.book.calls.filter (!·.isAccountedFor) = rest := hd ▸ Turn.play_unclaimed mode ts
    have hreports : reply = .ok (TestError.collect (rest.map RecordedCall.unexpected)) := by
      rw [← hrest]
      exact Recorder.serve_verifyNoOtherCalls d
    have hconsistent : d.book.Consistent := hd ▸ Book.Consistent.empty.play mode ts
    refine ⟨hreports, ?_, ?_⟩
    · rw [hreports, Except.ok.injEq, TestError.collect_eq_ok_iff, List.map_eq_nil_iff]
    · rw [← hrest]
      exact hconsistent.increasing.sublist (List.filter_sublist.map _)
  · rw [hreply, Check.passes_iff]
  · exact Turn.step_register_calls mode saturate operation matcher outcome times b
  · rw [k.step_turn mode b]
    simp [Check.vouches, hk]
  · obtain ⟨new, hcalls, -⟩ := Turn.play_calls mode b hts
    exact ⟨new, hcalls⟩
  · rw [hreply, hreply, k.reply_congr h]
  · simp only [hreply]
    exact (Check.serveEach_requests mode depth ks d).1
  · exact Check.serveEach_requests_congr mode depth h d

/-- A call before a reset, two calls after it, two verifications that count the second of these,
and that call once more. Only the second verification succeeds. -/
def Turn.auditedRun : List Turn :=
  [.call true "op" [.int 0], .reset, .call true "op" [.int 1], .call true "op" [.int 2],
    .verify "op" ⟨[.exact (.int 2)]⟩ .never, .verify "op" ⟨[.exact (.int 2)]⟩ .once,
    .call true "op" [.int 2]]

/-- The first call after the reset is reported, and the last one, which comes too late for the
verifications. To ask for one of two calls fails and leaves no mark; to ask for both makes one
mark, however often it is done. -/
theorem unclaimed_calls_reported_audited :
    let d := Desk.ofBook (Turn.play .lenient Turn.auditedRun .empty)
    let both : Check := ⟨"op", ⟨[.exact (.int 2)]⟩, .exactly 2⟩
    let one : Check := ⟨"op", ⟨[.exact (.int 2)]⟩, .once⟩
    (Recorder.serve .lenient 0 .verifyNoOtherCalls d).1 =
        .ok (.error (.verification [.unexpectedCall "op" [.int 1], .unexpectedCall "op" [.int 2]])) ∧
      one.turn.step .lenient d.book = d.book ∧
      (∃ new, (Turn.play .lenient [both.turn] d.book).calls =
        d.book.calls.map (fun c => c.mark (Turn.vouched .lenient c [both.turn] d.book)) ++ new) ∧
      (Recorder.serve .lenient 0 one.request d).1 =
        (Recorder.serve .lenient 0 one.request (.ofBook (both.turn.step .lenient d.book))).1 ∧
      (Recorder.serveEach .lenient 0 ([one, both].map fun k => ⟨_, k.request⟩) d).book =
        (Recorder.serveEach .lenient 0 ([both, one, both].map fun k => ⟨_, k.request⟩) d).book := by
  intro d both one
  obtain ⟨-, hreports, -, -, hfails, hmarks, hreply, hlist⟩ :=
    unclaimed_calls_reported .lenient 0
  refine ⟨(hreports Turn.auditedRun d rfl).1, hfails d.book one (by decide),
    hmarks d.book [both.turn] (by simp [Check.turn]), hreply d _ rfl one,
    (hlist d [one, both]).2 [both, one, both] (by simp [or_comm])⟩

end TestDouble
