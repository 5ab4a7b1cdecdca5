import Mathlib.Data.List.Nodup
import TestDouble.Proofs.Recorder.Silence

/-!
# Routing as a replay of the history

The recorder routes calls by counts that it updates call by call. The history of a client is only a
log: what was registered and accepted, and what was called, since the last reset. `History.routings`
computes from the log alone where each call went, with no counts kept: a call goes to the first
registration before it that fits, and a capped one fits while fewer calls of the log went to it than
its cap. `Shows` relates a book to a history, `Shows.serve` keeps it, and `routing_replays_history`
says that after every run the calls of the book went where the log says, and that the next call is
answered as the log says.
-/

namespace TestDouble

/-- What was registered. -/
structure Registration where
  operation : String
  matcher : ArgumentMatcher
  outcome : Outcome
  times : Times

namespace Registration

/-- The expectation of a registration, under an id and with a count. -/
def expectation (r : Registration) (id consumed : Nat) : Expectation :=
  ⟨id, r.operation, r.matcher, r.outcome, r.times, consumed⟩

/-- Whether a registration takes a call when `taken` calls went to it before: operation and
arguments are right, and if caps are enforced, a cap other than zero leaves room. -/
def Fits (saturate : Bool) (operation : String) (arguments : List Json) (taken : Nat)
    (r : Registration) : Prop :=
  r.operation = operation ∧ r.matcher.accepts arguments = .ok true ∧
    (saturate = true → ∀ m ∈ r.times.max, 0 < m → taken < m)

end Registration

instance (saturate : Bool) (operation : String) (arguments : List Json) (taken : Nat)
    (r : Registration) : Decidable (r.Fits saturate operation arguments taken) :=
  inferInstanceAs (Decidable (_ ∧ _ ∧ _))

/-- A call, and the id of the registration it went to. -/
structure Routed where
  operation : String
  arguments : List Json
  taker : Option Nat

/-- The part of a recorded call that says where it went. -/
def RecordedCall.routed (c : RecordedCall) : Routed := ⟨c.operation, c.arguments, c.matched⟩

/-- How many calls of a list went to a registration. -/
def Routed.count (calls : List Routed) (id : Nat) : Nat := (calls.map (·.taker)).count (some id)

/-- Something that a client remembers. -/
inductive Entry where
  | registered (r : Registration)
  | called (saturate : Bool) (operation : String) (arguments : List Json)

/-- What a client remembers since the last reset, the newest first. -/
abbrev History := List Entry

namespace History

/-- The registrations of a history in their order, each with its id. -/
def registrations : History → List Registration
  | [] => []
  | .registered r :: past => registrations past ++ [r]
  | .called .. :: past => registrations past

/-- The first of some registrations that fits a call, some calls having been routed before. -/
def choose (saturate : Bool) (operation : String) (arguments : List Json)
    (registrations : List Registration) (calls : List Routed) : Option (Registration × Nat) :=
  registrations.zipIdx.find? fun p => p.1.Fits saturate operation arguments (Routed.count calls p.2)

/-- The calls of a history in the order of arrival, and where they went. -/
def routings : History → List Routed
  | [] => []
  | .registered _ :: past => routings past
  | .called saturate operation arguments :: past =>
    routings past ++
      [⟨operation, arguments,
        (choose saturate operation arguments (registrations past) (routings past)).map (·.2)⟩]

/-- The registration that the next call goes to. -/
def chosen (past : History) (saturate : Bool) (operation : String) (arguments : List Json) :
    Option (Registration × Nat) :=
  choose saturate operation arguments past.registrations past.routings

/-- The answer to the next call, by the registration it goes to. -/
def answer? (past : History) (mode : Mode) (saturate : Bool) (operation : String)
    (arguments : List Json) : Option (Except Crash (Except TestError Json)) :=
  match past.chosen saturate operation arguments with
  | none =>
    some (.ok (if mode = .strict then .error (.unexpectedCall operation arguments) else .ok .null))
  | some (r, id) =>
    let before := Routed.count past.routings id
    if r.times.max = some 0 ∧ mode = .strict then
      some (.ok (.error (.unsatisfied operation r.matcher.text r.times (before + 1))))
    else r.outcome.reply? before arguments

/-- What a client remembers after one more request, by the reply. -/
def extend (past : History) : (t : Turn) → Except Stop t.request.1.Reply → History
  | .register _ operation matcher outcome times, .ok (.ok _) =>
    .registered ⟨operation, matcher, outcome, times⟩ :: past
  | .register .., _ => past
  | .call saturate operation arguments, _ => .called saturate operation arguments :: past
  | .verify .., _ => past
  | .reset, _ => []

/-- A registration that got no id is not remembered. -/
theorem extend_refused {past : History} {saturate : Bool} {operation : String}
    {matcher : ArgumentMatcher} {outcome : Outcome} {times : Times}
    {reply : Except Stop (Except TestError Nat)} (h : ∀ id, reply ≠ .ok (.ok id)) :
    past.extend (.register saturate operation matcher outcome times) reply = past := by
  rcases reply with _ | _ | id
  · rfl
  · rfl
  · exact absurd rfl (h id)

/-- What a client remembers after requests served one after another. -/
def along (mode : Mode) (depth : Nat) : List Turn → Desk → History → History
  | [], _, past => past
  | t :: ts, d, past =>
    along mode depth ts (Recorder.serve mode depth t.request.2 d).2
      (past.extend t (Recorder.serve mode depth t.request.2 d).1)

end History

/-! ### The registration that a call goes to -/

variable {mode : Mode} {saturate : Bool} {operation : String} {arguments : List Json}

theorem Registration.accepts_iff_fits {r : Registration} {id taken : Nat} :
    (r.expectation id taken).accepts saturate operation arguments = .ok true ↔
      r.Fits saturate operation arguments taken := by
  have hroom : (r.expectation id taken).isExhausted saturate = false ↔
      (saturate = true → ∀ m ∈ r.times.max, 0 < m → taken < m) := by
    rw [Expectation.isExhausted, Bool.and_eq_false_imp]
    refine imp_congr_right fun _ => ?_
    rw [← Bool.not_eq_true, Times.isExhaustedBy_iff]
    simp [expectation]
  rw [Expectation.accepts_eq_true_iff, hroom, Registration.Fits, and_comm (a := _ = Except.ok true)]
  rfl

/-- A hit fails at once if the registration forbids calls and the recorder is strict. -/
theorem Registration.fails_iff {r : Registration} {id taken : Nat} :
    ((r.expectation id taken).times.forbidsCalls && mode.isStrict) = true ↔
      r.times.max = some 0 ∧ mode = .strict := by
  cases mode <;> simp [expectation, Times.forbidsCalls, Mode.isStrict]

/-- The ids that registrations are numbered by are different. -/
theorem zipIdx_ne_of_split {rs : List Registration} {l l' : List (Registration × Nat)}
    {p : Registration × Nat} (h : rs.zipIdx = l ++ p :: l') : ∀ q, q ∈ l ∨ q ∈ l' → q.2 ≠ p.2 := by
  have hn : (rs.zipIdx.map (·.2)).Nodup := by
    rw [List.zipIdx_map_snd]
    exact List.nodup_range'
  rw [h, List.map_append, List.map_cons, List.nodup_middle, List.nodup_cons] at hn
  intro q hq heq
  refine hn.1 ?_
  rw [← heq, List.mem_append]
  exact hq.imp (fun hq => List.mem_map_of_mem hq) fun hq => List.mem_map_of_mem hq

/-- Calls go only to registrations of the history. -/
theorem History.taker_lt (past : History) :
    ∀ c ∈ past.routings, ∀ id, c.taker = some id → id < past.registrations.length := by
  induction past with
  | nil => simp [routings]
  | cons entry past ih =>
    cases entry with
    | registered r =>
      intro c hc id hid
      simp only [registrations, List.length_append, List.length_singleton]
      exact Nat.lt_succ_of_lt (ih c hc id hid)
    | called saturate operation arguments =>
      intro c hc id hid
      rcases List.mem_append.mp hc with hc | hc
      · exact ih c hc id hid
      · obtain rfl := List.mem_singleton.mp hc
        obtain ⟨⟨r, i⟩, hp, rfl⟩ := Option.map_eq_some_iff.mp hid
        have := List.snd_lt_of_mem_zipIdx (List.mem_of_find?_eq_some hp)
        simpa [registrations] using this

/-- No call has gone to the registration that comes next. -/
theorem History.count_next (past : History) :
    Routed.count past.routings past.registrations.length = 0 := by
  refine List.count_eq_zero.mpr fun hid => ?_
  obtain ⟨c, hc, heq⟩ := List.mem_map.mp hid
  exact Nat.lt_irrefl _ (past.taker_lt c hc _ heq)

theorem Routed.count_append (calls : List Routed) (c : Routed) (id : Nat) :
    count (calls ++ [c]) id = count calls id + if c.taker = some id then 1 else 0 := by
  simp only [count, List.map_append, List.count_append, List.map_singleton]
  split_ifs with h
  · simp [h]
  · simp [h]

/-! ### The book and the history -/

/-- The expectations that a history stands for: its registrations under their ids, each with the
number of calls that went to it. -/
def History.expectations (past : History) : List Expectation :=
  past.registrations.zipIdx.map fun p => p.1.expectation p.2 (Routed.count past.routings p.2)

/-- The history tells what the book holds. -/
structure Shows (b : Book) (past : History) : Prop where
  expectations : b.expectations = past.expectations
  next : b.nextExpectation = past.registrations.length
  calls : b.calls.map RecordedCall.routed = past.routings

namespace Shows

variable {b : Book} {past : History}

theorem empty : Shows .empty [] := ⟨rfl, rfl, rfl⟩

theorem add (h : Shows b past) (operation : String) (matcher : ArgumentMatcher)
    (outcome : Outcome) (times : Times) :
    Shows (b.add operation matcher outcome times)
      (.registered ⟨operation, matcher, outcome, times⟩ :: past) where
  expectations := by
    simp only [Book.add, h.expectations, h.next, History.expectations, History.registrations,
      History.routings, List.zipIdx_append, List.map_append, Nat.zero_add, List.zipIdx_singleton,
      List.map_singleton, History.count_next]
    rfl
  next := by simp [Book.add, History.registrations, h.next]
  calls := h.calls

/-- The marks on the calls are not part of the history. -/
theorem remark (h : Shows b past) {calls : List RecordedCall}
    (hc : calls.map RecordedCall.unmarked = b.calls.map RecordedCall.unmarked) :
    Shows { b with calls } past where
  expectations := h.expectations
  next := h.next
  calls := by
    have hrouted : ∀ cs : List RecordedCall,
        cs.map RecordedCall.routed = (cs.map RecordedCall.unmarked).map RecordedCall.routed := by
      intro cs
      simp [Function.comp_def, RecordedCall.routed, RecordedCall.unmarked]
    rw [← h.calls, hrouted calls, hc, ← hrouted]

/-- Without a registration that fits, every expectation refuses the call. -/
theorem refuses (h : Shows b past) (ht : ∀ e ∈ b.expectations, e.matcher.Total)
    {l : List (Registration × Nat)} (hl : ∀ p ∈ l, p ∈ past.registrations.zipIdx)
    (hfit : ∀ p ∈ l, ¬ p.1.Fits saturate operation arguments (Routed.count past.routings p.2)) :
    ∀ e ∈ l.map fun p => p.1.expectation p.2 (Routed.count past.routings p.2),
      e.accepts saturate operation arguments = .ok false := by
  intro e he
  obtain ⟨p, hp, rfl⟩ := List.mem_map.mp he
  have hmem : p.1.expectation p.2 (Routed.count past.routings p.2) ∈ b.expectations := by
    rw [h.expectations]
    exact List.mem_map_of_mem (hl p hp)
  refine Expectation.accepts_eq_false_of_ne (fun _ => ht _ hmem arguments) ?_
  rw [Ne, Registration.accepts_iff_fits]
  exact hfit p hp

/-- A call that fits no registration is recorded as nobody's. -/
theorem record_miss (h : Shows b past) (ht : ∀ e ∈ b.expectations, e.matcher.Total)
    (hc : past.chosen saturate operation arguments = none) :
    b.record saturate operation arguments =
      (.ok none, b.enter operation arguments none past.expectations) := by
  have hnone := List.find?_eq_none.mp hc
  simp only [decide_eq_true_eq] at hnone
  have hrefuse := h.refuses ht (fun _ hp => hp) hnone
  rw [← History.expectations, ← h.expectations] at hrefuse
  rw [Book.record_none hrefuse, h.expectations]

/-- A call goes to the registration that the history chooses, which counts it. -/
theorem record_hit (h : Shows b past) (ht : ∀ e ∈ b.expectations, e.matcher.Total)
    {p : Registration × Nat} (hc : past.chosen saturate operation arguments = some p) :
    ∃ l l', past.registrations.zipIdx = l ++ p :: l' ∧
      b.record saturate operation arguments =
        (.ok (some (p.1.expectation p.2 (Routed.count past.routings p.2 + 1))),
          b.enter operation arguments (some p.2)
            (l.map (fun q => q.1.expectation q.2 (Routed.count past.routings q.2)) ++
              p.1.expectation p.2 (Routed.count past.routings p.2 + 1) ::
                l'.map fun q => q.1.expectation q.2 (Routed.count past.routings q.2))) := by
  obtain ⟨hp, l, l', hsplit, hbefore⟩ := List.find?_eq_some_iff_append.mp hc
  simp only [decide_eq_true_eq, Bool.not_eq_true', decide_eq_false_iff_not] at hp hbefore
  have hes := h.expectations
  rw [History.expectations, hsplit, List.map_append, List.map_cons] at hes
  have hrefuse := h.refuses ht (fun q hq => hsplit ▸ List.mem_append_left _ hq) hbefore
  exact ⟨l, l', hsplit, Book.record_split hes hrefuse (Registration.accepts_iff_fits.mpr hp)⟩

/-- **Where the recorder sends a call is where the history says.** -/
theorem record (h : Shows b past) (ht : ∀ e ∈ b.expectations, e.matcher.Total) (saturate : Bool)
    (operation : String) (arguments : List Json) :
    b.record saturate operation arguments =
      (.ok ((past.chosen saturate operation arguments).map fun p =>
          p.1.expectation p.2 (Routed.count past.routings p.2 + 1)),
        b.enter operation arguments ((past.chosen saturate operation arguments).map (·.2))
          (History.expectations (.called saturate operation arguments :: past))) := by
  have hcount : ∀ id, Routed.count
      (History.routings (.called saturate operation arguments :: past)) id =
        Routed.count past.routings id +
          if (past.chosen saturate operation arguments).map (·.2) = some id then 1 else 0 :=
    fun id => Routed.count_append _ _ id
  simp only [History.expectations, History.registrations, hcount]
  cases hc : past.chosen saturate operation arguments with
  | none =>
    rw [h.record_miss ht hc]
    simp [History.expectations]
  | some p =>
    obtain ⟨l, l', hsplit, hr⟩ := h.record_hit ht hc
    -- the counts of the registrations before and after the one that took the call stay
    have hother : ∀ q, q ∈ l ∨ q ∈ l' →
        q.1.expectation q.2 (Routed.count past.routings q.2) =
          q.1.expectation q.2 (Routed.count past.routings q.2 +
            if (some p).map (·.2) = some q.2 then 1 else 0) := by
      intro q hq
      have hne := (zipIdx_ne_of_split hsplit q hq).symm
      simp [hne]
    rw [hr, hsplit, List.map_append, List.map_cons,
      List.map_congr_left fun q hq => hother q (.inl hq),
      List.map_congr_left fun q hq => hother q (.inr hq)]
    simp

theorem call (h : Shows b past) (ht : ∀ e ∈ b.expectations, e.matcher.Total) (saturate : Bool)
    (operation : String) (arguments : List Json) :
    Shows (b.record saturate operation arguments).2
      (.called saturate operation arguments :: past) := by
  rw [h.record ht]
  exact ⟨rfl, h.next, by simp [h.calls, History.routings, History.chosen, RecordedCall.routed]⟩

/-- **One more request**: the history grown by its reply tells what the book holds then. -/
theorem serve (depth : Nat) (t : Turn) {d : Desk} (h : Shows d.book past) (hd : d.book.Plain) :
    Shows (Recorder.serve mode depth t.request.2 d).2.book
      (past.extend t (Recorder.serve mode depth t.request.2 d).1) := by
  cases t with
  | register saturate operation matcher outcome times =>
    simp only [Turn.request, Recorder.serve]
    rcases Recorder.register_cases mode saturate operation matcher outcome times d with
      ⟨-, -, -, hr, hb⟩ | ⟨hr, hd⟩
    · rw [hr, hb]
      exact h.add operation matcher outcome times
    · rw [hd, History.extend_refused hr]
      exact h
  | call saturate operation arguments =>
    rw [Recorder.serve_request_book depth _ hd.silent]
    exact h.call hd.total saturate operation arguments
  | verify operation matcher times =>
    rw [Recorder.serve_request_book depth _ hd.silent]
    obtain ⟨calls, hb, hc⟩ := Turn.step_verify mode d.book operation matcher times
    rw [hb]
    exact h.remark hc
  | reset =>
    rw [Recorder.serve_request_book depth _ hd.silent]
    exact .empty

/-- **A whole run**: what a client remembers tells what the book holds at the end. -/
theorem serveEach (depth : Nat) {ts : List Turn} (hts : ∀ t ∈ ts, t.Plain) {d : Desk}
    (h : Shows d.book past) (hd : d.book.Plain) :
    Shows (Recorder.serveEach mode depth (ts.map Turn.request) d).book
        (History.along mode depth ts d past) ∧
      (Recorder.serveEach mode depth (ts.map Turn.request) d).book.Plain := by
  induction ts generalizing d past with
  | nil => exact ⟨h, hd⟩
  | cons t ts ih =>
    obtain ⟨ht, hts⟩ := List.forall_mem_cons.mp hts
    have hd' : (Recorder.serve mode depth t.request.2 d).2.book.Plain := by
      rw [Recorder.serve_request_book depth t hd.silent]
      exact Turn.step_plain mode ht hd
    exact ih hts (h.serve depth t hd) hd'

/-- **The answer to a call is the one that the history gives.** -/
theorem answer (depth : Nat) {d : Desk} (h : Shows d.book past) (hd : d.book.Plain)
    (saturate : Bool) (operation : String) (arguments : List Json) :
    ∃ a, past.answer? mode saturate operation arguments = some a ∧
      (Recorder.serve mode (depth + 1) (.invoke saturate operation arguments) d).1 =
        a.mapError .crashed := by
  have hr := h.record hd.total saturate operation arguments
  rw [Recorder.serve, Recorder.invoke, Recorder.record, hr, History.answer?]
  cases hc : past.chosen saturate operation arguments with
  | none => exact ⟨_, rfl, by cases mode <;> rfl⟩
  | some p =>
    have hmem : p.1.expectation p.2 (Routed.count past.routings p.2) ∈ d.book.expectations := by
      rw [h.expectations]
      exact List.mem_map_of_mem (List.mem_of_find?_eq_some hc)
    obtain ⟨a, ha⟩ := hd.silent _ hmem (Routed.count past.routings p.2) arguments
    simp only [Option.map_some]
    by_cases hm : p.1.times.max = some 0 ∧ mode = .strict
    · have ho : p.1.operation = operation :=
        (of_decide_eq_true (List.find?_eq_some_iff_append.mp hc).1).1
      refine ⟨_, if_pos hm, ?_⟩
      rw [if_pos (Registration.fails_iff.mpr hm), Expectation.violation]
      simp only [Registration.expectation, ho, Except.mapError]
    · refine ⟨a, (if_neg hm).trans ha, ?_⟩
      rw [if_neg (mt Registration.fails_iff.mp hm)]
      exact Recorder.apply_silent ha _

end Shows

/-- **Routing is a replay of the history.** After any run of registrations, calls, verifications
and resets on a new recorder, every call since the last reset went where the log says, and the
next call, whatever it is, is answered as the log says. -/
theorem routing_replays_history (mode : Mode) (depth : Nat) (diagnostics : List Diagnostic)
    (reported : Option TestError) (ts : List Turn) (h : ∀ t ∈ ts, t.Plain) :
    let start : Desk := ⟨.empty, diagnostics, reported⟩
    let d := Recorder.serveEach mode (depth + 1) (ts.map Turn.request) start
    let past := History.along mode (depth + 1) ts start []
    d.book.calls.map RecordedCall.routed = past.routings ∧
      ∀ saturate operation arguments, ∃ a,
        past.answer? mode saturate operation arguments = some a ∧
          (Recorder.serve mode (depth + 1) (.invoke saturate operation arguments) d).1 =
            a.mapError .crashed := by
  intro start d past
  obtain ⟨hs, hp⟩ : Shows d.book past ∧ d.book.Plain :=
    Shows.empty.serveEach (d := start) (depth + 1) h .empty
  exact ⟨hs.calls, fun saturate operation arguments =>
    hs.answer depth hp saturate operation arguments⟩

/-- A registration with a cap, one that forbids what it overlaps, and two calls that fit both. -/
def History.cappedRun : List Turn :=
  [.register true "op" ⟨[.any]⟩ (.returns (.bool true)) .once,
    .register true "op" ⟨[.exact (.str "x")]⟩ (.returns .null) .never,
    .call true "op" [.str "x"], .call true "op" [.str "x"]]

/-- The first call fills the cap, so the second goes to the registration that forbids it, and a
third one would fail there as the second call too many. -/
theorem routing_replays_history_capped :
    (∀ t ∈ History.cappedRun, t.Plain) ∧
      let d := Recorder.serveEach .strict 1 (History.cappedRun.map Turn.request) ⟨.empty, [], none⟩
      d.book.calls.map RecordedCall.routed =
          [⟨"op", [.str "x"], some 0⟩, ⟨"op", [.str "x"], some 1⟩] ∧
        (Recorder.serve .strict 1 (.invoke true "op" [.str "x"]) d).1 =
          .ok (.error (.unsatisfied "op" "\"x\"" .never 2)) := by
  have hplain : ∀ t ∈ History.cappedRun, t.Plain := by
    intro t ht
    simp only [History.cappedRun, List.mem_cons, List.not_mem_nil, or_false] at ht
    rcases ht with rfl | rfl | rfl | rfl
    · exact ⟨ArgumentMatcher.total_of_parts (by simp [Matcher.accepts]), fun _ _ => ⟨_, rfl⟩⟩
    · exact ⟨ArgumentMatcher.total_of_parts (by simp [Matcher.accepts]), fun _ _ => ⟨_, rfl⟩⟩
    · trivial
    · trivial
  obtain ⟨hcalls, hanswer⟩ := routing_replays_history .strict 0 [] none History.cappedRun hplain
  obtain ⟨a, ha, hreply⟩ := hanswer true "op" [.str "x"]
  refine ⟨hplain, hcalls.trans (by rfl), hreply.trans ?_⟩
  have ha' : some (.ok (.error (.unsatisfied "op" "\"x\"" .never 2))) = some a := ha
  rw [← Option.some.inj ha']
  rfl

end TestDouble
