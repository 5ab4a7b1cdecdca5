import TestDouble.Proofs.Client.Handle
import TestDouble.Proofs.Harness.Teardown
import TestDouble.Proofs.Log.Emission

/-!
# What those who listen learn of a recorder

A lenient recorder lets pass what a strict one refuses and warns of it: an expectation that an
earlier one shadows, a call that hits an expectation forbidding it, a call that matches nothing.
Each of these is an `Incident` of the turn in which it happens. All else that a recorder tells is
slighter than information. So whoever listens from information on learns of the incidents, one by
one and in the order of the turns, and of nothing else (`capture_hears_incidents`).
-/

namespace TestDouble

/-- What a lenient recorder lets pass and warns of. -/
inductive Incident where
  /-- An expectation was registered although an earlier one shadows it. -/
  | shadowed (operation existing registered : String)
  /-- A call hit an expectation that forbids it. -/
  | forbidden (operation : String) (sequence : Nat)
  /-- A call matched nothing. -/
  | unmatched (operation : String) (sequence : Nat)
  deriving DecidableEq

namespace Incident

/-- A warning of the recorder. -/
def warn (message : String) (fields : List (String × String)) : LogEntry :=
  ⟨.warning, message, none, some "call_harness_recorder::call_recorder", .ofList fields⟩

/-- The warning of an incident. -/
def warning : Incident → LogEntry
  | shadowed operation existing registered =>
    warn "Expectation overlaps an earlier one and loses every shared call"
      [("operation", operation), ("existing", existing), ("registered", registered)]
  | forbidden operation sequence =>
    warn "Call hit an expectation that forbids it"
      [("operation", operation), ("sequence", toString sequence)]
  | unmatched operation sequence =>
    warn "No expectation matched, returning empty value"
      [("operation", operation), ("sequence", toString sequence)]

end Incident

namespace Turn

/-- The incident of a turn on a lenient recorder. -/
def incident? (b : Book) : Turn → Option Incident
  | register saturate operation matcher _ _ =>
    match Book.shadowOf saturate operation matcher b.expectations with
    | .ok (some existing) => some (.shadowed operation existing.matcher.text matcher.text)
    | _ => none
  | call saturate operation arguments =>
    match (b.record saturate operation arguments).1 with
    | .ok (some e) =>
      if e.times.forbidsCalls then some (.forbidden operation b.nextSequence) else none
    | .ok none => some (.unmatched operation b.nextSequence)
    | .error _ => none
  | verify .. => none
  | reset => none

/-- The incidents of turns on a lenient recorder, one after another. -/
def incidents : List Turn → Book → List Incident
  | [], _ => []
  | t :: ts, b => (t.incident? b).toList ++ incidents ts (t.step .lenient b)

theorem incidents_append (ts us : List Turn) (b : Book) :
    incidents (ts ++ us) b = incidents ts b ++ incidents us (play .lenient ts b) := by
  induction ts generalizing b with
  | nil => rfl
  | cons t ts ih => rw [List.cons_append, incidents, incidents, ih, List.append_assoc, play_cons]

/-- The incidents that a recorder warns of. A strict one lets nothing pass. -/
def warned (mode : Mode) (ts : List Turn) (b : Book) : List Incident :=
  if mode.isStrict then [] else incidents ts b

theorem warned_singleton (mode : Mode) (t : Turn) (b : Book) :
    warned mode [t] b = if mode.isStrict then [] else (t.incident? b).toList := by
  rw [warned, incidents, incidents, List.append_nil]

theorem warned_append (mode : Mode) (ts us : List Turn) (b : Book) :
    warned mode (ts ++ us) b = warned mode ts b ++ warned mode us (play mode ts b) := by
  cases mode with
  | strict => rfl
  | lenient => exact incidents_append ts us b

/-- The warnings that come to whoever listens from a level on. -/
def heard (minimum : LogLevel) (mode : Mode) (ts : List Turn) (b : Book) : List LogEntry :=
  if minimum ≤ .warning then (warned mode ts b).map Incident.warning else []

variable {minimum : LogLevel} {mode : Mode}

theorem heard_nil (b : Book) : heard minimum mode [] b = [] := by
  cases mode <;> exact ite_self []

theorem heard_append (ts us : List Turn) (b : Book) :
    heard minimum mode (ts ++ us) b =
      heard minimum mode ts b ++ heard minimum mode us (play mode ts b) := by
  unfold heard
  split_ifs
  · rw [warned_append, List.map_append]
  · rfl

/-- Of a lenient recorder the warnings of all incidents are heard. -/
theorem heard_lenient (hminimum : minimum ≤ .warning) (ts : List Turn) (b : Book) :
    heard minimum .lenient ts b = (incidents ts b).map Incident.warning := if_pos hminimum

/-- Of a strict recorder nothing is heard, nor by who listens to errors only. -/
theorem heard_eq_nil (h : mode = .strict ∨ .error ≤ minimum) (ts : List Turn) (b : Book) :
    heard minimum mode ts b = [] := by
  rcases h with rfl | herror
  · exact ite_self []
  · exact if_neg fun hle =>
      absurd (Nat.le_trans herror hle) (by decide : ¬ LogLevel.error ≤ .warning)

end Turn

/-! ### What a recorder tells -/

/-- The incident that a diagnostic tells of. -/
def Diagnostic.incident? : Diagnostic → Option Incident
  | expectationShadowed operation existing registered =>
    some (.shadowed operation existing registered)
  | forbiddenCall operation sequence => some (.forbidden operation sequence)
  | unmatchedCall operation sequence => some (.unmatched operation sequence)
  | _ => none

/-- **From information on only incidents are heard of**, and all of them up to warnings. -/
theorem Diagnostic.capture?_toEvent (d : Diagnostic) {minimum : LogLevel}
    (hminimum : .information ≤ minimum) :
    d.toEvent.capture? minimum =
      if minimum ≤ .warning then d.incident?.map Incident.warning else none := by
  have hdebug : ¬ minimum ≤ .debug := fun h =>
    absurd (Nat.le_trans hminimum h) (by decide : ¬ LogLevel.information ≤ .debug)
  have htrace : ¬ minimum ≤ .trace := fun h =>
    absurd (Nat.le_trans hminimum h) (by decide : ¬ LogLevel.information ≤ .trace)
  cases d with
  | expectationShadowed operation existing registered => rfl
  | forbiddenCall operation sequence => rfl
  | unmatchedCall operation sequence => rfl
  | callRecorded operation sequence matched =>
    exact (if_neg htrace).trans (ite_self none).symm
  | harnessCreated | expectationRegistered | expectationsVerified | otherCallsVerified =>
    exact (if_neg hdebug).trans (ite_self none).symm

/-- The incidents that have been told. -/
def Desk.incidents (d : Desk) : List Incident := d.diagnostics.filterMap Diagnostic.incident?

@[simp] theorem Desk.incidents_tell (d : Desk) (ds : List Diagnostic) :
    (d.tell ds).incidents = d.incidents ++ ds.filterMap Diagnostic.incident? :=
  List.filterMap_append

@[simp] theorem Desk.incidents_withBook (d : Desk) (b : Book) :
    ({ d with book := b } : Desk).incidents = d.incidents := rfl

namespace Recorder

/-- The turns lead from one desk to the other, and the incidents told of meanwhile are those that
the recorder warns of. -/
structure Warns (mode : Mode) (d d' : Desk) (ts : List Turn) : Prop where
  book : d'.book = Turn.play mode ts d.book
  incidents : d'.incidents = d.incidents ++ Turn.warned mode ts d.book

namespace Warns

variable {mode : Mode} {d d' d'' : Desk} {ts us : List Turn}

/-- Telling of no incident warns of none. -/
theorem quiet {ds : List Diagnostic} (hbook : d'.book = d.book)
    (htold : d'.diagnostics = d.diagnostics ++ ds)
    (hds : ds.filterMap Diagnostic.incident? = []) : Warns mode d d' [] where
  book := hbook
  incidents := by
    rw [Desk.incidents, htold, List.filterMap_append, hds]
    cases mode <;> rfl

theorem trans (h : Warns mode d d' ts) (h' : Warns mode d' d'' us) :
    Warns mode d d'' (ts ++ us) where
  book := by rw [h'.book, h.book, Turn.play_append]
  incidents := by
    rw [h'.incidents, h.incidents, h.book, Turn.warned_append, List.append_assoc]

/-- A registration that is let pass is warned of if an earlier expectation shadows it. -/
theorem registration (saturate : Bool) (operation : String) (matcher : ArgumentMatcher)
    (outcome : Outcome) (times : Times) (d : Desk) :
    Warns mode d (register mode saturate operation matcher outcome times d).2
      [.register saturate operation matcher outcome times] where
  book := register_book d
  incidents := by
    rw [Turn.warned_singleton, Turn.incident?]
    unfold register
    cases Book.shadowOf saturate operation matcher d.book.expectations with
    | error c => cases mode <;> simp
    | ok shadow =>
      cases shadow with
      | none => cases mode <;> simp [Diagnostic.incident?]
      | some existing => cases mode <;> simp [Diagnostic.incident?, Mode.isStrict]

/-- A call is warned of if it hits what forbids it or matches nothing. -/
theorem call (saturate : Bool) (operation : String) (arguments : List Json) (d : Desk) :
    Warns mode d (record mode saturate operation arguments d).2
      [.call saturate operation arguments] where
  book := record_book arguments d
  incidents := by
    rw [Turn.warned_singleton, Turn.incident?]
    unfold record
    rcases d.book.record saturate operation arguments with ⟨c | hit, book⟩
    · cases mode <;> simp
    cases hit with
    | none => cases mode <;>
        simp [callDiagnostics, List.filterMap_cons, Diagnostic.incident?, Mode.isStrict]
    | some e =>
      cases hforbids : e.times.forbidsCalls <;> cases mode <;>
        simp [callDiagnostics, List.filterMap_cons, Diagnostic.incident?, Mode.isStrict, hforbids]

/-- A verification of a count tells of nothing. -/
theorem count (operation : String) (matcher : ArgumentMatcher) (times : Times) (d : Desk) :
    Warns mode d (verify operation matcher times d).2 [.verify operation matcher times] where
  book := verify_book mode d
  incidents := by
    rw [Turn.warned_singleton, Turn.incident?]
    unfold verify
    split <;> simp

/-- Warning is a trail. -/
theorem trail (mode : Mode) : Trail mode (fun _ => True) (Warns mode) where
  refl := fun d => .quiet rfl (List.append_nil _).symm rfl
  trans := trans
  report := fun _ h => ⟨h.book, h.incidents⟩
  within := fun _ _ e _ => e.outcome.within_true
  registration := fun _ d => .registration _ _ _ _ _ d
  call := fun _ d => .call _ _ _ d
  count := fun _ d => .count _ _ _ d
  verdict := fun _ => .quiet rfl rfl rfl
  leftover := fun _ => .quiet rfl rfl rfl
  reset := fun _ d => ⟨rfl, by rw [Turn.warned_singleton]; cases mode <;> simp [Turn.incident?]⟩

end Warns

/-- **A request warns of its incidents**, those in its callbacks included. -/
theorem serve_warns (mode : Mode) (depth : Nat) {k : RequestKind} (q : Request k) (d : Desk) :
    Warns mode d (serve mode depth q d).2 (turns mode depth q d) :=
  (Warns.trail mode).serve depth q.within_true fun e _ => e.outcome.within_true

end Recorder

/-! ### What is heard of a recorder -/

/-- What a layer that listens from information on hears of diagnostics. -/
theorem Diagnostic.heardBy_layer (id : Nat) {minimum : LogLevel} (hminimum : .information ≤ minimum)
    (ds : List Diagnostic) :
    ((ds.map Diagnostic.toEvent).flatMap fun e => e.heardBy id [⟨minimum, id⟩]) =
      if minimum ≤ .warning then (ds.filterMap Diagnostic.incident?).map Incident.warning
      else [] := by
  simp only [List.flatMap_map, Event.heardBy_single, capture?_toEvent _ hminimum,
    ← List.filterMap_eq_flatMap_toList]
  split_ifs
  · exact List.map_filterMap.symm
  · exact List.filterMap_none ds

namespace Bench

variable {id : Nat} {minimum : LogLevel} {b : Bench}

/-- What the layer that listens brings its collector from a request. -/
theorem perform_brings (hminimum : .information ≤ minimum)
    (hlayer : b.journal.audience = [⟨minimum, id⟩]) {k : RequestKind} (q : Request k) :
    Journal.Brings id b.journal (perform (Recording.request q) b).2.journal
      (Turn.heard minimum b.config.mode
        (Recorder.turns b.config.mode Recorder.nestingLimit q ⟨b.book, [], b.reported⟩) b.book) := by
  have hrun : (Recorder.run b.config.mode (Recording.request q) ⟨b.book, [], b.reported⟩).2 =
      (Recorder.serve b.config.mode Recorder.nestingLimit q ⟨b.book, [], b.reported⟩).2 :=
    congrArg Prod.snd (Recording.run_request q)
  have hwarns := (Recorder.serve_warns b.config.mode Recorder.nestingLimit q
    ⟨b.book, [], b.reported⟩).incidents
  rw [← hrun, Desk.incidents, Desk.incidents, List.filterMap_nil, List.nil_append] at hwarns
  rw [Turn.heard, ← hwarns, ← Diagnostic.heardBy_layer id hminimum, ← hlayer]
  exact Journal.hearAll_brings id b.journal _

/-- What the layer that listens brings its collector from requests. -/
theorem asks_brings (hminimum : .information ≤ minimum)
    (hlayer : b.journal.audience = [⟨minimum, id⟩])
    (qs : List ((k : RequestKind) × Request k)) :
    Journal.Brings id b.journal (b.asks qs).journal
      (Turn.heard minimum b.config.mode (b.turns qs) b.book) := by
  induction qs generalizing b with
  | nil =>
    rw [turns, Turn.heard_nil]
    exact .refl _
  | cons q qs ih =>
    have hfirst := perform_brings hminimum hlayer q.2
    have hrest := ih (hfirst.audience.trans hlayer)
    rw [perform_book] at hrest
    rw [turns, Turn.heard_append]
    exact hfirst.trans hrest

end Bench

/-- **Those who listen hear of the incidents.** Let a collector listen from information on while
requests are made to a recorder, in whatever state they are, by a test that goes on after a crash.
The collector of a lenient recorder keeps its records and, if it listens to warnings, gets a warning
for each incident of the turns that the requests take, callbacks included, in the order of the turns.
If the recorder is strict, or the collector does not listen to warnings, it gets nothing. -/
theorem capture_hears_incidents (minimum : LogLevel) (hminimum : .information ≤ minimum)
    (qs : List ((k : RequestKind) × Request k)) (b : Bench) (id : Nat)
    (hid : id < b.journal.collectors.length) :
    let entered := b.journal.enter [⟨minimum, id⟩]
    let inside : Bench := { b with journal := entered.2 }
    let collected := ((inside.asks qs).journal.leave entered.1).collector id
    let ts := inside.turns qs
    (inside.asks qs).book = Turn.play b.config.mode ts b.book ∧
      (b.config.mode = .lenient → minimum ≤ .warning →
        ∃ new, collected.records = (b.journal.collector id).records ++ new ∧
          new.map LogRecord.entry = (Turn.incidents ts b.book).map Incident.warning) ∧
      (b.config.mode = .strict ∨ .error ≤ minimum → collected = b.journal.collector id) := by
  intro entered inside collected ts
  have hlayer : inside.journal.audience = [⟨minimum, id⟩] := rfl
  have hgains := (Bench.asks_brings hminimum hlayer qs).gains hid
  refine ⟨(inside.asks_eq qs).1, fun hmode hle => ?_, fun hsilent => ?_⟩
  · rw [show inside.config.mode = .lenient from hmode, Turn.heard_lenient hle] at hgains
    obtain ⟨new, hrecords, hentries, -⟩ := hgains
    exact ⟨new, hrecords, hentries⟩
  · rw [Turn.heard_eq_nil hsilent] at hgains
    exact hgains.eq_of_nil

/-- A run in which a forbidden call has a callback that makes a call nobody expects. -/
def Bench.offendingRun : List ((k : RequestKind) × Request k) :=
  [⟨_, .register false "op" ⟨[.any]⟩
      (.callback fun _ _ => .ask (.invoke false "other" []) fun _ => .done (.ok .null)) .never⟩,
    ⟨_, .register false "op" ⟨[.exact .null]⟩ (.returns .null) .once⟩,
    ⟨_, .invoke false "op" [.null]⟩]

/-- The collector hears of the forbidden call before it hears of the one that its callback makes. -/
theorem capture_hears_incidents_offending :
    let b := Bench.plain .lenient .empty
    let entered := b.journal.enter [⟨.information, 0⟩]
    let inside : Bench := { b with journal := entered.2 }
    ((((inside.asks Bench.offendingRun).journal.leave entered.1).collector 0).records.map
        LogRecord.entry) =
      [Incident.shadowed "op" "_" "null", .forbidden "op" 0, .unmatched "other" 1].map
        Incident.warning := by
  intro b entered inside
  obtain ⟨-, hlenient, -⟩ :=
    capture_hears_incidents .information (by decide) Bench.offendingRun b 0 Nat.one_pos
  obtain ⟨new, hrecords, hentries⟩ := hlenient rfl (by decide)
  exact (congrArg (List.map LogRecord.entry) hrecords).trans (hentries.trans rfl)

end TestDouble
