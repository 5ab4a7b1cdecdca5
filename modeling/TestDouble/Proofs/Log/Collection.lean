import Mathlib.Data.List.DropRight
import TestDouble.Log.Snapshot
import TestDouble.Proofs.Log.Emission

/-!
# What a collector holds

Entries come into a collector in several ways: they are emitted as they are or step by step as they
are built, loggers write them, and layers make them of the events that they hear. Between such acts
the collector may be cleared, and scopes in which layers listen begin and end. `LogAct.emitted` says
from the acts alone which entries have come in since the collector was cleared last, and
`emissions_collected` that these are what the collector holds, in order and numbered from zero.
-/

namespace TestDouble

/-! ### Building an entry -/

/-- One step of building an entry. -/
inductive EntryStep where
  | error (f : Fault)
  | errorDetail (f : Option Fault)
  | category (name : String)
  | field (name value : String)

namespace EntryStep

/-- The entry after a step. -/
def apply (e : LogEntry) : EntryStep → LogEntry
  | error f => e.withError f
  | errorDetail f => e.withErrorDetail f
  | category name => e.withCategory name
  | field name value => e.withField name value

/-- The error that a step gives, or takes away. -/
def error? : EntryStep → Option (Option Fault)
  | error f => some (some f)
  | errorDetail f => some f
  | _ => none

/-- The category that a step gives. -/
def category? : EntryStep → Option String
  | category name => some name
  | _ => none

/-- The text that a step gives to a field. -/
def text? (name : String) : EntryStep → Option String
  | field k v => if k = name then some v else none
  | _ => none

end EntryStep

namespace LogEntry

/-- The entry that some steps build from a message. -/
def build (level : LogLevel) (message : String) (steps : List EntryStep) : LogEntry :=
  steps.foldl EntryStep.apply (ofMessage level message)

/-- **What an entry was built with**: its level and its message, and of the error, the category and
each field what was given last. -/
theorem build_eq (level : LogLevel) (message : String) (steps : List EntryStep) :
    (build level message steps).level = level ∧ (build level message steps).message = message ∧
      (build level message steps).error = (steps.reverse.findSome? EntryStep.error?).join ∧
      (build level message steps).category = steps.reverse.findSome? EntryStep.category? ∧
      ∀ name, (build level message steps).fields.get? name =
        steps.reverse.findSome? (EntryStep.text? name) := by
  induction steps using List.reverseRecOn with
  | nil => exact ⟨rfl, rfl, rfl, rfl, fun _ => rfl⟩
  | append_singleton steps s ih =>
    obtain ⟨hlevel, hmessage, herror, hcategory, hfields⟩ := ih
    have happly : build level message (steps ++ [s]) = s.apply (build level message steps) :=
      List.foldl_concat ..
    simp only [happly, List.reverse_append, List.reverse_singleton, List.singleton_append,
      List.findSome?_cons]
    cases s with
    | error f => exact ⟨hlevel, hmessage, rfl, hcategory, hfields⟩
    | errorDetail f => exact ⟨hlevel, hmessage, rfl, hcategory, hfields⟩
    | category name => exact ⟨hlevel, hmessage, herror, rfl, hfields⟩
    | field name value =>
      refine ⟨hlevel, hmessage, herror, hcategory, fun name' => ?_⟩
      rw [EntryStep.apply, withField, Table.get?_put, hfields, EntryStep.text?]
      by_cases h : name = name' <;> simp [h, eq_comm]

end LogEntry

/-! ### Acts -/

/-- One thing that is done to the collectors of a test. -/
inductive LogAct where
  /-- Emits a message into a collector, perhaps with an error. -/
  | emit (collector : Nat) (level : LogLevel) (message : String) (error : Option Fault)
  /-- Emits an entry that some steps have built. -/
  | emitRecord (collector : Nat) (level : LogLevel) (message : String) (steps : List EntryStep)
  | log (l : Logger) (level : LogLevel) (message : String) (error : Option Fault)
  | event (e : Event)
  /-- Enters a scope in which some layers listen. -/
  | enter (layers : List Layer)
  | leave (s : Scope)
  | openCollector
  | clear (collector : Nat)

namespace LogAct

/-- Does an act. -/
def step (j : Journal) : LogAct → Journal
  | emit n level message error =>
    j.emit n ((LogEntry.ofMessage level message).withErrorDetail error)
  | emitRecord n level message steps => j.emit n (.build level message steps)
  | log l level message error => j.log l level message error
  | event e => j.hear e
  | enter layers => (j.enter layers).2
  | leave s => j.leave s
  | openCollector => j.openCollector.2
  | clear n => j.clear n

/-- Does acts one after another. -/
def play (acts : List LogAct) (j : Journal) : Journal := acts.foldl step j

/-- Whether an act clears a collector. -/
def clears (id : Nat) : LogAct → Bool
  | clear n => n = id
  | _ => false

/-- The entries that an act brings to a collector. -/
def given (id : Nat) (j : Journal) : LogAct → List LogEntry
  | emit n level message error =>
    if n = id then [⟨level, message, error, none, .empty⟩] else []
  | emitRecord n level message steps => if n = id then [.build level message steps] else []
  | log l level message error => j.logged id l level message error
  | event e => e.heardBy id j.audience
  | _ => []

/-- Acts one after another, each with the journal that it finds. -/
def found : List LogAct → Journal → List (LogAct × Journal)
  | [], _ => []
  | a :: acts, j => (a, j) :: found acts (a.step j)

/-- The acts since a collector was cleared last, each with the journal that it finds. -/
def sinceClear (id : Nat) (acts : List LogAct) (j : Journal) : List (LogAct × Journal) :=
  (found acts j).rtakeWhile fun p => !p.1.clears id

/-- The entries that have come into a collector since it was cleared last. -/
def emitted (id : Nat) (acts : List LogAct) (j : Journal) : List LogEntry :=
  (sinceClear id acts j).flatMap fun p => p.1.given id p.2

variable {id : Nat} {j : Journal}

theorem found_concat (acts : List LogAct) (a : LogAct) (j : Journal) :
    found (acts ++ [a]) j = found acts j ++ [(a, play acts j)] := by
  induction acts generalizing j with
  | nil => rfl
  | cons b acts ih => exact congrArg _ (ih (b.step j))

/-- No act closes a collector. -/
theorem length_le_step (j : Journal) (a : LogAct) :
    j.collectors.length ≤ (a.step j).collectors.length := by
  cases a with
  | emit n level message error => exact (Journal.emit_brings 0 j n _).length.ge
  | emitRecord n level message steps => exact (Journal.emit_brings 0 j n _).length.ge
  | log l level message error => exact (Journal.log_brings 0 j l level message error).length.ge
  | event e => exact (Journal.hear_brings 0 j e).length.ge
  | enter layers => exact Nat.le_refl _
  | leave s => exact Nat.le_refl _
  | openCollector => simp [step, Journal.openCollector]
  | clear n => simp [step, Journal.clear]

theorem length_le_play (acts : List LogAct) (j : Journal) :
    j.collectors.length ≤ (play acts j).collectors.length := by
  induction acts generalizing j with
  | nil => exact Nat.le_refl _
  | cons a acts ih => exact (length_le_step j a).trans (ih (a.step j))

/-- **An act** brings a collector what it gives, unless it clears the collector. -/
theorem step_gains (hid : id < j.collectors.length) {a : LogAct} (ha : a.clears id = false) :
    (j.collector id).Gains ((a.step j).collector id) (a.given id j) := by
  cases a with
  | emit n level message error => exact (Journal.emit_brings id j n _).gains hid
  | emitRecord n level message steps => exact (Journal.emit_brings id j n _).gains hid
  | log l level message error => exact (Journal.log_brings id j l level message error).gains hid
  | event e => exact (Journal.hear_brings id j e).gains hid
  | enter layers => exact .refl _
  | leave s => exact .refl _
  | openCollector =>
    have hsame : j.openCollector.2.collector id = j.collector id := by
      simp [Journal.openCollector, Journal.collector, List.getElem?_append_left hid]
    rw [step, hsame]
    exact .refl _
  | clear n =>
    have hn : n ≠ id := by simpa [clears] using ha
    have hsame : (j.clear n).collector id = j.collector id := by
      simp [Journal.clear, Journal.collector, hn]
    rw [step, hsame]
    exact .refl _

theorem collector_clear (hid : id < j.collectors.length) : (j.clear id).collector id = .empty := by
  simp [Journal.clear, Journal.collector, hid]

/-- **Acts on an empty collector**: it gains what has come in since it was cleared last. -/
theorem play_gains (hid : id < j.collectors.length) (hempty : j.collector id = .empty)
    (acts : List LogAct) :
    Collector.empty.Gains ((play acts j).collector id) (emitted id acts j) := by
  induction acts using List.reverseRecOn with
  | nil => exact hempty ▸ .refl _
  | append_singleton acts a ih =>
    have hid' := hid.trans_le (length_le_play acts j)
    have hplay : play (acts ++ [a]) j = a.step (play acts j) := List.foldl_concat ..
    rw [hplay, emitted, sinceClear, found_concat, List.rtakeWhile_concat]
    cases ha : a.clears id with
    | true =>
      obtain rfl : a = .clear id := by
        cases a <;> simp_all [clears]
      rw [step, collector_clear hid']
      exact .refl _
    | false =>
      rw [if_pos (by simp), List.flatMap_append, List.flatMap_singleton]
      exact ih.trans (step_gains hid' ha)

/-- Acts in which loggers that collect make some remarks bring what the remarks say. -/
theorem flatMap_given {found : List (LogAct × Journal)} {said : List Remark}
    (h : found.map Prod.fst =
      said.map fun r => .log (.collecting r.category id) r.level r.message r.error) :
    (found.flatMap fun p => p.1.given id p.2) = said.map Remark.entry := by
  induction said generalizing found with
  | nil =>
    obtain rfl : found = [] := by simpa using h
    rfl
  | cons r said ih =>
    obtain ⟨p, rest, rfl, hp, hrest⟩ := List.map_eq_cons_iff.mp h
    rw [List.flatMap_cons, ih hrest, hp, given, Journal.logged, if_pos rfl]
    rfl

end LogAct

/-- A snapshot in a category holds the records whose entries are in it. -/
theorem Snapshot.map_entry_withCategory (s : Snapshot) (category : String) :
    (s.withCategory category).records.map LogRecord.entry =
      (s.records.map LogRecord.entry).filter fun e => e.category = some category := by
  rw [withCategory, filter, List.filter_map]
  congr 1
  refine List.filter_congr fun r _ => ?_
  rw [Function.comp_apply, Bool.eq_iff_iff, beq_iff_eq, decide_eq_true_iff]
  rfl

/-- **A collector holds what has been emitted.** Take a collector that is empty and any acts: entries
that are emitted into it, loggers that write into it, scopes that begin and end, events that are
heard, and all this for other collectors too. Afterwards it holds exactly the entries that have come
in since it was cleared last, in order and numbered from zero; their number is the count and the next
number, and the last one is the latest. An entry that is built step by step says what was given last.
The records of a category are the entries of that category, in order and under increasing numbers;
so if all that has come in was written by loggers into the collector, they are what the logger of
that category has written. -/
theorem emissions_collected (j : Journal) (id : Nat) (hid : id < j.collectors.length)
    (hempty : j.collector id = .empty) (acts : List LogAct) :
    let c := (LogAct.play acts j).collector id
    let es := LogAct.emitted id acts j
    c.snapshot.records.map LogRecord.entry = es ∧
      c.snapshot.records.map (·.sequence) = List.range es.length ∧
      c.count = es.length ∧ c.nextSequence = c.count ∧
      c.latest? = c.snapshot.records.getLast? ∧ c.latest?.map LogRecord.entry = es.getLast? ∧
      (∀ level message steps,
        let e := LogEntry.build level message steps
        e.level = level ∧ e.message = message ∧
          e.error = (steps.reverse.findSome? EntryStep.error?).join ∧
          e.category = steps.reverse.findSome? EntryStep.category? ∧
          ∀ name, e.fields.get? name = steps.reverse.findSome? (EntryStep.text? name)) ∧
      ∀ category,
        let mine := c.snapshot.withCategory category
        mine.records.map LogRecord.entry = es.filter (fun e => e.category = some category) ∧
          (mine.records.map (·.sequence)).Pairwise (· < ·) ∧
          ∀ said : List Remark, (LogAct.sinceClear id acts j).map Prod.fst =
              said.map (fun r => .log (.collecting r.category id) r.level r.message r.error) →
            mine.records.map LogRecord.entry =
              (said.filter fun r => r.category = category).map Remark.entry := by
  intro c es
  obtain ⟨new, hrecords, hentries, hsequences, hnext⟩ := LogAct.play_gains hid hempty acts
  obtain rfl : new = c.records := hrecords.symm
  have hcount : c.count = es.length := by
    rw [Collector.count, ← List.length_map LogRecord.entry, hentries]
  have hrange : c.records.map (·.sequence) = List.range es.length :=
    hsequences.trans List.range_eq_range'.symm
  refine ⟨hentries, hrange, hcount, ?_, rfl, ?_, LogEntry.build_eq, fun category => ?_⟩
  · rw [hcount]
    exact hnext.trans (Nat.zero_add _)
  · rw [Collector.latest?, ← List.getLast?_map, hentries]
  intro mine
  have hmine : mine.records.map LogRecord.entry =
      es.filter fun e => e.category = some category :=
    (c.snapshot.map_entry_withCategory category).trans (congrArg _ hentries)
  refine ⟨hmine, ?_, fun said hsaid => ?_⟩
  · have hincreasing : (c.records.map (·.sequence)).Pairwise (· < ·) :=
      hrange ▸ List.pairwise_lt_range
    exact hincreasing.sublist (List.filter_sublist.map _)
  · have hes : es = said.map Remark.entry := LogAct.flatMap_given hsaid
    rw [hmine, hes, List.filter_map]
    congr 1
    refine List.filter_congr fun r _ => ?_
    simp [Remark.entry]

/-- An entry built with a field given twice, a scope in which a layer listens from warnings on, and
two events. -/
def LogAct.preparation : List LogAct :=
  [.emitRecord 0 .debug "start" [.field "n" "1", .category "Setup", .field "n" "2"],
    .enter [⟨.warning, 0⟩], .event ⟨.info, "stock", [("message", .text "enough")]⟩,
    .event ⟨.warn, "stock", [("message", .text "low")]⟩]

/-- What two loggers are told in turn. -/
def Remark.dialogue : List Remark :=
  [⟨"Orders", .information, "received", none⟩,
    ⟨"Payments", .error, "declined", some ⟨"card", ["expired"]⟩⟩,
    ⟨"Orders", .warning, "dropped", none⟩]

/-- Of the two events one is grave enough. After the collector is cleared the numbers start anew, and
each logger has its own records. -/
theorem emissions_collected_shared :
    let j := Journal.empty.openCollector.2
    let prepared := (LogAct.play LogAct.preparation j).collector 0
    let acts := LogAct.preparation ++ .clear 0 ::
      Remark.dialogue.map fun r => .log (.collecting r.category 0) r.level r.message r.error
    let c := (LogAct.play acts j).collector 0
    prepared.snapshot.records.map LogRecord.entry =
        [⟨.debug, "start", none, some "Setup", .ofList [("n", "2")]⟩,
          ⟨.warning, "low", none, some "stock", .empty⟩] ∧
      c.snapshot.records.map (·.sequence) = [0, 1, 2] ∧
      (c.snapshot.withCategory "Orders").records.map LogRecord.entry =
        [⟨.information, "received", none, some "Orders", .empty⟩,
          ⟨.warning, "dropped", none, some "Orders", .empty⟩] := by
  intro j prepared acts c
  obtain ⟨hprepared, -⟩ := emissions_collected j 0 Nat.one_pos rfl LogAct.preparation
  obtain ⟨-, hsequences, -, -, -, -, -, hcategory⟩ := emissions_collected j 0 Nat.one_pos rfl acts
  exact ⟨hprepared.trans rfl, hsequences.trans rfl,
    ((hcategory "Orders").2.2 Remark.dialogue rfl).trans rfl⟩

end TestDouble
