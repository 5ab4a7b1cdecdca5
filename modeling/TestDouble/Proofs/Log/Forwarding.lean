import TestDouble.Proofs.Log.Emission

/-!
# Two ways to log a message

A logger that collects makes a log entry of what it is told; a logger that forwards makes an event,
and a layer that listens makes an entry of the event. `Remark.capture?_event` says that on this way
nothing is lost but the gravest level, for which events have no name, and what is not grave enough
for the layer. So a collector that listens to forwarding loggers holds what it would hold if they had
written into it (`forwarding_agrees`).
-/

namespace TestDouble

/-- The entry under the gravest level that an event can have. -/
def LogEntry.softened (e : LogEntry) : LogEntry :=
  { e with level := if e.level = .critical then .error else e.level }

/-- **What comes of a forwarded message**: the entry of a collected one, softened, if it is grave
enough. -/
theorem Remark.capture?_event (r : Remark) (minimum : LogLevel) :
    (loggedEvent r.category r.level r.message r.error).capture? minimum =
      if minimum ≤ r.entry.softened.level then some r.entry.softened else none := by
  have hentry : (loggedEvent r.category r.level r.message r.error).entry = r.entry.softened := by
    rw [LogEntry.softened, entry, ← LogLevel.ofEvent_toEvent]
    cases r.error <;> rfl
  have hlevel : LogLevel.ofEvent (loggedEvent r.category r.level r.message r.error).level =
      r.entry.softened.level := LogLevel.ofEvent_toEvent r.level
  rw [Event.capture?, hentry, hlevel]

namespace Journal

variable {id : Nat} {j j' : Journal} {minimum : LogLevel}

/-- What a message brings to a collector depends on who listens. -/
theorem logged_congr (h : j'.audience = j.audience) (l : Logger) (level : LogLevel)
    (message : String) (error : Option Fault) :
    j'.logged id l level message error = j.logged id l level message error := by
  cases l with
  | collecting category n => rfl
  | forwarding category => simp only [logged, h]

/-- **Remarks given to loggers** one after another bring what each of them brings. -/
theorem give_brings (id : Nat) (logger : String → Logger) (said : List Remark) (j : Journal) :
    Brings id j (said.foldl (Remark.give logger) j)
      (said.flatMap fun r => j.logged id (logger r.category) r.level r.message r.error) := by
  have hgive : ∀ (j : Journal) (r : Remark), Brings id j (r.give logger j)
      (j.logged id (logger r.category) r.level r.message r.error) :=
    fun j r => log_brings id j (logger r.category) r.level r.message r.error
  exact foldl_brings id j hgive
    (fun h => funext fun r => logged_congr h (logger r.category) r.level r.message r.error) said

/-- In a scope its layers listen. -/
@[simp] theorem audience_enter (j : Journal) (layers : List Layer) :
    (j.enter layers).2.audience = layers := rfl

/-- Remarks that only one layer hears bring its collector what the layer lets through. -/
theorem flatMap_logged_forwarding (h : j.audience = [⟨minimum, id⟩]) (said : List Remark) :
    (said.flatMap fun r => j.logged id (.forwarding r.category) r.level r.message r.error) =
      ((said.map Remark.entry).map LogEntry.softened).filter fun e => minimum ≤ e.level := by
  simp only [logged, h, Event.heardBy_single, Remark.capture?_event]
  induction said with
  | nil => rfl
  | cons r said ih =>
    rw [List.flatMap_cons, ih, List.map_cons, List.map_cons, List.filter_cons]
    simp only [decide_eq_true_eq]
    split_ifs <;> rfl

/-- Remarks given to loggers that write into a collector bring it what they say. -/
theorem flatMap_logged_collecting (id : Nat) (j : Journal) (said : List Remark) :
    (said.flatMap fun r => j.logged id (.collecting r.category id) r.level r.message r.error) =
      said.map Remark.entry := by
  simp only [logged, if_true]
  exact (List.map_eq_flatMap ..).symm

end Journal

/-- **Forwarding agrees with collecting.** Give the same remarks to loggers that forward, in a scope
in which a layer listens for a collector from a level on, and to loggers of the same categories that
write into a collector, in whatever state the collectors are. Each collector keeps its records and
gets new ones. Those of the first are those of the second, with the gravest level replaced by the one
below it and without those that are then not grave enough, under the numbers that come next; they say
what the remarks say and have no further fields. -/
theorem forwarding_agrees (minimum : LogLevel) (said : List Remark) (j j' : Journal) (id id' : Nat)
    (hid : id < j.collectors.length) (hid' : id' < j'.collectors.length) :
    let entered := j.enter [⟨minimum, id⟩]
    let forwarded := (said.foldl (Remark.give .forwarding) entered.2).leave entered.1
    let collected := said.foldl (Remark.give fun category => .collecting category id') j'
    ∃ new new',
      (forwarded.collector id).records = (j.collector id).records ++ new ∧
      (collected.collector id').records = (j'.collector id').records ++ new' ∧
      new.map LogRecord.entry =
        ((new'.map LogRecord.entry).map LogEntry.softened).filter (fun e => minimum ≤ e.level) ∧
      new.map (·.sequence) = List.range' (j.collector id).nextSequence new.length ∧
      new'.map LogRecord.entry = said.map Remark.entry ∧
      ∀ r ∈ new, r.fields = .empty := by
  intro entered forwarded collected
  have hforwarded := (Journal.give_brings id .forwarding said entered.2).gains hid
  have hcollected :=
    (Journal.give_brings id' (fun category => .collecting category id') said j').gains hid'
  rw [Journal.flatMap_logged_forwarding (j.audience_enter _)] at hforwarded
  rw [Journal.flatMap_logged_collecting] at hcollected
  obtain ⟨new, hrecords, hentries, hsequences, -⟩ := hforwarded
  obtain ⟨new', hrecords', hentries', -⟩ := hcollected
  refine ⟨new, new', hrecords, hrecords', by rw [hentries, hentries'], ?_, hentries', fun r hr => ?_⟩
  · rw [hsequences, ← hentries, List.length_map]
    rfl
  · -- a new record has the fields of its entry, and a remark gives none
    have hr : r.entry ∈ new.map LogRecord.entry := List.mem_map_of_mem hr
    rw [hentries, List.mem_filter, List.map_map] at hr
    obtain ⟨remark, -, hremark⟩ := List.mem_map.mp hr.1
    exact (congrArg LogEntry.fields hremark).symm

/-- A grave message with what caused it, one that is too slight, and one of a category that is
called like a field. -/
def Remark.outcry : List Remark :=
  [⟨"Orders", .critical, "giving up", some ⟨"no stock", ["timeout", "socket closed"]⟩⟩,
    ⟨"Orders", .information, "restarting", none⟩, ⟨"message", .warning, "category", none⟩]

/-- The collector that listens holds the grave message as an error, with all that caused it. -/
theorem forwarding_agrees_outcry :
    let j := Journal.empty.openCollector.2
    let entered := j.enter [⟨.warning, 0⟩]
    let forwarded := (Remark.outcry.foldl (Remark.give .forwarding) entered.2).leave entered.1
    let collected := Remark.outcry.foldl (Remark.give fun category => .collecting category 0) j
    (collected.collector 0).records.map LogRecord.entry = Remark.outcry.map Remark.entry ∧
      (forwarded.collector 0).records.map LogRecord.entry =
        [⟨.error, "giving up", some ⟨"no stock", ["timeout", "socket closed"]⟩, some "Orders",
            .empty⟩,
          ⟨.warning, "category", none, some "message", .empty⟩] := by
  intro j entered forwarded collected
  obtain ⟨new, new', hrecords, hrecords', hentries, -, hsaid, -⟩ :=
    forwarding_agrees .warning Remark.outcry j j 0 0 Nat.one_pos Nat.one_pos
  rw [hsaid] at hentries
  refine ⟨?_, ?_⟩
  · exact (congrArg (List.map LogRecord.entry) hrecords').trans hsaid
  · exact (congrArg (List.map LogRecord.entry) hrecords).trans (hentries.trans rfl)

end TestDouble
