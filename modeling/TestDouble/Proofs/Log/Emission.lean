import Mathlib.Data.List.Basic
import Mathlib.Tactic.SplitIfs
import TestDouble.Log.Journal

/-!
# What reaches a collector

A collector *gains* some entries if it keeps the records that it has and gets one more for each
entry, under the numbers that come next (`Collector.Gains`). Whatever logs does this to a collector
and nothing else: an entry is gained by the collector that it is emitted into (`emit_brings`), and
an event is gained once for each layer that listens for the collector and lets the event through
(`hear_brings`). Who listens does not depend on what has been logged.
-/

namespace TestDouble

namespace Collector

/-- The collector keeps its records and gets one more for each entry, in order and under the next
numbers. -/
def Gains (c c' : Collector) (es : List LogEntry) : Prop :=
  ∃ new, c'.records = c.records ++ new ∧ new.map LogRecord.entry = es ∧
    new.map (·.sequence) = List.range' c.nextSequence es.length ∧
    c'.nextSequence = c.nextSequence + es.length

variable {c c' c'' : Collector} {es es' : List LogEntry}

theorem Gains.refl (c : Collector) : c.Gains c [] := ⟨[], by simp⟩

theorem Gains.trans (h : c.Gains c' es) (h' : c'.Gains c'' es') : c.Gains c'' (es ++ es') := by
  obtain ⟨new, hrecords, hentries, hsequences, hnext⟩ := h
  obtain ⟨new', hrecords', hentries', hsequences', hnext'⟩ := h'
  refine ⟨new ++ new', ?_, ?_, ?_, ?_⟩
  · rw [hrecords', hrecords, List.append_assoc]
  · rw [List.map_append, hentries, hentries']
  · rw [List.map_append, hsequences, hsequences', hnext, List.length_append,
      List.range'_append_1]
  · rw [hnext', hnext, List.length_append, Nat.add_assoc]

/-- A collector that gains nothing stays as it was. -/
theorem Gains.eq_of_nil (h : c.Gains c' []) : c' = c := by
  obtain ⟨new, hrecords, hentries, -, hnext⟩ := h
  obtain rfl := List.map_eq_nil_iff.mp hentries
  obtain ⟨records, nextSequence⟩ := c'
  obtain rfl : records = c.records := hrecords.trans (List.append_nil _)
  obtain rfl : nextSequence = c.nextSequence := hnext
  rfl

/-- An entry that is emitted is gained. -/
theorem gains_emit (c : Collector) (moment : Nat) (e : LogEntry) :
    c.Gains (c.emit moment e) [e] :=
  ⟨[e.toRecord c.nextSequence moment], rfl, rfl, rfl, rfl⟩

end Collector

namespace Event

/-- The entries that a collector gets from layers that hear an event. -/
def heardBy (id : Nat) (layers : List Layer) (e : Event) : List LogEntry :=
  layers.flatMap fun l => if l.collector = id then (e.capture? l.minimum).toList else []

/-- A single layer brings its collector the event that it lets through. -/
theorem heardBy_single (id : Nat) (minimum : LogLevel) (e : Event) :
    e.heardBy id [⟨minimum, id⟩] = (e.capture? minimum).toList := by
  simp [heardBy]

end Event

/-- A message that a logger of a category is given. -/
structure Remark where
  category : String
  level : LogLevel
  message : String
  error : Option Fault

namespace Remark

/-- The entry that says what the remark says. -/
def entry (r : Remark) : LogEntry := ⟨r.level, r.message, r.error, some r.category, .empty⟩

/-- Gives the remark to a logger of its category. -/
def give (logger : String → Logger) (j : Journal) (r : Remark) : Journal :=
  j.log (logger r.category) r.level r.message r.error

end Remark

namespace Journal

/-- The layers that listen, while some scope lasts. -/
def audience (j : Journal) : List Layer := if j.scopes = 0 then [] else j.listening.getD []

/-- The collector of a number, if there is one, gains some entries; no collector is opened, and the
same layers listen. -/
structure Brings (id : Nat) (j j' : Journal) (es : List LogEntry) : Prop where
  length : j'.collectors.length = j.collectors.length
  audience : j'.audience = j.audience
  gains : id < j.collectors.length → (j.collector id).Gains (j'.collector id) es

namespace Brings

variable {id : Nat} {j j' j'' : Journal} {es es' : List LogEntry}

theorem refl (j : Journal) : Brings id j j [] := ⟨rfl, rfl, fun _ => .refl _⟩

theorem trans (h : Brings id j j' es) (h' : Brings id j' j'' es') :
    Brings id j j'' (es ++ es') where
  length := h'.length.trans h.length
  audience := h'.audience.trans h.audience
  gains := fun hid => (h.gains hid).trans (h'.gains (h.length ▸ hid))

end Brings

variable (id : Nat) (j : Journal)

/-- **An entry** is gained by the collector that it is emitted into. -/
theorem emit_brings (n : Nat) (e : LogEntry) :
    Brings id j (j.emit n e) (if n = id then [e] else []) where
  length := by simp [emit]
  audience := rfl
  gains := by
    intro hid
    have hc : (j.emit n e).collector id =
        if n = id then (j.collector id).emit j.moment e else j.collector id := by
      simp only [collector, emit, List.getElem?_modify, List.getElem?_eq_getElem hid]
      split_ifs <;> rfl
    rw [hc]
    split_ifs
    · exact (j.collector id).gains_emit j.moment e
    · exact .refl _

/-- **Things done one after another** bring what each of them brings, if that depends on nothing but
who listens. -/
theorem foldl_brings {α : Type} {step : Journal → α → Journal}
    {given : Journal → α → List LogEntry} (hstep : ∀ j a, Brings id j (step j a) (given j a))
    (hgiven : ∀ {j j' : Journal}, j'.audience = j.audience → given j' = given j) (as : List α) :
    Brings id j (as.foldl step j) (as.flatMap (given j)) := by
  induction as generalizing j with
  | nil => exact .refl j
  | cons a as ih =>
    have hrest := ih (step j a)
    rw [hgiven (hstep j a).audience] at hrest
    exact (hstep j a).trans hrest

/-- A layer brings the entry of an event to its collector. -/
theorem layerHears_brings (e : Event) (l : Layer) :
    Brings id j (layerHears e j l)
      (if l.collector = id then (e.capture? l.minimum).toList else []) := by
  unfold layerHears
  cases e.capture? l.minimum with
  | none =>
    rw [Option.toList_none, ite_self]
    exact .refl j
  | some entry => exact emit_brings id j l.collector entry

/-- Layers hear an event one after another. -/
theorem layers_bring (e : Event) (layers : List Layer) :
    Brings id j (layers.foldl (layerHears e) j) (e.heardBy id layers) :=
  foldl_brings id j (fun j l => layerHears_brings id j e l) (fun _ => rfl) layers

/-- An event is heard by the layers that listen. -/
theorem hear_eq (e : Event) : j.hear e = j.audience.foldl (layerHears e) j := by
  unfold hear audience
  rcases hscopes : j.scopes with _ | n
  · rfl
  · rcases j.listening with _ | layers <;> rfl

/-- **An event** is gained once for each layer that listens for the collector and lets it through. -/
theorem hear_brings (e : Event) : Brings id j (j.hear e) (e.heardBy id j.audience) := by
  rw [hear_eq]
  exact layers_bring id j e j.audience

/-- Events are heard one after another by the same layers. -/
theorem hearAll_brings (es : List Event) :
    Brings id j (j.hearAll es) (es.flatMap fun e => e.heardBy id j.audience) :=
  foldl_brings id j (hear_brings id) (fun h => by rw [h]) es

/-- What a message logged through a logger brings to a collector. -/
def logged (l : Logger) (level : LogLevel) (message : String) (error : Option Fault) :
    List LogEntry :=
  match l with
  | .collecting category n => if n = id then [Remark.entry ⟨category, level, message, error⟩] else []
  | .forwarding category => (loggedEvent category level message error).heardBy id j.audience

/-- **A message** is gained by the collector of a collecting logger, and from a forwarding one as the
event that it makes. -/
theorem log_brings (l : Logger) (level : LogLevel) (message : String) (error : Option Fault) :
    Brings id j (j.log l level message error) (logged id j l level message error) := by
  cases l with
  | collecting category n =>
    have hentry : loggedEntry category level message error =
        Remark.entry ⟨category, level, message, error⟩ := by
      cases error <;> rfl
    rw [log, hentry]
    exact emit_brings id j n _
  | forwarding category => exact hear_brings id j _

end Journal
end TestDouble
