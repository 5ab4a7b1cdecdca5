import TestDouble.Log.Capture
import TestDouble.Log.Collector
import TestDouble.Log.Logger

/-!
# Journals

A journal holds all collectors of a test, by number, and knows who listens to events. Only one
party listens at a time: the layers of the scope entered last. A scope remembers who listened
before it and gives the word back when it ends; events that nobody listens to are lost, and nobody
listens once all scopes have ended.

Scopes that end in another order than last in, first out give the word back to whoever they found
listening, even if that one's scope has ended.
-/

namespace TestDouble

/-- A listener: the collector it writes to and the least level it listens to. -/
structure Layer where
  minimum : LogLevel
  collector : Nat
  deriving DecidableEq

/-- All collectors of a test, and who listens. -/
structure Journal where
  collectors : List Collector
  /-- Who listens, while some scope lasts. -/
  listening : Option (List Layer)
  /-- How many scopes last. -/
  scopes : Nat
  /-- The moment of the next record. -/
  moment : Nat
  deriving DecidableEq

/-- A scope that lasts: who listened before it. -/
structure Scope where
  before : Option (List Layer)
  deriving DecidableEq

namespace Journal

/-- No collectors, and nobody listens. -/
def empty : Journal := ⟨[], none, 0, 0⟩

instance : Inhabited Journal := ⟨empty⟩

/-- Opens a new collector and gives its number. -/
def openCollector (j : Journal) : Nat × Journal :=
  (j.collectors.length, { j with collectors := j.collectors ++ [.empty] })

/-- A collector by its number. -/
def collector (j : Journal) (id : Nat) : Collector := j.collectors[id]?.getD .empty

/-- Logs an entry into a collector. -/
def emit (j : Journal) (id : Nat) (e : LogEntry) : Journal :=
  { j with
    collectors := j.collectors.modify id fun c => c.emit j.moment e
    moment := j.moment + 1 }

/-- Takes all records out of a collector. -/
def clear (j : Journal) (id : Nat) : Journal :=
  { j with collectors := j.collectors.modify id fun _ => .empty }

/-- Lets one layer hear an event. -/
def layerHears (e : Event) (j : Journal) (l : Layer) : Journal :=
  match e.capture? l.minimum with
  | some entry => j.emit l.collector entry
  | none => j

/-- Lets whoever listens hear an event, its layers in order. -/
def hear (j : Journal) (e : Event) : Journal :=
  match j.scopes, j.listening with
  | 0, _ | _, none => j
  | _, some layers => layers.foldl (layerHears e) j

/-- Lets whoever listens hear events in turn. -/
def hearAll (j : Journal) (es : List Event) : Journal := es.foldl hear j

/-- Enters a scope with layers of its own. -/
def enter (j : Journal) (layers : List Layer) : Scope × Journal :=
  (⟨j.listening⟩, { j with listening := some layers, scopes := j.scopes + 1 })

/-- Ends a scope. -/
def leave (j : Journal) (s : Scope) : Journal :=
  { j with listening := s.before, scopes := j.scopes - 1 }

/-- Logs a message through a logger. -/
def log (j : Journal) (l : Logger) (level : LogLevel) (message : String)
    (error : Option Fault) : Journal :=
  match l with
  | .collecting category id => j.emit id (loggedEntry category level message error)
  | .forwarding category => j.hear (loggedEvent category level message error)

end Journal
end TestDouble
