import TestDouble.Proofs.Client.TypedCall
import TestDouble.Proofs.Harness.Teardown
import TestDouble.Proofs.Log.Emission
import TestDouble.Proofs.Recorder.Calm

/-!
# What a subject leaves on its bench

A subject makes typed calls and logs. `Bench.Passes` says what has come of that when one bench has
become another: the turns that the book has taken, the entries that the collector of the harness has
gained, and that nothing else has changed. What is done step by step leaves what the steps leave, one
after another (`Passes.trans`).

On a calm book a typed call ends: `Surface.Ends` says how, `Bench.perform_call` that it does and that
it leaves its own turn. The collector gains nothing by it, unless a layer listens for it and hears what
the recorder tells (`Journal.Overhears`). A calm book stays calm (`Bench.Leads`), so a subject can be put
to work on one thing after another (`Bench.Leads.mapM`).
-/

namespace TestDouble

/-! ### How typed calls end -/

/-- The ways in which a typed call of an operation fails. -/
inductive TestError.OfCall (operation : String) (arguments : List Json) : TestError → Prop where
  | unexpected : OfCall operation arguments (.unexpectedCall operation arguments)
  | forbidden {matcher : String} {times : Times} {count : Nat} : times.forbidsCalls = true →
    OfCall operation arguments (.unsatisfied operation matcher times count)
  | raised {failure : Failure} : OfCall operation arguments (.raised failure)
  | undecodable {reason : DecodeError} : OfCall operation arguments (.decoding operation reason)

namespace Surface

/-- The turn that a call of a method takes. -/
def turn (s : Surface) (method : String) (arguments : List Json) : Turn :=
  .call s.handle.saturate (s.operation method) arguments

/-- A typed call on a book can end so: the look-up finds something, the recorder replies, and the
reply, if it is a value, is read. -/
def Ends {α : Type} (s : Surface) (mode : Mode) (b : Book) (method : String) (c : Codec α)
    (arguments : List Json) (ended : Except TestError α) : Prop :=
  ∃ hit reply,
    (b.record s.handle.saturate (s.operation method) arguments).1 = .ok hit ∧
    Recorder.Replies mode (s.operation method) arguments hit reply ∧
    ended = reply.bind (s.decodeAnswer method c)

namespace Ends

variable {α : Type} {s : Surface} {mode : Mode} {b : Book} {method : String} {c : Codec α}
  {arguments : List Json}

/-- **A call fails** because it is unexpected or forbidden, because it is told to, or because its
answer cannot be read. -/
theorem ofCall {e : TestError} (h : s.Ends mode b method c arguments (.error e)) :
    e.OfCall (s.operation method) arguments := by
  obtain ⟨hit, reply, hhit, hreply, hended⟩ := h
  have hread : ∀ v, .error e = s.decodeAnswer method c v →
      e.OfCall (s.operation method) arguments := by
    intro v hv
    unfold decodeAnswer at hv
    split at hv
    · cases hv
    · cases hv
      exact .undecodable
  cases hreply with
  | unexpected =>
    cases hended
    exact .unexpected
  | unmatched => exact hread _ hended
  | @forbidden x _ hforbids =>
    cases hended
    have hoperation : x.operation = s.operation method := by
      rcases b.record_cases s.handle.saturate (s.operation method) arguments with
        ⟨_, hr⟩ | ⟨-, hr⟩ | ⟨_, y, _, -, -, hy, hr⟩
      · simp [hr] at hhit
      · simp [hr] at hhit
      · obtain rfl : y.consume = x := by simpa [hr] using hhit
        exact (Expectation.accepts_eq_true_iff.mp hy).1
    rw [Expectation.violation, hoperation]
    exact .forbidden hforbids
  | raised =>
    cases hended
    exact .raised
  | returned => exact hread _ hended

/-- A forbidden call on a strict recorder ends with the violation. -/
theorem of_forbidden {e : Expectation} {ended : Except TestError α}
    (h : s.Ends mode b method c arguments ended) (hmode : mode = .strict)
    (hhit : (b.record s.handle.saturate (s.operation method) arguments).1 = .ok (some e))
    (hforbids : e.times.forbidsCalls = true) : ended = .error e.violation := by
  subst hmode
  obtain ⟨hit, reply, hhit', hreply, hended⟩ := h
  obtain rfl : hit = some e := Except.ok.inj (hhit'.symm.trans hhit)
  rw [hended, hreply.of_forbidden hforbids]
  rfl

end Ends

end Surface

/-! ### What a collector hears of a recorder -/

namespace Journal

/-- Entries that a collector gets of what a recorder tells, from whoever listens for it. -/
def Overhears (j : Journal) (id : Nat) (es : List LogEntry) : Prop :=
  ∃ ds : List Diagnostic, es = (ds.map Diagnostic.toEvent).flatMap fun e => e.heardBy id j.audience

namespace Overhears

variable {j j' : Journal} {id : Nat} {es es' : List LogEntry}

theorem nil (j : Journal) (id : Nat) : j.Overhears id [] := ⟨[], rfl⟩

theorem append (h : j.Overhears id es) (h' : j.Overhears id es') : j.Overhears id (es ++ es') := by
  obtain ⟨ds, rfl⟩ := h
  obtain ⟨ds', rfl⟩ := h'
  exact ⟨ds ++ ds', by rw [List.map_append, List.flatMap_append]⟩

theorem congr (h : j'.Overhears id es) (haudience : j'.audience = j.audience) :
    j.Overhears id es := by
  obtain ⟨ds, rfl⟩ := h
  exact ⟨ds, by rw [haudience]⟩

/-- A collector that nobody listens for hears nothing. -/
theorem eq_nil (h : j.Overhears id es) (hnobody : ∀ l ∈ j.audience, l.collector ≠ id) : es = [] := by
  obtain ⟨ds, rfl⟩ := h
  refine List.flatMap_eq_nil_iff.mpr fun e _ => List.flatMap_eq_nil_iff.mpr fun l hl => ?_
  exact if_neg (hnobody l hl)

end Overhears
end Journal

namespace Bench

/-- One bench becomes another: the book takes some turns, the collector of the harness gains some
entries, and nothing else changes but what is kept for other collectors and the last error shown. -/
structure Passes (b : Bench) (ts : List Turn) (es : List LogEntry) (b' : Bench) : Prop where
  book : b'.book = Turn.play b.config.mode ts b.book
  journal : Journal.Brings b.collector b.journal b'.journal es
  config : b'.config = b.config
  collector : b'.collector = b.collector
  verifiedAt : b'.verifiedAt = b.verifiedAt

variable {α β : Type} {b b' b'' : Bench} {ts us : List Turn} {es fs : List LogEntry}

namespace Passes

theorem refl (b : Bench) : b.Passes [] [] b := ⟨rfl, .refl _, rfl, rfl, rfl⟩

theorem trans (h : b.Passes ts es b') (h' : b'.Passes us fs b'') :
    b.Passes (ts ++ us) (es ++ fs) b'' where
  book := by rw [h'.book, h.book, h.config, Turn.play_append]
  journal := h.journal.trans (h.collector ▸ h'.journal)
  config := h'.config.trans h.config
  collector := h'.collector.trans h.collector
  verifiedAt := h'.verifiedAt.trans h.verifiedAt

theorem calm (h : b.Passes ts es b') (hts : ∀ t ∈ ts, t.Calm) (hb : b.book.Calm) : b'.book.Calm := by
  rw [h.book]
  exact hb.play b.config.mode hts

/-- Calls that a calm book takes are added to it. -/
theorem exists_added (h : b.Passes ts es b') (hts : ∀ t ∈ ts, t.called?.isSome)
    (hb : b.book.Calm) :
    ∃ added, b'.book.calls = b.book.calls ++ added ∧
      added.map RecordedCall.content = ts.filterMap Turn.called? := by
  rw [h.book]
  exact hb.exists_added b.config.mode hts

/-- The collector of the harness stays open. -/
theorem collector_lt (h : b.Passes ts es b') (hb : b.collector < b.journal.collectors.length) :
    b'.collector < b'.journal.collectors.length := by
  rw [h.collector, h.journal.length]
  exact hb

end Passes

/-- A message that is logged into the collector of the harness is gained by it. -/
theorem log_passes {id : Nat} (hid : b.collector = id) (category : String) (level : LogLevel)
    (message : String) (error : Option Fault) :
    ∃ b', log (.collecting category id) level message error b = (.ok (), b') ∧
      b.Passes [] [Remark.entry ⟨category, level, message, error⟩] b' := by
  refine ⟨_, rfl, rfl, ?_, rfl, rfl, rfl⟩
  have hbrings := Journal.log_brings b.collector b.journal (.collecting category id) level message
    error
  rwa [Journal.logged, if_pos hid.symm] at hbrings

/-- **A typed call on a calm book** ends, and leaves its turn. -/
theorem perform_call (hb : b.book.Calm) (s : Surface) (method : String) (c : Codec α)
    (arguments : List Json) :
    ∃ ended overheard b',
      perform (s.call method c (.value (.arr arguments))) b = (.ok ended, b') ∧
      s.Ends b.config.mode b.book method c arguments ended ∧
      b.journal.Overhears b.collector overheard ∧
      b.Passes [s.turn method arguments] overheard b' := by
  let d : Desk := ⟨b.book, [], b.reported⟩
  -- the limit of nesting is far beyond what outcomes need that ask nothing
  obtain ⟨hit, reply, hhit, hreply, hserve⟩ := Recorder.serve_replies b.config.mode 4095 (d := d) hb
    s.handle.saturate (s.operation method) arguments
  let served := (Recorder.serve b.config.mode Recorder.nestingLimit
    (.invoke s.handle.saturate (s.operation method) arguments) d).2
  have hrun : Recorder.run b.config.mode (s.call method c (.value (.arr arguments))) d =
      (.ok (reply.bind (s.decodeAnswer method c)), served) := by
    have harguments : encodeArguments (.value (.arr arguments)) = .ok arguments := rfl
    rw [Recorder.run, s.run_call, s.run_invokeWith method harguments]
    exact Prod.ext (congrArg (Except.map _) hserve) rfl
  have hbook : served.book = (s.turn method arguments).step b.config.mode b.book :=
    Recorder.serve_invoke_book _ _ _ hb.silent
  let events := served.diagnostics.map Diagnostic.toEvent
  refine ⟨reply.bind (s.decodeAnswer method c), _,
    { b with
      book := served.book
      reported := served.reported
      journal := b.journal.hearAll events }, ?_,
    ⟨hit, reply, hhit, hreply, rfl⟩, ⟨served.diagnostics, rfl⟩,
    ⟨hbook, Journal.hearAll_brings b.collector b.journal events, rfl, rfl, rfl⟩⟩
  rw [perform, hrun]

/-! ### One thing after another -/

namespace Passes

/-- One more message. -/
theorem log (h : b.Passes ts es b') (category : String) (level : LogLevel) (message : String)
    (error : Option Fault) :
    ∃ b'', Bench.log (.collecting category b.collector) level message error b' = (.ok (), b'') ∧
      b.Passes ts (es ++ [Remark.entry ⟨category, level, message, error⟩]) b'' := by
  obtain ⟨b'', hlog, hpasses⟩ := log_passes h.collector category level message error
  refine ⟨b'', hlog, ?_⟩
  have htrans := h.trans hpasses
  rwa [List.append_nil] at htrans

/-- **One more call**, on the book that the calls before it have left. -/
theorem call (h : b.Passes ts es b') (hts : ∀ t ∈ ts, t.Calm) (hb : b.book.Calm) (s : Surface)
    (method : String) (c : Codec α) (arguments : List Json) :
    ∃ ended overheard b'',
      perform (s.call method c (.value (.arr arguments))) b' = (.ok ended, b'') ∧
      s.Ends b.config.mode (Turn.play b.config.mode ts b.book) method c arguments ended ∧
      b.journal.Overhears b.collector overheard ∧
      b.Passes (ts ++ [s.turn method arguments]) (es ++ overheard) b'' := by
  obtain ⟨ended, overheard, b'', hcall, hends, hheard, hpasses⟩ :=
    perform_call (h.calm hts hb) s method c arguments
  rw [h.config, h.book] at hends
  rw [h.collector] at hheard
  exact ⟨ended, overheard, b'', hcall, hends, hheard.congr h.journal.audience, h.trans hpasses⟩

end Passes

/-- What is done with one more thing is done after what is done with those before. -/
theorem mapM_concat {f : α → BenchM β} {as : List α} {xs : List β} {a : α} {x : β}
    (h : as.mapM f b = (.ok xs, b')) (h' : f a b' = (.ok x, b'')) :
    (as ++ [a]).mapM f b = (.ok (xs ++ [x]), b'') := by
  have hlast : [a].mapM f b' = (.ok [x], b'') := by
    rw [List.mapM_cons, List.mapM_nil, bind_eq h']
    rfl
  rw [List.mapM_append, bind_eq h, bind_eq hlast]
  rfl

/-- **What each of several things keeps**, none of which stops as long as it is kept, all of them keep
one after another, and they do not stop. -/
theorem mapM_keeps {f : α → BenchM β} {P : Bench → Prop}
    (hstep : ∀ a b, P b → ∃ x b', f a b = (.ok x, b') ∧ P b') (as : List α) {b : Bench} (hb : P b) :
    ∃ xs b', as.mapM f b = (.ok xs, b') ∧ P b' := by
  induction as generalizing b with
  | nil => exact ⟨[], b, rfl, hb⟩
  | cons a as ih =>
    obtain ⟨x, b₁, hx, hb₁⟩ := hstep a b hb
    obtain ⟨xs, b₂, hxs, hb₂⟩ := ih hb₁
    refine ⟨x :: xs, b₂, ?_, hb₂⟩
    rw [List.mapM_cons, bind_eq hx, bind_eq hxs]
    rfl

/-- One bench becomes another by calls and messages alone. -/
def Leads (b b' : Bench) : Prop :=
  ∃ ts es, (∀ t ∈ ts, t.called?.isSome) ∧ b.Passes ts es b'

namespace Leads

theorem refl (b : Bench) : b.Leads b := ⟨[], [], nofun, .refl b⟩

theorem trans (h : b.Leads b') (h' : b'.Leads b'') : b.Leads b'' := by
  obtain ⟨ts, es, hts, hpasses⟩ := h
  obtain ⟨us, fs, hus, hpasses'⟩ := h'
  exact ⟨ts ++ us, es ++ fs, List.forall_mem_append.mpr ⟨hts, hus⟩, hpasses.trans hpasses'⟩

theorem calm (h : b.Leads b') (hb : b.book.Calm) : b'.book.Calm := by
  obtain ⟨ts, es, hts, hpasses⟩ := h
  exact hpasses.calm (fun t ht => Turn.calm_of_called? (hts t ht)) hb

theorem config (h : b.Leads b') : b'.config = b.config := by
  obtain ⟨_, _, -, hpasses⟩ := h
  exact hpasses.config

theorem collector (h : b.Leads b') : b'.collector = b.collector := by
  obtain ⟨_, _, -, hpasses⟩ := h
  exact hpasses.collector

theorem audience (h : b.Leads b') : b'.journal.audience = b.journal.audience := by
  obtain ⟨_, _, -, hpasses⟩ := h
  exact hpasses.journal.audience

/-- What is gained later is gained by the collector of the harness that it was in the beginning. -/
theorem gains (h : b.Leads b') (hb : b.collector < b.journal.collectors.length)
    (h' : b'.Passes ts es b'') :
    (b'.journal.collector b.collector).Gains (b''.journal.collector b.collector) es := by
  obtain ⟨_, _, -, hpasses⟩ := id h
  have hgains := h'.journal.gains (hpasses.collector_lt hb)
  rwa [h.collector] at hgains

/-- What leads on from wherever it starts leads on for one thing after another. -/
theorem mapM {f : α → BenchM β}
    (hstep : ∀ a b', b.Leads b' → ∃ x b'', f a b' = (.ok x, b'') ∧ b'.Leads b'') (as : List α) :
    ∃ xs b', as.mapM f b = (.ok xs, b') ∧ b.Leads b' := by
  refine mapM_keeps (fun a b' hb' => ?_) as (refl b)
  obtain ⟨x, b'', hx, hb''⟩ := hstep a b' hb'
  exact ⟨x, b'', hx, hb'.trans hb''⟩

end Leads

end Bench
end TestDouble
