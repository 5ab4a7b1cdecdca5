import TestDouble.Proofs.Harness.Conduct
import TestDouble.Service.NotificationHandler

/-!
# Notices are audited, then sent if they are urgent

The notification handler asks for every notice to be audited, and it asks for one to be sent if and
only if that has worked and the notice is urgent. What it logs is fixed by how these calls end: that a
notice is audited, and that it could not be sent. Only a notice that is not audited is an error; one
that is not sent is none, whatever the reason. `handle_passes` says so of one notice on a calm book, and
`notices_audited_then_sent` of each of any number of notices.
-/

namespace TestDouble

namespace Notice

/-- What is logged of a notice when its auditing has ended: its position, if it has one now. -/
def audited (n : Notice) (category : String) : Except TestError UInt64 → List LogEntry
  | .ok position =>
    [Remark.entry ⟨category, .debug,
      "Audited event " ++ toString n.id.toNat ++ " at " ++ toString position.toNat, none⟩]
  | .error _ => []

/-- What is logged of a notice when its sending, if it was tried, has ended: why it failed, if it
did. -/
def missed (n : Notice) (category : String) : Option (Except TestError Unit) → List LogEntry
  | some (.error e) =>
    [Remark.entry ⟨category, .warning,
      "Could not notify about event " ++ toString n.id.toNat ++ ": " ++ e.message, none⟩]
  | some (.ok _) => []
  | none => []

end Notice

namespace NotificationHandler

variable {h : NotificationHandler} {n : Notice} {category : String} {b b' b'' : Bench}

/-- The turn in which a notice is asked to be audited. -/
def appendTurn (h : NotificationHandler) (n : Notice) : Turn :=
  h.audit.turn "append" [.str ("event " ++ toString n.id.toNat)]

/-- The turn in which a notice is asked to be sent. -/
def sendTurn (h : NotificationHandler) (n : Notice) : Turn :=
  h.notifier.turn "send" [.str "urgent", Notice.codec.encode n]

/-! The ways through the handling of a notice. -/

theorem handle_unaudited {e : TestError}
    (happend : Bench.perform (h.append n) b = (.ok (.error e), b')) :
    h.handle n b = (.ok (.error e), b') := by
  rw [handle, Bench.bind_eq happend]
  rfl

section Audited

variable {position : UInt64} {b₁ : Bench}
  (happend : Bench.perform (h.append n) b = (.ok (.ok position), b'))
  (hlog : Bench.log h.logger .debug
    ("Audited event " ++ toString n.id.toNat ++ " at " ++ toString position.toNat) none b' =
      (.ok (), b''))

include happend hlog

theorem handle_slight (hslight : n.priority < urgentPriority) :
    h.handle n b = (.ok (.ok ()), b'') := by
  rw [handle, Bench.bind_eq happend]
  dsimp only
  rw [Bench.bind_eq hlog, if_pos hslight]
  rfl

theorem handle_delivered (hurgent : ¬ n.priority < urgentPriority)
    (hsend : Bench.perform (h.send n) b'' = (.ok (.ok ()), b₁)) :
    h.handle n b = (.ok (.ok ()), b₁) := by
  rw [handle, Bench.bind_eq happend]
  dsimp only
  rw [Bench.bind_eq hlog, if_neg hurgent, Bench.bind_eq hsend]
  rfl

theorem handle_undelivered (hurgent : ¬ n.priority < urgentPriority) {e : TestError} {b₂ : Bench}
    (hsend : Bench.perform (h.send n) b'' = (.ok (.error e), b₁))
    (hwarn : Bench.log h.logger .warning
      ("Could not notify about event " ++ toString n.id.toNat ++ ": " ++ e.message) none b₁ =
        (.ok (), b₂)) :
    h.handle n b = (.ok (.ok ()), b₂) := by
  rw [handle, Bench.bind_eq happend]
  dsimp only
  rw [Bench.bind_eq hlog, if_neg hurgent, Bench.bind_eq hsend]
  dsimp only
  rw [Bench.bind_eq hwarn]
  rfl

end Audited

/-- **Every notice is handled** on a calm book: it is asked to be audited and, if that works and the
notice is urgent, to be sent. What the recorder tells of the auditing stands before what the handler
logs of it, and so it is with the sending. -/
theorem handle_passes (n : Notice) (hb : b.book.Calm)
    (hlogger : h.logger = .collecting category b.collector) :
    ∃ appended sent heard heard' b',
      h.handle n b = (.ok (appended.map fun _ => ()), b') ∧
      h.audit.Ends b.config.mode b.book "append" .u64
        [.str ("event " ++ toString n.id.toNat)] appended ∧
      (∀ ended ∈ sent, h.notifier.Ends b.config.mode ((h.appendTurn n).step b.config.mode b.book)
        "send" .unit [.str "urgent", Notice.codec.encode n] ended) ∧
      (sent.isSome ↔ (∃ position, appended = .ok position) ∧ urgentPriority ≤ n.priority) ∧
      b.journal.Overhears b.collector heard ∧ b.journal.Overhears b.collector heard' ∧
      (sent = none → heard' = []) ∧
      b.Passes (h.appendTurn n :: if sent.isSome then [h.sendTurn n] else [])
        (heard ++ n.audited category appended ++ heard' ++ n.missed category sent) b' := by
  obtain ⟨appended, heard, b₁, happend, happended, hheard, hpasses₁⟩ := Bench.perform_call hb h.audit
    "append" .u64 [.str ("event " ++ toString n.id.toNat)]
  cases appended with
  | error e =>
    refine ⟨.error e, none, heard, [], b₁, handle_unaudited happend, happended, nofun, by simp,
      hheard, .nil _ _, fun _ => rfl, ?_⟩
    rwa [Notice.audited, Notice.missed, List.append_nil, List.append_nil, List.append_nil]
  | ok position =>
    obtain ⟨b₂, hlog, hpasses₂⟩ := hpasses₁.log category .debug
      ("Audited event " ++ toString n.id.toNat ++ " at " ++ toString position.toNat) none
    rw [← hlogger] at hlog
    by_cases hslight : n.priority < urgentPriority
    · refine ⟨.ok position, none, heard, [], b₂, handle_slight happend hlog hslight, happended, nofun,
        by simp [hslight], hheard, .nil _ _, fun _ => rfl, ?_⟩
      rwa [Notice.missed, List.append_nil, List.append_nil]
    · -- the sending is looked up in the book that the auditing has left, which is calm too
      have hts : ∀ t ∈ [h.appendTurn n], t.Calm := List.forall_mem_singleton.mpr trivial
      obtain ⟨ended, heard', b₃, hsend, hended, hheard', hpasses₃⟩ :=
        hpasses₂.call hts hb h.notifier "send" .unit [.str "urgent", Notice.codec.encode n]
      have hsending : ∀ x ∈ some ended, h.notifier.Ends b.config.mode
          ((h.appendTurn n).step b.config.mode b.book) "send" .unit
          [.str "urgent", Notice.codec.encode n] x := by
        rintro x ⟨⟩
        exact hended
      have hurgent : urgentPriority ≤ n.priority := UInt8.not_lt.mp hslight
      cases ended with
      | ok =>
        refine ⟨.ok position, some (.ok ()), heard, heard', b₃,
          handle_delivered happend hlog hslight hsend, happended, hsending,
          iff_of_true rfl ⟨⟨position, rfl⟩, hurgent⟩, hheard, hheard', nofun, ?_⟩
        rwa [Notice.missed, List.append_nil]
      | error e =>
        obtain ⟨b₄, hwarn, hpasses₄⟩ := hpasses₃.log category .warning
          ("Could not notify about event " ++ toString n.id.toNat ++ ": " ++ e.message) none
        rw [← hlogger] at hwarn
        exact ⟨.ok position, some (.error e), heard, heard', b₄,
          handle_undelivered happend hlog hslight hsend hwarn, happended, hsending,
          iff_of_true rfl ⟨⟨position, rfl⟩, hurgent⟩, hheard, hheard', nofun, hpasses₄⟩

/-- Handling a notice makes calls and logs, and does nothing else, whatever notices came before. -/
theorem handle_leads (hb : b.book.Calm) (hlogger : h.logger = .collecting category b.collector)
    (n : Notice) (b' : Bench) (hleads : b.Leads b') :
    ∃ result b'', h.handle n b' = (.ok result, b'') ∧ b'.Leads b'' := by
  rw [← hleads.collector] at hlogger
  obtain ⟨_, sent, _, _, b'', hhandle, -, -, -, -, -, -, hpasses⟩ :=
    handle_passes n (hleads.calm hb) hlogger
  exact ⟨_, b'', hhandle, _, _, Turn.called_then rfl rfl, hpasses⟩

end NotificationHandler

/-- **Notices are audited, then sent if they are urgent**, and one that cannot be sent is no error.
Take a harness whose collector is open, in any state in which the expectations answer without
crashing and without touching the recorder, and let a handler on it handle any notices, one after
another. Each of them adds to the calls the call for its auditing, then the call for its sending if
and only if the auditing returned a position and the priority is at least 8, and no other. The
handling fails with the error of the auditing, and only with that. To the log it adds, of its own,
that the notice is audited, if it is, and then a warning if and only if the sending was made and
failed; it makes no difference whether it failed on an expectation that forbids it. If a scope
listens for the collector of the harness, what the recorder tells of either call stands before what
the handler logs of it. -/
theorem notices_audited_then_sent (b : Bench) (hcalm : b.book.Calm)
    (hcollector : b.collector < b.journal.collectors.length) (earlier : List Notice) (n : Notice) :
    let h : NotificationHandler :=
      ⟨b.handle.surface "Notifier", b.handle.surface "AuditLog",
        .collecting "NotificationHandler" b.collector⟩
    let mode := b.config.mode
    let appending := h.audit.operation "append"
    let sending := h.notifier.operation "send"
    let entry : List Json := [.str ("event " ++ toString n.id.toNat)]
    let urgent : List Json := [.str "urgent", Notice.codec.encode n]
    NotificationHandler.onBench b = (.ok h, b) ∧
    ∃ results before result after,
      earlier.mapM h.handle b = (.ok results, before) ∧
      (earlier ++ [n]).mapM h.handle b = (.ok (results ++ [result]), after) ∧
      h.handle n before = (.ok result, after) ∧
      ∃ appended sent heard heard',
        h.audit.Ends mode before.book "append" .u64 entry appended ∧
        (∀ ended ∈ sent, h.notifier.Ends mode ((h.appendTurn n).step mode before.book) "send" .unit
          urgent ended) ∧
        (sent.isSome ↔ (∃ position, appended = .ok position) ∧ 8 ≤ n.priority) ∧
        (∃ added, after.book.calls = before.book.calls ++ added ∧
          added.map RecordedCall.content =
            (appending, entry) :: if sent.isSome then [(sending, urgent)] else []) ∧
        after.book = Turn.play mode
          (h.appendTurn n :: if sent.isSome then [h.sendTurn n] else []) before.book ∧
        result = appended.map (fun _ => ()) ∧
        (before.journal.collector b.collector).Gains (after.journal.collector b.collector)
          (heard ++ n.audited "NotificationHandler" appended ++
            heard' ++ n.missed "NotificationHandler" sent) ∧
        before.journal.Overhears b.collector heard ∧ before.journal.Overhears b.collector heard' ∧
        (sent = none → heard' = []) ∧
        ((∀ l ∈ b.journal.audience, l.collector ≠ b.collector) → heard = [] ∧ heard' = []) ∧
        (∀ e, appended = .error e → e.OfCall appending entry) ∧
        (∀ e, sent = some (.error e) → e.OfCall sending urgent) ∧
        (∀ hit, mode = .strict → sent.isSome →
          (((h.appendTurn n).step mode before.book).record h.notifier.handle.saturate sending
            urgent).1 = .ok (some hit) →
          hit.times.forbidsCalls = true → sent = some (.error hit.violation)) := by
  intro h mode appending sending entry urgent
  have hlogger : h.logger = .collecting "NotificationHandler" b.collector := rfl
  obtain ⟨results, before, hrun, hleads⟩ :=
    Bench.Leads.mapM (NotificationHandler.handle_leads hcalm hlogger) earlier
  rw [← hleads.collector] at hlogger
  obtain ⟨appended, sent, heard, heard', after, hhandle, happended, hended, hsent, hheard, hheard',
    hunheard, hpasses⟩ := NotificationHandler.handle_passes n (hleads.calm hcalm) hlogger
  obtain ⟨added, hadded, hcontent⟩ :=
    hpasses.exists_added (Turn.called_then rfl rfl) (hleads.calm hcalm)
  have hbook := hpasses.book
  rw [hleads.config] at happended hended hbook
  rw [hleads.collector] at hheard hheard'
  refine ⟨rfl, results, before, _, after, hrun, Bench.mapM_concat hrun hhandle, hhandle,
    appended, sent, heard, heard', happended, hended, hsent, ⟨added, hadded, ?_⟩, hbook, rfl,
    hleads.gains hcollector hpasses, hheard, hheard', hunheard, fun hnobody => ?_, ?_, ?_, ?_⟩
  · rw [hcontent]
    cases sent <;> rfl
  · rw [← hleads.audience] at hnobody
    exact ⟨hheard.eq_nil hnobody, hheard'.eq_nil hnobody⟩
  · rintro e rfl
    exact happended.ofCall
  · rintro e rfl
    exact (hended _ rfl).ofCall
  · intro hit hmode hsome hhit hforbids
    obtain ⟨ended, rfl⟩ := Option.isSome_iff_exists.mp hsome
    rw [(hended ended rfl).of_forbidden hmode hhit hforbids]

/-- Turns after which everything is audited at position 1, and nothing may be sent. -/
def NotificationHandler.mutedRun : List Turn :=
  [.register true "AuditLog::append" ⟨[.any]⟩ (.returns (.nat 1)) .anyNumber,
    .register true "Notifier::send" ⟨[.any, .any]⟩ (.returns .null) .never]

/-- An urgent notice that may not be sent is handled all the same, with a warning. -/
theorem notices_audited_then_sent_forbidden :
    let b : Bench :=
      { Bench.plain .strict .empty with
        book := Turn.play .strict NotificationHandler.mutedRun .empty }
    let h : NotificationHandler :=
      ⟨b.handle.surface "Notifier", b.handle.surface "AuditLog",
        .collecting "NotificationHandler" b.collector⟩
    let slight : Notice := ⟨5, 7, "drizzle"⟩
    let urgent : Notice := ⟨7, 8, "flood"⟩
    let forbidden : TestError := .unsatisfied "Notifier::send" "_, _" .never 1
    b.book.Calm ∧ b.collector < b.journal.collectors.length ∧
    ∃ before after added,
      [slight, urgent].mapM h.handle b = (.ok [.ok (), .ok ()], after) ∧
      h.handle urgent before = (.ok (.ok ()), after) ∧
      after.book.calls = before.book.calls ++ added ∧
      added.map RecordedCall.content =
        [("AuditLog::append", [.str "event 7"]),
          ("Notifier::send", [.str "urgent", Notice.codec.encode urgent])] ∧
      (before.journal.collector b.collector).Gains (after.journal.collector b.collector)
        [Remark.entry ⟨"NotificationHandler", .debug, "Audited event 7 at 1", none⟩,
          Remark.entry ⟨"NotificationHandler", .warning,
            "Could not notify about event 7: " ++ forbidden.message, none⟩] := by
  intro b h slight urgent forbidden
  have hcalm : b.book.Calm := by
    refine Book.Calm.empty.play .strict fun t ht => ?_
    obtain rfl | rfl := List.mem_pair.mp ht
    · exact ⟨ArgumentMatcher.total_of_parts (by simp [Matcher.accepts]), fun _ _ => ⟨_, rfl⟩⟩
    · exact ⟨ArgumentMatcher.total_of_parts (by simp [Matcher.accepts]), fun _ _ => ⟨_, rfl⟩⟩
  have hcollector : b.collector < b.journal.collectors.length := Nat.one_pos
  obtain ⟨-, results, before, result, after, hearlier, hrun, hhandle, appended, sent, heard, heard',
    happended, -, hsent, ⟨added, hadded, hcontent⟩, -, rfl, hgains, -, -, -, hnobody, -, -,
    hforbidden⟩ := notices_audited_then_sent b hcalm hcollector [slight] urgent
  have hfirst : h.handle slight b = (.ok (.ok ()), (h.handle slight b).2) := Prod.ext rfl rfl
  have halone : ([] ++ [slight]).mapM h.handle b = (.ok ([] ++ [.ok ()]), (h.handle slight b).2) :=
    Bench.mapM_concat rfl hfirst
  have hsame := hearlier.symm.trans halone
  obtain rfl : results = [.ok ()] := Except.ok.inj (congrArg Prod.fst hsame)
  obtain rfl : before = (h.handle slight b).2 := congrArg Prod.snd hsame
  -- the second notice is audited
  obtain ⟨hit, reply, hhit, hreply, hread⟩ := happended
  have hfound : ((h.handle slight b).2.book.record true "AuditLog::append" [.str "event 7"]).1 =
      .ok (some ⟨0, "AuditLog::append", ⟨[.any]⟩, .returns (.nat 1), .anyNumber, 2⟩) := rfl
  obtain rfl := Except.ok.inj (hfound.symm.trans hhit)
  obtain rfl : reply = .ok (.nat 1) := by
    cases hreply with
    | forbidden _ hforbids => cases hforbids
    | raised _ hreply => cases hreply
    | returned _ hreply =>
      cases hreply
      rfl
  obtain rfl : appended = .ok 1 := hread
  -- and its sending is forbidden
  have hsome : sent.isSome := hsent.mpr ⟨⟨1, rfl⟩, by decide⟩
  obtain rfl : sent = some (.error forbidden) :=
    hforbidden ⟨1, "Notifier::send", ⟨[.any, .any]⟩, .returns .null, .never, 1⟩ rfl hsome rfl rfl
  obtain ⟨rfl, rfl⟩ := hnobody nofun
  have hid : urgent.id.toNat = 7 := rfl
  rw [hid] at hcontent
  rw [Notice.audited, Notice.missed, hid] at hgains
  exact ⟨hcalm, hcollector, _, after, added, hrun, hhandle, hadded, hcontent, hgains⟩

end TestDouble
