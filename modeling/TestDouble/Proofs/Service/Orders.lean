import TestDouble.Proofs.Harness.Conduct
import TestDouble.Service.OrderProcessor

/-!
# Orders are paid before they are saved

The order processor asks for the payment of every order once, and for its saving once at most: if and
only if the payment has been made. It says what it does in the log, and its last word and its result
tell how the order has ended. `Order.Concludes` lists the four ways in which an order can end, and
`process_passes` says that a processor takes every order to one of them, whatever the recorder replies.
What it does to the bench leaves the next order a bench of the same kind, so all this holds of each of
any number of orders (`unpaid_orders_never_saved`).
-/

namespace TestDouble

namespace Order

/-- What is logged of an order when it comes in. -/
def opening (o : Order) (category : String) : List LogEntry :=
  Remark.entry ⟨category, .information,
      "Processing order " ++ o.id ++ " for customer " ++ o.customerId ++ ", total: " ++ o.total.text,
      none⟩ ::
    if o.lowInventory then
      [Remark.entry ⟨category, .warning, "Order " ++ o.id ++ " has low inventory items", none⟩]
    else []

/-- What is logged of an order that an error has stopped, with the text of the error. -/
def stopped (o : Order) (category : String) (e : TestError) : LogEntry :=
  Remark.entry ⟨category, .error, "Failed to process order " ++ o.id, some ⟨e.message, e.causes⟩⟩

/-- **The four ways in which an order ends**: by how its payment ended, and how its saving ended if
that was tried, what is logged last and what the result is. -/
inductive Concludes (o : Order) (category : String) : Except TestError PaymentResult →
    Option (Except TestError Unit) → LogEntry → ProcessingResult → Prop where
  /-- The payment failed. -/
  | unpaid {e : TestError} :
    Concludes o category (.error e) none (o.stopped category e) (.failure e.message)
  /-- The payment was declined. -/
  | declined {r : PaymentResult} : r.success = false →
    Concludes o category (.ok r) none
      (Remark.entry ⟨category, .warning, "Payment failed for order " ++ o.id, none⟩)
      (.failure "Payment declined")
  /-- The payment was made and the order could not be saved. -/
  | unsaved {r : PaymentResult} {e : TestError} : r.success = true →
    Concludes o category (.ok r) (some (.error e)) (o.stopped category e) (.failure e.message)
  /-- The payment was made and the order was saved. -/
  | completed {r : PaymentResult} : r.success = true →
    Concludes o category (.ok r) (some (.ok ()))
      (Remark.entry ⟨category, .information, "Order " ++ o.id ++
        " processed successfully with transaction " ++ r.transactionId.getD "", none⟩)
      (.success (r.transactionId.getD ""))

namespace Concludes

variable {o : Order} {category : String} {payment : Except TestError PaymentResult}
  {saving : Option (Except TestError Unit)} {closing : LogEntry} {result : ProcessingResult}

/-- **An order is saved only if it has been paid.** -/
theorem saving_iff (h : o.Concludes category payment saving closing result) :
    saving.isSome ↔ ∃ r, payment = .ok r ∧ r.success = true := by
  cases h with
  | unpaid => simp
  | declined hsuccess => simp [hsuccess]
  | unsaved hsuccess | completed hsuccess => simp [hsuccess]

/-- Only an order that is paid and saved is a success. -/
theorem success_iff (h : o.Concludes category payment saving closing result) :
    (∃ transactionId, result = .success transactionId) ↔ saving = some (.ok ()) := by
  cases h <;> simp

end Concludes
end Order

namespace OrderProcessor

variable {p : OrderProcessor} {o : Order} {category : String} {b b' b'' : Bench} {ts : List Turn}
  {es : List LogEntry}

/-- The turn in which the payment of an order is asked for. -/
def payTurn (p : OrderProcessor) (o : Order) : Turn :=
  p.payments.turn "process_payment" [.str o.customerId, o.total.encode]

/-- The turn in which an order is asked to be saved. -/
def saveTurn (p : OrderProcessor) (o : Order) : Turn := p.orders.turn "save" [o.encode]

/-- Announcing an order logs it, and its low inventory too. -/
theorem announce_passes (o : Order) (hlogger : p.logger = .collecting category b.collector) :
    ∃ b', p.announce o b = (.ok (), b') ∧ b.Passes [] (o.opening category) b' := by
  obtain ⟨b₁, hfirst, hpasses⟩ := (Bench.Passes.refl b).log category .information
    ("Processing order " ++ o.id ++ " for customer " ++ o.customerId ++ ", total: " ++ o.total.text)
    none
  rw [announce, hlogger, Bench.bind_eq hfirst, Order.opening]
  split_ifs
  · exact hpasses.log category .warning ("Order " ++ o.id ++ " has low inventory items") none
  · exact ⟨b₁, rfl, hpasses⟩

/-! The four ways through the settling of an order. -/

theorem settle_unpaid {e : TestError} (hpay : Bench.perform (p.pay o) b = (.ok (.error e), b')) :
    p.settle o b = (.ok (.error e), b') := by
  rw [settle, Bench.bind_eq hpay]
  rfl

theorem settle_declined {r : PaymentResult} (hpay : Bench.perform (p.pay o) b = (.ok (.ok r), b'))
    (hsuccess : r.success = false)
    (hlog : Bench.log p.logger .warning ("Payment failed for order " ++ o.id) none b' =
      (.ok (), b'')) :
    p.settle o b = (.ok (.ok (.failure "Payment declined")), b'') := by
  rw [settle, Bench.bind_eq hpay]
  simp only [hsuccess, Bool.false_eq_true, if_false]
  rw [Bench.bind_eq hlog]
  rfl

theorem settle_unsaved {r : PaymentResult} {e : TestError}
    (hpay : Bench.perform (p.pay o) b = (.ok (.ok r), b')) (hsuccess : r.success = true)
    (hsave : Bench.perform (p.save o) b' = (.ok (.error e), b'')) :
    p.settle o b = (.ok (.error e), b'') := by
  rw [settle, Bench.bind_eq hpay]
  simp only [hsuccess, if_true]
  rw [Bench.bind_eq hsave]
  rfl

theorem settle_completed {r : PaymentResult} {b₁ : Bench}
    (hpay : Bench.perform (p.pay o) b = (.ok (.ok r), b')) (hsuccess : r.success = true)
    (hsave : Bench.perform (p.save o) b' = (.ok (.ok ()), b''))
    (hlog : Bench.log p.logger .information ("Order " ++ o.id ++
      " processed successfully with transaction " ++ r.transactionId.getD "") none b'' =
        (.ok (), b₁)) :
    p.settle o b = (.ok (.ok (.success (r.transactionId.getD ""))), b₁) := by
  rw [settle, Bench.bind_eq hpay]
  simp only [hsuccess, if_true]
  rw [Bench.bind_eq hsave]
  dsimp only
  rw [Bench.bind_eq hlog]
  rfl

/-- An order that is settled has its result. -/
theorem process_of_settled {result : ProcessingResult} (hannounce : p.announce o b = (.ok (), b'))
    (hsettle : p.settle o b' = (.ok (.ok result), b'')) : p.process o b = (.ok result, b'') := by
  rw [process, Bench.bind_eq hannounce, Bench.bind_eq hsettle]
  rfl

/-- An order that an error stops is logged with the error. -/
theorem process_of_stopped {e : TestError} (hlogger : p.logger = .collecting category b.collector)
    (hannounce : p.announce o b = (.ok (), b')) (hsettle : p.settle o b' = (.ok (.error e), b''))
    (h : b.Passes ts es b'') :
    ∃ b₁, p.process o b = (.ok (.failure e.message), b₁) ∧
      b.Passes ts (es ++ [o.stopped category e]) b₁ := by
  obtain ⟨b₁, hlog, hpasses⟩ := h.log category .error ("Failed to process order " ++ o.id)
    (some e.toFault)
  refine ⟨b₁, ?_, hpasses⟩
  rw [process, Bench.bind_eq hannounce, Bench.bind_eq hsettle, hlogger]
  dsimp only
  rw [Bench.bind_eq hlog]
  rfl

/-- **Every order comes to an end** on a calm book: its payment is asked for, and if that is made,
its saving; and between the first and the last word nothing is logged but what the recorder tells to
those who listen. -/
theorem process_passes (o : Order) (hb : b.book.Calm)
    (hlogger : p.logger = .collecting category b.collector) :
    ∃ payment saving overheard closing result b',
      p.process o b = (.ok result, b') ∧
      p.payments.Ends b.config.mode b.book "process_payment" PaymentResult.codec
        [.str o.customerId, o.total.encode] payment ∧
      (∀ ended ∈ saving, p.orders.Ends b.config.mode ((p.payTurn o).step b.config.mode b.book)
        "save" .unit [o.encode] ended) ∧
      o.Concludes category payment saving closing result ∧
      b.journal.Overhears b.collector overheard ∧
      b.Passes (p.payTurn o :: if saving.isSome then [p.saveTurn o] else [])
        (o.opening category ++ overheard ++ [closing]) b' := by
  obtain ⟨b₁, hannounce, hpasses₁⟩ := announce_passes o hlogger
  obtain ⟨payment, heard, b₂, hpay, hpayment, hheard, hpasses₂⟩ := hpasses₁.call nofun hb p.payments
    "process_payment" PaymentResult.codec [.str o.customerId, o.total.encode]
  cases payment with
  | error e =>
    obtain ⟨b₃, hprocess, hpasses₃⟩ :=
      process_of_stopped hlogger hannounce (settle_unpaid hpay) hpasses₂
    exact ⟨.error e, none, heard, _, _, b₃, hprocess, hpayment, nofun, .unpaid, hheard, hpasses₃⟩
  | ok r =>
    cases hsuccess : r.success with
    | false =>
      obtain ⟨b₃, hlog, hpasses₃⟩ := hpasses₂.log category .warning
        ("Payment failed for order " ++ o.id) none
      rw [← hlogger] at hlog
      exact ⟨.ok r, none, heard, _, _, b₃,
        process_of_settled hannounce (settle_declined hpay hsuccess hlog), hpayment, nofun,
        .declined hsuccess, hheard, hpasses₃⟩
    | true =>
      -- the saving is looked up in the book that the payment has left, which is calm too
      have hts : ∀ t ∈ [p.payTurn o], t.Calm := List.forall_mem_singleton.mpr trivial
      obtain ⟨ended, heard', b₃, hsave, hended, hheard', hpasses₃⟩ :=
        hpasses₂.call hts hb p.orders "save" .unit [o.encode]
      rw [List.append_assoc _ heard heard'] at hpasses₃
      have hsaving : ∀ x ∈ some ended, p.orders.Ends b.config.mode
          ((p.payTurn o).step b.config.mode b.book) "save" .unit [o.encode] x := by
        rintro x ⟨⟩
        exact hended
      cases ended with
      | error e =>
        obtain ⟨b₄, hprocess, hpasses₄⟩ :=
          process_of_stopped hlogger hannounce (settle_unsaved hpay hsuccess hsave) hpasses₃
        exact ⟨.ok r, some (.error e), heard ++ heard', _, _, b₄, hprocess, hpayment, hsaving,
          .unsaved hsuccess, hheard.append hheard', hpasses₄⟩
      | ok =>
        obtain ⟨b₄, hlog, hpasses₄⟩ := hpasses₃.log category .information ("Order " ++ o.id ++
          " processed successfully with transaction " ++ r.transactionId.getD "") none
        rw [← hlogger] at hlog
        exact ⟨.ok r, some (.ok ()), heard ++ heard', _, _, b₄,
          process_of_settled hannounce (settle_completed hpay hsuccess hsave hlog), hpayment,
          hsaving, .completed hsuccess, hheard.append hheard', hpasses₄⟩

/-- Processing an order makes calls and logs, and does nothing else, whatever orders came before. -/
theorem process_leads (hb : b.book.Calm) (hlogger : p.logger = .collecting category b.collector)
    (o : Order) (b' : Bench) (h : b.Leads b') :
    ∃ result b'', p.process o b' = (.ok result, b'') ∧ b'.Leads b'' := by
  rw [← h.collector] at hlogger
  obtain ⟨_, saving, _, _, result, b'', hprocess, -, -, -, -, hpasses⟩ :=
    process_passes o (h.calm hb) hlogger
  exact ⟨result, b'', hprocess, _, _, Turn.called_then rfl rfl, hpasses⟩

end OrderProcessor

/-- **Unpaid orders are never saved.** Take a harness whose collector is open, in any state in which
the expectations answer without crashing and without touching the recorder, and let a processor with
its two collaborators and a logger of the harness process any orders, one after another. None of
them makes the processor stop, and each of them adds to the calls the call for its payment, then the
call for its saving if and only if the payment returned and was read as made, and no other. To the
log it adds what announces it and one last entry, by the four ways in which an order ends
(`Order.Concludes`); if a scope listens for the collector of the harness, what the recorder tells of
the calls stands in between. A failure of either call is one of the failures of calls. The result is
a success if and only if the payment was made and the order was saved. -/
theorem unpaid_orders_never_saved (category : String) (b : Bench) (hcalm : b.book.Calm)
    (hcollector : b.collector < b.journal.collectors.length) (earlier : List Order) (o : Order) :
    let p : OrderProcessor :=
      ⟨b.handle.surface "PaymentGateway", b.handle.surface "OrderRepository",
        .collecting category b.collector⟩
    let payment := p.payments.operation "process_payment"
    let saving := p.orders.operation "save"
    let asked : List Json := [.str o.customerId, o.total.encode]
    (Bench.logger category >>= OrderProcessor.onBench) b = (.ok p, b) ∧
    ∃ results before result after,
      earlier.mapM p.process b = (.ok results, before) ∧
      (earlier ++ [o]).mapM p.process b = (.ok (results ++ [result]), after) ∧
      p.process o before = (.ok result, after) ∧
      ∃ paid saved overheard closing,
        p.payments.Ends b.config.mode before.book "process_payment" PaymentResult.codec asked paid ∧
        (∀ ended ∈ saved, p.orders.Ends b.config.mode
          ((p.payTurn o).step b.config.mode before.book) "save" .unit [o.encode] ended) ∧
        o.Concludes category paid saved closing result ∧
        (saved.isSome ↔ ∃ r, paid = .ok r ∧ r.success = true) ∧
        (∃ added, after.book.calls = before.book.calls ++ added ∧
          added.map RecordedCall.content =
            (payment, asked) :: if saved.isSome then [(saving, [o.encode])] else []) ∧
        after.book = Turn.play b.config.mode
          (p.payTurn o :: if saved.isSome then [p.saveTurn o] else []) before.book ∧
        (before.journal.collector b.collector).Gains (after.journal.collector b.collector)
          (o.opening category ++ overheard ++ [closing]) ∧
        before.journal.Overhears b.collector overheard ∧
        ((∀ l ∈ b.journal.audience, l.collector ≠ b.collector) → overheard = []) ∧
        (∀ e, paid = .error e → e.OfCall payment asked) ∧
        (∀ e, saved = some (.error e) → e.OfCall saving [o.encode]) ∧
        ((∃ transactionId, result = .success transactionId) ↔ saved = some (.ok ())) := by
  intro p payment saving asked
  have hlogger : p.logger = .collecting category b.collector := rfl
  obtain ⟨results, before, hrun, hleads⟩ :=
    Bench.Leads.mapM (OrderProcessor.process_leads hcalm hlogger) earlier
  rw [← hleads.collector] at hlogger
  obtain ⟨paid, saved, overheard, closing, result, after, hprocess, hpaid, hsaved, hconcludes,
    hheard, hpasses⟩ := OrderProcessor.process_passes o (hleads.calm hcalm) hlogger
  obtain ⟨added, hadded, hcontent⟩ :=
    hpasses.exists_added (Turn.called_then rfl rfl) (hleads.calm hcalm)
  have hbook := hpasses.book
  rw [hleads.config] at hpaid hsaved hbook
  rw [hleads.collector] at hheard
  refine ⟨rfl, results, before, result, after, hrun, Bench.mapM_concat hrun hprocess, hprocess,
    paid, saved, overheard, closing, hpaid, hsaved, hconcludes, hconcludes.saving_iff,
    ⟨added, hadded, ?_⟩, hbook, hleads.gains hcollector hpasses, hheard, ?_, ?_, ?_,
    hconcludes.success_iff⟩
  · rw [hcontent]
    cases saved <;> rfl
  · intro hnobody
    exact hheard.eq_nil (hleads.audience ▸ hnobody)
  · rintro e rfl
    exact hpaid.ofCall
  · rintro e rfl
    exact (hsaved _ rfl).ofCall

/-- Turns after which one payment is expected, and nothing can be saved. -/
def OrderProcessor.brokenRun : List Turn :=
  [.register true "PaymentGateway::process_payment" ⟨[.any, .any]⟩
      (.returns (PaymentResult.codec.encode (.approved "tx-1"))) .once,
    .register true "OrderRepository::save" ⟨[.any]⟩ (.fails (.message "disk full")) .anyNumber]

/-- The order that comes after one that is paid but cannot be saved is not paid any more, and so
nothing is saved. -/
theorem unpaid_orders_never_saved_unexpected :
    let b : Bench :=
      { Bench.plain .strict .empty with book := Turn.play .strict OrderProcessor.brokenRun .empty }
    let p : OrderProcessor :=
      ⟨b.handle.surface "PaymentGateway", b.handle.surface "OrderRepository",
        .collecting "Orders" b.collector⟩
    let first : Order := ⟨"o-1", "c-1", .infinite false, true⟩
    let second : Order := ⟨"o-2", "c-2", .nan, false⟩
    let unexpected : TestError :=
      .unexpectedCall "PaymentGateway::process_payment" [.str "c-2", .null]
    b.book.Calm ∧ b.collector < b.journal.collectors.length ∧
    ∃ before after added,
      [first, second].mapM p.process b =
        (.ok [.failure "disk full", .failure unexpected.message], after) ∧
      p.process second before = (.ok (.failure unexpected.message), after) ∧
      after.book.calls = before.book.calls ++ added ∧
      added.map RecordedCall.content =
        [("PaymentGateway::process_payment", [.str "c-2", .null])] ∧
      (before.journal.collector b.collector).Gains (after.journal.collector b.collector)
        [Remark.entry ⟨"Orders", .information,
            "Processing order o-2 for customer c-2, total: NaN", none⟩,
          second.stopped "Orders" unexpected] := by
  intro b p first second unexpected
  have hcalm : b.book.Calm := by
    refine Book.Calm.empty.play .strict fun t ht => ?_
    obtain rfl | rfl := List.mem_pair.mp ht
    · exact ⟨ArgumentMatcher.total_of_parts (by simp [Matcher.accepts]), fun _ _ => ⟨_, rfl⟩⟩
    · exact ⟨ArgumentMatcher.total_of_parts (by simp [Matcher.accepts]), fun _ _ => ⟨_, rfl⟩⟩
  have hcollector : b.collector < b.journal.collectors.length := Nat.one_pos
  obtain ⟨-, results, before, result, after, hearlier, hrun, hprocess, paid, saved, overheard,
    closing, hpaid, -, hconcludes, -, ⟨added, hadded, hcontent⟩, -, hgains, -, hnobody, -⟩ :=
    unpaid_orders_never_saved "Orders" b hcalm hcollector [first] second
  have hfirst : p.process first b = (.ok (.failure "disk full"), (p.process first b).2) :=
    Prod.ext rfl rfl
  have halone : ([] ++ [first]).mapM p.process b =
      (.ok ([] ++ [.failure "disk full"]), (p.process first b).2) := Bench.mapM_concat rfl hfirst
  have hsame := hearlier.symm.trans halone
  obtain rfl : results = [.failure "disk full"] := Except.ok.inj (congrArg Prod.fst hsame)
  obtain rfl : before = (p.process first b).2 := congrArg Prod.snd hsame
  -- the first order has taken the payment that is expected
  have hnone : ((p.process first b).2.book.record true "PaymentGateway::process_payment"
      [.str "c-2", .null]).1 = .ok none := rfl
  obtain ⟨hit, reply, hhit, hreply, rfl⟩ := hpaid
  obtain rfl : none = hit := Except.ok.inj (hnone.symm.trans hhit)
  obtain rfl : reply = .error unexpected := by
    cases hreply with
    | unexpected => rfl
    | unmatched hmode => cases hmode
  cases hconcludes with
  | unpaid =>
    obtain rfl := hnobody nofun
    exact ⟨hcalm, hcollector, _, after, added, hrun, hprocess, hadded, hcontent, hgains⟩

end TestDouble
