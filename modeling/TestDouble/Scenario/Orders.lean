import TestDouble.Scenario.Basic

/-!
# Scenarios of the order processor
-/

namespace TestDouble.Scenario.Orders

/-- An amount of money, given in hundredths. -/
def amount (hundredths : Nat) : Double := (Double.ofDecimal false hundredths (-2)).getD .zero

/-- An order of goods that are in stock. -/
def order (id customerId : String) (total : Double) : Order := ⟨id, customerId, total, false⟩

/-- Processes an order, logging through the harness. -/
def process (o : Order) : BenchM ProcessingResult := do
  (← OrderProcessor.onBench (← Bench.logger "OrderProcessor")).process o

/-- Expects a payment. -/
def expectPayment (parts : List ExpectationBuilder.Part) : BenchM Unit :=
  expect "PaymentGateway" "process_payment" parts

/-- Expects an order to be saved. -/
def expectSave (parts : List ExpectationBuilder.Part) : BenchM Unit :=
  expect "OrderRepository" "save" (.matching [.any] :: parts)

/-- Answers with the result of a payment. -/
def paid (r : PaymentResult) : ExpectationBuilder.Part := returning (PaymentResult.codec.encode r)

/-- A successful order logs its progress and no warning. -/
def successfulOrder : Scenario := .strict do
  expectPayment
    [withArguments [.str "C1", .float (amount 9999)], paid (.approved "TXN-1")]
  expectSave []
  let result ← process (order "ORD-1" "C1" (amount 9999))
  check (result = .success "TXN-1")
  let s ← Bench.snapshot
  check (s.messages =
    ["Processing order ORD-1 for customer C1, total: 99.99",
     "Order ORD-1 processed successfully with transaction TXN-1"])
  check (s.atLeast .warning).records.isEmpty
  verified

/-- An order that cannot be saved logs a warning and then an error. -/
def repositoryFailure : Scenario := .strict do
  expectPayment
    [withArguments [.str "C2", .float (amount 1500)], paid (.approved "TXN-2")]
  expectSave [.fails (.message "Database unavailable")]
  let result ← process { order "ORD-2" "C2" (amount 1500) with lowInventory := true }
  check (result = .failure "Database unavailable")
  let severe := ((← Bench.snapshot).atLeast .warning).records
  check (severe.map (·.level) = [.warning, .error])
  check (severe.head?.any fun r => Text.contains r.message "low inventory")
  check (severe.getLast?.any fun r => Text.contains r.message "Failed")
  check (severe.getLast?.any (RecordTest.errorContains "Database unavailable").holds)
  verified

/-- An order whose payment is declined is never saved. -/
def declinedPayment : Scenario := .strict do
  expectPayment [.matching [.exact (.str "C3"), .any], paid .declined]
  expectSave [.times .never]
  let result ← process (order "ORD-3" "C3" (amount 4200))
  check (result = .failure "Payment declined")
  check (((← Bench.snapshot).withLevel .warning).messages = ["Payment failed for order ORD-3"])
  verified

/-- A second payment is reported as a call that nobody expected. -/
def secondPayment : Scenario := .strict do
  expectPayment
    [withArguments [.str "C1", .float (amount 9999)], paid (.approved "TXN-1")]
  expectSave []
  let _ ← process (order "ORD-1" "C1" (amount 9999))
  let second ← process (order "ORD-4" "C1" (amount 9999))
  check (second matches .failure _)
  let payments ← Bench.surface "PaymentGateway"
  check ((← Bench.perform (payments.callsTo "process_payment")).length = 2)
  require (← Bench.perform payments.handle.verifyAll)
  match ← requireError (← Bench.verify) with
  | .unexpectedCall operation arguments =>
    check (operation = "PaymentGateway::process_payment")
    check (Json.sameItems arguments [.str "C1", .float (amount 9999)])
  | e => Bench.crash ("unexpected error: " ++ e.message)

/-- What a processor logs by events can be captured. -/
def forwardedLog : Scenario := .strict do
  expectPayment [.matching [.any, .any], .fails (.message "Gateway timeout")]
  let scope ← Bench.captureEvents
  let _ ← (← OrderProcessor.onBench (.forwarding "OrderProcessor")).process
    (order "ORD-5" "C5" (amount 1000))
  Bench.leave scope
  let s ← Bench.snapshot
  check (s.length = 2)
  check ((s.withCategory "OrderProcessor").length = 2)
  let failure := s.firstWhere? (RecordTest.levelIs .error).holds
  check (failure.any fun r => r.message == "Failed to process order ORD-5")
  check (failure.any (RecordTest.errorContains "Gateway timeout").holds)
  verified

end TestDouble.Scenario.Orders
