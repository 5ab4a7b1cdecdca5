import TestDouble.Harness
import TestDouble.Number.Binary64

/-!
# The order processor

A subject under test: it takes the payment of an order and then saves the order. Both
collaborators are stood in for by surfaces. An order whose payment is declined or fails is never
saved.
-/

namespace TestDouble

/-- An order to be paid and saved. -/
structure Order where
  id : String
  customerId : String
  total : Binary64
  lowInventory : Bool
  deriving DecidableEq

/-- An order as a JSON object. -/
def Order.encode (o : Order) : Json :=
  .object
    [("id", .str o.id), ("customer_id", .str o.customerId), ("total", o.total.encode),
     ("low_inventory", .bool o.lowInventory)]

/-- What became of a payment. -/
structure PaymentResult where
  success : Bool
  transactionId : Option String
  deriving DecidableEq

namespace PaymentResult

/-- A payment that was made. -/
def approved (transactionId : String) : PaymentResult := ⟨true, some transactionId⟩

/-- A payment that was not made. -/
def declined : PaymentResult := ⟨false, none⟩

/-- Results of payments as JSON records; an object may lack the transaction. -/
def codec : Codec PaymentResult where
  encode r :=
    .object
      [("success", .bool r.success),
       ("transaction_id", (Codec.option .text).encode r.transactionId)]
  decode v := do
    let found ← Fields.read "PaymentResult"
      [.of .required "success" .bool, .of .optional "transaction_id" (.option .text)] v
    return {
      success := ← Fields.get .bool "success" found
      transactionId := ← Fields.getD (.option .text) "transaction_id" found none }

end PaymentResult

/-- What became of an order. -/
inductive ProcessingResult where
  | success (transactionId : String)
  | failure (reason : String)
  deriving DecidableEq

/-- The processor with its collaborators. -/
structure OrderProcessor where
  payments : Surface
  orders : Surface
  logger : Logger

namespace OrderProcessor

/-- The processor on a bench, its collaborators stood in for by surfaces. -/
def onBench (logger : Logger) : BenchM OrderProcessor := do
  return ⟨← Bench.surface "PaymentGateway", ← Bench.surface "OrderRepository", logger⟩

/-- Asks for the payment of an order. -/
def pay (p : OrderProcessor) (o : Order) : Recording (Except TestError PaymentResult) :=
  p.payments.call "process_payment" PaymentResult.codec
    (.value (.arr [.str o.customerId, o.total.encode]))

/-- Asks for an order to be saved. -/
def save (p : OrderProcessor) (o : Order) : Recording (Except TestError Unit) :=
  p.orders.call "save" .unit (.value (.arr [o.encode]))

/-- Logs that an order has come in, and that its goods run low if they do. -/
def announce (p : OrderProcessor) (o : Order) : BenchM Unit := do
  Bench.log p.logger .information
    ("Processing order " ++ o.id ++ " for customer " ++ o.customerId ++ ", total: "
      ++ o.total.text) none
  if o.lowInventory then
    Bench.log p.logger .warning ("Order " ++ o.id ++ " has low inventory items") none

/-- Takes the payment of an order and then saves the order. -/
def settle (p : OrderProcessor) (o : Order) : BenchM (Except TestError ProcessingResult) := do
  match ← Bench.perform (p.pay o) with
  | .error e => return .error e
  | .ok payment =>
    if payment.success then
      match ← Bench.perform (p.save o) with
      | .error e => return .error e
      | .ok () => do
        let transactionId := payment.transactionId.getD ""
        Bench.log p.logger .information
          ("Order " ++ o.id ++ " processed successfully with transaction " ++ transactionId) none
        return .ok (.success transactionId)
    else do
      Bench.log p.logger .warning ("Payment failed for order " ++ o.id) none
      return .ok (.failure "Payment declined")

/-- Processes an order. What went wrong with it is logged. -/
def process (p : OrderProcessor) (o : Order) : BenchM ProcessingResult := do
  p.announce o
  match ← p.settle o with
  | .ok result => return result
  | .error e => do
    Bench.log p.logger .error ("Failed to process order " ++ o.id) (some e.toFault)
    return .failure e.message

end OrderProcessor
end TestDouble
