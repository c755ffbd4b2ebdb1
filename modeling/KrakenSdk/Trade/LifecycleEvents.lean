import KrakenSdk.Trade.Replies
/-!
# Order lifecycle events (api/trade/events.rs)

Three events tell of an order write: its definitive answer, a send whose outcome is unknown, and an await that the caller
dropped. Without a live bus none is published.
-/
namespace KrakenSdk.Trade

open KrakenSdk.Conn (Json MonotonicInstant)
open KrakenSdk.Rest (RestError)

/-- `OrderOp` (event_bus/events.rs:989). -/
inductive OrderOp where
  | addOrder | amendOrder | cancelOrder | cancelAll | cancelAllOrdersAfter | orderBatch
  deriving DecidableEq, Repr

/-- `OrderSubmitStatus` (event_bus/events.rs:1023). -/
inductive OrderSubmitStatus where
  | wireSent (txid : TxId)
  | wireAccepted
  | wireError (code : String)
  deriving DecidableEq, Repr

/-- The payloads of the three events (event_bus/events.rs:636-676). -/
inductive OrderEvent where
  | orderSubmittedEvent (clOrdId : ClOrdId) (amendId : Option AmendId) (op : OrderOp) (status : OrderSubmitStatus)
      (requestId : Option String)
  | orderPlacementAmbiguousEvent (clOrdId : ClOrdId) (amendId : Option AmendId) (op : OrderOp)
      (sentAt : MonotonicInstant) (requestId : Option String)
  | orderCancellationAttempted (clOrdId : ClOrdId) (op : OrderOp) (requestId : Option String)
  deriving DecidableEq, Repr

/-- `publish_event`, to the bus there is. -/
def publishEvent (bus : Bool) (e : OrderEvent) : List OrderEvent := if bus then [e] else []

/-- `emit_order_submitted` (rest/surface.rs:491). -/
def emitOrderSubmitted (bus : Bool) (clOrdId : ClOrdId) (amendId : Option AmendId) (op : OrderOp)
    (status : OrderSubmitStatus) (requestId : String) : List OrderEvent :=
  publishEvent bus (.orderSubmittedEvent clOrdId amendId op status (some requestId))

/-- `emit_placement_ambiguous` (rest/surface.rs:513). -/
def emitPlacementAmbiguous (bus : Bool) (clOrdId : ClOrdId) (amendId : Option AmendId) (op : OrderOp)
    (sentAt : MonotonicInstant) (requestId : String) : List OrderEvent :=
  publishEvent bus (.orderPlacementAmbiguousEvent clOrdId amendId op sentAt (some requestId))

/-! ## Which op has which event -/

/-- `op_emits_ambiguous` (events.rs:92): a dropped cancel placed nothing. -/
def opEmitsAmbiguous (op : OrderOp) : Bool := op = .addOrder || op = .amendOrder

/-- `op_emits_submitted` (events.rs:99). -/
def opEmitsSubmitted (op : OrderOp) : Bool := op = .addOrder || op = .amendOrder || op = .cancelOrder

/-- `op_emits_cancellation` (events.rs:108). -/
def opEmitsCancellation (op : OrderOp) : Bool := op = .addOrder || op = .amendOrder || op = .cancelOrder

/-! ## REST -/

/-- `wire_error_status` (ws_compose.rs:20). -/
def wireErrorStatus (err : RestError) : OrderSubmitStatus := .wireError (TradeError.ofRestError err).code

/-- `ws_wire_error_status` (ws_compose.rs:27). -/
def wsWireErrorStatus (error : Option String) : OrderSubmitStatus := .wireError (classifyWsError error).code

/-- `emit_rest_submit_outcome` (events.rs:19). -/
def emitRestSubmitOutcome (bus : Bool) (result : Except RestError Json) (clOrdId : ClOrdId) (amendId : Option AmendId)
    (op : OrderOp) (sentAt : MonotonicInstant) (requestId : String) : List OrderEvent :=
  match result with
  | .ok value =>
    match op with
    | .amendOrder => emitOrderSubmitted bus clOrdId ((amendIdInResult value).or amendId) op .wireAccepted requestId
    | .cancelOrder => emitOrderSubmitted bus clOrdId none op .wireAccepted requestId
    | _ =>
      match firstTxidInRestResult value with
      | some txid => emitOrderSubmitted bus clOrdId amendId op (.wireSent txid) requestId
      | none => []
  | .error (.kraken codes) => emitOrderSubmitted bus clOrdId amendId op (wireErrorStatus (.kraken codes)) requestId
  | .error (.unexpectedShape detail) =>
    emitOrderSubmitted bus clOrdId amendId op (wireErrorStatus (.unexpectedShape detail)) requestId
  | .error (.transport kind _) =>
    if opEmitsAmbiguous op && kind.isSentAmbiguous then emitPlacementAmbiguous bus clOrdId amendId op sentAt requestId
    else []
  -- Not sent: no event.
  | .error .rateLimit | .error (.auth _) => []

/-! ## The drop guard -/

/-- `CancelEmitGuard` (events.rs:153); the bus it holds is weak. -/
structure CancelEmitGuard where
  armed : Bool
  clOrdId : ClOrdId
  op : OrderOp
  requestId : Option String
  deriving DecidableEq, Repr

/-- `CancelEmitGuard::armed` (events.rs:166). -/
def CancelEmitGuard.arm (clOrdId : ClOrdId) (op : OrderOp) (requestId : Option String) : CancelEmitGuard :=
  { armed := true, clOrdId, op, requestId }

/-- `CancelEmitGuard::disarm` (events.rs:184). -/
def CancelEmitGuard.disarm (g : CancelEmitGuard) : CancelEmitGuard := { g with armed := false }

/-- The guard's `Drop` (events.rs:190). -/
def CancelEmitGuard.drop (g : CancelEmitGuard) (bus : Bool) : List OrderEvent :=
  if g.armed then publishEvent bus (.orderCancellationAttempted g.clOrdId g.op g.requestId) else []

@[simp] theorem CancelEmitGuard.drop_disarm (g : CancelEmitGuard) (bus : Bool) : g.disarm.drop bus = [] := rfl

end KrakenSdk.Trade
