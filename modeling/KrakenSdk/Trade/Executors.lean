import KrakenSdk.Conn.RequestLife
import KrakenSdk.RateLimit.ClOrdIdIndex
import KrakenSdk.Trade.LifecycleEvents
import KrakenSdk.Trade.WsCompose
/-!
# Placing and amending orders (api/trade/executors.rs)

One executor for each op and transport. What the world holds for a call is a `RestMeets` or a `WsMeets`; what the call
does is an `OrderRun`: what it hands to its transport, the lifecycle events it publishes, what it puts into the
cl_ord_id index, and what it returns, once it does. Over WS the fate of the frame is that of its request in a run of the auth connection's reactor.
-/
namespace KrakenSdk.Trade

open KrakenSdk.Conn (ConnectionError Json Knobs MonotonicInstant Symbol WsOp WsResponse)
open KrakenSdk.Conn.ManagedConnection (WsLabel WsRequestFrame wsRun)
open KrakenSdk.RateLimit (IndexEntry)
open KrakenSdk.Rest (Attempt RestError RetryPolicy signedPostCosted)

/-- What a call hands to its transport. -/
inductive OrderWrite where
  | form (path : String) (form : List (String × String))
  | frame (f : WsRequestFrame)

/-- What an executor does; a `result` of `none` is a call that still waits, or was dropped. -/
structure OrderRun (α : Type) where
  write : Option OrderWrite
  events : List OrderEvent
  indexed : List (ClOrdId × IndexEntry)
  result : Option (Except TradeError α)

/-- Nothing was handed over. -/
def OrderRun.refused {α : Type} (e : TradeError) : OrderRun α :=
  { write := none, events := [], indexed := [], result := some (.error e) }

/-- A reply read: what is indexed on the way, and what the call returns. -/
structure Decoded (α : Type) where
  indexed : List (ClOrdId × IndexEntry)
  result : Except TradeError α

/-- Nothing is indexed. -/
def Decoded.plain {α : Type} (result : Except TradeError α) : Decoded α := { indexed := [], result }

/-- What a guard that may not be there does when the future is dropped. -/
def dropGuard (bus : Bool) : Option CancelEmitGuard → List OrderEvent
  | some g => g.drop bus
  | none => []

/-! ## REST -/

/-- What an order call over REST meets. -/
structure RestMeets where
  bus : Bool
  /-- The op's entry in the dispatch table, or what its error says. -/
  route : Except String String
  requestId : String
  /-- The tracker admits the charge before an amend. -/
  charged : Bool
  sentAt : MonotonicInstant
  defaultMaxAttempts : Nat
  attempts : List Attempt
  /-- The caller drops the future while it waits. -/
  dropped : Bool
  /-- What the JSON reader says of a reply it cannot read. -/
  serde : String

/-- `rest_route` (executors.rs:42). -/
def RestMeets.restRoute (w : RestMeets) : Except TradeError String :=
  match w.route with
  | .ok path => .ok path
  | .error text => .error (.unknown "INTERNAL" text none)

/-- The signed POST of an order and what follows it. -/
def RestMeets.post {α : Type} (w : RestMeets) (path : String) (form : List (String × String)) (policy : RetryPolicy)
    (guard : Option CancelEmitGuard) (emit : Except RestError Json → List OrderEvent) (decode : Json → Decoded α) :
    OrderRun α :=
  match signedPostCosted policy w.defaultMaxAttempts w.attempts with
  | none =>
    { write := some (.form path form), events := if w.dropped then dropGuard w.bus guard else [], indexed := []
      result := none }
  | some result =>
    let decoded : Decoded α := match result with
      | .error e => .plain (.error (TradeError.ofRestError e))
      | .ok value => decode value
    { write := some (.form path form)
      events := emit result ++ dropGuard w.bus (guard.map CancelEmitGuard.disarm)
      indexed := decoded.indexed
      result := some (decoded.result.mapError (·.withRequestId w.requestId)) }

/-- The policy of a placement: a nonce is healed in validate mode alone. -/
def placementPolicy (validateOnly : Bool) : RetryPolicy := if validateOnly then .neverRetryExceptNonce else .neverRetry

/-- A placement that Kraken accepts is indexed, whatever its decode says (executors.rs:176-181). -/
def decodeAddOrderAccepted (w : RestMeets) (req : OrderRequest) (value : Json) : Decoded AddOrderResponse :=
  { indexed := req.clOrdId.toList.map fun c => (c, { pair := req.pair, sentAt := w.sentAt })
    result := decodeAddOrder w.serde value req.clOrdId }

/-- `add_order_exec`, REST arm (executors.rs:126-203). -/
def addOrderRest (req : OrderRequest) (w : RestMeets) : OrderRun AddOrderResponse :=
  match req.validate with
  | .error e => .refused e
  | .ok () =>
    match restUnrepresentableField req.margin with
    | some field => .refused (.restUnsupportedOrderField field)
    | none =>
      match w.restRoute with
      | .error e => .refused e
      | .ok path =>
        w.post path req.toForm (placementPolicy req.validateOnly)
          (req.clOrdId.map fun c => .arm c .addOrder (some w.requestId))
          (fun result => match req.clOrdId with
            | some c => emitRestSubmitOutcome w.bus result c none .addOrder w.sentAt w.requestId
            | none => [])
          (decodeAddOrderAccepted w req)

/-- `amend_order_exec`, REST arm (executors.rs:303-368). -/
def amendOrderRest (req : OrderAmendRequest) (w : RestMeets) : OrderRun AmendOrderResponse :=
  match req.validate with
  | .error e => .refused e
  | .ok () =>
    match w.restRoute with
    | .error e => .refused e
    | .ok path =>
      if !w.charged then .refused ((TradeError.ofRestError .rateLimit).withRequestId w.requestId)
      else
        w.post path req.toForm .neverRetry (some (.arm req.clOrdId .amendOrder (some w.requestId)))
          (emitRestSubmitOutcome w.bus · req.clOrdId none .amendOrder w.sentAt w.requestId)
          fun value => .plain (decodeAmendOrder w.serde value)

/-- `index_placed_batch_rows` (executors.rs:661): the rows of an order with a `cl_ord_id`, a txid and no error. -/
def indexPlacedBatchRows (pair : Symbol) (entries : List BatchOrderEntry) (rows : List BatchOrderResult)
    (sentAt : MonotonicInstant) : List (ClOrdId × IndexEntry) :=
  (entries.zip rows).filterMap fun (entry, line) =>
    if line.txid.isSome && line.error.isNone then entry.clOrdId.map fun c => (c, { pair, sentAt }) else none

/-- A batch is indexed once its rows are read and counted (executors.rs:728, 759-768). -/
def indexBatch (req : AddOrderBatchRequest) (sentAt : MonotonicInstant) (decoded : Except TradeError AddOrderBatchResponse) :
    Decoded AddOrderBatchResponse :=
  match decoded with
  | .error e => .plain (.error e)
  | .ok resp => { indexed := indexPlacedBatchRows req.pair req.orders resp.orders sentAt, result := .ok resp }

/-- The decode of a batch over REST (executors.rs:724-727). -/
def decodeBatchRest (serde : String) (expected : Nat) (value : Json) : Except TradeError AddOrderBatchResponse := do
  let resp ← decodeAddOrderBatch serde value
  guardBatchRowCount expected resp.orders.length
  return resp

/-- `order_batch_exec`, REST arm (executors.rs:683-730): a batch has no lifecycle events. -/
def orderBatchRest (req : AddOrderBatchRequest) (w : RestMeets) : OrderRun AddOrderBatchResponse :=
  match req.validate with
  | .error e => .refused e
  | .ok () =>
    match req.orders.findSome? fun e => restUnrepresentableField e.margin with
    | some field => .refused (.restUnsupportedOrderField field)
    | none =>
      match w.restRoute with
      | .error e => .refused e
      | .ok path =>
        w.post path req.toForm (placementPolicy req.validateOnly) none (fun _ => [])
          fun value => indexBatch req w.sentAt (decodeBatchRest w.serde req.orders.length value)

/-! ## WS -/

/-- `PostReject` (event_bus/inbound.rs:10). -/
inductive PostReject where
  | full | closed
  deriving DecidableEq, Repr

/-- How the wait for a reply goes on, and what the reactor does from then on. -/
inductive Wait where
  | goesOn (after : List WsLabel)
  /-- The reactor has ended, and the sender of the reply with it. -/
  | loopGone
  /-- The order's deadline has run out. -/
  | elapsed (after : List WsLabel)
  | dropped (after : List WsLabel)

/-- The steps of the reactor after the wait. -/
def Wait.after : Wait → List WsLabel
  | .goesOn after | .elapsed after | .dropped after => after
  | .loopGone => []

/-- What an order call over WS meets. -/
structure WsMeets where
  bus : Bool
  systemStatus : SystemStatus
  orderDeadline : Option Nat
  /-- A WS surface is wired. -/
  surface : Bool
  loopFailed : Bool
  /-- What `ensure_order_sendable` returns, once it does. -/
  ensured : Option (Except ConnectionError Unit)
  reqId : Nat
  /-- The tracker admits the charge. -/
  charged : Bool
  /-- The `caller_to_io` queue takes the frame. -/
  posted : Except PostReject Unit
  /-- The clock when a batch is called, before anything is waited for. -/
  calledAt : MonotonicInstant
  sentAt : MonotonicInstant
  knobs : Knobs
  /-- The reactor's steps on the auth connection up to the end of the wait. -/
  before : List WsLabel
  wait : Wait

/-- `SystemStatus.status` as `gate_system_status` compares it. -/
def normalStatus (status : String) : String :=
  String.ofList (status.toList.map fun c => if c = '-' then '_' else c.toLower)

/-- `gate_system_status` (mod.rs:121). -/
def gateSystemStatus (status : SystemStatus) (op : WsOp) : Except TradeError Unit :=
  let norm := normalStatus status.status
  let online : Bool := norm = "online"
  let cancelOrPost : Bool := norm = "cancel_only" || norm = "post_only"
  let allowed : Bool := match op with
    | .addOrder | .amendOrder | .batchAdd => online
    | .cancelOrder | .cancelAll | .cancelAllOrdersAfter => online || cancelOrPost
  if allowed then .ok ()
  else .error (.systemStatusBlocked status { status := "online", timestamp := status.timestamp })

/-- `ws_conn_error_to_trade` (mod.rs:98). -/
def wsConnErrorToTrade : ConnectionError → TradeError
  | .queueFull => .queueFull none
  | .responseTimeout => .transport .requestSentNoResponse true none
  | e => .transport (.other e.display) true none

/-- `WsOp`'s `Display`. -/
def wsMethod : WsOp → String
  | .addOrder => "add_order"
  | .amendOrder => "amend_order"
  | .cancelOrder => "cancel_order"
  | .cancelAll => "cancel_all"
  | .cancelAllOrdersAfter => "cancel_all_orders_after"
  | .batchAdd => "batch_add"

/-- What the reply channel of the request holds at the end of the wait. A frame the queue refuses is resolved at once
(`send_request_inner`, ws_surface/mod.rs:257). -/
def WsMeets.resolved (w : WsMeets) : Option (Except ConnectionError WsResponse) :=
  match w.posted with
  | .error .full => some (.error .queueFull)
  | .error .closed => some (.error .notOpen)
  | .ok () => ((wsRun .authUrl w.knobs w.before).resolutions w.reqId).head?

/-- `RequestHandle::recv` under the deadline (inner.rs:168, executors.rs:904-917). -/
def WsMeets.recv (w : WsMeets) : Option (Except ConnectionError WsResponse) :=
  match w.wait with
  | .dropped _ => none
  | .goesOn _ => w.resolved
  | .loopGone => w.resolved.or (some (.error .loopClosed))
  | .elapsed _ => w.resolved.or (if w.orderDeadline.isSome then some (.error .responseTimeout) else none)

/-- The events of an ended wait (executors.rs:921-988). -/
def emitWsOutcome (bus : Bool) (recv : Except ConnectionError WsResponse) (clOrdId : ClOrdId) (amendId : Option AmendId)
    (op : OrderOp) (sentAt : MonotonicInstant) (requestId : String) : List OrderEvent :=
  match recv with
  | .ok resp =>
    if !opEmitsSubmitted op then []
    else if resp.success then
      match op with
      | .amendOrder => emitOrderSubmitted bus clOrdId ((amendIdInResult resp.result).or amendId) op .wireAccepted requestId
      | .cancelOrder => emitOrderSubmitted bus clOrdId none op .wireAccepted requestId
      | _ =>
        match wsTxidInResult resp.result with
        | some txid => emitOrderSubmitted bus clOrdId amendId op (.wireSent txid) requestId
        | none => []
    else emitOrderSubmitted bus clOrdId amendId op (wsWireErrorStatus resp.error) requestId
  | .error e =>
    if e.isDefinitelyNotSent then []
    else if opEmitsAmbiguous op then emitPlacementAmbiguous bus clOrdId amendId op sentAt requestId
    else []

/-- The frame of a request. -/
def WsMeets.frame (w : WsMeets) (op : WsOp) (params : Json) : WsRequestFrame :=
  { reqId := w.reqId, method := wsMethod op, op := (WsOp.fromMethod (wsMethod op)).getD .addOrder, params }

/-- What is indexed before the events (executors.rs:919-925). -/
def WsMeets.indexOnAccept (w : WsMeets) (recv : Except ConnectionError WsResponse) (emitClOrdId : Option ClOrdId)
    (indexOnAccept : Option (ClOrdId × Symbol)) : List (ClOrdId × IndexEntry) :=
  match emitClOrdId, recv with
  | some _, .ok resp =>
    if resp.success then indexOnAccept.toList.map fun (c, pair) => (c, { pair, sentAt := w.sentAt }) else []
  | _, _ => []

/-- `ws_send_and_decode` from the post of the frame on (executors.rs:888-995). -/
def WsMeets.send {α : Type} (w : WsMeets) (op : WsOp) (orderOp : OrderOp) (emitClOrdId : Option ClOrdId)
    (emitAmendId : Option AmendId) (params : Json) (indexOnAccept : Option (ClOrdId × Symbol))
    (decode : WsResponse → Decoded α) : OrderRun α :=
  let requestId := toString w.reqId
  let write := match w.posted with
    | .ok () => some (.frame (w.frame op params))
    | .error _ => none
  let guard := if opEmitsCancellation orderOp then
    emitClOrdId.map fun cl => CancelEmitGuard.arm cl orderOp (some requestId) else none
  match w.recv with
  | none =>
    let events := match w.wait with
      | .dropped _ => dropGuard w.bus guard
      | _ => []
    { write, events, indexed := [], result := none }
  | some recv =>
    let events := match emitClOrdId with
      | some cl => emitWsOutcome w.bus recv cl emitAmendId orderOp w.sentAt requestId
      | none => []
    let decoded : Decoded α := match recv with
      | .error e => .plain (.error (wsConnErrorToTrade e))
      | .ok resp => decode resp
    { write
      events := events ++ dropGuard w.bus (guard.map CancelEmitGuard.disarm)
      indexed := w.indexOnAccept recv emitClOrdId indexOnAccept ++ decoded.indexed
      result := some (decoded.result.mapError (·.withRequestId requestId)) }

/-- `ws_send_and_decode` (executors.rs:861). -/
def wsSendAndDecode {α : Type} (w : WsMeets) (op : WsOp) (orderOp : OrderOp) (emitClOrdId : Option ClOrdId)
    (emitAmendId : Option AmendId) (params : Json) (indexOnAccept : Option (ClOrdId × Symbol))
    (decode : WsResponse → Decoded α) : OrderRun α :=
  match gateSystemStatus w.systemStatus op with
  | .error e => .refused e
  | .ok () =>
    if !w.surface then .refused .wsSurfaceUnavailable
    else if w.loopFailed then .refused .loopDead
    else match w.ensured with
      | none => { write := none, events := [], indexed := [], result := none }
      | some (.error e) => .refused (wsConnErrorToTrade e)
      | some (.ok ()) =>
        if !w.charged then .refused ((TradeError.ofRestError .rateLimit).withRequestId (toString w.reqId))
        else w.send op orderOp emitClOrdId emitAmendId params indexOnAccept decode

/-- `add_order_exec`, WS arm (executors.rs:204-258). -/
def addOrderWs (req : OrderRequest) (w : WsMeets) : OrderRun AddOrderResponse :=
  match req.validate with
  | .error e => .refused e
  | .ok () =>
    match req.wsBlocked with
    | some field => .refused (.wsUnsupportedOrderField field)
    | none =>
      wsSendAndDecode w .addOrder .addOrder req.clOrdId none req.wsParams (req.clOrdId.map fun c => (c, req.pair))
        fun resp => .plain (decodeWsAddOrder req.clOrdId resp)

/-- `amend_order_exec`, WS arm (executors.rs:369-400). -/
def amendOrderWs (req : OrderAmendRequest) (w : WsMeets) : OrderRun AmendOrderResponse :=
  match req.validate with
  | .error e => .refused e
  | .ok () =>
    if req.displayQty.isSome then .refused (.wsUnsupportedOrderField "display_qty")
    else
      wsSendAndDecode w .amendOrder .amendOrder (some req.clOrdId) none (composeAmendOrderParams req) none
        fun resp => .plain (decodeWsAmendOrder resp)

/-- `order_batch_exec`, WS arm (executors.rs:731-772). -/
def orderBatchWs (req : AddOrderBatchRequest) (w : WsMeets) : OrderRun AddOrderBatchResponse :=
  match req.validate with
  | .error e => .refused e
  | .ok () =>
    match composeBatchAddParams req with
    | .error e => .refused e
    | .ok params =>
      wsSendAndDecode w .batchAdd .orderBatch none none params none
        fun resp => indexBatch req w.calledAt (decodeAndGuardWsBatch req.orders.length resp)

/-! ## Either nothing is handed over, or the call is its wire part -/

/-- What `ws_send_and_decode` asks of the world before it posts (executors.rs:876-893). -/
def WsMeets.Passes (w : WsMeets) (op : WsOp) : Prop :=
  gateSystemStatus w.systemStatus op = .ok () ∧ w.surface = true ∧ w.loopFailed = false ∧ w.ensured = some (.ok ()) ∧
    w.charged = true

/-- The checks of a single order before it is posted over REST. -/
def OrderRequest.RestChecked (req : OrderRequest) (w : RestMeets) : Prop :=
  req.validate = .ok () ∧ restUnrepresentableField req.margin = none ∧ ∃ path, w.restRoute = .ok path

/-- The same of an amend. -/
def OrderAmendRequest.RestChecked (req : OrderAmendRequest) (w : RestMeets) : Prop :=
  req.validate = .ok () ∧ (∃ path, w.restRoute = .ok path) ∧ w.charged = true

/-- The same of a batch. -/
def AddOrderBatchRequest.RestChecked (req : AddOrderBatchRequest) (w : RestMeets) : Prop :=
  req.validate = .ok () ∧ (req.orders.findSome? fun e => restUnrepresentableField e.margin) = none ∧
    ∃ path, w.restRoute = .ok path

/-- The checks of a single order before it is posted over WS. -/
def OrderRequest.WsChecked (req : OrderRequest) (w : WsMeets) : Prop :=
  req.validate = .ok () ∧ req.wsBlocked = none ∧ w.Passes .addOrder

/-- The same of an amend. -/
def OrderAmendRequest.WsChecked (req : OrderAmendRequest) (w : WsMeets) : Prop :=
  req.validate = .ok () ∧ req.displayQty = none ∧ w.Passes .amendOrder

/-- The same of a batch. -/
def AddOrderBatchRequest.WsChecked (req : AddOrderBatchRequest) (w : WsMeets) : Prop :=
  req.validate = .ok () ∧ (∃ params, composeBatchAddParams req = .ok params) ∧ w.Passes .batchAdd

/-- The call is its wire part if its checks pass, and hands nothing over if they do not. -/
def OrderRun.Reaches {α : Type} (r : OrderRun α) (checked : Prop) (wire : OrderRun α) : Prop :=
  (¬ checked ∧ r.write = none ∧ r.events = [] ∧ r.indexed = [] ∧ ∀ a, r.result ≠ some (.ok a)) ∨ (checked ∧ r = wire)

theorem OrderRun.Reaches.refused {α : Type} {checked : Prop} (h : ¬ checked) (e : TradeError) (wire : OrderRun α) :
    (OrderRun.refused e).Reaches checked wire :=
  .inl ⟨h, rfl, rfl, rfl, nofun⟩

theorem addOrderRest_reaches (req : OrderRequest) (w : RestMeets) :
    ∃ path, (addOrderRest req w).Reaches (req.RestChecked w) <|
      w.post path req.toForm (placementPolicy req.validateOnly)
        (req.clOrdId.map fun c => .arm c .addOrder (some w.requestId))
        (fun result => match req.clOrdId with
          | some c => emitRestSubmitOutcome w.bus result c none .addOrder w.sentAt w.requestId
          | none => [])
        (decodeAddOrderAccepted w req) := by
  unfold addOrderRest
  split
  next he => exact ⟨"", .refused (fun h => by cases he.symm.trans h.1) _ _⟩
  next hvalid =>
    split
    next he => exact ⟨"", .refused (fun h => by cases he.symm.trans h.2.1) _ _⟩
    next hmargin =>
      split
      next he => exact ⟨"", .refused (fun h => by cases he.symm.trans h.2.2.choose_spec) _ _⟩
      next path hpath => exact ⟨path, .inr ⟨⟨hvalid, hmargin, path, hpath⟩, rfl⟩⟩

theorem amendOrderRest_reaches (req : OrderAmendRequest) (w : RestMeets) :
    ∃ path, (amendOrderRest req w).Reaches (req.RestChecked w) <|
      w.post path req.toForm .neverRetry (some (.arm req.clOrdId .amendOrder (some w.requestId)))
        (emitRestSubmitOutcome w.bus · req.clOrdId none .amendOrder w.sentAt w.requestId)
        fun value => .plain (decodeAmendOrder w.serde value) := by
  unfold amendOrderRest
  split
  next he => exact ⟨"", .refused (fun h => by cases he.symm.trans h.1) _ _⟩
  next hvalid =>
    split
    next he => exact ⟨"", .refused (fun h => by cases he.symm.trans h.2.1.choose_spec) _ _⟩
    next path hpath =>
      cases hcharged : w.charged with
      | false => exact ⟨"", .refused (fun h => by cases hcharged.symm.trans h.2.2) _ _⟩
      | true => exact ⟨path, .inr ⟨⟨hvalid, ⟨path, hpath⟩, hcharged⟩, rfl⟩⟩

theorem orderBatchRest_reaches (req : AddOrderBatchRequest) (w : RestMeets) :
    ∃ path, (orderBatchRest req w).Reaches (req.RestChecked w) <|
      w.post path req.toForm (placementPolicy req.validateOnly) none (fun _ => [])
        fun value => indexBatch req w.sentAt (decodeBatchRest w.serde req.orders.length value) := by
  unfold orderBatchRest
  split
  next he => exact ⟨"", .refused (fun h => by cases he.symm.trans h.1) _ _⟩
  next hvalid =>
    split
    next he => exact ⟨"", .refused (fun h => by cases he.symm.trans h.2.1) _ _⟩
    next hmargin =>
      split
      next he => exact ⟨"", .refused (fun h => by cases he.symm.trans h.2.2.choose_spec) _ _⟩
      next path hpath => exact ⟨path, .inr ⟨⟨hvalid, hmargin, path, hpath⟩, rfl⟩⟩

theorem wsSendAndDecode_reaches {α : Type} (w : WsMeets) (op : WsOp) (orderOp : OrderOp) (emitClOrdId : Option ClOrdId)
    (emitAmendId : Option AmendId) (params : Json) (indexOnAccept : Option (ClOrdId × Symbol))
    (decode : WsResponse → Decoded α) :
    (wsSendAndDecode w op orderOp emitClOrdId emitAmendId params indexOnAccept decode).Reaches (w.Passes op) <|
      w.send op orderOp emitClOrdId emitAmendId params indexOnAccept decode := by
  unfold wsSendAndDecode
  cases hgate : gateSystemStatus w.systemStatus op with
  | error e => exact .refused (fun h => by cases hgate.symm.trans h.1) _ _
  | ok u =>
    cases hsurface : w.surface with
    | false => exact .refused (fun h => by cases hsurface.symm.trans h.2.1) _ _
    | true =>
      cases hfailed : w.loopFailed with
      | true => exact .refused (fun h => by cases hfailed.symm.trans h.2.2.1) _ _
      | false =>
        rcases hensured : w.ensured with _ | e | u'
        · exact .inl ⟨fun h => (by cases hensured.symm.trans h.2.2.2.1), rfl, rfl, rfl, nofun⟩
        · exact .refused (fun h => by cases hensured.symm.trans h.2.2.2.1) _ _
        · cases hcharged : w.charged with
          | false => exact .refused (fun h => by cases hcharged.symm.trans h.2.2.2.2) _ _
          | true => exact .inr ⟨⟨hgate, hsurface, hfailed, hensured, hcharged⟩, rfl⟩

/-- Checks of the request before those of `ws_send_and_decode`. -/
theorem OrderRun.Reaches.of_passes {α : Type} {r wire : OrderRun α} {checked passes : Prop} (h : r.Reaches passes wire)
    (hiff : checked ↔ passes) : r.Reaches checked wire := by
  rw [propext hiff]
  exact h

theorem addOrderWs_reaches (req : OrderRequest) (w : WsMeets) :
    (addOrderWs req w).Reaches (req.WsChecked w) <|
      w.send .addOrder .addOrder req.clOrdId none req.wsParams (req.clOrdId.map fun c => (c, req.pair))
        fun resp => .plain (decodeWsAddOrder req.clOrdId resp) := by
  unfold addOrderWs
  split
  next he => exact .refused (fun h => by cases he.symm.trans h.1) _ _
  next hvalid =>
    split
    next he => exact .refused (fun h => by cases he.symm.trans h.2.1) _ _
    next hblocked =>
      exact (wsSendAndDecode_reaches ..).of_passes ⟨fun h => h.2.2, fun h => ⟨hvalid, hblocked, h⟩⟩

theorem amendOrderWs_reaches (req : OrderAmendRequest) (w : WsMeets) :
    (amendOrderWs req w).Reaches (req.WsChecked w) <|
      w.send .amendOrder .amendOrder (some req.clOrdId) none (composeAmendOrderParams req) none
        fun resp => .plain (decodeWsAmendOrder resp) := by
  unfold amendOrderWs
  split
  next he => exact .refused (fun h => by cases he.symm.trans h.1) _ _
  next hvalid =>
    cases hqty : req.displayQty with
    | some qty => exact .refused (fun h => by cases hqty.symm.trans h.2.1) _ _
    | none => exact (wsSendAndDecode_reaches ..).of_passes ⟨fun h => h.2.2, fun h => ⟨hvalid, hqty, h⟩⟩

theorem orderBatchWs_reaches (req : AddOrderBatchRequest) (w : WsMeets) :
    ∃ params, (orderBatchWs req w).Reaches (req.WsChecked w) <|
      w.send .batchAdd .orderBatch none none params none
        fun resp => indexBatch req w.calledAt (decodeAndGuardWsBatch req.orders.length resp) := by
  unfold orderBatchWs
  split
  next he => exact ⟨.null, .refused (fun h => by cases he.symm.trans h.1) _ _⟩
  next hvalid =>
    split
    next he => exact ⟨.null, .refused (fun h => by cases he.symm.trans h.2.1.choose_spec) _ _⟩
    next params hparams =>
      exact ⟨params, (wsSendAndDecode_reaches ..).of_passes ⟨fun h => h.2.2, fun h => ⟨hvalid, ⟨params, hparams⟩, h⟩⟩⟩

/-! ## All six -/

/-- A call that places or amends orders, and what it meets. -/
inductive OrderCall where
  | addOrderRest (req : OrderRequest) (w : RestMeets)
  | amendOrderRest (req : OrderAmendRequest) (w : RestMeets)
  | orderBatchRest (req : AddOrderBatchRequest) (w : RestMeets)
  | addOrderWs (req : OrderRequest) (w : WsMeets)
  | amendOrderWs (req : OrderAmendRequest) (w : WsMeets)
  | orderBatchWs (req : AddOrderBatchRequest) (w : WsMeets)

namespace OrderCall

def Response : OrderCall → Type
  | addOrderRest .. | addOrderWs .. => AddOrderResponse
  | amendOrderRest .. | amendOrderWs .. => AmendOrderResponse
  | orderBatchRest .. | orderBatchWs .. => AddOrderBatchResponse

def run : (c : OrderCall) → OrderRun c.Response
  | addOrderRest req w => Trade.addOrderRest req w
  | amendOrderRest req w => Trade.amendOrderRest req w
  | orderBatchRest req w => Trade.orderBatchRest req w
  | addOrderWs req w => Trade.addOrderWs req w
  | amendOrderWs req w => Trade.amendOrderWs req w
  | orderBatchWs req w => Trade.orderBatchWs req w

/-- Its checks before it is posted. -/
def Checked : OrderCall → Prop
  | addOrderRest req w | amendOrderRest req w | orderBatchRest req w => req.RestChecked w
  | addOrderWs req w | amendOrderWs req w | orderBatchWs req w => req.WsChecked w

end OrderCall

end KrakenSdk.Trade
