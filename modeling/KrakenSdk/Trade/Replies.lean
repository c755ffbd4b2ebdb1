import KrakenSdk.Trade.Requests
/-!
# Replies to orders (api/trade/types/mod.rs, api/trade/ws_compose.rs, api/trade/events.rs:115-148)

The decoders of a placement, an amend and a batch on either transport, and the ids the lifecycle events take from a
reply. Kraken sends an empty string for an id it does not have.
-/
namespace KrakenSdk.Trade

open KrakenSdk.Conn (Json WsResponse)

/-- `TxId` (ids.rs:137). -/
abbrev TxId := String

/-- `AmendId` (enums.rs:198). -/
abbrev AmendId := String

/-- `AddOrderDescr` (types/mod.rs:36). -/
structure AddOrderDescr where
  order : Option String
  close : Option String
  deriving DecidableEq, Repr

/-- `AddOrderResponse` (types/mod.rs:50). -/
structure AddOrderResponse where
  txid : Option TxId
  clOrdId : Option ClOrdId
  descr : AddOrderDescr
  deriving DecidableEq, Repr

/-- `AmendOrderResponse` (types/mod.rs:85). -/
structure AmendOrderResponse where
  amendId : AmendId
  deriving DecidableEq, Repr

/-- `CancelAllResponse` (types/mod.rs:79), a `u32`. -/
structure CancelAllResponse where
  count : Nat
  deriving DecidableEq, Repr

/-- `DeadmanResponse` (types/mod.rs:95). -/
structure DeadmanResponse where
  currentTime : String
  triggerTime : Option String
  deriving DecidableEq, Repr

/-- `BatchOrderResult` (types/mod.rs:157). -/
structure BatchOrderResult where
  descr : AddOrderDescr
  txid : Option TxId
  error : Option String
  deriving DecidableEq, Repr

/-- `AddOrderBatchResponse` (types/mod.rs:170). -/
structure AddOrderBatchResponse where
  orders : List BatchOrderResult
  deriving DecidableEq, Repr

/-! ## Reading structs -/

/-- A string that is not empty. -/
def nonEmpty (s : String) : Option String := if s.isEmpty then none else some s

/-- A derived `Deserialize` of a struct: fields by name from an object, by position from an array. An array has all of
the first `required` fields and no more than there are. -/
def structFields (names : List String) (required : Nat) : Json → Option (String → Option Json)
  | .obj fields => some fun name => (Json.obj fields).get? name
  | .arr items =>
    if required ≤ items.length ∧ items.length ≤ names.length then some fun name => items[names.idxOf name]? else none
  | _ => none

/-- A field that is a `String`. -/
def strField (v : Option Json) : Option String := v.bind Json.asStr?

/-- A field that is an `Option<String>`: absent and `null` are `None`. -/
def optStrField : Option Json → Option (Option String)
  | none | some .null => some none
  | some (.str s) => some (some s)
  | some _ => none

/-- A field that is a `String` with a default. -/
def strFieldOrDefault : Option Json → Option String
  | none => some ""
  | some v => v.asStr?

/-- A field that is a `u32`: the literal is parsed as one (`arbitrary_precision`). -/
def u32Field (v : Option Json) : Option Nat := (v.bind Json.asU64?).filter (· < 2 ^ 32)

/-- A field that is a `Vec<String>` with a default. -/
def strListField : Option Json → Option (List String)
  | none => some []
  | some (.arr items) => items.mapM Json.asStr?
  | some _ => none

/-! ## REST -/

/-- `RawAddOrderDescr` (types/mod.rs:116). -/
def readAddOrderDescr (v : Json) : Option AddOrderDescr := do
  let field ← structFields ["order", "close"] 2 v
  let order ← strField (field "order")
  let close ← optStrField (field "close")
  return { order := some order, close }

/-- `RawAddOrderResponse` (types/mod.rs:106). -/
def readAddOrder (v : Json) : Option (AddOrderDescr × List String) := do
  let field ← structFields ["descr", "txid"] 1 v
  let descr ← (field "descr").bind readAddOrderDescr
  let txid ← strListField (field "txid")
  return (descr, txid)

/-- `TradeError::malformed`. -/
def malformed (detail : String) : TradeError := .malformedResponse detail none

/-- `decode_add_order` (executors.rs:269); `serde` is what the reader says of a value it cannot read. -/
def decodeAddOrder (serde : String) (result : Json) (clOrdId : Option ClOrdId) : Except TradeError AddOrderResponse :=
  match readAddOrder result with
  | none => .error (malformed ("add_order decode: " ++ serde))
  | some (descr, txid) => .ok { txid := txid.head?.bind nonEmpty, clOrdId, descr }

/-- The amend's decode (executors.rs:352-367). -/
def decodeAmendOrder (serde : String) (result : Json) : Except TradeError AmendOrderResponse :=
  match (structFields ["amend_id"] 1 result).bind fun field => strField (field "amend_id") with
  | none => .error (malformed ("amend decode: " ++ serde))
  | some amendId => if amendId.isEmpty then .error (malformed "amend decode: empty amend_id") else .ok { amendId }

/-- The decode of `cancel_all` (executors.rs:567-570). -/
def decodeCancelAll (serde : String) (result : Json) : Except TradeError CancelAllResponse :=
  match (structFields ["count"] 1 result).bind fun field => u32Field (field "count") with
  | none => .error (malformed ("cancel_all decode: " ++ serde))
  | some count => .ok { count }

/-- An empty `triggerTime` and `"0"` are a disarmed switch, on either transport. -/
def armedAt (triggerTime : String) : Option String :=
  if triggerTime = "" ∨ triggerTime = "0" then none else some triggerTime

/-- The decode of `cancel_all_orders_after` (executors.rs:622-634). -/
def decodeDeadman (serde : String) (result : Json) : Except TradeError DeadmanResponse :=
  let raw := do
    let field ← structFields ["currentTime", "triggerTime"] 1 result
    let currentTime ← strField (field "currentTime")
    let triggerTime ← strFieldOrDefault (field "triggerTime")
    some (currentTime, triggerTime)
  match raw with
  | none => .error (malformed ("cancel_all_orders_after decode: " ++ serde))
  | some (currentTime, triggerTime) => .ok { currentTime, triggerTime := armedAt triggerTime }

/-- `RawBatchDescr` (executors.rs:808). -/
def readBatchDescr (v : Json) : Option AddOrderDescr := do
  let field ← structFields ["order", "close"] 0 v
  let order ← optStrField (field "order")
  let close ← optStrField (field "close")
  return { order, close }

/-- One row of a batch reply (executors.rs:815-846). -/
def readBatchRow (v : Json) : Option BatchOrderResult := do
  let field ← structFields ["descr", "txid", "error"] 3 v
  let descr ← match field "descr" with
    | none | some .null => some { order := none, close := none }
    | some d => readBatchDescr d
  let txid ← optStrField (field "txid")
  let error ← optStrField (field "error")
  return { descr, txid := txid.bind nonEmpty, error }

/-- `decode_add_order_batch` (executors.rs:806). -/
def decodeAddOrderBatch (serde : String) (result : Json) : Except TradeError AddOrderBatchResponse :=
  let rows := do
    let field ← structFields ["orders"] 1 result
    let items ← (field "orders").bind Json.asArray?
    items.mapM readBatchRow
  match rows with
  | none => .error (malformed ("add_order_batch decode: " ++ serde))
  | some orders => .ok { orders }

/-- `guard_batch_row_count` (executors.rs:794). -/
def guardBatchRowCount (expected got : Nat) : Except TradeError Unit :=
  if expected ≠ got then
    .error (malformed ("batch reply carried " ++ Nat.repr got ++ " rows for " ++ Nat.repr expected ++
      " orders — rows cannot be attributed"))
  else .ok ()

/-! ## WS -/

/-- `classify_ws_error` (ws_compose.rs:549). -/
def classifyWsError (error : Option String) : TradeError := classifyKrakenErrorString (error.getD "WS request rejected")

/-- The text a field has that is not empty. -/
def idField (v : Json) (name : String) : Option String := ((v.get? name).bind Json.asStr?).bind nonEmpty

/-- `ClOrdId::new` (ids.rs:187), by its formats; the lengths are bytes. -/
def ClOrdId.new (s : String) : Option ClOrdId :=
  let isHex (c : Char) : Bool := c.isDigit || ('a' ≤ c && c ≤ 'f') || ('A' ≤ c && c ≤ 'F')
  let isUuid := s.toList.zipIdx.all fun (c, i) => if i ∈ [8, 13, 18, 23] then c = '-' else isHex c
  if s.isEmpty then none
  else if s.utf8ByteSize = 36 && isUuid then some ⟨s⟩
  else if s.utf8ByteSize = 32 && s.toList.all isHex then some ⟨s⟩
  else if s.utf8ByteSize ≤ 18 && s.toList.all fun c => c.isAlphanum || c = '_' || c = '-' then some ⟨s⟩
  else none

/-- `decode_ws_add_order` (ws_compose.rs:433). -/
def decodeWsAddOrder (fallbackClOrdId : Option ClOrdId) (resp : WsResponse) : Except TradeError AddOrderResponse :=
  if !resp.success then .error (classifyWsError resp.error)
  else .ok {
    txid := idField resp.result "order_id"
    clOrdId := (((resp.result.get? "cl_ord_id").bind Json.asStr?).bind ClOrdId.new).or fallbackClOrdId
    descr := { order := none, close := none } }

/-- `decode_ws_amend_order` (ws_compose.rs:465). -/
def decodeWsAmendOrder (resp : WsResponse) : Except TradeError AmendOrderResponse :=
  if !resp.success then .error (classifyWsError resp.error)
  else match idField resp.result "amend_id" with
    | none => .error (malformed "ws amend response missing amend_id")
    | some amendId => .ok { amendId }

/-- `decode_ws_cancel_all` (ws_compose.rs:507): the count is cast to 32 bits. -/
def decodeWsCancelAll (resp : WsResponse) : Except TradeError CancelAllResponse :=
  if !resp.success then .error (classifyWsError resp.error)
  else match (resp.result.get? "count").bind Json.asU64? with
    | none => .error (malformed "cancel_all WS reply: missing or non-integer `count`")
    | some count => .ok { count := count % 2 ^ 32 }

/-- `decode_ws_deadman` (ws_compose.rs:524): a time that is missing or no string reads as empty. -/
def decodeWsDeadman (resp : WsResponse) : Except TradeError DeadmanResponse :=
  if !resp.success then .error (classifyWsError resp.error)
  else
    let currentTime := (resp.result.get? "currentTime").or (resp.result.get? "current_time")
    let triggerTime := (resp.result.get? "triggerTime").or (resp.result.get? "trigger_time")
    .ok {
      currentTime := (currentTime.bind Json.asStr?).getD ""
      triggerTime := armedAt ((triggerTime.bind Json.asStr?).getD "") }

/-- `decode_ws_batch_add` (ws_compose.rs:400): the rows count, whatever `success` says. -/
def decodeWsBatchAdd (resp : WsResponse) : Except TradeError AddOrderBatchResponse :=
  match resp.result with
  | .arr rows => .ok {
      orders := rows.map fun row => {
        descr := { order := none, close := none }
        txid := idField row "order_id"
        error := (row.get? "error").bind Json.asStr? } }
  | _ => .error (classifyWsError resp.error)

/-- `decode_and_guard_ws_batch` (executors.rs:782). -/
def decodeAndGuardWsBatch (expected : Nat) (resp : WsResponse) : Except TradeError AddOrderBatchResponse := do
  let decoded ← decodeWsBatchAdd resp
  guardBatchRowCount expected decoded.orders.length
  return decoded

/-! ## The ids in a reply (events.rs) -/

/-- `first_txid_in_rest_result` (events.rs:118). -/
def firstTxidInRestResult (result : Json) : Option TxId :=
  (((((result.get? "txid").bind Json.asArray?).bind List.head?).bind Json.asStr?)).bind nonEmpty

/-- `amend_id_in_result` (events.rs:130). -/
def amendIdInResult (result : Json) : Option AmendId := idField result "amend_id"

/-- `ws_txid_in_result` (events.rs:141). -/
def wsTxidInResult (result : Json) : Option TxId :=
  (((result.get? "order_id").or (result.get? "txid")).bind Json.asStr?).bind nonEmpty

/-! ## A reply is never a transport failure -/

/-- Whatever this returns as an error, it is no transport failure. -/
def NeverTransport {α : Type} (r : Except TradeError α) : Prop := ∀ e, r = .error e → ¬ e.RetryableTransport

theorem neverTransport_ok {α : Type} (a : α) : NeverTransport (.ok a) := fun _ h => by cases h

theorem neverTransport_error {α : Type} {e : TradeError} (h : ¬ e.RetryableTransport) :
    NeverTransport (.error e : Except TradeError α) := by
  rintro e' ⟨⟩
  exact h

theorem neverTransport_malformed {α : Type} (detail : String) :
    NeverTransport (.error (malformed detail) : Except TradeError α) := neverTransport_error id

theorem neverTransport_classify {α : Type} (error : Option String) :
    NeverTransport (.error (classifyWsError error) : Except TradeError α) :=
  neverTransport_error (not_retryableTransport_classify _)

theorem NeverTransport.bind {α β : Type} {r : Except TradeError α} {f : α → Except TradeError β} (h : NeverTransport r)
    (hf : ∀ a, NeverTransport (f a)) : NeverTransport (r >>= f) := by
  cases r with
  | ok a => exact hf a
  | error e =>
    rintro e' ⟨⟩
    exact h e rfl

theorem neverTransport_decodeAddOrder (serde : String) (result : Json) (clOrdId : Option ClOrdId) :
    NeverTransport (decodeAddOrder serde result clOrdId) := by
  unfold decodeAddOrder
  split
  · exact neverTransport_malformed _
  · exact neverTransport_ok _

theorem neverTransport_decodeAmendOrder (serde : String) (result : Json) : NeverTransport (decodeAmendOrder serde result) := by
  unfold decodeAmendOrder
  split
  · exact neverTransport_malformed _
  · split
    · exact neverTransport_malformed _
    · exact neverTransport_ok _

theorem neverTransport_guardBatchRowCount (expected got : Nat) : NeverTransport (guardBatchRowCount expected got) := by
  unfold guardBatchRowCount
  split
  · exact neverTransport_malformed _
  · exact neverTransport_ok _

theorem neverTransport_decodeAddOrderBatch (serde : String) (result : Json) :
    NeverTransport (decodeAddOrderBatch serde result) := by
  unfold decodeAddOrderBatch
  dsimp only
  split
  · exact neverTransport_malformed _
  · exact neverTransport_ok _

theorem neverTransport_decodeWsAddOrder (fallbackClOrdId : Option ClOrdId) (resp : WsResponse) :
    NeverTransport (decodeWsAddOrder fallbackClOrdId resp) := by
  unfold decodeWsAddOrder
  split
  · exact neverTransport_classify _
  · exact neverTransport_ok _

theorem neverTransport_decodeWsAmendOrder (resp : WsResponse) : NeverTransport (decodeWsAmendOrder resp) := by
  unfold decodeWsAmendOrder
  split
  · exact neverTransport_classify _
  · split
    · exact neverTransport_malformed _
    · exact neverTransport_ok _

theorem neverTransport_decodeAndGuardWsBatch (expected : Nat) (resp : WsResponse) :
    NeverTransport (decodeAndGuardWsBatch expected resp) := by
  have hdecode : NeverTransport (decodeWsBatchAdd resp) := by
    unfold decodeWsBatchAdd
    split
    · exact neverTransport_ok _
    · exact neverTransport_classify _
  exact hdecode.bind fun decoded => .bind (neverTransport_guardBatchRowCount _ _) fun _ => neverTransport_ok _

end KrakenSdk.Trade
