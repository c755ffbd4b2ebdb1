import Mathlib.Data.String.Basic
import KrakenSdk.Trade.Requests
/-!
# The order methods on WS (api/trade/ws_compose.rs)

The params object of `add_order` and of `batch_add`, built one `insert` after the other in a map that keeps its keys
in order.
-/
namespace KrakenSdk.Trade

open KrakenSdk.Conn (Symbol Json)
open KrakenSdk.Types (Decimal)
open OptionalFields

/-- `serde_json::Map`. -/
abbrev JsonMap := BTreeMap String Json

def JsonMap.toJson (m : JsonMap) : Json := .obj m.entries

/-- A flag that is inserted only when it is set. -/
def whenSet (b : Bool) : Option Json := if b then some (.bool true) else none

/-! ## Numbers -/

/-- At least one digit. -/
def allDigits (s : List Char) : Bool := s ≠ [] && s.all Char.isDigit

/-- The digits of a number before its point have no zero in front. -/
def isInteger (s : List Char) : Bool := allDigits s && (s.length = 1 || s.head? ≠ some '0')

/-- A JSON number that has no exponent. -/
def isJsonNumber (s : List Char) : Bool :=
  let body := if s.head? = some '-' then s.tail else s
  isInteger (body.takeWhile (· ≠ '.')) &&
    match body.dropWhile (· ≠ '.') with
    | [] => true
    | _ :: digits => allDigits digits

/-- `decimal_to_json` (ws_compose.rs:34), a number that keeps its text. -/
def decimalToJson (d : Decimal) : Json := if isJsonNumber d.text.toList then .num d.text else .str d.text

/-! ## `add_order` -/

/-- `AddOrderWsView` (ws_compose.rs:69). -/
structure AddOrderWsView where
  side : String
  pair : Symbol
  volume : Decimal
  orderType : OrderType
  price : Option Price
  price2 : Option Price
  oflags : List OFlag
  margin : Bool
  reduceOnly : Option Bool
  stpType : Option StpType
  trigger : Option TriggerKind
  timeInForce : Option TimeInForce
  displayVol : Option Decimal
  startTime : Option TimeSpec
  expireTime : Option TimeSpec
  userref : Option Int
  clOrdId : Option ClOrdId
  closeOrdertype : Option OrderType
  closePrice : Option Price
  closePrice2 : Option Price
  validate : Bool

/-- `WsPriceShape` (ws_compose.rs:123). -/
inductive WsPriceShape where
  | noPrice
  | limit
  | trigger (limitLeg : Bool)
  deriving DecidableEq, Repr

/-- The shape of an order type (ws_compose.rs:128). -/
def wsPriceShape : OrderType → WsPriceShape
  | .market | .settlePosition => .noPrice
  | .limit | .iceberg => .limit
  | .stopLoss | .takeProfit => .trigger false
  | .stopLossLimit | .takeProfitLimit => .trigger true
  | .trailingStop => .trigger false
  | .trailingStopLimit => .trigger true
  | .unknown => .noPrice

/-- A price and its kind, under two keys. -/
def priceRows (key keyType : String) (price : Option Price) : List (String × Option Json) :=
  [(key, price.map fun p => decimalToJson p.toWs.1), (keyType, price.map fun p => .str p.toWs.2)]

def triggersRows (trigger : Option TriggerKind) (price : Option Price) : List (String × Option Json) :=
  ("reference", trigger.map fun tk => .str tk.display) :: priceRows "price" "price_type" price

/-- The `triggers` object (ws_compose.rs:153-167). -/
def triggersObject (trigger : Option TriggerKind) (price : Option Price) : JsonMap :=
  insertRows .empty (triggersRows trigger price)

/-- The price fields (ws_compose.rs:140-181). -/
def insertPrices (view : AddOrderWsView) (p : JsonMap) : JsonMap :=
  match wsPriceShape view.orderType with
  | .noPrice => p
  | .limit => insertRows p (priceRows "limit_price" "limit_price_type" view.price)
  | .trigger limitLeg =>
    let p := p.insert "triggers" (triggersObject view.trigger view.price).toJson
    if limitLeg then insertRows p (priceRows "limit_price" "limit_price_type" view.price2) else p

/-- One order flag (ws_compose.rs:183-206). -/
def insertFlag (p : JsonMap) : OFlag → JsonMap
  | .post => p.insert "post_only" (.bool true)
  | .fcib => p.insert "fee_preference" (.str "base")
  | .fciq => if p.entries.any (·.1 = "fee_preference") then p else p.insert "fee_preference" (.str "quote")
  | .nompp => p.insert "no_mpp" (.bool true)

/-- The prices of a close leg, absolute only (ws_compose.rs:264-287). -/
def closeRows (ct : OrderType) (price price2 : Option Price) : List (String × Option Json) :=
  match ct with
  | .stopLoss | .takeProfit | .stopLossLimit | .takeProfitLimit =>
    [("trigger_price", price.map fun p => decimalToJson p.toWs.1), ("limit_price", price2.map fun p => decimalToJson p.toWs.1)]
  | .limit => [("limit_price", price.map fun p => decimalToJson p.toWs.1)]
  | .market | .iceberg | .settlePosition | .trailingStop | .trailingStopLimit | .unknown => []

/-- The `conditional` object (ws_compose.rs:258-289). -/
def conditionalObject (ct : OrderType) (price price2 : Option Price) : JsonMap :=
  insertRows (BTreeMap.empty.insert "order_type" (.str ct.display)) (closeRows ct price price2)

/-- The fields before the prices (ws_compose.rs:102-120). -/
def headRows (view : AddOrderWsView) : List (String × Option Json) :=
  [("order_type", some (.str view.orderType.display)),
   ("side", some (.str view.side)),
   ("order_qty", some (decimalToJson view.volume)),
   ("symbol", some (.str view.pair)),
   ("cl_ord_id", view.clOrdId.map fun c => .str c.asStr)]

/-- The fields after the flags (ws_compose.rs:208-294). -/
def tailRows (view : AddOrderWsView) : List (String × Option Json) :=
  [("margin", whenSet view.margin),
   ("reduce_only", whenSet (view.reduceOnly == some true)),
   ("stp_type", view.stpType.map fun s => .str (stpTypeWs s)),
   ("time_in_force", view.timeInForce.map fun t => .str t.display),
   ("display_qty", view.displayVol.map decimalToJson),
   ("effective_time", view.startTime.map fun s => .str s.toWs),
   ("expire_time", view.expireTime.map fun e => .str e.toWs),
   ("order_userref", view.userref.map fun u => .num (toString u)),
   ("conditional", view.closeOrdertype.map fun ct => (conditionalObject ct view.closePrice view.closePrice2).toJson),
   ("validate", whenSet view.validate)]

/-- `compose_add_order_params` (ws_compose.rs:99), before it is wrapped as a value. -/
def addOrderMap (view : AddOrderWsView) : JsonMap :=
  let p := insertRows .empty (headRows view)
  let p := insertPrices view p
  let p := view.oflags.foldl insertFlag p
  insertRows p (tailRows view)

def composeAddOrderParams (view : AddOrderWsView) : Json := (addOrderMap view).toJson

/-- The view of a single order (executors.rs:213). -/
def OrderRequest.wsView (r : OrderRequest) : AddOrderWsView :=
  let legs := ConditionalClose.flatLegs r.conditionalClose
  { side := r.side.display, pair := r.pair, volume := r.volume, orderType := r.orderType, price := r.price
    price2 := r.price2, oflags := r.oflags, margin := r.margin, reduceOnly := r.reduceOnly, stpType := r.stpType
    trigger := r.trigger, timeInForce := r.timeInForce, displayVol := r.displayVol, startTime := r.startTime
    expireTime := r.expireTime, userref := r.userref, clOrdId := r.clOrdId, closeOrdertype := legs.1
    closePrice := legs.2.1, closePrice2 := legs.2.2, validate := r.validateOnly }

/-- The params of a single order on WS. -/
def OrderRequest.wsParams (r : OrderRequest) : Json := composeAddOrderParams r.wsView

/-! ## `batch_add` -/

/-- The view of a batch entry (ws_compose.rs:317). -/
def BatchOrderEntry.wsView (e : BatchOrderEntry) (pair : Symbol) : AddOrderWsView :=
  let legs := ConditionalClose.flatLegs e.conditionalClose
  { side := e.side.display, pair, volume := e.volume, orderType := e.ordertype, price := e.price
    price2 := e.price2, oflags := e.oflags.getD [], margin := e.margin, reduceOnly := e.reduceOnly, stpType := e.stpType
    trigger := e.trigger, timeInForce := e.timeInForce, displayVol := e.displayVol, startTime := e.startTime
    expireTime := e.expireTime, userref := e.userref, clOrdId := e.clOrdId, closeOrdertype := legs.1
    closePrice := legs.2.1, closePrice2 := legs.2.2, validate := false }

/-- One entry of `orders` (ws_compose.rs:306-344). -/
def composeEntry (pair : Symbol) (e : BatchOrderEntry) : Except TradeError Json :=
  match e.wsBlocked with
  | some field => .error (.wsUnsupportedOrderField field)
  | none => .ok (JsonMap.toJson ((addOrderMap (e.wsView pair)).remove "symbol"))

/-- `compose_batch_add_params` (ws_compose.rs:302). -/
def composeBatchAddParams (req : AddOrderBatchRequest) : Except TradeError Json := do
  let orders ← req.orders.mapM (composeEntry req.pair)
  let params := insertRows .empty
    [("symbol", some (.str req.pair)), ("orders", some (.arr orders)), ("validate", whenSet req.validateOnly)]
  return JsonMap.toJson params

/-! ## `amend_order` -/

/-- `compose_amend_order_params` (ws_compose.rs:359). -/
def composeAmendOrderParams (r : OrderAmendRequest) : Json :=
  JsonMap.toJson <| insertRows .empty <|
    [("cl_ord_id", some (.str r.clOrdId.asStr)), ("order_qty", r.orderVolume.map decimalToJson)] ++
      priceRows "limit_price" "limit_price_type" r.limitPrice ++ [("post_only", r.postOnly.map .bool)] ++
      priceRows "trigger_price" "trigger_price_type" r.triggerPrice

/-! ## The params as rows

Whatever the order, the params are one row for each of 21 keys. -/

/-- The price under `limit_price`. -/
def limitLeg (view : AddOrderWsView) : Option Price :=
  match wsPriceShape view.orderType with
  | .noPrice => none
  | .limit => view.price
  | .trigger limitLeg => if limitLeg then view.price2 else none

/-- The object under `triggers`. -/
def triggersField (view : AddOrderWsView) : Option Json :=
  match wsPriceShape view.orderType with
  | .trigger _ => some (triggersObject view.trigger view.price).toJson
  | _ => none

def pricesRows (view : AddOrderWsView) : List (String × Option Json) :=
  ("triggers", triggersField view) :: priceRows "limit_price" "limit_price_type" (limitLeg view)

/-- The fee currency the flags ask for: base comes before quote. -/
def feePreference (flags : List OFlag) : Option String :=
  if .fcib ∈ flags then some "base" else if .fciq ∈ flags then some "quote" else none

def flagRows (flags : List OFlag) : List (String × Option Json) :=
  [("post_only", whenSet (.post ∈ flags)),
   ("fee_preference", (feePreference flags).map .str),
   ("no_mpp", whenSet (.nompp ∈ flags))]

def wsRows (view : AddOrderWsView) : List (String × Option Json) :=
  headRows view ++ pricesRows view ++ flagRows view.oflags ++ tailRows view

theorem nodup_keys_wsRows (view : AddOrderWsView) : (keys (wsRows view)).Nodup := by
  have hkeys : keys (wsRows view) = ["order_type", "side", "order_qty", "symbol", "cl_ord_id", "triggers", "limit_price",
      "limit_price_type", "post_only", "fee_preference", "no_mpp", "margin", "reduce_only", "stp_type", "time_in_force",
      "display_qty", "effective_time", "expire_time", "order_userref", "conditional", "validate"] := rfl
  rw [hkeys]
  decide

theorem insertPrices_eq (view : AddOrderWsView) (p : JsonMap) : insertPrices view p = insertRows p (pricesRows view) := by
  unfold insertPrices pricesRows triggersField limitLeg
  cases wsPriceShape view.orderType with
  | noPrice => rfl
  | limit => rfl
  | trigger leg => cases leg <;> rfl

/-- The rows of the flags, after one more. -/
theorem insertFlag_flagRows {m : JsonMap} (hm : ∀ p ∈ m.entries, p.1 ∉ keys (flagRows [])) (done : List OFlag) (flag : OFlag) :
    insertFlag (insertRows m (flagRows done)) flag = insertRows m (flagRows (done ++ [flag])) := by
  have hnodup : (keys (flagRows done)).Nodup := by
    show ["post_only", "fee_preference", "no_mpp"].Nodup
    decide
  cases flag with
  | post =>
    rw [insertFlag, insert_insertRows hnodup hm (by simp [keys, flagRows])]
    simp [setRow, flagRows, feePreference, whenSet]
  | fcib =>
    rw [insertFlag, insert_insertRows hnodup hm (by simp [keys, flagRows])]
    simp [setRow, flagRows, feePreference]
  | fciq =>
    have hany := any_insertRows hnodup hm (k := "fee_preference") (by simp [keys, flagRows])
    rw [insertFlag]
    split_ifs with hthere
    · obtain ⟨v, hv⟩ := hany.1 hthere
      have hfee : .fcib ∈ done ∨ .fciq ∈ done := by
        by_contra hnone
        obtain ⟨hb, hq⟩ := not_or.1 hnone
        simp [flagRows, feePreference, hb, hq] at hv
      rcases hfee with hb | hq
      · simp [flagRows, feePreference, hb]
      · simp [flagRows, feePreference, hq]
    · have hnone : OFlag.fcib ∉ done ∧ OFlag.fciq ∉ done := by
        refine ⟨fun hb => hthere (hany.2 ⟨.str "base", ?_⟩), fun hq => hthere (hany.2 ?_)⟩
        · simp [flagRows, feePreference, hb]
        · by_cases hb : OFlag.fcib ∈ done
          · exact ⟨.str "base", by simp [flagRows, feePreference, hb]⟩
          · exact ⟨.str "quote", by simp [flagRows, feePreference, hb, hq]⟩
      rw [insert_insertRows hnodup hm (by simp [keys, flagRows])]
      simp [setRow, flagRows, feePreference, hnone.1]
  | nompp =>
    rw [insertFlag, insert_insertRows hnodup hm (by simp [keys, flagRows])]
    simp [setRow, flagRows, feePreference, whenSet]

theorem foldl_insertFlag {m : JsonMap} (hm : ∀ p ∈ m.entries, p.1 ∉ keys (flagRows [])) (flags done : List OFlag) :
    flags.foldl insertFlag (insertRows m (flagRows done)) = insertRows m (flagRows (done ++ flags)) := by
  induction flags generalizing done with
  | nil => rw [List.foldl_nil, List.append_nil]
  | cons flag flags ih => rw [List.foldl_cons, insertFlag_flagRows hm, ih, List.append_assoc, List.singleton_append]

/-- **The params are their rows.** -/
theorem addOrderMap_eq (view : AddOrderWsView) : addOrderMap view = ofRows (wsRows view) := by
  have hbefore : ∀ p ∈ (ofRows (headRows view ++ pricesRows view)).entries, p.1 ∉ keys (flagRows []) := by
    intro p hp
    have hnodup : (keys (headRows view ++ pricesRows view)).Nodup := by
      show ["order_type", "side", "order_qty", "symbol", "cl_ord_id", "triggers", "limit_price", "limit_price_type"].Nodup
      decide
    have hkey : p.1 ∈ keys (headRows view ++ pricesRows view) :=
      List.mem_map.2 ⟨_, (mem_ofRows hnodup p).1 hp, rfl⟩
    generalize p.1 = k at hkey
    revert k
    show ∀ k ∈ ["order_type", "side", "order_qty", "symbol", "cl_ord_id", "triggers", "limit_price", "limit_price_type"],
      k ∉ ["post_only", "fee_preference", "no_mpp"]
    decide
  calc addOrderMap view
      = insertRows (view.oflags.foldl insertFlag (ofRows (headRows view ++ pricesRows view))) (tailRows view) := by
        rw [addOrderMap, insertPrices_eq, ← insertRows_append]
        rfl
    _ = insertRows (insertRows (ofRows (headRows view ++ pricesRows view)) (flagRows view.oflags)) (tailRows view) := by
        rw [← List.nil_append view.oflags, ← foldl_insertFlag hbefore]
        rfl
    _ = ofRows (wsRows view) := by
        rw [ofRows, ← insertRows_append, ← insertRows_append]
        rfl

theorem JsonMap.toJson_inj {m m' : JsonMap} : m.toJson = m'.toJson ↔ m = m' := by
  constructor
  · intro h
    have hrows : m.entries = m'.entries := Json.obj.inj h
    exact BTreeMap.ext_mem fun p => by rw [hrows]
  · intro h
    rw [h]

/-- Two orders have the same params when their rows are the same. -/
theorem composeAddOrderParams_inj {view view' : AddOrderWsView} :
    composeAddOrderParams view = composeAddOrderParams view' ↔ wsRows view = wsRows view' := by
  rw [composeAddOrderParams, composeAddOrderParams, JsonMap.toJson_inj, addOrderMap_eq, addOrderMap_eq]
  exact ⟨fun h => ofRows_injective rfl (nodup_keys_wsRows view) h, congrArg ofRows⟩

end KrakenSdk.Trade
