import KrakenSdk.Lib.OptionalFields
import KrakenSdk.Trade.Enums
import KrakenSdk.Trade.Error
import KrakenSdk.Trade.TimeSpec
/-!
# Orders and batches (api/trade/types/requests.rs)

What a caller asks for, the local checks and the REST form. A row of a form is one `form.push`: a row without a
value is not pushed.
-/
namespace KrakenSdk.Trade

open KrakenSdk.Conn (Symbol)
open KrakenSdk.Types (Decimal)
open OptionalFields (emit)

/-- `ClOrdId` (ids.rs:178), by its text. -/
structure ClOrdId where
  asStr : String
  deriving DecidableEq, Repr

/-- `DeadlineSpec` (requests.rs:21), a `Duration`. -/
structure DeadlineSpec where
  offset : Nat
  deriving DecidableEq, Repr

/-! ## Prices -/

/-- `PriceUnit` (requests.rs:105). -/
inductive PriceUnit where
  | quote | percent
  deriving DecidableEq, Repr

/-- `Price` (requests.rs:88). -/
inductive Price where
  | absolute (d : Decimal)
  | offset (unit : PriceUnit) (value : Decimal)
  deriving DecidableEq, Repr

/-- `Price::Offset`. -/
def Price.isOffset : Price → Bool
  | .absolute _ => false
  | .offset .. => true

/-- A relative price is sent with its sign. -/
def signed (value : Decimal) : String := if value.negative then value.text else "+" ++ value.text

/-- `Price::to_rest_form` (requests.rs:119). -/
def Price.toRestForm : Price → String
  | .absolute d => d.text
  | .offset .quote value => signed value
  | .offset .percent value => signed value ++ "%"

/-- `Price::to_ws` (requests.rs:137). -/
def Price.toWs : Price → Decimal × String
  | .absolute d => (d, "static")
  | .offset .quote value => (value, "quote")
  | .offset .percent value => (value, "pct")

/-! ## Requests -/

/-- `ConditionalClose` (requests.rs:824). -/
structure ConditionalClose where
  ordertype : CloseOrderType
  price : Price
  price2 : Option Price
  deriving DecidableEq, Repr

/-- `ConditionalClose::flat_legs` (requests.rs:835). -/
def ConditionalClose.flatLegs : Option ConditionalClose → Option OrderType × Option Price × Option Price
  | some c => (some c.ordertype.toOrderType, some c.price, c.price2)
  | none => (none, none, none)

/-- `OrderRequest` (requests.rs:156); its field `validate` has the builder's name here. -/
structure OrderRequest where
  side : Side
  pair : Symbol
  volume : Decimal
  orderType : OrderType
  price : Option Price
  price2 : Option Price
  leverage : Option UInt8
  margin : Bool
  oflags : List OFlag
  reduceOnly : Option Bool
  stpType : Option StpType
  trigger : Option TriggerKind
  timeInForce : Option TimeInForce
  displayVol : Option Decimal
  startTime : Option TimeSpec
  expireTime : Option TimeSpec
  deadline : Option DeadlineSpec
  userref : Option Int
  clOrdId : Option ClOrdId
  conditionalClose : Option ConditionalClose
  validateOnly : Bool
  deriving DecidableEq, Repr

/-- `BatchOrderEntry` (requests.rs:875). -/
structure BatchOrderEntry where
  ordertype : OrderType
  side : Side
  volume : Decimal
  price : Option Price
  price2 : Option Price
  leverage : Option UInt8
  margin : Bool
  reduceOnly : Option Bool
  stpType : Option StpType
  trigger : Option TriggerKind
  displayVol : Option Decimal
  startTime : Option TimeSpec
  expireTime : Option TimeSpec
  clOrdId : Option ClOrdId
  userref : Option Int
  oflags : Option (List OFlag)
  timeInForce : Option TimeInForce
  conditionalClose : Option ConditionalClose
  deriving DecidableEq, Repr

/-- `AddOrderBatchRequest` (requests.rs:1050). -/
structure AddOrderBatchRequest where
  pair : Symbol
  orders : List BatchOrderEntry
  deadline : Option DeadlineSpec
  validateOnly : Bool
  deriving DecidableEq, Repr

/-- `OrderAmendRequest` (requests.rs:628). -/
structure OrderAmendRequest where
  clOrdId : ClOrdId
  orderVolume : Option Decimal
  limitPrice : Option Price
  postOnly : Option Bool
  triggerPrice : Option Price
  displayQty : Option Decimal
  deriving DecidableEq, Repr

/-! ## Forms -/

/-- A flag that is sent only when it is set. -/
def whenTrue (b : Bool) : Option String := if b then some "true" else none

/-- `ConditionalClose::push_form` (requests.rs:862), under `close` or `orders[N][close]`. -/
def pushForm (under : String) (cc : Option ConditionalClose) : List (String × Option String) :=
  [(under ++ "[ordertype]", cc.map (·.ordertype.display)),
   (under ++ "[price]", cc.map (·.price.toRestForm)),
   (under ++ "[price2]", (cc.bind (·.price2)).map Price.toRestForm)]

/-- The rows of `add_order_to_form` (requests.rs:183). -/
def OrderRequest.rows (r : OrderRequest) : List (String × Option String) :=
  [("pair", some r.pair),
   ("volume", some r.volume.text),
   ("ordertype", some r.orderType.display),
   ("price", r.price.map Price.toRestForm),
   ("price2", r.price2.map Price.toRestForm),
   ("leverage", r.leverage.map fun l => Nat.repr l.toNat),
   ("oflags", oflagsToWire r.oflags),
   ("reduce_only", whenTrue (r.reduceOnly == some true)),
   ("stptype", r.stpType.map StpType.display),
   ("trigger", r.trigger.map TriggerKind.display),
   ("timeinforce", r.timeInForce.map TimeInForce.display),
   ("displayvol", r.displayVol.map Decimal.text),
   ("starttm", r.startTime.map TimeSpec.toRestForm),
   ("expiretm", r.expireTime.map TimeSpec.toRestForm),
   ("userref", r.userref.map toString),
   ("cl_ord_id", r.clOrdId.map ClOrdId.asStr)] ++
  pushForm "close" r.conditionalClose ++
  [("validate", whenTrue r.validateOnly)]

/-- `add_order_to_form` (requests.rs:183). The deadline is not sent. -/
def OrderRequest.addOrderToForm (r : OrderRequest) : List (String × String) := emit r.rows

/-- `OrderRequest::to_form` (requests.rs:446). -/
def OrderRequest.toForm (r : OrderRequest) : List (String × String) := r.addOrderToForm ++ [("type", r.side.display)]

/-- `orders[N][field]`. -/
def bracketed (n : Nat) (k : String) : String := "orders[" ++ Nat.repr n ++ "][" ++ k ++ "]"

/-- The rows of entry `n` of a batch (requests.rs:1131-1179). -/
def BatchOrderEntry.rows (e : BatchOrderEntry) (n : Nat) : List (String × Option String) :=
  [(bracketed n "type", some e.side.display),
   (bracketed n "ordertype", some e.ordertype.display),
   (bracketed n "volume", some e.volume.text),
   (bracketed n "price", e.price.map Price.toRestForm),
   (bracketed n "price2", e.price2.map Price.toRestForm),
   (bracketed n "leverage", e.leverage.map fun l => Nat.repr l.toNat),
   (bracketed n "reduce_only", whenTrue (e.reduceOnly == some true)),
   (bracketed n "stptype", e.stpType.map StpType.display),
   (bracketed n "trigger", e.trigger.map TriggerKind.display),
   (bracketed n "displayvol", e.displayVol.map Decimal.text),
   (bracketed n "starttm", e.startTime.map TimeSpec.toRestForm),
   (bracketed n "expiretm", e.expireTime.map TimeSpec.toRestForm),
   (bracketed n "cl_ord_id", e.clOrdId.map ClOrdId.asStr),
   (bracketed n "userref", e.userref.map toString),
   (bracketed n "oflags", e.oflags.bind oflagsToWire),
   (bracketed n "timeinforce", e.timeInForce.map TimeInForce.display)] ++
  pushForm (bracketed n "close") e.conditionalClose

/-- `AddOrderBatchRequest::to_form` (requests.rs:1128). -/
def AddOrderBatchRequest.toForm (req : AddOrderBatchRequest) : List (String × String) :=
  emit ([("pair", some req.pair)] ++ req.orders.zipIdx.flatMap (fun (e, n) => e.rows n) ++
    [("validate", whenTrue req.validateOnly)])

/-- `OrderAmendRequest::to_form` (requests.rs:706). -/
def OrderAmendRequest.toForm (r : OrderAmendRequest) : List (String × String) :=
  emit
    [("cl_ord_id", some r.clOrdId.asStr),
     ("order_qty", r.orderVolume.map Decimal.text),
     ("limit_price", r.limitPrice.map Price.toRestForm),
     ("post_only", r.postOnly.map fun po => if po then "true" else "false"),
     ("trigger_price", r.triggerPrice.map Price.toRestForm),
     ("display_qty", r.displayQty.map Decimal.text)]

/-! ## Checks -/

/-- `ws_unrepresentable_field` (ws_compose.rs:45). -/
def wsUnrepresentableField (hasLeverage : Bool) (closePrice closePrice2 : Option Price) : Option String :=
  if hasLeverage then some "leverage"
  else if closePrice.any Price.isOffset then some "close[price]"
  else if closePrice2.any Price.isOffset then some "close[price2]"
  else none

/-- `rest_unrepresentable_field` (ws_compose.rs:65). -/
def restUnrepresentableField (hasMargin : Bool) : Option String := if hasMargin then some "margin" else none

/-- `TradeError::InvalidOrder` of a local check. -/
def invalid (detail : String) : Except TradeError Unit := .error (.invalidOrder detail none)

/-- `is_limit_price_bearing` (enums.rs:39). -/
def isLimitPriceBearing : OrderType → Bool
  | .limit | .iceberg | .stopLossLimit | .takeProfitLimit | .trailingStopLimit => true
  | .market | .stopLoss | .takeProfit | .trailingStop | .settlePosition | .unknown => false

def isTrailing : OrderType → Bool
  | .trailingStop | .trailingStopLimit => true
  | _ => false

/-- The trigger of a trailing order (requests.rs:486-508). -/
def trailingTrigger : Option Price → Except TradeError Unit
  | some (.offset _ value) =>
    if value.isPositive then .ok ()
    else invalid "trailing-stop price offset must be positive; direction is automatic from the order side"
  | some (.absolute _) => invalid "trailing-stop price must be a relative offset, not an absolute price"
  | none => invalid "trailing-stop requires a relative price offset"

/-- Its limit leg (requests.rs:509-521). -/
def trailingLimitLeg (orderType : OrderType) (price2 : Option Price) : Except TradeError Unit :=
  if orderType = .trailingStopLimit ∧ price2 = none then
    invalid "trailing-stop-limit requires a relative price2 (limit leg)"
  else match price2 with
    | some (.absolute _) => invalid "trailing-stop-limit price2 must be a relative offset, not an absolute price"
    | _ => .ok ()

/-- `validate_trailing_price` (requests.rs:474). -/
def validateTrailingPrice (orderType : OrderType) (price price2 : Option Price) : Except TradeError Unit :=
  if isTrailing orderType then do
    trailingTrigger price
    trailingLimitLeg orderType price2
  else .ok ()

/-- The same check of a close leg. -/
def validateClose : Option ConditionalClose → Except TradeError Unit
  | some c => validateTrailingPrice c.ordertype.toOrderType (some c.price) c.price2
  | none => .ok ()

/-- `reject_unsupported_deadline` (requests.rs:528). -/
def rejectUnsupportedDeadline (deadline : Option DeadlineSpec) : Except TradeError Unit :=
  if deadline.isSome then
    invalid "the `deadline` order parameter is not yet supported in v1 (server-clock rendering is deferred); omit it"
  else .ok ()

/-- `validate_order_gates` (requests.rs:592). -/
def validateOrderGates (orderType : OrderType) (leverage : Option UInt8) (margin : Bool) (reduceOnly : Option Bool)
    (timeInForce : Option TimeInForce) : Except TradeError Unit :=
  if orderType = .unknown then invalid "`OrderType::Unknown` is decode-only and cannot be placed"
  else if orderType = .settlePosition ∧ leverage.all (· == 0) then .error .settlePositionRequiresLeverage
  else if reduceOnly = some true ∧ leverage.all (· ≤ 1) ∧ margin = false then .error .reduceOnlyRequiresLeverage
  else if timeInForce = some .fok ∧ isLimitPriceBearing orderType = false then
    invalid ("fill-or-kill (fok) time-in-force is only valid on limit order types (limit, iceberg, stop-loss-limit, " ++
      "take-profit-limit, trailing-stop-limit)")
  else .ok ()

/-- What neither transport can send (requests.rs:559-579). -/
def rejectUnplaceable (what ending : String) : Option String → Option String → Except TradeError Unit
  | some rf, some wf =>
    invalid s!"{what} is un-placeable: `{rf}` can only be sent on WS while `{wf}` can only be sent on REST — {ending}"
  | _, _ => .ok ()

/-- `userref` and `cl_ord_id` exclude each other (requests.rs:557). -/
def rejectConflictingIdentifiers (hasUserref hasClOrdId : Bool) : Except TradeError Unit :=
  if hasUserref && hasClOrdId then .error .conflictingOrderIdentifiers else .ok ()

/-- `validate_add_order` (requests.rs:544). -/
def validateAddOrder (hasUserref hasClOrdId : Bool) (orderType : OrderType) (leverage : Option UInt8) (margin : Bool)
    (reduceOnly : Option Bool) (timeInForce : Option TimeInForce) (price price2 : Option Price)
    (conditionalClose : Option ConditionalClose) : Except TradeError Unit := do
  rejectConflictingIdentifiers hasUserref hasClOrdId
  let (_, closePrice, closePrice2) := ConditionalClose.flatLegs conditionalClose
  rejectUnplaceable "order" "no single transport supports both. Drop one." (restUnrepresentableField margin)
    (wsUnrepresentableField leverage.isSome closePrice closePrice2)
  validateOrderGates orderType leverage margin reduceOnly timeInForce
  validateTrailingPrice orderType price price2
  validateClose conditionalClose

/-- `OrderRequest::validate` (requests.rs:430). -/
def OrderRequest.validate (r : OrderRequest) : Except TradeError Unit := do
  rejectUnsupportedDeadline r.deadline
  validateAddOrder r.userref.isSome r.clOrdId.isSome r.orderType r.leverage r.margin r.reduceOnly r.timeInForce r.price
    r.price2 r.conditionalClose

/-- The checks of one entry (requests.rs:1106-1124). -/
def BatchOrderEntry.validate (e : BatchOrderEntry) : Except TradeError Unit := do
  validateTrailingPrice e.ordertype e.price e.price2
  validateOrderGates e.ordertype e.leverage e.margin e.reduceOnly e.timeInForce
  validateClose e.conditionalClose

/-- What keeps an entry from WS. -/
def BatchOrderEntry.wsBlocked (e : BatchOrderEntry) : Option String :=
  let (_, closePrice, closePrice2) := ConditionalClose.flatLegs e.conditionalClose
  wsUnrepresentableField e.leverage.isSome closePrice closePrice2

/-- A batch has from 2 to 15 orders (requests.rs:1084-1087). -/
def rejectBatchSize (n : Nat) : Except TradeError Unit :=
  if 2 ≤ n ∧ n ≤ 15 then .ok () else .error (.batchSizeOutOfRange 2 15)

/-- `AddOrderBatchRequest::validate` (requests.rs:1081); the length is cast to a `u32`. -/
def AddOrderBatchRequest.validate (req : AddOrderBatchRequest) : Except TradeError Unit := do
  rejectUnsupportedDeadline req.deadline
  rejectBatchSize (req.orders.length % 2 ^ 32)
  rejectUnplaceable "batch" "a batch places on a single transport. Use one across the batch."
    (req.orders.findSome? fun e => restUnrepresentableField e.margin) (req.orders.findSome? BatchOrderEntry.wsBlocked)
  req.orders.forM BatchOrderEntry.validate

/-- `OrderAmendRequest::validate` (requests.rs:693). -/
def OrderAmendRequest.validate (r : OrderAmendRequest) : Except TradeError Unit :=
  if r.orderVolume.isNone && r.limitPrice.isNone && r.postOnly.isNone && r.triggerPrice.isNone && r.displayQty.isNone then
    .error .emptyAmendRequest
  else .ok ()

/-! ## What passes -/

/-- One check after another. -/
@[simp] theorem bind_eq_ok {a b : Except TradeError Unit} : (a >>= fun _ => b) = .ok () ↔ a = .ok () ∧ b = .ok () := by
  cases a <;> simp [bind, Except.bind]

@[simp] theorem invalid_ne_ok {detail : String} : invalid detail ≠ .ok () := nofun

@[simp] theorem rejectUnsupportedDeadline_eq_ok {deadline : Option DeadlineSpec} :
    rejectUnsupportedDeadline deadline = .ok () ↔ deadline = none := by
  cases deadline <;> simp [rejectUnsupportedDeadline]

@[simp] theorem rejectUnplaceable_eq_ok {what ending : String} {rf wf : Option String} :
    rejectUnplaceable what ending rf wf = .ok () ↔ ¬ (rf.isSome ∧ wf.isSome) := by
  cases rf <;> cases wf <;> simp [rejectUnplaceable]

@[simp] theorem rejectConflictingIdentifiers_eq_ok {hasUserref hasClOrdId : Bool} :
    rejectConflictingIdentifiers hasUserref hasClOrdId = .ok () ↔ ¬ (hasUserref ∧ hasClOrdId) := by
  cases hasUserref <;> cases hasClOrdId <;> simp [rejectConflictingIdentifiers]

@[simp] theorem rejectBatchSize_eq_ok {n : Nat} : rejectBatchSize n = .ok () ↔ 2 ≤ n ∧ n ≤ 15 := by
  unfold rejectBatchSize
  split_ifs with h
  · simp [h]
  · simp only [false_iff]
    exact h

/-- What keeps an order from WS. -/
def OrderRequest.wsBlocked (r : OrderRequest) : Option String :=
  let (_, closePrice, closePrice2) := ConditionalClose.flatLegs r.conditionalClose
  wsUnrepresentableField r.leverage.isSome closePrice closePrice2

@[simp] theorem isSome_restUnrepresentableField {margin : Bool} : (restUnrepresentableField margin).isSome = margin := by
  cases margin <;> rfl

/-- A valid order passes every check. -/
theorem OrderRequest.validate_eq_ok {r : OrderRequest} :
    r.validate = .ok () ↔ r.deadline = none ∧ ¬ (r.userref.isSome ∧ r.clOrdId.isSome) ∧
      ¬ (r.margin = true ∧ r.wsBlocked.isSome) ∧
      validateOrderGates r.orderType r.leverage r.margin r.reduceOnly r.timeInForce = .ok () ∧
      validateTrailingPrice r.orderType r.price r.price2 = .ok () ∧ validateClose r.conditionalClose = .ok () := by
  unfold OrderRequest.validate validateAddOrder
  simp only [bind_eq_ok, rejectUnsupportedDeadline_eq_ok, rejectUnplaceable_eq_ok, isSome_restUnrepresentableField,
    rejectConflictingIdentifiers_eq_ok]
  rfl

/-- A trailing close has a relative price. -/
theorem validateClose_trailing {c : ConditionalClose} (h : validateClose (some c) = .ok ())
    (htrailing : isTrailing c.ordertype.toOrderType = true) : c.price.isOffset = true := by
  simp only [validateClose, validateTrailingPrice, if_pos htrailing, bind_eq_ok] at h
  obtain ⟨htrigger, -⟩ := h
  cases hprice : c.price with
  | offset unit value => rfl
  | absolute d =>
    rw [hprice] at htrigger
    cases htrigger

end KrakenSdk.Trade
