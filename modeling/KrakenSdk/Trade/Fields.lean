import KrakenSdk.Trade.WsCompose
/-!
# What the two transports say of an order

An order is sent as a form on REST and as a params object on WS. Two orders have the same form, or the same params,
when they agree on a list of fields (`SameForm`, `SameParams`).
-/
namespace KrakenSdk.Trade

open KrakenSdk.Conn (Symbol Json)
open KrakenSdk.Types (Decimal)
open KrakenSdk.Types.Decimal (mem_text text_inj)
open OptionalFields

/-! ## Prices -/

theorem not_mem_text {d : Decimal} {c : Char} (hminus : c ≠ '-') (hdigit : c.isDigit = false) (hpoint : c ≠ '.') :
    c ∉ d.text.toList := by
  intro h
  rcases mem_text h with ⟨h, -⟩ | h | h
  · exact hminus h
  · rw [hdigit] at h
    cases h
  · exact hpoint h

theorem plus_not_mem_text (d : Decimal) : '+' ∉ d.text.toList := not_mem_text (by decide) (by decide) (by decide)

theorem percent_not_mem_text (d : Decimal) : '%' ∉ d.text.toList := not_mem_text (by decide) (by decide) (by decide)

theorem percent_not_mem_signed (value : Decimal) : '%' ∉ (signed value).toList := by
  unfold signed
  split_ifs
  · exact percent_not_mem_text value
  · simp [percent_not_mem_text value]

/-- A text with no plus is the signed text of a negative value. -/
theorem text_eq_signed {d value : Decimal} : d.text = signed value ↔ d = value ∧ d.negative = true := by
  unfold signed
  split_ifs with hneg
  · rw [text_inj]
    constructor
    · rintro rfl
      exact ⟨rfl, hneg⟩
    · rintro ⟨rfl, -⟩
      rfl
  · constructor
    · intro h
      have hplus := plus_not_mem_text d
      rw [h] at hplus
      simp at hplus
    · rintro ⟨rfl, h⟩
      exact absurd h hneg

theorem signed_inj {value value' : Decimal} : signed value = signed value' ↔ value = value' := by
  refine ⟨fun h => ?_, congrArg signed⟩
  by_cases hneg : value.negative = true
  · rw [signed, if_pos hneg, text_eq_signed] at h
    exact h.1
  · by_cases hneg' : value'.negative = true
    · rw [eq_comm, signed, if_pos hneg', text_eq_signed] at h
      exact h.1.symm
    · simp only [signed, if_neg hneg, if_neg hneg', String.append_right_inj] at h
      exact text_inj.1 h

/-- Two prices that REST spells alike although WS tells them apart: a negative price and the offset of that many units
of the quote currency. -/
def Price.Clash : Price → Price → Prop
  | .absolute d, .offset .quote value => d = value ∧ d.negative = true
  | .offset .quote value, .absolute d => d = value ∧ d.negative = true
  | _, _ => False

theorem Price.not_clash_self (p : Price) : ¬ p.Clash p := by
  cases p with
  | absolute d => exact id
  | offset unit value => cases unit <;> exact id

/-- What has a percent sign is not spelled like what has none. -/
theorem ne_percent {s t : String} (h : '%' ∉ s.toList) : s ≠ t ++ "%" := by
  rintro rfl
  simp at h

/-- **The spelling of a price on REST.** -/
theorem Price.toRestForm_eq_iff {p p' : Price} : p.toRestForm = p'.toRestForm ↔ p = p' ∨ p.Clash p' := by
  cases p with
  | absolute d =>
    cases p' with
    | absolute d' => simp [Price.toRestForm, Price.Clash, text_inj]
    | offset unit value =>
      cases unit with
      | quote => simp [Price.toRestForm, Price.Clash, text_eq_signed]
      | percent => simpa [Price.toRestForm, Price.Clash] using ne_percent (percent_not_mem_text d)
  | offset unit value =>
    cases p' with
    | absolute d' =>
      cases unit with
      | quote => simpa [Price.toRestForm, Price.Clash, text_eq_signed] using eq_comm.trans text_eq_signed
      | percent => simpa [Price.toRestForm, Price.Clash] using (ne_percent (percent_not_mem_text d')).symm
    | offset unit' value' =>
      cases unit with
      | quote =>
        cases unit' with
        | quote => simp [Price.toRestForm, Price.Clash, signed_inj]
        | percent => simpa [Price.toRestForm, Price.Clash] using ne_percent (percent_not_mem_signed value)
      | percent =>
        cases unit' with
        | quote => simpa [Price.toRestForm, Price.Clash] using (ne_percent (percent_not_mem_signed value')).symm
        | percent => simp [Price.toRestForm, Price.Clash, signed_inj]

theorem decimalToJson_inj {d d' : Decimal} : decimalToJson d = decimalToJson d' ↔ d = d' := by
  refine ⟨fun h => ?_, congrArg decimalToJson⟩
  unfold decimalToJson at h
  split_ifs at h with hnum hnum'
  · exact text_inj.1 (Json.num.inj h)
  · exact text_inj.1 (Json.str.inj h)

theorem Price.toWs_inj {p p' : Price} : p.toWs = p'.toWs ↔ p = p' := by
  refine ⟨fun h => ?_, congrArg Price.toWs⟩
  cases p with
  | absolute d =>
    cases p' with
    | absolute d' => simpa [Price.toWs] using h
    | offset unit' value' => cases unit' <;> simp [Price.toWs] at h
  | offset unit value =>
    cases p' with
    | absolute d' => cases unit <;> simp [Price.toWs] at h
    | offset unit' value' => cases unit <;> cases unit' <;> simp_all [Price.toWs]

/-! ## What a form says -/

/-- The fields of a form but the flags. -/
structure SameForm (r r' : OrderRequest) : Prop where
  pair : r.pair = r'.pair
  volume : r.volume = r'.volume
  orderType : r.orderType = r'.orderType
  price : r.price.map Price.toRestForm = r'.price.map Price.toRestForm
  price2 : r.price2.map Price.toRestForm = r'.price2.map Price.toRestForm
  leverage : r.leverage = r'.leverage
  reduceOnly : r.reduceOnly = some true ↔ r'.reduceOnly = some true
  stpType : r.stpType = r'.stpType
  trigger : r.trigger = r'.trigger
  timeInForce : r.timeInForce = r'.timeInForce
  displayVol : r.displayVol = r'.displayVol
  startTime : r.startTime = r'.startTime
  expireTime : r.expireTime = r'.expireTime
  userref : r.userref.map toString = r'.userref.map toString
  clOrdId : r.clOrdId = r'.clOrdId
  close : pushForm "close" r.conditionalClose = pushForm "close" r'.conditionalClose
  validateOnly : r.validateOnly = r'.validateOnly

theorem map_inj_iff {α β : Type*} {f : α → β} (hf : ∀ {a b}, f a = f b ↔ a = b) {o o' : Option α} :
    o.map f = o'.map f ↔ o = o' := by
  cases o with
  | none => cases o' <;> simp
  | some a =>
    cases o' with
    | none => simp
    | some b => simp [hf]

theorem whenTrue_inj {b b' : Bool} : whenTrue b = whenTrue b' ↔ b = b' := by cases b <;> cases b' <;> simp [whenTrue]

theorem whenSet_inj {b b' : Bool} : whenSet b = whenSet b' ↔ b = b' := by cases b <;> cases b' <;> simp [whenSet]

theorem leverage_inj {l l' : UInt8} : Nat.repr l.toNat = Nat.repr l'.toNat ↔ l = l' :=
  ⟨fun h => UInt8.toNat_inj.1 (Types.repr_injective h), fun h => by rw [h]⟩

theorem ClOrdId.asStr_inj {c c' : ClOrdId} : c.asStr = c'.asStr ↔ c = c' := by
  cases c
  cases c'
  simp

theorem pushForm_inj {under : String} {cc cc' : Option ConditionalClose} :
    pushForm under cc = pushForm under cc' ↔
      cc.map (·.ordertype.display) = cc'.map (·.ordertype.display) ∧ cc.map (·.price.toRestForm) = cc'.map (·.price.toRestForm) ∧
        (cc.bind (·.price2)).map Price.toRestForm = (cc'.bind (·.price2)).map Price.toRestForm := by
  simp only [pushForm, List.cons.injEq, Prod.mk.injEq, true_and, and_true]

/-- The rows of a form but the one of the flags. -/
theorem plainRows_eq_iff {r r' : OrderRequest} :
    r.rows.filter (·.1 ≠ "oflags") = r'.rows.filter (·.1 ≠ "oflags") ↔ SameForm r r' := by
  simp only [OrderRequest.rows, pushForm, ne_eq, decide_not, String.reduceAppend, List.cons_append,
    List.nil_append, String.reduceEq, decide_false, Bool.not_false, List.filter_cons_of_pos, decide_true, Bool.not_true,
    Bool.false_eq_true, not_false_eq_true, List.filter_cons_of_neg, List.filter_nil, List.cons.injEq, Prod.mk.injEq,
    Option.some.injEq, true_and, and_true, beq_eq_beq, text_inj, OrderType.display_inj, whenTrue_inj,
    map_inj_iff leverage_inj, map_inj_iff StpType.display_inj, map_inj_iff TriggerKind.display_inj,
    map_inj_iff TimeInForce.display_inj, map_inj_iff text_inj, map_inj_iff TimeSpec.toRestForm_inj,
    map_inj_iff ClOrdId.asStr_inj]
  constructor
  · rintro ⟨pair, volume, orderType, price, price2, leverage, reduceOnly, stpType, trigger, timeInForce, displayVol,
      startTime, expireTime, userref, clOrdId, closeType, closePrice, closePrice2, validateOnly⟩
    exact { pair, volume, orderType, price, price2, leverage, reduceOnly, stpType, trigger, timeInForce, displayVol, startTime
            expireTime, userref, clOrdId, validateOnly, close := pushForm_inj.2 ⟨closeType, closePrice, closePrice2⟩ }
  · intro h
    obtain ⟨closeType, closePrice, closePrice2⟩ := pushForm_inj.1 h.close
    exact ⟨h.pair, h.volume, h.orderType, h.price, h.price2, h.leverage, h.reduceOnly, h.stpType, h.trigger, h.timeInForce,
      h.displayVol, h.startTime, h.expireTime, h.userref, h.clOrdId, closeType, closePrice, closePrice2, h.validateOnly⟩

/-! ## What the params say -/

/-- The object under `conditional`. -/
def conditionalField (r : OrderRequest) : Option Json :=
  r.wsView.closeOrdertype.map fun ct => (conditionalObject ct r.wsView.closePrice r.wsView.closePrice2).toJson

/-- The fields of the params. -/
structure SameParams (r r' : OrderRequest) : Prop where
  orderType : r.orderType = r'.orderType
  side : r.side = r'.side
  volume : r.volume = r'.volume
  pair : r.pair = r'.pair
  clOrdId : r.clOrdId = r'.clOrdId
  triggers : triggersField r.wsView = triggersField r'.wsView
  limitLeg : limitLeg r.wsView = limitLeg r'.wsView
  post : .post ∈ r.oflags ↔ .post ∈ r'.oflags
  fee : feePreference r.oflags = feePreference r'.oflags
  nompp : .nompp ∈ r.oflags ↔ .nompp ∈ r'.oflags
  margin : r.margin = r'.margin
  reduceOnly : r.reduceOnly = some true ↔ r'.reduceOnly = some true
  stpType : r.stpType = r'.stpType
  timeInForce : r.timeInForce = r'.timeInForce
  displayVol : r.displayVol = r'.displayVol
  startTime : r.startTime = r'.startTime
  expireTime : r.expireTime = r'.expireTime
  userref : r.userref.map toString = r'.userref.map toString
  conditional : conditionalField r = conditionalField r'
  validateOnly : r.validateOnly = r'.validateOnly

theorem mapStr_inj {α : Type*} {f : α → String} (hf : ∀ {a b}, f a = f b ↔ a = b) {o o' : Option α} :
    o.map (fun a => Json.str (f a)) = o'.map (fun a => Json.str (f a)) ↔ o = o' :=
  map_inj_iff fun {a b} => by rw [Json.str.injEq, hf]

/-- A price is known by its value and its kind. -/
theorem priceRows_inj {key keyType : String} {price price' : Option Price} :
    priceRows key keyType price = priceRows key keyType price' ↔ price = price' := by
  refine ⟨fun h => ?_, congrArg _⟩
  simp only [priceRows, List.cons.injEq, Prod.mk.injEq, true_and, and_true] at h
  obtain ⟨hvalue, hkind⟩ := h
  cases price with
  | none => cases price' <;> simp_all
  | some p =>
    cases price' with
    | none => cases hvalue
    | some p' =>
      have hws : p.toWs = p'.toWs := Prod.ext (decimalToJson_inj.1 (Option.some.inj hvalue)) (Json.str.inj (Option.some.inj hkind))
      rw [Price.toWs_inj.1 hws]

theorem headRows_eq_iff {r r' : OrderRequest} :
    headRows r.wsView = headRows r'.wsView ↔ r.orderType = r'.orderType ∧ r.side = r'.side ∧ r.volume = r'.volume ∧
      r.pair = r'.pair ∧ r.clOrdId = r'.clOrdId := by
  simp only [headRows, OrderRequest.wsView, List.cons.injEq, Prod.mk.injEq, Option.some.injEq, Json.str.injEq, true_and,
    and_true, OrderType.display_inj, Side.display_inj, decimalToJson_inj, mapStr_inj ClOrdId.asStr_inj]

theorem pricesRows_eq_iff {view view' : AddOrderWsView} :
    pricesRows view = pricesRows view' ↔ triggersField view = triggersField view' ∧ limitLeg view = limitLeg view' := by
  simp only [pricesRows, List.cons.injEq, Prod.mk.injEq, true_and, priceRows_inj]

theorem flagRows_eq_iff {flags flags' : List OFlag} :
    flagRows flags = flagRows flags' ↔ (.post ∈ flags ↔ .post ∈ flags') ∧ feePreference flags = feePreference flags' ∧
      (.nompp ∈ flags ↔ .nompp ∈ flags') := by
  have hfee : (feePreference flags).map Json.str = (feePreference flags').map Json.str ↔
      feePreference flags = feePreference flags' := map_inj_iff (by simp)
  simp only [flagRows, List.cons.injEq, Prod.mk.injEq, true_and, and_true, whenSet_inj, decide_eq_decide, hfee]

theorem tailRows_eq_iff {r r' : OrderRequest} :
    tailRows r.wsView = tailRows r'.wsView ↔ r.margin = r'.margin ∧ (r.reduceOnly = some true ↔ r'.reduceOnly = some true) ∧
      r.stpType = r'.stpType ∧ r.timeInForce = r'.timeInForce ∧ r.displayVol = r'.displayVol ∧ r.startTime = r'.startTime ∧
      r.expireTime = r'.expireTime ∧ r.userref.map toString = r'.userref.map toString ∧
      conditionalField r = conditionalField r' ∧ r.validateOnly = r'.validateOnly := by
  have huserref : r.userref.map (fun u => Json.num (toString u)) = r'.userref.map (fun u => Json.num (toString u)) ↔
      r.userref.map toString = r'.userref.map toString := by
    cases r.userref <;> cases r'.userref <;> simp
  simp only [tailRows, conditionalField, OrderRequest.wsView, List.cons.injEq, Prod.mk.injEq, true_and, and_true, whenSet_inj,
    beq_eq_beq, mapStr_inj stpTypeWs_inj, mapStr_inj TimeInForce.display_inj, mapStr_inj TimeSpec.toWs_inj,
    map_inj_iff decimalToJson_inj, huserref]

/-- **Equal params** say the same of every field that is sent. -/
theorem wsParams_eq_iff {r r' : OrderRequest} : r.wsParams = r'.wsParams ↔ SameParams r r' := by
  have hparts : wsRows r.wsView = wsRows r'.wsView ↔
      ((headRows r.wsView = headRows r'.wsView ∧ pricesRows r.wsView = pricesRows r'.wsView) ∧
        flagRows r.oflags = flagRows r'.oflags) ∧ tailRows r.wsView = tailRows r'.wsView := by
    constructor
    · intro h
      have hlen : ∀ view : AddOrderWsView, (headRows view).length = 5 ∧ (headRows view ++ pricesRows view).length = 8 ∧
          (headRows view ++ pricesRows view ++ flagRows view.oflags).length = 11 := fun _ => ⟨rfl, rfl, rfl⟩
      unfold wsRows at h
      obtain ⟨h, htail⟩ := List.append_inj h ((hlen _).2.2.trans (hlen _).2.2.symm)
      obtain ⟨h, hflags⟩ := List.append_inj h ((hlen _).2.1.trans (hlen _).2.1.symm)
      exact ⟨⟨List.append_inj h ((hlen _).1.trans (hlen _).1.symm), hflags⟩, htail⟩
    · rintro ⟨⟨⟨hhead, hprices⟩, hflags⟩, htail⟩
      show headRows r.wsView ++ pricesRows r.wsView ++ flagRows r.oflags ++ tailRows r.wsView =
        headRows r'.wsView ++ pricesRows r'.wsView ++ flagRows r'.oflags ++ tailRows r'.wsView
      rw [hhead, hprices, hflags, htail]
  unfold OrderRequest.wsParams
  rw [composeAddOrderParams_inj, hparts, headRows_eq_iff, pricesRows_eq_iff, flagRows_eq_iff, tailRows_eq_iff]
  constructor
  · rintro ⟨⟨⟨⟨orderType, side, volume, pair, clOrdId⟩, triggers, limitLeg⟩, post, fee, nompp⟩, margin, reduceOnly, stpType,
      timeInForce, displayVol, startTime, expireTime, userref, conditional, validateOnly⟩
    exact { orderType, side, volume, pair, clOrdId, triggers, limitLeg, post, fee, nompp, margin, reduceOnly, stpType
            timeInForce, displayVol, startTime, expireTime, userref, conditional, validateOnly }
  · intro h
    exact ⟨⟨⟨⟨h.orderType, h.side, h.volume, h.pair, h.clOrdId⟩, h.triggers, h.limitLeg⟩, h.post, h.fee, h.nompp⟩, h.margin,
      h.reduceOnly, h.stpType, h.timeInForce, h.displayVol, h.startTime, h.expireTime, h.userref, h.conditional,
      h.validateOnly⟩

/-! ## Triggers and close legs -/

theorem triggersObject_inj {trigger trigger' : Option TriggerKind} {price price' : Option Price} :
    (triggersObject trigger price).toJson = (triggersObject trigger' price').toJson ↔ trigger = trigger' ∧ price = price' := by
  rw [JsonMap.toJson_inj]
  constructor
  · intro h
    have hnodup : (keys (triggersRows trigger price)).Nodup := by
      show ["reference", "price", "price_type"].Nodup
      decide
    have hrows : triggersRows trigger price = triggersRows trigger' price' := ofRows_injective rfl hnodup h
    obtain ⟨hreference, hprice⟩ := List.cons.inj hrows
    exact ⟨(mapStr_inj TriggerKind.display_inj).1 (Prod.mk.inj hreference).2, priceRows_inj.1 hprice⟩
  · rintro ⟨rfl, rfl⟩
    rfl

/-- The leg of a close under `trigger_price`. -/
def closeTriggerLeg (ct : OrderType) (price : Option Price) : Option Price :=
  match ct with
  | .stopLoss | .takeProfit | .stopLossLimit | .takeProfitLimit => price
  | _ => none

/-- The leg of a close under `limit_price`. -/
def closeLimitLeg (ct : OrderType) (price price2 : Option Price) : Option Price :=
  match ct with
  | .stopLoss | .takeProfit | .stopLossLimit | .takeProfitLimit => price2
  | .limit => price
  | _ => none

/-- The rows of `conditional`, whatever the close. -/
def conditionalRows (ct : OrderType) (price price2 : Option Price) : List (String × Option Json) :=
  [("order_type", some (.str ct.display)),
   ("trigger_price", (closeTriggerLeg ct price).map fun p => decimalToJson p.toWs.1),
   ("limit_price", (closeLimitLeg ct price price2).map fun p => decimalToJson p.toWs.1)]

theorem conditionalObject_eq (ct : OrderType) (price price2 : Option Price) :
    conditionalObject ct price price2 = ofRows (conditionalRows ct price price2) := by
  cases ct <;> rfl

theorem conditionalObject_inj {ct ct' : OrderType} {price price2 price' price2' : Option Price} :
    (conditionalObject ct price price2).toJson = (conditionalObject ct' price' price2').toJson ↔ ct = ct' ∧
      (closeTriggerLeg ct price).map (fun p => decimalToJson p.toWs.1) =
        (closeTriggerLeg ct' price').map (fun p => decimalToJson p.toWs.1) ∧
      (closeLimitLeg ct price price2).map (fun p => decimalToJson p.toWs.1) =
        (closeLimitLeg ct' price' price2').map (fun p => decimalToJson p.toWs.1) := by
  rw [JsonMap.toJson_inj, conditionalObject_eq, conditionalObject_eq]
  constructor
  · intro h
    have hnodup : (keys (conditionalRows ct price price2)).Nodup := by
      show ["order_type", "trigger_price", "limit_price"].Nodup
      decide
    have hrows : conditionalRows ct price price2 = conditionalRows ct' price' price2' := ofRows_injective rfl hnodup h
    simpa only [conditionalRows, List.cons.injEq, Prod.mk.injEq, Option.some.injEq, Json.str.injEq, OrderType.display_inj, true_and, and_true]
      using hrows
  · rintro ⟨rfl, htrigger, hlimit⟩
    rw [conditionalRows, conditionalRows, htrigger, hlimit]

/-- An absolute leg is known by what is sent of it, when that tells two values apart. -/
theorem absoluteLeg_inj {α : Type*} {f : Price → α} (hf : ∀ d d', f (.absolute d) = f (.absolute d') → d = d')
    {leg leg' : Option Price} (h : ∀ p ∈ leg, p.isOffset = false) (h' : ∀ p ∈ leg', p.isOffset = false) :
    leg.map f = leg'.map f ↔ leg = leg' := by
  refine ⟨fun heq => ?_, congrArg _⟩
  cases leg with
  | none =>
    cases leg' with
    | none => rfl
    | some p' => cases heq
  | some p =>
    cases leg' with
    | none => cases heq
    | some p' =>
      have hp := h p rfl
      have hp' := h' p' rfl
      cases p with
      | offset unit value => cases hp
      | absolute d =>
        cases p' with
        | offset unit value => cases hp'
        | absolute d' => rw [hf d d' (Option.some.inj heq)]

theorem absoluteForm_inj {leg leg' : Option Price} (h : ∀ p ∈ leg, p.isOffset = false) (h' : ∀ p ∈ leg', p.isOffset = false) :
    leg.map Price.toRestForm = leg'.map Price.toRestForm ↔ leg = leg' :=
  absoluteLeg_inj (fun _ _ hd => text_inj.1 hd) h h'

theorem absoluteWs_inj {leg leg' : Option Price} (h : ∀ p ∈ leg, p.isOffset = false) (h' : ∀ p ∈ leg', p.isOffset = false) :
    leg.map (fun p => decimalToJson p.toWs.1) = leg'.map (fun p => decimalToJson p.toWs.1) ↔ leg = leg' :=
  absoluteLeg_inj (fun _ _ hd => decimalToJson_inj.1 hd) h h'

/-- What the params say of the close leg. -/
def CloseSent : Option ConditionalClose → Option ConditionalClose → Prop
  | some c, some c' => c.ordertype = c'.ordertype ∧ c.price = c'.price ∧ (c.ordertype ≠ .limit → c.price2 = c'.price2)
  | none, none => True
  | _, _ => False

/-- With the second leg of a limit close, nothing of the close leg is left. -/
theorem CloseSent.eq {cc cc' : Option ConditionalClose} (h : CloseSent cc cc')
    (hlimit : ∀ c c', cc = some c → cc' = some c' → c.ordertype = .limit → c.price2 = c'.price2) : cc = cc' := by
  cases cc with
  | none =>
    cases cc' with
    | none => rfl
    | some c' => cases h
  | some c =>
    cases cc' with
    | none => cases h
    | some c' =>
      obtain ⟨htype, hprice, hother⟩ := h
      have hprice2 : c.price2 = c'.price2 := by
        by_cases hct : c.ordertype = .limit
        · exact hlimit c c' rfl rfl hct
        · exact hother hct
      cases c
      cases c'
      simp_all

/-! ## Orders that both transports take -/

/-- A valid order with nothing that one of the transports refuses. -/
structure BothTransports (r : OrderRequest) : Prop where
  valid : r.validate = .ok ()
  leverage : r.leverage = none
  margin : r.margin = false
  closePrice : ∀ c ∈ r.conditionalClose, c.price.isOffset = false
  closePrice2 : ∀ c ∈ r.conditionalClose, ∀ p ∈ c.price2, p.isOffset = false

namespace BothTransports

variable {r r' : OrderRequest}

theorem of_no_close (hvalid : r.validate = .ok ()) (hleverage : r.leverage = none) (hmargin : r.margin = false)
    (hclose : r.conditionalClose = none) : BothTransports r where
  valid := hvalid
  leverage := hleverage
  margin := hmargin
  closePrice c hc := by
    rw [hclose] at hc
    cases hc
  closePrice2 c hc := by
    rw [hclose] at hc
    cases hc

/-- Its close leg is not a trailing one, whose price is relative. -/
theorem not_trailing (h : BothTransports r) {c : ConditionalClose} (hc : r.conditionalClose = some c) :
    isTrailing c.ordertype.toOrderType = false := by
  obtain ⟨-, -, -, -, -, hclose⟩ := OrderRequest.validate_eq_ok.1 h.valid
  by_contra htrailing
  rw [hc] at hclose
  have hoffset := validateClose_trailing hclose (by simpa using htrailing)
  rw [h.closePrice c hc] at hoffset
  cases hoffset

/-- **A form tells every close leg apart.** -/
theorem pushForm_eq_iff (h : BothTransports r) (h' : BothTransports r') :
    pushForm "close" r.conditionalClose = pushForm "close" r'.conditionalClose ↔ r.conditionalClose = r'.conditionalClose := by
  refine ⟨fun heq => ?_, congrArg _⟩
  obtain ⟨htype, hprice, hprice2⟩ := pushForm_inj.1 heq
  have hfirst := h.closePrice
  have hsecond := h.closePrice2
  have hfirst' := h'.closePrice
  have hsecond' := h'.closePrice2
  cases hc : r.conditionalClose with
  | none =>
    cases hc' : r'.conditionalClose with
    | none => rfl
    | some c' =>
      rw [hc, hc'] at htype
      cases htype
  | some c =>
    cases hc' : r'.conditionalClose with
    | none =>
      rw [hc, hc'] at htype
      cases htype
    | some c' =>
      rw [hc, hc'] at htype hprice hprice2
      have htypes := CloseOrderType.display_inj.1 (Option.some.inj htype)
      have hprices : some c.price = some c'.price :=
        (absoluteForm_inj (by simpa using hfirst c hc) (by simpa using hfirst' c' hc')).1 hprice
      have hprices2 := (absoluteForm_inj (hsecond c hc) (hsecond' c' hc')).1 hprice2
      cases c
      cases c'
      simp_all

/-- **The params tell every close leg apart** but the second one of a limit close. -/
theorem conditionalField_eq_iff (h : BothTransports r) (h' : BothTransports r') :
    conditionalField r = conditionalField r' ↔ CloseSent r.conditionalClose r'.conditionalClose := by
  have hfirst := h.closePrice
  have hsecond := h.closePrice2
  have hfirst' := h'.closePrice
  have hsecond' := h'.closePrice2
  have htrailing := @not_trailing _ h
  unfold conditionalField
  simp only [OrderRequest.wsView]
  cases hc : r.conditionalClose with
  | none =>
    cases hc' : r'.conditionalClose with
    | none => simp [CloseSent]
    | some c' => simp [CloseSent, ConditionalClose.flatLegs]
  | some c =>
    cases hc' : r'.conditionalClose with
    | none => simp [CloseSent, ConditionalClose.flatLegs]
    | some c' =>
      have hnot := htrailing hc
      have hprices : c.price.isOffset = false := hfirst c hc
      have hprices' : c'.price.isOffset = false := hfirst' c' hc'
      have hws : (some c.price).map (fun p => decimalToJson p.toWs.1) = (some c'.price).map (fun p => decimalToJson p.toWs.1) ↔
          some c.price = some c'.price := absoluteWs_inj (by simpa using hprices) (by simpa using hprices')
      have hws2 := absoluteWs_inj (hsecond c hc) (hsecond' c' hc')
      simp only [ConditionalClose.flatLegs, Option.map_some, Option.some.injEq, conditionalObject_inj, CloseSent]
      rw [CloseOrderType.toOrderType_inj]
      refine and_congr_right fun htype => ?_
      rw [← htype]
      cases hct : c.ordertype with
      | trailingStop | trailingStopLimit =>
        rw [hct] at hnot
        cases hnot
      | limit => simpa [closeTriggerLeg, closeLimitLeg, CloseOrderType.toOrderType] using hws
      | stopLoss | takeProfit | stopLossLimit | takeProfitLimit =>
        simpa [closeTriggerLeg, closeLimitLeg, CloseOrderType.toOrderType] using and_congr hws hws2

end BothTransports

end KrakenSdk.Trade
