import KrakenSdk.Trade.Fields
/-!
# One order on two transports

Of the orders that both transports take, some that differ are sent alike on one of them. On WS a field is left out
when the order type has no place for it (`form_kept_iff`); on REST a negative price is spelled like an offset
(`params_kept`).
-/
namespace KrakenSdk.Trade

open KrakenSdk.Types (Decimal)
open OptionalFields

/-! ## Flags -/

/-- The flags of a form, in any order and number. -/
def flagTokens (form : List (String × String)) : List (List Char) :=
  (form.filter (·.1 = "oflags")).flatMap fun field => field.2.toList.splitOn ','

/-- Two forms with the same fields, up to the order and the number of the flags. -/
def FormsAgree (form form' : List (String × String)) : Prop :=
  form.filter (·.1 ≠ "oflags") = form'.filter (·.1 ≠ "oflags") ∧ ∀ t, t ∈ flagTokens form ↔ t ∈ flagTokens form'

theorem mem_flagTokens {r : OrderRequest} {t : List Char} :
    t ∈ flagTokens r.addOrderToForm ↔ ∃ a ∈ r.oflags, a.display.toList = t := by
  have hfield : r.addOrderToForm.filter (·.1 = "oflags") = emit [("oflags", oflagsToWire r.oflags)] :=
    filter_emit (· = "oflags") r.rows
  rw [flagTokens, hfield]
  by_cases hnil : r.oflags = []
  · simp [oflagsToWire, hnil]
  · rw [oflagsToWire, if_neg hnil, emit_cons_some, emit_nil, List.flatMap_cons, splitOn_oflags hnil]
    simp

/-- The tokens are the set of flags. -/
theorem flagTokens_agree {r r' : OrderRequest} :
    (∀ t, t ∈ flagTokens r.addOrderToForm ↔ t ∈ flagTokens r'.addOrderToForm) ↔ ∀ a, a ∈ r.oflags ↔ a ∈ r'.oflags := by
  simp only [mem_flagTokens]
  constructor
  · intro h a
    have hmem : ∀ flags : List OFlag, (∃ b ∈ flags, b.display.toList = a.display.toList) ↔ a ∈ flags := by
      intro flags
      constructor
      · rintro ⟨b, hb, hba⟩
        rwa [← OFlag.display_inj.1 (String.toList_injective hba)]
      · intro ha
        exact ⟨a, ha, rfl⟩
    rw [← hmem, h, hmem]
  · intro h t
    simp only [h]

theorem formsAgree_iff {r r' : OrderRequest} :
    FormsAgree r.addOrderToForm r'.addOrderToForm ↔ SameForm r r' ∧ ∀ a, a ∈ r.oflags ↔ a ∈ r'.oflags := by
  have hnodup : (keys (r.rows.filter (·.1 ≠ "oflags"))).Nodup := by
    show ["pair", "volume", "ordertype", "price", "price2", "leverage", "reduce_only", "stptype", "trigger", "timeinforce",
      "displayvol", "starttm", "expiretm", "userref", "cl_ord_id", "close[ordertype]", "close[price]", "close[price2]",
      "validate"].Nodup
    decide
  have hfilter : ∀ r : OrderRequest, r.addOrderToForm.filter (·.1 ≠ "oflags") = emit (r.rows.filter (·.1 ≠ "oflags")) :=
    fun r => filter_emit (· ≠ "oflags") r.rows
  have hplain : r.addOrderToForm.filter (·.1 ≠ "oflags") = r'.addOrderToForm.filter (·.1 ≠ "oflags") ↔ SameForm r r' := by
    rw [hfilter, hfilter, ← plainRows_eq_iff]
    exact ⟨fun h => emit_injective rfl hnodup h, congrArg emit⟩
  rw [FormsAgree, hplain, flagTokens_agree]

/-! ## What WS leaves out -/

/-- A leg that REST spells alike. -/
def ReadAlike : Option Price → Option Price → Prop
  | some p, some p' => p = p' ∨ p.Clash p'
  | none, none => True
  | _, _ => False

theorem map_toRestForm {leg leg' : Option Price} :
    leg.map Price.toRestForm = leg'.map Price.toRestForm ↔ ReadAlike leg leg' := by
  cases leg with
  | none => cases leg' <;> simp [ReadAlike]
  | some p =>
    cases leg' with
    | none => simp [ReadAlike]
    | some p' => simp [ReadAlike, Price.toRestForm_eq_iff]

theorem ReadAlike.of_eq {leg leg' : Option Price} (h : leg = leg') : ReadAlike leg leg' :=
  map_toRestForm.1 (congrArg _ h)

/-- Two orders agree on what WS does not send: the price of an order without one, the second price where only a
triggered limit order has one, the trigger reference of an order that is not triggered, the second price of a limit
close, and the quote fee preference beside the base one. -/
structure UnsentAgree (r r' : OrderRequest) : Prop where
  price : wsPriceShape r.orderType = .noPrice → ReadAlike r.price r'.price
  price2 : wsPriceShape r.orderType ≠ .trigger true → ReadAlike r.price2 r'.price2
  trigger : (∀ leg, wsPriceShape r.orderType ≠ .trigger leg) → r.trigger = r'.trigger
  closePrice2 : ∀ c c', r.conditionalClose = some c → r'.conditionalClose = some c' → c.ordertype = .limit →
    c.price2 = c'.price2
  fciq : .fcib ∈ r.oflags → (.fciq ∈ r.oflags ↔ .fciq ∈ r'.oflags)

/-- The fee preference tells the base flag, and without it the quote flag. -/
theorem feePreference_eq {flags flags' : List OFlag} (h : feePreference flags = feePreference flags') :
    (.fcib ∈ flags ↔ .fcib ∈ flags') ∧ (.fcib ∉ flags → (.fciq ∈ flags ↔ .fciq ∈ flags')) := by
  unfold feePreference at h
  split_ifs at h <;> simp_all

/-- The trigger and the prices that params with the same fields agree on. -/
theorem sentPrices {r r' : OrderRequest} (h : SameParams r r') :
    (wsPriceShape r.orderType ≠ .noPrice → r.price = r'.price) ∧
      (wsPriceShape r.orderType = .trigger true → r.price2 = r'.price2) ∧
      ∀ leg, wsPriceShape r.orderType = .trigger leg → r.trigger = r'.trigger := by
  have htriggers := h.triggers
  have hlimit := h.limitLeg
  simp only [triggersField, limitLeg, OrderRequest.wsView, ← h.orderType] at htriggers hlimit
  cases hshape : wsPriceShape r.orderType with
  | noPrice => simp
  | limit =>
    rw [hshape] at hlimit
    simpa using hlimit
  | trigger leg =>
    rw [hshape] at htriggers hlimit
    obtain ⟨htrigger, hprice⟩ := triggersObject_inj.1 (Option.some.inj htriggers)
    refine ⟨fun _ => hprice, fun hleg => ?_, fun _ _ => htrigger⟩
    obtain rfl : leg = true := by simpa using hleg
    exact hlimit

/-- A limit order with nothing but its price. -/
def plainLimit : OrderRequest where
  side := .buy
  pair := "BTC/USD"
  volume := ⟨false, 5, 1, by decide, by decide⟩
  orderType := .limit
  price := some (.absolute ⟨false, 30000, 0, by decide, Decimal.scale_zero_le⟩)
  price2 := none
  leverage := none
  margin := false
  oflags := []
  reduceOnly := none
  stpType := none
  trigger := none
  timeInForce := none
  displayVol := none
  startTime := none
  expireTime := none
  deadline := none
  userref := none
  clOrdId := none
  conditionalClose := none
  validateOnly := false

/-- A leg with an absolute price in one order and the offset spelled like it in the other. -/
def LegClash (leg leg' : Option Price) : Prop := ∃ p ∈ leg, ∃ p' ∈ leg', p.Clash p'

/-- A leg that WS sends clashes. -/
def SentClash (r r' : OrderRequest) : Prop :=
  wsPriceShape r.orderType ≠ .noPrice ∧ LegClash r.price r'.price ∨
    wsPriceShape r.orderType = .trigger true ∧ LegClash r.price2 r'.price2

/-- Legs that REST spells alike are the same, or they clash. -/
theorem ReadAlike.eq_iff {leg leg' : Option Price} (h : ReadAlike leg leg') : leg = leg' ↔ ¬ LegClash leg leg' := by
  constructor
  · rintro rfl ⟨p, hp, p', hp', hclash⟩
    obtain rfl : p = p' := Option.some.inj (hp.symm.trans hp')
    exact p.not_clash_self hclash
  · intro hno
    cases leg with
    | none =>
      cases leg' with
      | none => rfl
      | some p' => cases h
    | some p =>
      cases leg' with
      | none => cases h
      | some p' =>
        rcases h with rfl | hclash
        · rfl
        · exact absurd ⟨p, rfl, p', rfl, hclash⟩ hno

/-- Equal forms agree on every field. -/
theorem sameForm_of_toForm {r r' : OrderRequest} (h : r.toForm = r'.toForm) :
    SameForm r r' ∧ r.oflags = r'.oflags ∧ r.side = r'.side := by
  obtain ⟨hform, hside⟩ := List.append_inj' h rfl
  have hnodup : (keys r.rows).Nodup := by
    show ["pair", "volume", "ordertype", "price", "price2", "leverage", "oflags", "reduce_only", "stptype", "trigger",
      "timeinforce", "displayvol", "starttm", "expiretm", "userref", "cl_ord_id", "close[ordertype]", "close[price]",
      "close[price2]", "validate"].Nodup
    decide
  have hrows : r.rows = r'.rows := emit_injective rfl hnodup hform
  have hflags : ("oflags", oflagsToWire r.oflags) = ("oflags", oflagsToWire r'.oflags) := by
    have hget := congrArg (·[6]?) hrows
    exact Option.some.inj hget
  refine ⟨plainRows_eq_iff.1 (by rw [hrows]), oflagsToWire_inj.1 (Prod.mk.inj hflags).2, ?_⟩
  simpa [Side.display_inj] using hside

/-- Equal forms make equal params unless a leg that is sent clashes. -/
theorem params_kept_iff {r r' : OrderRequest} (h : BothTransports r) (h' : BothTransports r') (hsame : SameForm r r')
    (hflags : r.oflags = r'.oflags) (hside : r.side = r'.side) : r.wsParams = r'.wsParams ↔ ¬ SentClash r r' := by
  have hprice := (map_toRestForm.1 hsame.price).eq_iff
  have hprice2 := (map_toRestForm.1 hsame.price2).eq_iff
  have hclose := (h.pushForm_eq_iff h').1 hsame.close
  rw [wsParams_eq_iff]
  constructor
  · rintro hparams (⟨hshape, hclash⟩ | ⟨hshape, hclash⟩)
    · exact hprice.1 ((sentPrices hparams).1 hshape) hclash
    · exact hprice2.1 ((sentPrices hparams).2.1 hshape) hclash
  · intro hno
    obtain ⟨hnoPrice, hnoPrice2⟩ := not_or.1 hno
    have hfirst : wsPriceShape r.orderType ≠ .noPrice → r.price = r'.price :=
      fun hshape => hprice.2 fun hclash => hnoPrice ⟨hshape, hclash⟩
    have hsecond : wsPriceShape r.orderType = .trigger true → r.price2 = r'.price2 :=
      fun hshape => hprice2.2 fun hclash => hnoPrice2 ⟨hshape, hclash⟩
    exact
      { orderType := hsame.orderType
        side := hside
        volume := hsame.volume
        pair := hsame.pair
        clOrdId := hsame.clOrdId
        triggers := by
          simp only [triggersField, OrderRequest.wsView, ← hsame.orderType, ← hsame.trigger]
          cases hshape : wsPriceShape r.orderType with
          | noPrice => rfl
          | limit => rfl
          | trigger leg => simp [hfirst (by simp [hshape])]
        limitLeg := by
          simp only [limitLeg, OrderRequest.wsView, ← hsame.orderType]
          cases hshape : wsPriceShape r.orderType with
          | noPrice => rfl
          | limit => exact hfirst (by simp [hshape])
          | trigger leg =>
            cases leg with
            | false => rfl
            | true => exact hsecond hshape
        post := by rw [hflags]
        fee := by rw [hflags]
        nompp := by rw [hflags]
        margin := by rw [h.margin, h'.margin]
        reduceOnly := hsame.reduceOnly
        stpType := hsame.stpType
        timeInForce := hsame.timeInForce
        displayVol := hsame.displayVol
        startTime := hsame.startTime
        expireTime := hsame.expireTime
        userref := hsame.userref
        conditional := by simp only [conditionalField, OrderRequest.wsView, hclose]
        validateOnly := hsame.validateOnly }

/-- **Equal forms make equal params** just when no leg that is sent clashes. An absolute price is spelled like an offset
just when it is negative, and offsets are spelled apart. -/
theorem params_kept {r r' : OrderRequest} (h : BothTransports r) (h' : BothTransports r') (hform : r.toForm = r'.toForm) :
    (r.wsParams = r'.wsParams ↔ ¬ SentClash r r') ∧
    (∀ d : Decimal, (∃ unit value, (Price.absolute d).toRestForm = (Price.offset unit value).toRestForm) ↔
      d.negative = true) ∧
    ∀ unit unit' value value', (Price.offset unit value).toRestForm = (Price.offset unit' value').toRestForm →
      unit = unit' ∧ value = value' := by
  obtain ⟨hsame, hflags, hside⟩ := sameForm_of_toForm hform
  refine ⟨params_kept_iff h h' hsame hflags hside, fun d => ?_, fun unit unit' value value' heq => ?_⟩
  · constructor
    · rintro ⟨unit, value, heq⟩
      rcases Price.toRestForm_eq_iff.1 heq with hsame | hclash
      · cases hsame
      · cases unit with
        | quote => exact hclash.2
        | percent => cases hclash
    · intro hneg
      exact ⟨.quote, d, Price.toRestForm_eq_iff.2 (.inr ⟨rfl, hneg⟩)⟩
  · rcases Price.toRestForm_eq_iff.1 heq with hsame | hclash
    · exact ⟨(Price.offset.inj hsame).1, (Price.offset.inj hsame).2⟩
    · cases unit <;> cases hclash

theorem params_kept_reduceOnly : { plainLimit with reduceOnly := some false }.wsParams = plainLimit.wsParams := by
  refine (params_kept (.of_no_close rfl rfl rfl rfl) (.of_no_close rfl rfl rfl rfl) rfl).1.2 ?_
  rintro (⟨-, p, hp, p', hp', hclash⟩ | ⟨-, p, hp, -⟩)
  · obtain rfl : p = p' := Option.some.inj (hp.symm.trans hp')
    exact p.not_clash_self hclash
  · cases hp

/-- A buy at a price of -150, which REST spells like 150 below the market. -/
theorem negative_price_read_as_offset :
    ¬ ∀ r r' : OrderRequest, BothTransports r → BothTransports r' → r.toForm = r'.toForm → r.wsParams = r'.wsParams := by
  intro h
  have hparams := h { plainLimit with price := some (.absolute ⟨true, 150, 0, by decide, by decide⟩) }
    { plainLimit with price := some (.offset .quote ⟨true, 150, 0, by decide, by decide⟩) }
    (.of_no_close rfl rfl rfl rfl) (.of_no_close rfl rfl rfl rfl) rfl
  cases (sentPrices (wsParams_eq_iff.1 hparams)).1 (by simp [plainLimit, wsPriceShape])

end KrakenSdk.Trade
