import KrakenSdk.Types.Decimal
/-!
# Enumerations of an order (api/trade/types/enums.rs)

Each with its wire spelling (`strum::Display`); no two values of one have the same.
-/
namespace KrakenSdk.Trade

/-- `OrderType` (enums.rs:19). -/
inductive OrderType where
  | market | limit | iceberg | stopLoss | takeProfit | stopLossLimit | takeProfitLimit | trailingStop | trailingStopLimit
  | settlePosition | unknown
  deriving DecidableEq, Repr

def OrderType.display : OrderType → String
  | .market => "market"
  | .limit => "limit"
  | .iceberg => "iceberg"
  | .stopLoss => "stop-loss"
  | .takeProfit => "take-profit"
  | .stopLossLimit => "stop-loss-limit"
  | .takeProfitLimit => "take-profit-limit"
  | .trailingStop => "trailing-stop"
  | .trailingStopLimit => "trailing-stop-limit"
  | .settlePosition => "settle-position"
  | .unknown => "unknown"

/-- `OFlag` (enums.rs:53). -/
inductive OFlag where
  | post | fcib | fciq | nompp
  deriving DecidableEq, Repr

def OFlag.display : OFlag → String
  | .post => "post"
  | .fcib => "fcib"
  | .fciq => "fciq"
  | .nompp => "nompp"

/-- `oflags_to_wire` (enums.rs:66). -/
def oflagsToWire (flags : List OFlag) : Option String :=
  if flags = [] then none else some (",".intercalate (flags.map OFlag.display))

/-- `StpType` (enums.rs:86). -/
inductive StpType where
  | cancelNewest | cancelOldest | cancelBoth
  deriving DecidableEq, Repr

def StpType.display : StpType → String
  | .cancelNewest => "cancel-newest"
  | .cancelOldest => "cancel-oldest"
  | .cancelBoth => "cancel-both"

/-- `stp_type_ws` (enums.rs:97). -/
def stpTypeWs : StpType → String
  | .cancelNewest => "cancel_newest"
  | .cancelOldest => "cancel_oldest"
  | .cancelBoth => "cancel_both"

/-- `TriggerKind` (enums.rs:121). -/
inductive TriggerKind where
  | last | index
  deriving DecidableEq, Repr

def TriggerKind.display : TriggerKind → String
  | .last => "last"
  | .index => "index"

/-- `TimeInForce` (enums.rs:157). -/
inductive TimeInForce where
  | gtc | ioc | gtd | fok
  deriving DecidableEq, Repr

def TimeInForce.display : TimeInForce → String
  | .gtc => "gtc"
  | .ioc => "ioc"
  | .gtd => "gtd"
  | .fok => "fok"

/-- `Side` (enums.rs:187). -/
inductive Side where
  | buy | sell
  deriving DecidableEq, Repr

def Side.display : Side → String
  | .buy => "buy"
  | .sell => "sell"

/-- `CloseOrderType` (requests.rs:789). -/
inductive CloseOrderType where
  | limit | stopLoss | takeProfit | stopLossLimit | takeProfitLimit | trailingStop | trailingStopLimit
  deriving DecidableEq, Repr

def CloseOrderType.display : CloseOrderType → String
  | .limit => "limit"
  | .stopLoss => "stop-loss"
  | .takeProfit => "take-profit"
  | .stopLossLimit => "stop-loss-limit"
  | .takeProfitLimit => "take-profit-limit"
  | .trailingStop => "trailing-stop"
  | .trailingStopLimit => "trailing-stop-limit"

/-- `to_order_type` (requests.rs:808). -/
def CloseOrderType.toOrderType : CloseOrderType → OrderType
  | .limit => .limit
  | .stopLoss => .stopLoss
  | .takeProfit => .takeProfit
  | .stopLossLimit => .stopLossLimit
  | .takeProfitLimit => .takeProfitLimit
  | .trailingStop => .trailingStop
  | .trailingStopLimit => .trailingStopLimit

/-! ## Spellings are distinct -/

theorem OrderType.display_inj {a b : OrderType} : a.display = b.display ↔ a = b := by
  cases a <;> cases b <;> simp [OrderType.display]

theorem OFlag.display_inj {a b : OFlag} : a.display = b.display ↔ a = b := by
  cases a <;> cases b <;> simp [OFlag.display]

theorem StpType.display_inj {a b : StpType} : a.display = b.display ↔ a = b := by
  cases a <;> cases b <;> simp [StpType.display]

theorem stpTypeWs_inj {a b : StpType} : stpTypeWs a = stpTypeWs b ↔ a = b := by
  cases a <;> cases b <;> simp [stpTypeWs]

theorem TriggerKind.display_inj {a b : TriggerKind} : a.display = b.display ↔ a = b := by
  cases a <;> cases b <;> simp [TriggerKind.display]

theorem TimeInForce.display_inj {a b : TimeInForce} : a.display = b.display ↔ a = b := by
  cases a <;> cases b <;> simp [TimeInForce.display]

theorem Side.display_inj {a b : Side} : a.display = b.display ↔ a = b := by
  cases a <;> cases b <;> simp [Side.display]

theorem CloseOrderType.display_inj {a b : CloseOrderType} : a.display = b.display ↔ a = b := by
  cases a <;> cases b <;> simp [CloseOrderType.display]

theorem CloseOrderType.toOrderType_inj {a b : CloseOrderType} : a.toOrderType = b.toOrderType ↔ a = b := by
  cases a <;> cases b <;> simp [CloseOrderType.toOrderType]

/-- No flag is spelled with a comma. -/
theorem OFlag.comma_not_mem_display (a : OFlag) : ',' ∉ a.display.toList := by
  cases a <;> decide +kernel

/-- The tokens of a wire value are read back. -/
theorem splitOn_oflags {flags : List OFlag} (hne : flags ≠ []) :
    (",".intercalate (flags.map OFlag.display)).toList.splitOn ',' = flags.map fun f => f.display.toList := by
  have hcommas : ∀ l ∈ flags.map fun f => f.display.toList, ',' ∉ l := by
    intro l hl
    obtain ⟨f, -, rfl⟩ := List.mem_map.1 hl
    exact f.comma_not_mem_display
  have hlists : (",".intercalate (flags.map OFlag.display)).toList =
      [','].intercalate (flags.map fun f => f.display.toList) := by
    rw [String.toList_intercalate, List.map_map]
    rfl
  rw [hlists, List.splitOn_intercalate ',' hcommas (by simpa using hne)]

/-- **The flags are known by their wire value**, in order. -/
theorem oflagsToWire_inj {flags flags' : List OFlag} : oflagsToWire flags = oflagsToWire flags' ↔ flags = flags' := by
  refine ⟨fun h => ?_, congrArg oflagsToWire⟩
  unfold oflagsToWire at h
  split_ifs at h with hnil hnil' hnil'
  · rw [hnil, hnil']
  · have htokens := congrArg (fun s => s.toList.splitOn ',') (Option.some.inj h)
    simp only [splitOn_oflags hnil, splitOn_oflags hnil'] at htokens
    refine List.map_inj_right (fun a b hab => ?_) |>.1 htokens
    exact OFlag.display_inj.1 (String.toList_injective hab)

end KrakenSdk.Trade
