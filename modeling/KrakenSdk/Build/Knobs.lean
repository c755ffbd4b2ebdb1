import KrakenSdk.Trade.Error
import KrakenSdk.Build.Interpolation
/-!
# Knobs (build/knobs.rs)

`Knobs` is the one holder of what can be tuned. Seven knobs can be set while the client runs; the others are fixed by
`.build()`. `snapshotKnob`, `setRuntimeKnob` and `applyValue` are the three tables over the names, and
`snapshotKnob_applyValue` and `snapshotKnob_setRuntimeKnob` are all that is used of them: a knob that is set reads back
as what it was set to, and no other knob moves.

| here | source |
| --- | --- |
| `Floats` | `f64`: what is read of its texts and values |
| `AtomicOptU32` | the cell of `reconnect_attempts`, with its flag in bit 32 |
| `Knobs` | `Knobs`; an atomic is its value |

`usize` is that of a 64-bit target.
-/
namespace KrakenSdk.Build

open KrakenSdk.Trade (parseUnsigned strTrim)

/-- What the knobs use of `f64`: its `from_str`, the test of a warning threshold (finite and in `0.0..=1.0`) and the
defaults, which pass it. -/
structure Floats (F : Type) where
  parse : String → Option F
  isPct : F → Bool
  one : F
  two : F
  pct80 : F
  pct80_isPct : isPct pct80 = true

/-! ## `Option<u32>` in a word -/

/-- `AtomicOptU32` (knobs.rs:41). -/
structure AtomicOptU32 where
  bits : UInt64
  deriving DecidableEq

namespace AtomicOptU32

/-- `PRESENT` (knobs.rs:45). -/
def present : UInt64 := 4294967296

/-- `VALUE_MASK` (knobs.rs:47). -/
def valueMask : UInt64 := 0xFFFFFFFF

/-- `encode` (knobs.rs:53). -/
def encode : Option UInt32 → UInt64
  | none => 0
  | some n => present ||| n.toUInt64

/-- `decode` (knobs.rs:60). -/
def decode (bits : UInt64) : Option UInt32 :=
  if bits &&& present ≠ 0 then some (bits &&& valueMask).toUInt32 else none

def new (v : Option UInt32) : AtomicOptU32 := ⟨encode v⟩

def load (a : AtomicOptU32) : Option UInt32 := decode a.bits

/-- `swap_release` (knobs.rs:87): the cell after it, and what it held. -/
def swapRelease (a : AtomicOptU32) (v : Option UInt32) : AtomicOptU32 × Option UInt32 := (⟨encode v⟩, decode a.bits)

theorem toNat_present_or (n : UInt32) : (present ||| n.toUInt64).toNat = 2 ^ 32 + n.toNat := by
  have hn : n.toNat < 2 ^ 32 := n.toNat_lt
  have h := Nat.two_pow_add_eq_or_of_lt hn 1
  simpa [present] using h.symm

/-- No value is lost in the word: the flag keeps `Some(u32::MAX)` and `Some(0)` apart from `None`. -/
theorem decode_encode (v : Option UInt32) : decode (encode v) = v := by
  cases v with
  | none => rfl
  | some n =>
    have hn : n.toNat < 2 ^ 32 := n.toNat_lt
    have hflag : Nat.testBit 4294967296 32 = true := by decide
    have hpresent : (present ||| n.toUInt64) &&& present ≠ 0 := by
      intro h
      have hbit := congrArg (fun w => w.toNat.testBit 32) h
      simp [present, Nat.testBit_or, hflag] at hbit
    have hvalue : ((present ||| n.toUInt64) &&& valueMask).toUInt32 = n := by
      apply UInt32.toNat_inj.1
      have hmask : valueMask.toNat = 2 ^ 32 - 1 := rfl
      rw [UInt64.toNat_toUInt32, UInt64.toNat_and, toNat_present_or, hmask, Nat.and_two_pow_sub_one_eq_mod]
      omega
    simp only [decode, encode, ne_eq, hpresent, not_false_eq_true, if_true, hvalue]

end AtomicOptU32

/-! ## Names and values -/

/-- `KnobName` (knobs.rs:124). -/
inductive KnobName where
  | backoffBaseMs | backoffMaxMs | backoffJitter | backoffFactor | reconnectAttempts | wsOrderResponseDeadlineMs
  | stalenessWindowMs | subscribeAckAttempts | subscribeAckTimeoutMs | maxAuthHandshakeFailures | closeTimeoutMs
  | upgradeTimeoutMs | connectionRateBudget | connectionRateWindowSecs | preferRestForOrders
  | slowCallbackThresholdMs | requestTimeoutMs | restRetryMaxAttempts | restRetryBaseMs | restRetryMaxMs
  | restRetryFactor | nonceRecovery | rateLimitApiWarningPct | rateLimitTradingWarningPct
  | rateLimitTradingScopeCap | clOrdIdIndexCap | callerToIoCapacity | ioToDispatchCapacity | restBaseUrl
  | wsPublicUrl | wsAuthUrl
  deriving DecidableEq, Repr

/-- `KnobValue` (knobs.rs:95). -/
inductive KnobValue (F : Type) where
  | u32 (v : UInt32)
  | optU32 (v : Option UInt32)
  | usize (v : UInt64)
  | f64 (v : F)
  | bool (v : Bool)
  | str (v : String)
  deriving DecidableEq

namespace KnobName

/-- `all` (knobs.rs:165). -/
def all : List KnobName :=
  [.backoffBaseMs, .backoffMaxMs, .backoffJitter, .backoffFactor, .reconnectAttempts
    , .wsOrderResponseDeadlineMs, .stalenessWindowMs, .subscribeAckAttempts, .subscribeAckTimeoutMs
    , .maxAuthHandshakeFailures, .closeTimeoutMs, .upgradeTimeoutMs, .connectionRateBudget
    , .connectionRateWindowSecs, .preferRestForOrders, .slowCallbackThresholdMs, .requestTimeoutMs
    , .restRetryMaxAttempts, .restRetryBaseMs, .restRetryMaxMs, .restRetryFactor, .nonceRecovery
    , .rateLimitApiWarningPct, .rateLimitTradingWarningPct, .rateLimitTradingScopeCap, .clOrdIdIndexCap
    , .callerToIoCapacity, .ioToDispatchCapacity, .restBaseUrl, .wsPublicUrl, .wsAuthUrl]

/-- `as_str` (knobs.rs:160): the snake case of the name. -/
def asStr : KnobName → String
  | .backoffBaseMs => "backoff_base_ms"
  | .backoffMaxMs => "backoff_max_ms"
  | .backoffJitter => "backoff_jitter"
  | .backoffFactor => "backoff_factor"
  | .reconnectAttempts => "reconnect_attempts"
  | .wsOrderResponseDeadlineMs => "ws_order_response_deadline_ms"
  | .stalenessWindowMs => "staleness_window_ms"
  | .subscribeAckAttempts => "subscribe_ack_attempts"
  | .subscribeAckTimeoutMs => "subscribe_ack_timeout_ms"
  | .maxAuthHandshakeFailures => "max_auth_handshake_failures"
  | .closeTimeoutMs => "close_timeout_ms"
  | .upgradeTimeoutMs => "upgrade_timeout_ms"
  | .connectionRateBudget => "connection_rate_budget"
  | .connectionRateWindowSecs => "connection_rate_window_secs"
  | .preferRestForOrders => "prefer_rest_for_orders"
  | .slowCallbackThresholdMs => "slow_callback_threshold_ms"
  | .requestTimeoutMs => "request_timeout_ms"
  | .restRetryMaxAttempts => "rest_retry_max_attempts"
  | .restRetryBaseMs => "rest_retry_base_ms"
  | .restRetryMaxMs => "rest_retry_max_ms"
  | .restRetryFactor => "rest_retry_factor"
  | .nonceRecovery => "nonce_recovery"
  | .rateLimitApiWarningPct => "rate_limit_api_warning_pct"
  | .rateLimitTradingWarningPct => "rate_limit_trading_warning_pct"
  | .rateLimitTradingScopeCap => "rate_limit_trading_scope_cap"
  | .clOrdIdIndexCap => "cl_ord_id_index_cap"
  | .callerToIoCapacity => "caller_to_io_capacity"
  | .ioToDispatchCapacity => "io_to_dispatch_capacity"
  | .restBaseUrl => "rest_base_url"
  | .wsPublicUrl => "ws_public_url"
  | .wsAuthUrl => "ws_auth_url"

/-- `KnobName::from_str`. -/
def fromStr (name : String) : Option KnobName := all.find? (·.asStr = name)

/-- `is_runtime_mutable` (knobs.rs:170). -/
def isRuntimeMutable : KnobName → Bool
  | .reconnectAttempts | .subscribeAckAttempts | .subscribeAckTimeoutMs | .maxAuthHandshakeFailures
  | .slowCallbackThresholdMs | .rateLimitApiWarningPct | .rateLimitTradingWarningPct => true
  | _ => false

/-- `is_string_knob` (knobs.rs:189). -/
def isStringKnob : KnobName → Bool
  | .restBaseUrl | .wsPublicUrl | .wsAuthUrl => true
  | _ => false

theorem mem_all (k : KnobName) : k ∈ all := by
  cases k <;> decide

theorem fromStr_asStr (k : KnobName) : fromStr k.asStr = some k := by
  cases k <;> decide

/-- No two knobs share a name. -/
theorem asStr_inj {k k' : KnobName} : k.asStr = k'.asStr ↔ k = k' := by
  constructor
  · intro h
    have hsome : some k = some k' := by rw [← fromStr_asStr k, h, fromStr_asStr]
    exact Option.some.inj hsome
  · exact congrArg asStr

theorem fromStr_eq_some {name : String} {k : KnobName} : fromStr name = some k ↔ name = k.asStr := by
  constructor
  · intro h
    have hk := List.find?_some h
    simpa using (of_decide_eq_true hk).symm
  · rintro rfl
    exact fromStr_asStr k

end KnobName

/-! ## The holder -/

/-- `Knobs` (knobs.rs:201). -/
structure Knobs (F : Type) where
  backoffBaseMs : UInt32
  backoffMaxMs : UInt32
  backoffJitter : F
  backoffFactor : F
  reconnectAttempts : AtomicOptU32
  stalenessWindowMs : UInt32
  subscribeAckAttempts : UInt32
  subscribeAckTimeoutMs : UInt32
  maxAuthHandshakeFailures : UInt32
  closeTimeoutMs : UInt32
  upgradeTimeoutMs : UInt32
  connectionRateBudget : UInt32
  connectionRateWindowSecs : UInt32
  slowCallbackThresholdMs : UInt32
  wsOrderResponseDeadlineMs : Option UInt32
  preferRestForOrders : Bool
  requestTimeoutMs : UInt32
  restRetryMaxAttempts : UInt32
  restRetryBaseMs : UInt32
  restRetryMaxMs : UInt32
  restRetryFactor : F
  nonceRecovery : Bool
  rateLimitApiWarningPct : F
  rateLimitTradingWarningPct : F
  rateLimitTradingScopeCap : UInt64
  clOrdIdIndexCap : UInt64
  callerToIoCapacity : UInt32
  ioToDispatchCapacity : UInt32
  restBaseUrl : String
  wsPublicUrl : String
  wsAuthUrl : String

namespace Knobs

variable {F : Type}

/-- `defaults` (knobs.rs:275). -/
def defaults (f : Floats F) : Knobs F where
  backoffBaseMs := 500
  backoffMaxMs := 30000
  backoffJitter := f.one
  backoffFactor := f.two
  reconnectAttempts := AtomicOptU32.new none
  stalenessWindowMs := 30000
  subscribeAckAttempts := 3
  subscribeAckTimeoutMs := 5000
  maxAuthHandshakeFailures := 3
  closeTimeoutMs := 2000
  upgradeTimeoutMs := 10000
  connectionRateBudget := 120
  connectionRateWindowSecs := 600
  slowCallbackThresholdMs := 50
  wsOrderResponseDeadlineMs := none
  preferRestForOrders := false
  requestTimeoutMs := 30000
  restRetryMaxAttempts := 3
  restRetryBaseMs := 500
  restRetryMaxMs := 30000
  restRetryFactor := f.two
  nonceRecovery := false
  rateLimitApiWarningPct := f.pct80
  rateLimitTradingWarningPct := f.pct80
  rateLimitTradingScopeCap := 256
  clOrdIdIndexCap := 1024
  callerToIoCapacity := 2048
  ioToDispatchCapacity := 8192
  restBaseUrl := "https://api.kraken.com"
  wsPublicUrl := "wss://ws.kraken.com/v2"
  wsAuthUrl := "wss://ws-auth.kraken.com/v2"

/-- `snapshot_knob` (knobs.rs:379). -/
def snapshotKnob (k : Knobs F) : KnobName → KnobValue F
  | .backoffBaseMs => .u32 k.backoffBaseMs
  | .backoffMaxMs => .u32 k.backoffMaxMs
  | .backoffJitter => .f64 k.backoffJitter
  | .backoffFactor => .f64 k.backoffFactor
  | .reconnectAttempts => .optU32 k.reconnectAttempts.load
  | .wsOrderResponseDeadlineMs => .optU32 k.wsOrderResponseDeadlineMs
  | .stalenessWindowMs => .u32 k.stalenessWindowMs
  | .subscribeAckAttempts => .u32 k.subscribeAckAttempts
  | .subscribeAckTimeoutMs => .u32 k.subscribeAckTimeoutMs
  | .maxAuthHandshakeFailures => .u32 k.maxAuthHandshakeFailures
  | .closeTimeoutMs => .u32 k.closeTimeoutMs
  | .upgradeTimeoutMs => .u32 k.upgradeTimeoutMs
  | .connectionRateBudget => .u32 k.connectionRateBudget
  | .connectionRateWindowSecs => .u32 k.connectionRateWindowSecs
  | .preferRestForOrders => .bool k.preferRestForOrders
  | .slowCallbackThresholdMs => .u32 k.slowCallbackThresholdMs
  | .requestTimeoutMs => .u32 k.requestTimeoutMs
  | .restRetryMaxAttempts => .u32 k.restRetryMaxAttempts
  | .restRetryBaseMs => .u32 k.restRetryBaseMs
  | .restRetryMaxMs => .u32 k.restRetryMaxMs
  | .restRetryFactor => .f64 k.restRetryFactor
  | .nonceRecovery => .bool k.nonceRecovery
  | .rateLimitApiWarningPct => .f64 k.rateLimitApiWarningPct
  | .rateLimitTradingWarningPct => .f64 k.rateLimitTradingWarningPct
  | .rateLimitTradingScopeCap => .usize k.rateLimitTradingScopeCap
  | .clOrdIdIndexCap => .usize k.clOrdIdIndexCap
  | .callerToIoCapacity => .u32 k.callerToIoCapacity
  | .ioToDispatchCapacity => .u32 k.ioToDispatchCapacity
  | .restBaseUrl => .str k.restBaseUrl
  | .wsPublicUrl => .str k.wsPublicUrl
  | .wsAuthUrl => .str k.wsAuthUrl

/-- `set_runtime_knob` (knobs.rs:443): the knobs after it and the value before. -/
def setRuntimeKnob (f : Floats F) (k : Knobs F) : KnobName → KnobValue F → Option (Knobs F × KnobValue F)
  | .reconnectAttempts, .optU32 v =>
    let (cell, previous) := k.reconnectAttempts.swapRelease v
    some ({ k with reconnectAttempts := cell }, .optU32 previous)
  | .subscribeAckAttempts, .u32 v => some ({ k with subscribeAckAttempts := v }, .u32 k.subscribeAckAttempts)
  | .subscribeAckTimeoutMs, .u32 v => some ({ k with subscribeAckTimeoutMs := v }, .u32 k.subscribeAckTimeoutMs)
  | .maxAuthHandshakeFailures, .u32 v => some ({ k with maxAuthHandshakeFailures := v }, .u32 k.maxAuthHandshakeFailures)
  | .slowCallbackThresholdMs, .u32 v => some ({ k with slowCallbackThresholdMs := v }, .u32 k.slowCallbackThresholdMs)
  | .rateLimitApiWarningPct, .f64 v =>
    if f.isPct v then some ({ k with rateLimitApiWarningPct := v }, .f64 k.rateLimitApiWarningPct) else none
  | .rateLimitTradingWarningPct, .f64 v =>
    if f.isPct v then some ({ k with rateLimitTradingWarningPct := v }, .f64 k.rateLimitTradingWarningPct) else none
  | _, _ => none

/-- `apply_value` (config_resolver.rs:205). -/
def applyValue (f : Floats F) (k : Knobs F) (knob : KnobName) (value : KnobValue F) : Option (Knobs F) :=
  if knob.isRuntimeMutable then (setRuntimeKnob f k knob value).map (·.1)
  else
    match knob, value with
    | .backoffBaseMs, .u32 v => some { k with backoffBaseMs := v }
    | .backoffMaxMs, .u32 v => some { k with backoffMaxMs := v }
    | .backoffJitter, .f64 v => some { k with backoffJitter := v }
    | .backoffFactor, .f64 v => some { k with backoffFactor := v }
    | .wsOrderResponseDeadlineMs, .optU32 v => some { k with wsOrderResponseDeadlineMs := v }
    | .stalenessWindowMs, .u32 v => some { k with stalenessWindowMs := v }
    | .closeTimeoutMs, .u32 v => some { k with closeTimeoutMs := v }
    | .upgradeTimeoutMs, .u32 v => some { k with upgradeTimeoutMs := v }
    | .connectionRateBudget, .u32 v => some { k with connectionRateBudget := v }
    | .connectionRateWindowSecs, .u32 v => some { k with connectionRateWindowSecs := v }
    | .preferRestForOrders, .bool v => some { k with preferRestForOrders := v }
    | .requestTimeoutMs, .u32 v => some { k with requestTimeoutMs := v }
    | .restRetryMaxAttempts, .u32 v => some { k with restRetryMaxAttempts := v }
    | .restRetryBaseMs, .u32 v => some { k with restRetryBaseMs := v }
    | .restRetryMaxMs, .u32 v => some { k with restRetryMaxMs := v }
    | .restRetryFactor, .f64 v => some { k with restRetryFactor := v }
    | .nonceRecovery, .bool v => some { k with nonceRecovery := v }
    | .rateLimitTradingScopeCap, .usize v => some { k with rateLimitTradingScopeCap := v }
    | .clOrdIdIndexCap, .usize v => some { k with clOrdIdIndexCap := v }
    | .callerToIoCapacity, .u32 v => some { k with callerToIoCapacity := v }
    | .ioToDispatchCapacity, .u32 v => some { k with ioToDispatchCapacity := v }
    | .restBaseUrl, .str v => some { k with restBaseUrl := v }
    | .wsPublicUrl, .str v => some { k with wsPublicUrl := v }
    | .wsAuthUrl, .str v => some { k with wsAuthUrl := v }
    | _, _ => none

/-! ## What a set knob reads back as -/

theorem snapshotKnob_setRuntimeKnob {f : Floats F} {k k' : Knobs F} {knob : KnobName} {value previous : KnobValue F}
    (h : setRuntimeKnob f k knob value = some (k', previous)) :
    previous = snapshotKnob k knob ∧ knob.isRuntimeMutable = true ∧
      ∀ n, snapshotKnob k' n = if n = knob then value else snapshotKnob k n := by
  unfold setRuntimeKnob at h
  split at h
  case h_1 v =>
    obtain ⟨rfl, rfl⟩ := Prod.mk.inj (Option.some.inj h)
    refine ⟨rfl, rfl, fun n => ?_⟩
    have hcell : snapshotKnob { k with reconnectAttempts := ⟨AtomicOptU32.encode v⟩ } .reconnectAttempts = .optU32 v := by
      simp [snapshotKnob, AtomicOptU32.load, AtomicOptU32.decode_encode]
    cases n <;> first | exact hcell | rfl
  case h_8 => cases h
  case h_6 =>
    split at h
    · obtain ⟨rfl, rfl⟩ := Prod.mk.inj (Option.some.inj h)
      exact ⟨rfl, rfl, fun n => by cases n <;> rfl⟩
    · cases h
  case h_7 =>
    split at h
    · obtain ⟨rfl, rfl⟩ := Prod.mk.inj (Option.some.inj h)
      exact ⟨rfl, rfl, fun n => by cases n <;> rfl⟩
    · cases h
  all_goals
    obtain ⟨rfl, rfl⟩ := Prod.mk.inj (Option.some.inj h)
    exact ⟨rfl, rfl, fun n => by cases n <;> rfl⟩

theorem snapshotKnob_applyValue {f : Floats F} {k k' : Knobs F} {knob : KnobName} {value : KnobValue F}
    (h : applyValue f k knob value = some k') (n : KnobName) :
    snapshotKnob k' n = if n = knob then value else snapshotKnob k n := by
  unfold applyValue at h
  split at h
  · obtain ⟨⟨k₁, previous⟩, hset, rfl⟩ := Option.map_eq_some_iff.1 h
    exact (snapshotKnob_setRuntimeKnob hset).2.2 n
  · split at h
    case h_25 => cases h
    all_goals
      obtain rfl := Option.some.inj h
      cases n <;> rfl

/-- Whether a value is of the type of its knob, and a threshold in its range. What the knobs are does not matter. -/
def accepts (f : Floats F) (knob : KnobName) (value : KnobValue F) : Bool :=
  (applyValue f (defaults f) knob value).isSome

theorem isSome_applyValue (f : Floats F) (k : Knobs F) (knob : KnobName) (value : KnobValue F) :
    (applyValue f k knob value).isSome = accepts f knob value := by
  have hruntime : ∀ k k' : Knobs F, (setRuntimeKnob f k knob value).isSome = (setRuntimeKnob f k' knob value).isSome := by
    intro k k'
    cases knob <;> cases value <;> simp only [setRuntimeKnob] <;> (try split) <;> rfl
  unfold accepts applyValue
  split
  · rw [Option.isSome_map, Option.isSome_map]
    exact hruntime k (defaults f)
  · cases knob <;> cases value <;> rfl

theorem isSome_setRuntimeKnob (f : Floats F) (k : Knobs F) (knob : KnobName) (value : KnobValue F) :
    (setRuntimeKnob f k knob value).isSome = (knob.isRuntimeMutable && accepts f knob value) := by
  by_cases hm : knob.isRuntimeMutable = true
  · rw [hm, Bool.true_and, ← isSome_applyValue f k]
    unfold applyValue
    rw [if_pos hm, Option.isSome_map]
  · have hnone : setRuntimeKnob f k knob value = none := by
      cases hs : setRuntimeKnob f k knob value with
      | none => rfl
      | some after =>
        obtain ⟨k', previous⟩ := after
        exact absurd (snapshotKnob_setRuntimeKnob hs).2.1 hm
    simp [hnone, hm]

end Knobs

end KrakenSdk.Build
