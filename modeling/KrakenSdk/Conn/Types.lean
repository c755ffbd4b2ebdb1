import Mathlib.Algebra.Order.Ring.Nat
import Mathlib.Data.List.AList
/-!
# Vocabulary of the connection layer

The closed enumerations and small records that the connection FSM, the subscription registry and
the reactor share, under the source's names: `types/connection.rs`, `types/channel.rs`,
`conn/subscription_registry.rs:16-44`, `conn/managed_connection/fsm_event.rs`,
`transport/mod.rs:150-219` and `auth/mod.rs:240-322`.
-/
namespace KrakenSdk.Conn

/-- `MonotonicInstant` (a `Duration` since the clock's origin), in nanoseconds. -/
abbrev MonotonicInstant := Nat

/-- `Duration::from_millis`. -/
def fromMillis (ms : Nat) : Nat := ms * 1000000

/-- `u32::MAX`. -/
def u32Max : Nat := 2 ^ 32 - 1

/-- `u64::MAX`. -/
def u64Max : Nat := 2 ^ 64 - 1

/-- `+ 1` on a `u32`: it wraps in a release build. -/
def inc32 (a : Nat) : Nat := (a + 1) % 2 ^ 32

/-- `+ 1` on a `u64`. -/
def inc64 (a : Nat) : Nat := (a + 1) % 2 ^ 64

/-- `u32::saturating_add`. -/
def satAdd32 (a b : Nat) : Nat := min (a + b) u32Max

/-- `u64::saturating_add`. -/
def satAdd64 (a b : Nat) : Nat := min (a + b) u64Max

/-- `str::contains`. -/
def strContains (s pat : String) : Bool := s.toList.tails.any (pat.toList.isPrefixOf ·)

/-- `str::starts_with`. -/
def strStartsWith (s pat : String) : Bool := pat.toList.isPrefixOf s.toList

/-- `ConnectionState` (connection.rs:7-26); `opened` is the source's `Open` (`open` is a keyword). -/
inductive ConnectionState where
  | idle | connecting | authenticating | resubscribing | opened | backingOff | closing | closed | failed
  deriving DecidableEq, Repr

/-- `WsUrl` (channel.rs:8): the `Public` and the `Auth` endpoint. -/
inductive WsUrl where
  | publicUrl | authUrl
  deriving DecidableEq, Repr

/-- `ChannelName` (channel.rs:43-64). -/
inductive ChannelName where
  | ticker | book | bookRaw | trade | ohlc | status | executions | balances | heartbeat
  deriving DecidableEq, Repr

/-- `ChannelName::wire_channel` (channel.rs:68): `BookRaw` shares `Book`'s wire key. -/
def ChannelName.wireChannel : ChannelName → ChannelName
  | .bookRaw => .book
  | other => other

/-- `<&str>::from(channel)`: the wire name. -/
def ChannelName.wireName : ChannelName → String
  | .ticker => "ticker" | .book => "book" | .bookRaw => "book" | .trade => "trade" | .ohlc => "ohlc"
  | .status => "status" | .executions => "executions" | .balances => "balances" | .heartbeat => "heartbeat"

/-- `#[derive(Debug)]` of `ChannelName`. -/
def ChannelName.debug : ChannelName → String
  | .ticker => "Ticker" | .book => "Book" | .bookRaw => "BookRaw" | .trade => "Trade" | .ohlc => "Ohlc"
  | .status => "Status" | .executions => "Executions" | .balances => "Balances" | .heartbeat => "Heartbeat"

@[simp] theorem ChannelName.wireChannel_idem (c : ChannelName) : c.wireChannel.wireChannel = c.wireChannel := by
  cases c <;> rfl

/-- `Symbol`: an upper-case `BASE/QUOTE` string. -/
abbrev Symbol := String

/-- The key every per-entry table uses: `(ChannelName, Option<Symbol>)`. -/
abbrev EntryKey := ChannelName × Option Symbol

/-- `{channel:?}, {pair:?}` of a key, as the subscribe-budget reasons print it. -/
def debugKey (key : EntryKey) : String :=
  match key.2 with
  | none => s!"{key.1.debug}, None"
  | some s => s!"{key.1.debug}, Some(Symbol({s.quote}))"

/-- `HandlerId` (handler_registry.rs:17). -/
abbrev HandlerId := Nat

/-- `BookDepth` (channel.rs:96). -/
inductive BookDepth where
  | d10 | d25 | d100 | d500 | d1000
  deriving DecidableEq, Repr

/-- `BookDepth::as_wire_u32` (channel.rs:111). -/
def BookDepth.asWireU32 : BookDepth → Nat
  | .d10 => 10 | .d25 => 25 | .d100 => 100 | .d500 => 500 | .d1000 => 1000

/-- `BookDepth::wire_depth` (channel.rs:123): `D10` is subscribed at 25 for checksum headroom. -/
def BookDepth.wireDepth : BookDepth → BookDepth
  | .d10 => .d25
  | other => other

/-- `OhlcInterval`, in minutes on the wire. -/
inductive OhlcInterval where
  | m1 | m5 | m15 | m30 | h1 | h4 | d1 | d7 | d15
  deriving DecidableEq, Repr

/-- `TickerTrigger`. -/
inductive TickerTrigger where
  | bbo | trades
  deriving DecidableEq, Repr

/-- `SubscribeParams` (subscription_registry.rs:19-44). -/
inductive SubscribeParams where
  | ticker (snapshot : Option Bool) (eventTrigger : Option TickerTrigger)
  | book (depth : BookDepth)
  | bookRaw (depth : BookDepth) (snapshot : Option Bool)
  | trade (snapshot : Option Bool)
  | ohlc (interval : OhlcInterval) (snapshot : Option Bool)
  | status | executions | balances
  deriving DecidableEq, Repr

/-- `TransportErrorKind` (transport/mod.rs:164-203). -/
inductive TransportErrorKind where
  | tcpConnectTimeout | tcpRefused | dnsFailure | tlsHandshakeFailure | socketReset
  | requestSentNoResponse | ssl
  | closeFrame (code : Nat) (reason : String)
  | abnormalClose (context : String)
  | httpUpgradeRejected (status : Nat)
  | httpStatus (status : Nat)
  | other (text : String)
  deriving DecidableEq, Repr

/-- `#[derive(Debug)]` of `TransportErrorKind`. -/
def TransportErrorKind.debug : TransportErrorKind → String
  | .tcpConnectTimeout => "TcpConnectTimeout" | .tcpRefused => "TcpRefused" | .dnsFailure => "DnsFailure"
  | .tlsHandshakeFailure => "TlsHandshakeFailure" | .socketReset => "SocketReset"
  | .requestSentNoResponse => "RequestSentNoResponse" | .ssl => "Ssl"
  | .closeFrame code reason => "CloseFrame \x7b code: " ++ toString code ++ ", reason: " ++ reason.quote ++ " \x7d"
  | .abnormalClose context => "AbnormalClose \x7b context: " ++ context.quote ++ " \x7d"
  | .httpUpgradeRejected status => "HttpUpgradeRejected \x7b status: " ++ toString status ++ " \x7d"
  | .httpStatus status => "HttpStatus \x7b status: " ++ toString status ++ " \x7d"
  | .other text => "Other(" ++ text.quote ++ ")"

/-- `TransportError` (transport/mod.rs:152-157). -/
structure TransportError where
  kind : TransportErrorKind
  transient : Bool
  deriving DecidableEq, Repr

/-- `http_upgrade_status_transient` (transport/mod.rs:206). -/
def httpUpgradeStatusTransient (status : Nat) : Bool :=
  status = 408 || status = 409 || status = 425 || status = 429 || status = 503 || status = 504 || status = 507

/-- `TransportErrorKind::is_sent_ambiguous` (transport/mod.rs:213): the request may have reached
the wire. -/
def TransportErrorKind.isSentAmbiguous : TransportErrorKind → Bool
  | .requestSentNoResponse | .socketReset | .abnormalClose _ | .closeFrame _ _ => true
  | _ => false

/-- `SubscribeErrorKind::SubscribeRejected` (subscribe_error.rs:5). -/
structure SubscribeRejected where
  krakenCode : String
  transient : Bool
  deriving DecidableEq, Repr

/-- `TerminationCause` (api/subscription.rs). -/
inductive TerminationCause where
  | subscribeAckBudgetExhausted | nonTransientWireRejection | capabilityRevoked | clientClosed
  deriving DecidableEq, Repr

/-- `AuthErrorKind` (fsm_event.rs:100-110). -/
inductive AuthErrorKind where
  | badCreds | permissionDenied | tokenStale | transient
  deriving DecidableEq, Repr

/-- `AuthError` (auth/mod.rs:240-282). -/
inductive AuthError where
  | invalidKey | invalidSignature | invalidNonce
  | permissionDenied (scope : Option String)
  | temporaryLockout | tokenStale | tokenRefreshFailed | tokenRefreshTransient | clientClosed
  | unknown (krakenCode krakenMessage : String)
  deriving DecidableEq, Repr

/-- `ApiError::retryable` of `AuthError` (auth/mod.rs:317). -/
def AuthError.retryable : AuthError → Bool
  | .tokenStale | .tokenRefreshTransient => true
  | _ => false

/-- `Display` of `AuthError` (auth/mod.rs:242-275). -/
def AuthError.display : AuthError → String
  | .invalidKey => "Invalid API key."
  | .invalidSignature => "Invalid signature."
  | .invalidNonce => "Invalid nonce."
  | .permissionDenied _ => "Permission denied."
  | .temporaryLockout =>
    "Temporary lockout; too many sequential auth failures — retry after the cooldown (~15 min)."
  | .tokenStale => "Token stale; refresh required."
  | .tokenRefreshFailed => "Token refresh failed."
  | .tokenRefreshTransient => "Transient network failure during token refresh; retrying."
  | .clientClosed => "Client is closed; no new operations accepted."
  | .unknown _ krakenMessage => krakenMessage

/-- `FsmEvent` (fsm_event.rs:8-95). -/
inductive FsmEvent where
  | callStartConnect (requestId : Nat)
  | callClose (requestId : Nat)
  | callForceReconnect (requestId : Nat)
  | wireUpgradeOk (connectionId : Option Nat)
  | wireUpgradeFailed (httpStatus : Nat)
  | wireConnectError (kind : TransportErrorKind) (transient : Bool)
  | wireCloseReceived (code : Nat) (reason : Option String)
  | wireAbnormalClose (error : TransportError)
  | wireAuthHandshakeOk
  | wireOrderAuthOk
  | wireOrderAckTokenStale
  | wireAuthHandshakeFailed (kind : AuthErrorKind)
  | wireSubscribeAck (channel : ChannelName) (pair : Option Symbol) (last : Bool)
  | wireSubscribeFailed (channel : ChannelName) (pair : Option Symbol) (error : SubscribeRejected)
  | timerBackoffElapsed
  | timerStalenessElapsed
  | timerUpgradeTimeout
  | timerCloseTimeout
  | timerSubscribeAckTimeout (channel : ChannelName) (pair : Option Symbol)
  | timerRateBudgetWindowAdvanced
  | timerSubscribeResendDue (channel : ChannelName) (pair : Option Symbol)
  | timerBookReseedSnapshot (channel : ChannelName) (pair : Option Symbol)
  | timerTokenRefreshDue
  | busTokenRefreshed (requestId : Nat)
  | busTokenRefreshFailed (requestId : Nat) (error : AuthError)
  deriving DecidableEq, Repr

/-- `WsOp` (events.rs:938-951). -/
inductive WsOp where
  | addOrder | amendOrder | cancelOrder | cancelAll | cancelAllOrdersAfter | batchAdd
  deriving DecidableEq, Repr

/-- `WsOp::from_method` (events.rs:971). -/
def WsOp.fromMethod : String → Option WsOp
  | "add_order" => some .addOrder
  | "amend_order" => some .amendOrder
  | "cancel_order" => some .cancelOrder
  | "cancel_all" => some .cancelAll
  | "cancel_all_orders_after" => some .cancelAllOrdersAfter
  | "batch_add" => some .batchAdd
  | _ => none

/-- `WsOp::is_order_method` (events.rs:957): every current op is one. -/
def WsOp.isOrderMethod : WsOp → Bool
  | .addOrder | .amendOrder | .cancelOrder | .cancelAll | .cancelAllOrdersAfter | .batchAdd => true

/-- `ConnectionErrorKind` (error.rs:331-350), the payload of a `ConnectionError`. -/
inductive ConnectionError where
  | notOpen | requestInFlightWhenDropped | clientClosed | loopClosed | queueFull | responseTimeout
  deriving DecidableEq, Repr

/-- `serde_json::Value`; a number is kept as its literal text. -/
inductive Json where
  | null
  | bool (b : Bool)
  | num (literal : String)
  | str (s : String)
  | arr (items : List Json)
  | obj (fields : List (String × Json))

/-- `Value::get` of an object key. -/
def Json.get? : Json → String → Option Json
  | .obj fields, k => (fields.find? (·.1 = k)).map (·.2)
  | _, _ => none

/-- `Value::as_str`. -/
def Json.asStr? : Json → Option String
  | .str s => some s
  | _ => none

/-- `Value::as_bool`. -/
def Json.asBool? : Json → Option Bool
  | .bool b => some b
  | _ => none

/-- `u64::from_str` of a literal, which has no sign to read. -/
def parseU64 (literal : String) : Option Nat :=
  let digits := literal.toList
  if digits = [] ∨ digits.all Char.isDigit = false then none
  else some (digits.foldl (fun n c => 10 * n + (c.toNat - '0'.toNat)) 0) |>.filter (· < 2 ^ 64)

/-- `Value::as_u64` of an integer literal. -/
def Json.asU64? : Json → Option Nat
  | .num literal => parseU64 literal
  | _ => none

/-- `Value::as_array`. -/
def Json.asArray? : Json → Option (List Json)
  | .arr items => some items
  | _ => none

/-- `Value::as_object`, in the map's iteration order. -/
def Json.asObject? : Json → Option (List (String × Json))
  | .obj fields => some fields
  | _ => none

/-- `Map::insert` on an object, a fresh object otherwise. -/
def Json.insert (key : String) (v : Json) : Json → Json
  | .obj fields => .obj (fields.filter (·.1 ≠ key) ++ [(key, v)])
  | _ => .obj [(key, v)]

mutual

/-- `#[derive(Debug)]` of `Value`. -/
def Json.debug : Json → String
  | .null => "Null"
  | .bool b => "Bool(" ++ toString b ++ ")"
  | .num literal => "Number(" ++ literal ++ ")"
  | .str s => "String(" ++ s.quote ++ ")"
  | .arr items => "Array [" ++ ", ".intercalate (Json.debugItems items) ++ "]"
  | .obj fields => "Object \x7b" ++ ", ".intercalate (Json.debugFields fields) ++ "\x7d"

/-- The items of a list, each as `Debug` prints it. -/
def Json.debugItems : List Json → List String
  | [] => []
  | v :: vs => v.debug :: Json.debugItems vs

/-- The fields of an object, each as `Debug` prints it. -/
def Json.debugFields : List (String × Json) → List String
  | [] => []
  | (k, v) :: fields => (k.quote ++ ": " ++ v.debug) :: Json.debugFields fields

end

/-- `WsResponse` (inner.rs:18-28): the decoded reply frame of one WS request. -/
structure WsResponse where
  reqId : Nat
  success : Bool
  result : Json
  error : Option String

end KrakenSdk.Conn
