import Mathlib.Data.List.Infix
import KrakenSdk.Rest.Surface
import KrakenSdk.Types.Symbol
/-!
# Errors of the trade namespace (api/trade/error.rs, error.rs:411-428)

`TradeError` and how a REST failure becomes one: by the first string of a Kraken rejection. The variants that no
function here builds are left out.
-/
namespace KrakenSdk.Trade

open KrakenSdk.Conn (AuthError TransportErrorKind strContains strStartsWith parseU64)
open KrakenSdk.Rest (RestError)
open KrakenSdk.Types (splitOnce)

/-- `SystemStatus` (api/market/types.rs:311). -/
structure SystemStatus where
  status : String
  timestamp : String
  deriving DecidableEq, Repr

/-- `TradeError` (error.rs:23). -/
inductive TradeError where
  | insufficientFunds (requestId : Option String)
  | insufficientMargin (requestId : Option String)
  | invalidOrder (detail : String) (requestId : Option String)
  | conflictingOrderIdentifiers
  | settlePositionRequiresLeverage
  | reduceOnlyRequiresLeverage
  | emptyAmendRequest
  | noAmendableParameters (requestId : Option String)
  | unknownOrder (requestId : Option String)
  | batchSizeOutOfRange (min max : Nat)
  | systemStatusBlocked (current required : SystemStatus)
  | rateLimited (retryAfterTs : Option Nat) (requestId : Option String)
  | transport (kind : TransportErrorKind) (transient : Bool) (requestId : Option String)
  | malformedResponse (detail : String) (requestId : Option String)
  | loopDead
  | wsUnsupportedOrderField (field : String)
  | restUnsupportedOrderField (field : String)
  | wsSurfaceUnavailable
  | queueFull (requestId : Option String)
  | unknown (krakenCode krakenMessage : String) (requestId : Option String)
  deriving DecidableEq, Repr

/-! ## Strings -/

/-- `str::ends_with`. -/
def strEndsWith (s pat : String) : Bool := pat.toList.isSuffixOf s.toList

/-- `str::strip_prefix`. -/
def stripPrefix (s pat : String) : Option String :=
  if strStartsWith s pat then some (String.ofList (s.toList.drop pat.toList.length)) else none

/-- `str::trim_end_matches` of one character. -/
def trimEndMatches (s : String) (c : Char) : String := String.ofList (s.toList.reverse.dropWhile (· = c)).reverse

/-- `char::is_whitespace`. -/
def isWhitespace (c : Char) : Bool :=
  let n := c.toNat
  (9 ≤ n && n ≤ 13) || n = 0x20 || n = 0x85 || n = 0xA0 || n = 0x1680 || (0x2000 ≤ n && n ≤ 0x200A) ||
    n = 0x2028 || n = 0x2029 || n = 0x202F || n = 0x205F || n = 0x3000

/-- `str::trim`. -/
def strTrim (s : String) : String :=
  String.ofList ((s.toList.dropWhile isWhitespace).reverse.dropWhile isWhitespace).reverse

/-- `str::parse::<u64>`, which reads a leading `+`. -/
def parseUnsigned (s : String) : Option Nat := parseU64 ((stripPrefix s "+").getD s)

theorem strStartsWith_iff {s pat : String} : strStartsWith s pat = true ↔ pat.toList <+: s.toList :=
  List.isPrefixOf_iff_prefix

theorem strContains_iff {s pat : String} : strContains s pat = true ↔ pat.toList <:+: s.toList := by
  simp only [strContains, List.any_eq_true, List.mem_tails, List.isPrefixOf_iff_prefix]
  constructor
  · rintro ⟨t, hsuffix, hfront⟩
    exact hfront.isInfix.trans hsuffix.isInfix
  · rintro ⟨front, back, h⟩
    exact ⟨pat.toList ++ back, ⟨front, by rw [← List.append_assoc, h]⟩, List.prefix_append ..⟩

/-- What a start of the string contains, the string contains. -/
theorem strContains_of_startsWith {s start pat : String} (h : strStartsWith s start = true)
    (hstart : strContains start pat = true) : strContains s pat = true :=
  strContains_iff.2 ((strContains_iff.1 hstart).trans (strStartsWith_iff.1 h).isInfix)

/-! ## Classification -/

/-- `kraken_eclass_code` (error.rs:414). -/
def krakenEclassCode (msg : String) : String :=
  match splitOnce msg ':' with
  | some (eclass, _) => eclass
  | none => msg

/-- `parse_throttle_until` (error.rs:420). -/
def parseThrottleUntil (code : String) : Option Nat :=
  (stripPrefix code "EService:Throttled:").bind fun suffix => parseUnsigned (strTrim suffix)

/-- `is_kraken_rate_limit` (error.rs:426). -/
def isKrakenRateLimit (msg : String) : Bool :=
  strContains msg "Rate limit" || strContains msg "Throttled" || strContains msg "Too many requests"

/-- `classify_kraken_error_string` (error.rs:223). -/
def classifyKrakenErrorString (msg : String) : TradeError :=
  if isKrakenRateLimit msg then .rateLimited (parseThrottleUntil msg) none
  else if strContains msg "Insufficient funds" then .insufficientFunds none
  else if strContains msg "Insufficient" && strContains msg "margin" then .insufficientMargin none
  -- Before the `EOrder` catch: the wire string carries `EOrder:`.
  else if strContains msg "No amendable parameters" then .noAmendableParameters none
  -- The terminal phrase, so that `Unknown order action.` is an invalid order.
  else if strEndsWith (trimEndMatches msg '.') "Unknown order" then .unknownOrder none
  else if strContains msg "EOrder" || strContains msg "Invalid arguments" || strContains msg "price(s) not found" ||
      strContains msg "Price(s) not found" || strContains msg "Invalid timeout argument" then
    .invalidOrder (trimEndMatches msg '.') none
  else .unknown (krakenEclassCode msg) msg none

/-- `From<RestError>` (error.rs:195). -/
def TradeError.ofRestError : RestError → TradeError
  | .transport kind transient => .transport kind transient none
  | .unexpectedShape s => .malformedResponse s none
  | .rateLimit => .rateLimited none none
  | .auth a => .unknown "AUTH" a.display none
  | .kraken strings => classifyKrakenErrorString (strings.head?.getD "")

/-- `TradeError::RateLimited`, with any timestamp. -/
def TradeError.isRateLimited : TradeError → Bool
  | .rateLimited .. => true
  | _ => false

/-- Only the substring check makes a rate limit of a Kraken string. -/
@[simp] theorem isRateLimited_classify (msg : String) :
    (classifyKrakenErrorString msg).isRateLimited = isKrakenRateLimit msg := by
  unfold classifyKrakenErrorString
  by_cases h : isKrakenRateLimit msg = true
  · rw [if_pos h, h]
    rfl
  · have hfalse : isKrakenRateLimit msg = false := by simpa using h
    rw [if_neg h, hfalse]
    split_ifs <;> rfl

/-! ## What a caller reads of an error -/

/-- `TradeError::retryable` (error.rs:378): a transport failure after which the request may stand is not. -/
def TradeError.retryable : TradeError → Bool
  | .rateLimited .. | .queueFull _ => true
  | .transport kind transient _ => transient && !kind.isSentAmbiguous
  | _ => false

/-- `with_request_id` (error.rs:187): the first stamp stays. -/
def TradeError.withRequestId (e : TradeError) (id : String) : TradeError :=
  match e with
  | .insufficientFunds none => .insufficientFunds (some id)
  | .insufficientMargin none => .insufficientMargin (some id)
  | .noAmendableParameters none => .noAmendableParameters (some id)
  | .unknownOrder none => .unknownOrder (some id)
  | .invalidOrder detail none => .invalidOrder detail (some id)
  | .rateLimited retryAfterTs none => .rateLimited retryAfterTs (some id)
  | .transport kind transient none => .transport kind transient (some id)
  | .malformedResponse detail none => .malformedResponse detail (some id)
  | .queueFull none => .queueFull (some id)
  | .unknown krakenCode krakenMessage none => .unknown krakenCode krakenMessage (some id)
  | e => e

/-- `code` (error.rs:322). -/
def TradeError.code : TradeError → String
  | .insufficientFunds _ => "INSUFFICIENT_FUNDS"
  | .insufficientMargin _ => "INSUFFICIENT_MARGIN"
  | .invalidOrder .. => "INVALID_ORDER"
  | .conflictingOrderIdentifiers => "INVALID_CL_ORD_ID"
  | .settlePositionRequiresLeverage | .reduceOnlyRequiresLeverage | .batchSizeOutOfRange .. | .emptyAmendRequest |
    .wsUnsupportedOrderField _ | .restUnsupportedOrderField _ | .wsSurfaceUnavailable => "INVALID_ARGUMENTS"
  | .noAmendableParameters _ => "NON_AMENDABLE_FIELD"
  | .unknownOrder _ => "ORDER_NOT_FOUND"
  | .systemStatusBlocked .. => "SYSTEM_STATUS_MAINTENANCE"
  | .rateLimited .. => "RATE_LIMIT_EXCEEDED"
  | .queueFull _ => "QUEUE_FULL"
  | .transport .. => "CONNECTION_ERROR"
  | .malformedResponse .. => "MALFORMED_RESPONSE"
  | .loopDead => "LOOP_DEAD"
  | .unknown .. => "UNKNOWN"

/-- `TradeError::Transport` that says it may be tried again. -/
def TradeError.RetryableTransport : TradeError → Prop
  | .transport kind transient _ => transient = true ∧ kind.isSentAmbiguous = false
  | _ => False

/-- What `retryable` says of a `TradeError::Transport`. -/
theorem retryableTransport_iff {e : TradeError} :
    e.RetryableTransport ↔ (∃ kind transient requestId, e = .transport kind transient requestId) ∧ e.retryable = true := by
  cases e with
  | transport kind transient requestId => simp [TradeError.RetryableTransport, TradeError.retryable]
  | _ => simp [TradeError.RetryableTransport]

@[simp] theorem retryableTransport_withRequestId {e : TradeError} {id : String} :
    (e.withRequestId id).RetryableTransport ↔ e.RetryableTransport := by
  unfold TradeError.withRequestId
  split <;> exact Iff.rfl

/-- No Kraken string is read as a transport failure. -/
@[simp] theorem not_retryableTransport_classify (msg : String) : ¬ (classifyKrakenErrorString msg).RetryableTransport := by
  unfold classifyKrakenErrorString
  split_ifs <;> exact id

/-- Of the REST failures only the transport's own become a `TradeError::Transport`. -/
theorem retryableTransport_ofRestError {e : RestError} :
    (TradeError.ofRestError e).RetryableTransport ↔ ∃ kind, e = .transport kind true ∧ kind.isSentAmbiguous = false := by
  cases e with
  | transport kind transient => simp [TradeError.ofRestError, TradeError.RetryableTransport]
  | kraken codes => simp [TradeError.ofRestError]
  | _ => simp [TradeError.ofRestError, TradeError.RetryableTransport]

end KrakenSdk.Trade
