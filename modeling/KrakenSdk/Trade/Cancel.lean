import KrakenSdk.RateLimit.ClOrdIdIndex
import KrakenSdk.RateLimit.Trading
import KrakenSdk.Trade.BatchRows
import KrakenSdk.Trade.RateLimitCodes
/-!
# Cancelling orders (api/trade/executors.rs:59-79, 407-537, api/trade/snap.rs, rate_limit/order_age_cost.rs)

A cancel over REST charges the trading tracker by the age of its order, posts, and reports what came of it. A batch of
cancels is as many of them at once, which share the index, the tracker and the bus; each is polled, waits for its answer,
and is dropped with the batch if that is. A run is any order of these steps, and of what others do to the index and the
tracker meanwhile.

| here | source |
| --- | --- |
| `orderAgeCost` | `order_age_cost` |
| `chargePreSendRest`, `snapOnRestRejection` | the functions of these names |
| `CancelBatch.poll`, `CancelBatch.answer` | `cancel_one` up to and from its await |
| `CancelBatch.results` | `cancel_batch_exec`, once every line is done |

`cancelBatch_accounted`: each line posts once at most and has the one event that its outcome asks for, and row `i` is
the outcome of line `i`.
-/
namespace KrakenSdk.Trade

open KrakenSdk.Conn (Json MonotonicInstant Symbol)
open KrakenSdk.RateLimit (ApiKey ClOrdIdPairIndex CounterNum IndexEntry IterOrder Scope ScopeKey
  SpotTradingRateLimitTracker)
open KrakenSdk.Rest (Attempt RestError signedPostCosted)
open StepSystem KrakenSdk.RateLimit.CounterNum

/-! ## What a caller reads of an error -/

/-- `ErrorCategory` (error.rs:20). -/
inductive ErrorCategory where
  | client | exchange | network | rateLimit
  deriving DecidableEq, Repr

/-- The `Display` of a `TradeError` (error.rs:23-182). -/
def TradeError.message : TradeError → String
  | .insufficientFunds _ => "Insufficient funds."
  | .insufficientMargin _ => "Insufficient margin."
  | .invalidOrder detail _ => "Invalid order: " ++ detail ++ "."
  | .conflictingOrderIdentifiers => "Both `userref` and `cl_ord_id` set; pick one."
  | .settlePositionRequiresLeverage => "`settle-position` requires leverage >= 1."
  | .reduceOnlyRequiresLeverage => "`reduce_only` requires a margin order or leverage > 1."
  | .emptyAmendRequest => "Amend request is empty."
  | .noAmendableParameters _ =>
    "Amend rejected: no amendable parameters (new value matched current, e.g. a sub-tick price)."
  | .unknownOrder _ => "Order not found; no open order matches the cl_ord_id."
  | .batchSizeOutOfRange min max =>
    "Batch size out of range; require " ++ toString min ++ "-" ++ toString max ++ " orders."
  | .systemStatusBlocked current required =>
    "Operation blocked: exchange system status is \"" ++ current.status ++ "\", but this operation requires \"" ++
      required.status ++ "\" — retry once the status returns to the required level."
  | .rateLimited .. => "Rate limited."
  | .transport kind _ _ => "Transport: " ++ kind.debug
  | .malformedResponse .. => "The server response could not be parsed."
  | .loopDead =>
    "The client's internal loop has failed; new WS operations are rejected. " ++
      "Use `.via(Transport::Rest)` to cancel or de-risk, then rebuild the client."
  | .wsUnsupportedOrderField field =>
    "Order field `" ++ field ++ "` is not supported on the WS transport in v1; use `.via(Transport::Rest)`."
  | .restUnsupportedOrderField field =>
    "Order field `" ++ field ++ "` is not supported on the REST transport in v1; use `.via(Transport::WsV2Auth)`."
  | .wsSurfaceUnavailable => "No WS surface is wired on this client; use `.via(Transport::Rest)` for order operations."
  | .queueFull _ => "Order send queue is full; back off and retry."
  | .unknown _ krakenMessage _ => krakenMessage

/-- `category` (error.rs:350). -/
def TradeError.category : TradeError → ErrorCategory
  | .insufficientFunds _ | .insufficientMargin _ | .systemStatusBlocked .. | .unknown .. => .exchange
  | .rateLimited .. => .rateLimit
  | .transport .. => .network
  | _ => .client

/-- `request_id` (error.rs:390). -/
def TradeError.requestId : TradeError → Option String
  | .insufficientFunds requestId | .insufficientMargin requestId | .noAmendableParameters requestId
  | .unknownOrder requestId | .invalidOrder _ requestId | .rateLimited _ requestId | .transport _ _ requestId
  | .malformedResponse _ requestId | .queueFull requestId | .unknown _ _ requestId => requestId
  | _ => none

/-- `OrderError` (error.rs:267). -/
structure OrderError where
  clOrdId : ClOrdId
  code : String
  message : String
  retryable : Bool
  category : ErrorCategory
  requestId : Option String
  deriving DecidableEq, Repr

/-- `from_trade_error` (error.rs:284). -/
def OrderError.fromTradeError (clOrdId : ClOrdId) (e : TradeError) : OrderError :=
  { clOrdId, code := e.code, message := e.message, retryable := e.retryable, category := e.category
    requestId := e.requestId }

/-! ## The charge of a cancel -/

/-- `DynamicCostOp` (order_age_cost.rs:7). -/
inductive DynamicCostOp where
  | amendOrder | cancelOrder
  deriving DecidableEq, Repr

section Cost

variable {R : Type} [CounterNum R]

/-- The cost of the first bracket the age is under, in seconds. -/
def bracketCost (s : R) : List (ℚ × ℚ) → ℚ → R
  | [], last => lit last
  | (bound, cost) :: rest, last => if s < lit bound then lit cost else bracketCost s rest last

/-- `order_age_cost` (order_age_cost.rs:16). -/
def orderAgeCost (op : DynamicCostOp) (age : Nat) : R :=
  match op with
  | .amendOrder => lit 1 + bracketCost (asSecs age) [(5, 3), (10, 2), (15, 1)] 0
  | .cancelOrder => bracketCost (asSecs age) [(5, 8), (10, 6), (15, 5), (45, 4), (90, 2), (300, 1)] 0

end Cost

/-- The REST surface, as cancels share it. -/
structure RestShared (R : Type) where
  apiKey : Option ApiKey
  index : ClOrdIdPairIndex
  tracker : SpotTradingRateLimitTracker R

section Rest

variable {R : Type} [CounterNum R]

/-- `charge_pre_send_rest` (executors.rs:59): what was charged, if the index knows the order. -/
def chargePreSendRest (rest : RestShared R) (clOrdId : ClOrdId) (op : DynamicCostOp) (requestId : String)
    (now clockNow : MonotonicInstant) (warningPct : R) : Except TradeError (Option (Scope × R)) × RestShared R :=
  let (found, index) := rest.index.lookupAndPromote clOrdId
  match found, rest.apiKey with
  | some entry, some key =>
    let cost := orderAgeCost op (now - entry.sentAt)
    match rest.tracker.consume (.pair key entry.pair) cost now warningPct clockNow with
    | (.ok (), _, tracker) => (.ok (some (.pair key entry.pair, cost)), { rest with index, tracker })
    | (.error _, _, tracker) =>
      (.error ((TradeError.ofRestError .rateLimit).withRequestId requestId), { rest with index, tracker })
  | _, _ => (.ok none, { rest with index })

/-- `snap_on_rest_rejection` (snap.rs:13): the first code that names a trading counter. -/
def snapOnRestRejection (rest : RestShared R) (pair : Option Symbol) (now : MonotonicInstant)
    (iter : IterOrder ScopeKey) : List String → RestShared R
  | [] => rest
  | code :: codes =>
    match rest.apiKey with
    | none => rest
    | some key =>
      match classifyRateLimitSnap code with
      | some .tradingPair =>
        match pair with
        | some p => { rest with tracker := (rest.tracker.snapToCap (.pair key p) code now iter).2 }
        | none => rest
      | some .tradingDomain => { rest with tracker := (rest.tracker.snapToCap (.apiKey key) code now iter).2 }
      | some .api | none => snapOnRestRejection rest pair now iter codes

/-- What an answered cancel does to what is shared (executors.rs:440-446). -/
def RestShared.afterCancel (rest : RestShared R) (clOrdId : ClOrdId) (result : Except RestError Json)
    (sentAt : MonotonicInstant) (iter : IterOrder ScopeKey) : RestShared R :=
  match result with
  | .error (.kraken codes) =>
    let (found, index) := rest.index.lookupAndPromote clOrdId
    snapOnRestRejection { rest with index } (found.map (·.pair)) sentAt iter codes
  | _ => rest

end Rest

/-- `CancelOrderResponse` (types/mod.rs:67), its count a `u32`. -/
structure CancelOrderResponse where
  count : Nat
  pending : Bool
  deriving DecidableEq, Repr

/-- A field that is a `bool` with a default. -/
def boolFieldOrDefault : Option Json → Option Bool
  | none => some false
  | some (.bool b) => some b
  | some _ => none

/-- The decode of a cancel (executors.rs:459-465). -/
def decodeCancelOrder (serde : String) (result : Json) : Except TradeError CancelOrderResponse :=
  let raw := do
    let field ← structFields ["count", "pending"] 1 result
    let count ← u32Field (field "count")
    let pending ← boolFieldOrDefault (field "pending")
    return (⟨count, pending⟩ : CancelOrderResponse)
  match raw with
  | none => .error (malformed ("cancel decode: " ++ serde))
  | some resp => .ok resp

/-! ## A batch -/

/-- How far one `cancel_one` is. -/
inductive CancelPhase where
  | unpolled
  /-- The tracker refused the charge. -/
  | refused (requestId : String)
  /-- In `signed_post_costed`, with its guard. -/
  | posting (requestId : String) (sentAt : MonotonicInstant) (guard : CancelEmitGuard)
  /-- `serde` is what the JSON reader says of a reply it cannot read. -/
  | answered (requestId : String) (sentAt : MonotonicInstant) (result : Except RestError Json) (serde : String)
  /-- Dropped, before it was polled or while it waited. -/
  | dropped (posted : Option String)

/-- `CancelRequest::to_form` (requests.rs:743). -/
def cancelForm (clOrdId : ClOrdId) : List (String × String) := [("cl_ord_id", clOrdId.asStr)]

/-- The lines of a `cancel_batch_exec`, what they share, and by line what they posted, published and charged. -/
structure CancelBatch (R : Type) where
  clOrdIds : List ClOrdId
  bus : Bool
  rest : RestShared R
  phase : Nat → CancelPhase
  /-- The batch was dropped. -/
  gone : Bool
  posts : List (Nat × List (String × String))
  events : List (Nat × OrderEvent)
  charges : List (Nat × Scope × R)

/-- One step of a batch. -/
inductive CancelAct (R : Type) where
  | poll (line : Nat) (requestId : String) (now clockNow sentAt : MonotonicInstant) (warningPct : R)
  | answer (line : Nat) (defaultMaxAttempts : Nat) (attempts : List Attempt) (serde : String)
      (iter : IterOrder ScopeKey)
  /-- Another call uses the index and the tracker. -/
  | others (rest : RestShared R)
  | drop

namespace CancelBatch

variable {R : Type}

/-- `cancel_batch_exec` (executors.rs:515) before it is polled. -/
def start (clOrdIds : List ClOrdId) (bus : Bool) (rest : RestShared R) : CancelBatch R :=
  { clOrdIds, bus, rest, phase := fun _ => .unpolled, gone := false, posts := [], events := [], charges := [] }

def setPhase (s : CancelBatch R) (line : Nat) (phase : CancelPhase) : CancelBatch R :=
  { s with phase := Function.update s.phase line phase }

/-- What the drop of the batch publishes for a line: its guard is still armed while it waits. -/
def dropEvents (s : CancelBatch R) (line : Nat) : List OrderEvent :=
  match s.phase line with
  | .posting _ _ guard => guard.drop s.bus
  | _ => []

/-- What the drop of the batch makes of a line. -/
def dropPhase : CancelPhase → CancelPhase
  | .unpolled => .dropped none
  | .posting requestId _ _ => .dropped (some requestId)
  | phase => phase

/-- The futures are dropped in the order of the lines. -/
def drop (s : CancelBatch R) : CancelBatch R :=
  { s with
    gone := true
    phase := fun line => dropPhase (s.phase line)
    events := s.events ++ (List.range s.clOrdIds.length).flatMap fun line => (s.dropEvents line).map (line, ·) }

variable [CounterNum R]

/-- `cancel_one` up to its await (executors.rs:407-431). -/
def poll (s : CancelBatch R) (line : Nat) (requestId : String) (now clockNow sentAt : MonotonicInstant)
    (warningPct : R) : CancelBatch R :=
  match s.clOrdIds[line]?, s.phase line with
  | some clOrdId, .unpolled =>
    match chargePreSendRest s.rest clOrdId .cancelOrder requestId now clockNow warningPct with
    | (.error _, rest) => { s with rest }.setPhase line (.refused requestId)
    | (.ok charged, rest) =>
      { s with
        rest
        charges := s.charges ++ charged.toList.map (line, ·)
        posts := s.posts ++ [(line, cancelForm clOrdId)]
      }.setPhase line (.posting requestId sentAt (.arm clOrdId .cancelOrder (some requestId)))
  | _, _ => s

/-- `cancel_one` from its await on (executors.rs:432-465), if the post has an answer. -/
def answer (s : CancelBatch R) (line defaultMaxAttempts : Nat) (attempts : List Attempt) (serde : String)
    (iter : IterOrder ScopeKey) : CancelBatch R :=
  match s.clOrdIds[line]?, s.phase line with
  | some clOrdId, .posting requestId sentAt guard =>
    match signedPostCosted .idempotent defaultMaxAttempts attempts with
    | none => s
    | some result =>
      let published := emitRestSubmitOutcome s.bus result clOrdId none .cancelOrder sentAt requestId
      { s with
        rest := s.rest.afterCancel clOrdId result sentAt iter
        events := s.events ++ (published ++ guard.disarm.drop s.bus).map (line, ·)
      }.setPhase line (.answered requestId sentAt result serde)
  | _, _ => s

def step (s : CancelBatch R) : CancelAct R → CancelBatch R
  | .poll line requestId now clockNow sentAt warningPct => s.poll line requestId now clockNow sentAt warningPct
  | .answer line defaultMaxAttempts attempts serde iter => s.answer line defaultMaxAttempts attempts serde iter
  | .others rest => { s with rest }
  | .drop => s.drop

/-- A batch after a list of steps. -/
def run (clOrdIds : List ClOrdId) (bus : Bool) (rest : RestShared R) (acts : List (CancelAct R)) : CancelBatch R :=
  exec step (start clOrdIds bus rest) acts

end CancelBatch

/-- What `cancel_one` returns (executors.rs:454-465, and the charge's `?`). -/
def CancelPhase.outcome : CancelPhase → Option (Except TradeError CancelOrderResponse)
  | .refused requestId => some (.error ((TradeError.ofRestError .rateLimit).withRequestId requestId))
  | .answered requestId _ (.error e) _ => some (.error ((TradeError.ofRestError e).withRequestId requestId))
  | .answered requestId _ (.ok value) serde =>
    some ((decodeCancelOrder serde value).mapError (·.withRequestId requestId))
  | _ => none

/-- A row of the response (executors.rs:528-531). -/
def CancelPhase.row (clOrdId : ClOrdId) (phase : CancelPhase) : Option (Except OrderError CancelOrderResponse) :=
  phase.outcome.map (·.mapError (OrderError.fromTradeError clOrdId))

/-- `join_all(futs).await`: the rows in the order of the lines, once each is done. -/
def CancelBatch.results {R : Type} (s : CancelBatch R) : Option (List (Except OrderError CancelOrderResponse)) :=
  if s.gone then none else s.clOrdIds.zipIdx.mapM fun (clOrdId, line) => (s.phase line).row clOrdId

/-! ## What each phase has done -/

namespace CancelPhase

/-- The request id of a line that posted. -/
def posted : CancelPhase → Option String
  | .posting requestId _ _ | .answered requestId _ _ _ => some requestId
  | .dropped posted => posted
  | .unpolled | .refused _ => none

/-- The event of a line: of its answer, or of its drop while it waited. -/
def published (bus : Bool) (clOrdId : ClOrdId) : CancelPhase → List OrderEvent
  | .answered requestId sentAt result _ => emitRestSubmitOutcome bus result clOrdId none .cancelOrder sentAt requestId
  | .dropped (some requestId) => publishEvent bus (.orderCancellationAttempted clOrdId .cancelOrder (some requestId))
  | _ => []

end CancelPhase

/-- An answer has an event if it is Kraken's, and none if the request was not sent or its fate is not known. -/
theorem emitRest_cancel (bus : Bool) (clOrdId : ClOrdId) (sentAt : MonotonicInstant) (requestId : String)
    (result : Except RestError Json) :
    emitRestSubmitOutcome bus result clOrdId none .cancelOrder sentAt requestId =
      match result with
      | .ok _ => publishEvent bus (.orderSubmittedEvent clOrdId none .cancelOrder .wireAccepted (some requestId))
      | .error (.kraken codes) =>
        publishEvent bus (.orderSubmittedEvent clOrdId none .cancelOrder (wireErrorStatus (.kraken codes)) (some requestId))
      | .error (.unexpectedShape detail) =>
        publishEvent bus
          (.orderSubmittedEvent clOrdId none .cancelOrder (wireErrorStatus (.unexpectedShape detail)) (some requestId))
      | .error _ => [] := by
  cases result with
  | ok value => rfl
  | error e => cases e <;> rfl

theorem length_publishEvent_le (bus : Bool) (e : OrderEvent) : (publishEvent bus e).length ≤ 1 := by
  unfold publishEvent
  split_ifs <;> simp

theorem CancelPhase.length_published_le (bus : Bool) (clOrdId : ClOrdId) (phase : CancelPhase) :
    (phase.published bus clOrdId).length ≤ 1 := by
  unfold CancelPhase.published
  split
  · rw [emitRest_cancel]
    split
    · exact length_publishEvent_le ..
    · exact length_publishEvent_le ..
    · exact length_publishEvent_le ..
    · simp
  · exact length_publishEvent_le ..
  · simp

/-! ## Each line -/

/-- What a log says of one line. -/
def ofLine {α : Type} (log : List (Nat × α)) (line : Nat) : List α := (log.filter (·.1 = line)).map (·.2)

section OfLine

variable {α : Type} (log : List (Nat × α)) (line : Nat)

@[simp] theorem ofLine_append (more : List (Nat × α)) : ofLine (log ++ more) line = ofLine log line ++ ofLine more line := by
  simp [ofLine]

@[simp] theorem ofLine_map_self (l : List α) : ofLine (l.map (line, ·)) line = l := by
  simp [ofLine, List.filter_map, Function.comp_def]

@[simp] theorem ofLine_map_of_ne {other : Nat} (h : other ≠ line) (l : List α) : ofLine (l.map (other, ·)) line = [] := by
  simp [ofLine, List.filter_map, Function.comp_def, h]

/-- Each line's part of what all lines log at once. -/
theorem ofLine_flatMap_range (n : Nat) (f : Nat → List α) :
    ofLine ((List.range n).flatMap fun i => (f i).map (i, ·)) line = if line < n then f line else [] := by
  induction n with
  | zero => simp [ofLine]
  | succ n ih =>
    rw [List.range_succ, List.flatMap_append, ofLine_append, ih, List.flatMap_singleton]
    by_cases hn : n = line
    · subst hn
      simp
    · rw [ofLine_map_of_ne line hn, List.append_nil]
      by_cases hlt : line < n
      · simp [hlt, show line < n + 1 by omega]
      · simp [hlt, show ¬line < n + 1 by omega]

end OfLine

namespace CancelBatch

variable {R : Type}

/-- A line of the batch, by its phase. -/
structure LineOk (s : CancelBatch R) (line : Nat) (clOrdId : ClOrdId) : Prop where
  events : ofLine s.events line = (s.phase line).published s.bus clOrdId
  posts : ofLine s.posts line = (s.phase line).posted.toList.map fun _ => cancelForm clOrdId
  charges : (ofLine s.charges line).length ≤ (s.phase line).posted.toList.length
  guard : ∀ requestId sentAt guard, s.phase line = .posting requestId sentAt guard →
    guard = .arm clOrdId .cancelOrder (some requestId)

/-- What holds of a batch at any time. -/
def Inv (s : CancelBatch R) : Prop := ∀ line clOrdId, s.clOrdIds[line]? = some clOrdId → s.LineOk line clOrdId

variable {s : CancelBatch R}

theorem inv_start (clOrdIds : List ClOrdId) (bus : Bool) (rest : RestShared R) : (start clOrdIds bus rest).Inv :=
  fun _ _ _ => ⟨rfl, rfl, Nat.le_refl _, nofun⟩

/-- A step of another line. -/
theorem LineOk.other {s' : CancelBatch R} {line : Nat} {clOrdId : ClOrdId} (h : s.LineOk line clOrdId)
    (hphase : s'.phase line = s.phase line) (hbus : s'.bus = s.bus) (hevents : ofLine s'.events line = ofLine s.events line)
    (hposts : ofLine s'.posts line = ofLine s.posts line) (hcharges : ofLine s'.charges line = ofLine s.charges line) :
    s'.LineOk line clOrdId := by
  refine ⟨?_, ?_, ?_, ?_⟩
  · rw [hevents, hphase, hbus]
    exact h.events
  · rw [hposts, hphase]
    exact h.posts
  · rw [hcharges, hphase]
    exact h.charges
  · rw [hphase]
    exact h.guard

theorem inv_drop (h : s.Inv) : s.drop.Inv := by
  intro line clOrdId hline
  obtain ⟨hevents, hposts, hcharges, hguard⟩ := h line clOrdId hline
  have hlt : line < s.clOrdIds.length := (List.getElem?_eq_some_iff.1 hline).1
  have hnew : ofLine s.drop.events line = ofLine s.events line ++ s.dropEvents line := by
    show ofLine (_ ++ _) line = _
    rw [ofLine_append, ofLine_flatMap_range, if_pos hlt]
  refine ⟨?_, ?_, ?_, ?_⟩
  · rw [hnew, hevents]
    show _ = (dropPhase (s.phase line)).published s.bus clOrdId
    unfold dropEvents
    cases hphase : s.phase line with
    | posting requestId sentAt guard =>
      rw [hguard requestId sentAt guard hphase]
      rfl
    | _ => simp [dropPhase, CancelPhase.published]
  · show ofLine s.posts line = (dropPhase (s.phase line)).posted.toList.map _
    rw [hposts]
    cases s.phase line <;> rfl
  · show (ofLine s.charges line).length ≤ (dropPhase (s.phase line)).posted.toList.length
    refine hcharges.trans ?_
    cases s.phase line <;> exact Nat.le_refl _
  · intro requestId sentAt guard hphase
    have : dropPhase (s.phase line) = .posting requestId sentAt guard := hphase
    cases hs : s.phase line <;> simp [hs, dropPhase] at this

section Steps

variable [CounterNum R]

theorem inv_poll (h : s.Inv) (line : Nat) (requestId : String) (now clockNow sentAt : MonotonicInstant)
    (warningPct : R) : (s.poll line requestId now clockNow sentAt warningPct).Inv := by
  unfold poll
  split
  · next clOrdId hline hunpolled =>
    obtain ⟨hevents, hposts, hcharges, -⟩ := h line clOrdId hline
    rw [hunpolled] at hevents hposts hcharges
    split
    · -- Refused: nothing is posted, published or charged.
      intro other clOrdId' hother
      by_cases hsame : other = line
      · subst hsame
        refine ⟨?_, ?_, ?_, ?_⟩
        · simpa [setPhase, CancelPhase.published] using hevents
        · simpa [setPhase, CancelPhase.posted] using hposts
        · simpa [setPhase, CancelPhase.posted] using hcharges
        · intro requestId sentAt guard hphase
          simp [setPhase] at hphase
      · exact (h other clOrdId' hother).other (Function.update_of_ne hsame _ _) rfl rfl rfl rfl
    · next charged rest hcharge =>
      intro other clOrdId' hother
      by_cases hsame : other = line
      · subst hsame
        obtain rfl : clOrdId = clOrdId' := Option.some.inj (hline.symm.trans hother)
        refine ⟨?_, ?_, ?_, ?_⟩
        · simpa [setPhase, CancelPhase.published] using hevents
        · have hone : ofLine [(other, cancelForm clOrdId)] other = [cancelForm clOrdId] := by simp [ofLine]
          simp [setPhase, CancelPhase.posted, hposts, hone]
        · have hnone : ofLine s.charges other = [] := List.length_eq_zero_iff.1 (Nat.le_zero.1 hcharges)
          have hmap : ofLine (charged.toList.map (other, ·)) other = charged.toList := ofLine_map_self other charged.toList
          simp only [setPhase, ofLine_append, hnone, hmap, List.nil_append, Function.update_self, CancelPhase.posted]
          cases charged <;> simp
        · intro requestId' sentAt' guard hphase
          simp only [setPhase, Function.update_self, CancelPhase.posting.injEq] at hphase
          obtain ⟨rfl, -, rfl⟩ := hphase
          rfl
      · have hne : line ≠ other := fun heq => hsame heq.symm
        refine (h other clOrdId' hother).other (Function.update_of_ne hsame _ _) rfl rfl ?_ ?_
        · simp [setPhase, ofLine, hne]
        · show ofLine (s.charges ++ charged.toList.map (line, ·)) other = _
          rw [ofLine_append, ofLine_map_of_ne other hne, List.append_nil]
  · exact h

theorem inv_answer (h : s.Inv) (line defaultMaxAttempts : Nat) (attempts : List Attempt) (serde : String)
    (iter : IterOrder ScopeKey) : (s.answer line defaultMaxAttempts attempts serde iter).Inv := by
  unfold answer
  split
  · next clOrdId requestId sentAt guard hline hposting =>
    obtain ⟨hevents, hposts, hcharges, -⟩ := h line clOrdId hline
    rw [hposting] at hevents hposts hcharges
    split
    · exact h
    · next result hresult =>
      intro other clOrdId' hother
      by_cases hsame : other = line
      · subst hsame
        obtain rfl : clOrdId = clOrdId' := Option.some.inj (hline.symm.trans hother)
        refine ⟨?_, ?_, ?_, ?_⟩
        · simp only [setPhase, ofLine_append, ofLine_map_self, hevents, CancelEmitGuard.drop_disarm, List.append_nil,
            Function.update_self]
          rfl
        · simpa [setPhase, CancelPhase.posted] using hposts
        · simpa [setPhase, CancelPhase.posted] using hcharges
        · intro requestId' sentAt' guard' hphase
          simp [setPhase] at hphase
      · have hne : line ≠ other := fun heq => hsame heq.symm
        refine (h other clOrdId' hother).other (Function.update_of_ne hsame _ _) rfl ?_ rfl rfl
        show ofLine (_ ++ _) other = _
        rw [ofLine_append, ofLine_map_of_ne other hne, List.append_nil]
  · exact h

theorem inv_step (s : CancelBatch R) (act : CancelAct R) (h : s.Inv) : (s.step act).Inv := by
  cases act with
  | poll line requestId now clockNow sentAt warningPct => exact inv_poll h line requestId now clockNow sentAt warningPct
  | answer line defaultMaxAttempts attempts serde iter => exact inv_answer h line defaultMaxAttempts attempts serde iter
  | others rest => exact fun line clOrdId hline => (h line clOrdId hline).other rfl rfl rfl rfl rfl
  | drop => exact inv_drop h

/-- What no step changes, and what it leaves of a line that is done. -/
theorem settled_step (s : CancelBatch R) (act : CancelAct R) :
    (s.step act).clOrdIds = s.clOrdIds ∧ (s.step act).bus = s.bus ∧
      ∀ line, (s.phase line).outcome.isSome → (s.step act).phase line = s.phase line := by
  cases act with
  | poll line requestId now clockNow sentAt warningPct =>
    simp only [step, poll]
    split
    · next clOrdId hline hunpolled =>
      have hother : ∀ phase other, (s.phase other).outcome.isSome → Function.update s.phase line phase other = s.phase other := by
        intro phase other hdone
        refine Function.update_of_ne ?_ _ _
        rintro rfl
        simp [hunpolled, CancelPhase.outcome] at hdone
      split
      · exact ⟨rfl, rfl, hother _⟩
      · exact ⟨rfl, rfl, hother _⟩
    · exact ⟨rfl, rfl, fun _ _ => rfl⟩
  | answer line defaultMaxAttempts attempts serde iter =>
    simp only [step, answer]
    split
    · next clOrdId requestId sentAt guard hline hposting =>
      split
      · exact ⟨rfl, rfl, fun _ _ => rfl⟩
      · refine ⟨rfl, rfl, fun other hdone => Function.update_of_ne ?_ _ _⟩
        rintro rfl
        simp [hposting, CancelPhase.outcome] at hdone
    · exact ⟨rfl, rfl, fun _ _ => rfl⟩
  | others rest => exact ⟨rfl, rfl, fun _ _ => rfl⟩
  | drop =>
    refine ⟨rfl, rfl, fun line hdone => ?_⟩
    show dropPhase (s.phase line) = s.phase line
    cases hphase : s.phase line with
    | unpolled | posting => simp [hphase, CancelPhase.outcome] at hdone
    | refused | answered | dropped => rfl

theorem settled_exec (s : CancelBatch R) (acts : List (CancelAct R)) :
    (exec step s acts).clOrdIds = s.clOrdIds ∧ (exec step s acts).bus = s.bus ∧
      ∀ line, (s.phase line).outcome.isSome → (exec step s acts).phase line = s.phase line := by
  induction acts generalizing s with
  | nil => exact ⟨rfl, rfl, fun _ _ => rfl⟩
  | cons act acts ih =>
    obtain ⟨hids, hbus, hphase⟩ := settled_step s act
    obtain ⟨hids', hbus', hphase'⟩ := ih (s.step act)
    refine ⟨hids'.trans hids, hbus'.trans hbus, fun line hdone => ?_⟩
    have hstep := hphase line hdone
    exact (hphase' line (hstep ▸ hdone)).trans hstep

theorem inv_run (clOrdIds : List ClOrdId) (bus : Bool) (rest : RestShared R) (acts : List (CancelAct R)) :
    (run clOrdIds bus rest acts).Inv :=
  (reach_anyStep _ acts).invariant (inv_start clOrdIds bus rest) fun s act h _ => inv_step s act h

omit [CounterNum R] in
/-- The rows of a batch that ends are the outcomes of its lines, in their order. -/
theorem results_rows {s : CancelBatch R} {rows : List (Except OrderError CancelOrderResponse)}
    (h : s.results = some rows) : rows.length = s.clOrdIds.length ∧ ∀ line clOrdId, s.clOrdIds[line]? = some clOrdId →
      rows[line]? = (s.phase line).row clOrdId := by
  unfold results at h
  split_ifs at h
  have hmap := mapM_eq_some h
  have hlen : rows.length = s.clOrdIds.length := by simpa using (congrArg List.length hmap).symm
  refine ⟨hlen, fun line clOrdId hline => ?_⟩
  have hat := congrArg (·[line]?) hmap
  have hlt : line < rows.length := hlen ▸ (List.getElem?_eq_some_iff.1 hline).1
  simp only [List.getElem?_map, List.getElem?_zipIdx, hline, Option.map_some, Nat.zero_add] at hat
  rw [List.getElem?_eq_getElem hlt] at hat ⊢
  exact (Option.some.inj hat).symm

/-- **A batch of cancels is accounted for, line by line.** Whatever the order in which the lines are polled and
answered, whatever others do to the index and the tracker meanwhile, and whenever the batch is dropped: a line posts
once at most, is charged only if it posted and once at most, and has the one event of its answer, or of its drop while
it waited, and none about an ambiguous placement; a line that is done stays as it is, and the batch returns once every
line is done, with the outcome of line `i` as row `i`. -/
theorem cancelBatch_accounted (clOrdIds : List ClOrdId) (bus : Bool) (rest : RestShared R) (acts : List (CancelAct R)) :
    let s := run clOrdIds bus rest acts
    (∀ line clOrdId, clOrdIds[line]? = some clOrdId →
      ofLine s.events line = (s.phase line).published bus clOrdId ∧ (ofLine s.events line).length ≤ 1 ∧
        ofLine s.posts line = (s.phase line).posted.toList.map (fun _ => cancelForm clOrdId) ∧
        (ofLine s.charges line).length ≤ (ofLine s.posts line).length) ∧
      (∀ more line, (s.phase line).outcome.isSome →
        (run clOrdIds bus rest (acts ++ more)).phase line = s.phase line) ∧
      ∀ rows, s.results = some rows → rows.length = clOrdIds.length ∧ ∀ line clOrdId, clOrdIds[line]? = some clOrdId →
        rows[line]? = (s.phase line).row clOrdId := by
  intro s
  have h : s.Inv := inv_run clOrdIds bus rest acts
  obtain ⟨hids, hbus, -⟩ : s.clOrdIds = clOrdIds ∧ s.bus = bus ∧ _ := settled_exec (start clOrdIds bus rest) acts
  refine ⟨fun line clOrdId hline => ?_, fun more => ?_, fun rows hrows => ?_⟩
  · obtain ⟨hevents, hposts, hcharges, -⟩ := h line clOrdId (hids ▸ hline)
    rw [hbus] at hevents
    refine ⟨hevents, ?_, hposts, ?_⟩
    · rw [hevents]
      exact CancelPhase.length_published_le ..
    · rw [hposts, List.length_map]
      exact hcharges
  · rw [run, exec_append]
    exact (settled_exec s more).2.2
  · obtain ⟨hlen, hat⟩ := results_rows hrows
    rw [hids] at hlen hat
    exact ⟨hlen, hat⟩

end Steps

end CancelBatch

end KrakenSdk.Trade
