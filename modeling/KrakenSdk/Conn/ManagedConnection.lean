import KrakenSdk.Conn.Inner
/-!
# `ManagedConnection`: the state and its helpers (managed_connection/mod.rs)

One definition per source method, under the source's name. What a method reads from outside the
connection is the `Env` of its step: the clock (read once per step), the knobs, the answer of
`ConnectionRateBudget::try_consume`, the jittered delay of `next_backoff` (floating point, so a
parameter) and the socket `WsSocketFactoryLike::open_socket` hands back. `bus` is the list of
effects so far; a helper appends to it what the source publishes, sends or closes, in order.

Each helper keeps every field its source body does not write, so a proof reads a helper by
unfolding it under `simp`; the loops over waiters are maps, never a run through the state.
-/
namespace KrakenSdk.Conn

/-- The knobs the FSM reads (`build/knobs.rs`). -/
structure Knobs where
  stalenessWindowMs : Nat
  upgradeTimeout : Nat
  closeTimeout : Nat
  reconnectAttempts : Option Nat
  maxAuthHandshakeFailures : Nat
  subscribeAckAttempts : Nat
  subscribeAckTimeoutMs : Nat
  deriving DecidableEq, Repr

/-- `ConnectionRateThrottled` (rate_budget.rs:21-29). -/
structure ConnectionRateThrottled where
  attemptsUsed : Nat
  budget : Nat
  throttleUntilMonotonic : MonotonicInstant
  deriving DecidableEq, Repr

/-- What one step reads from outside the connection. -/
structure Env where
  now : MonotonicInstant
  knobs : Knobs
  /-- `rate_budget.try_consume(now)`. -/
  tryConsume : Except ConnectionRateThrottled Unit
  /-- `rate_budget.window_seconds()`. -/
  windowSeconds : Nat
  /-- `next_backoff(knobs, attempt, jitter)`, as a duration. -/
  nextBackoff : Nat → Nat
  /-- `factory.open_socket(url)`. -/
  openSocket : SocketId

/-- `ManagedConnection` (mod.rs:66-137); the injected services are in `Env`. -/
structure ManagedConnection where
  url : WsUrl
  state : ConnectionState
  attemptCount : Nat
  authHandshakeFailCount : Nat
  hasBeenOpen : Bool
  awaitingTokenRefresh : Bool
  serverConnectionId : Option Nat
  socket : Option SocketId
  pendingRequests : PendingRequestMap
  stalenessMonitor : StalenessMonitor
  bus : List Effect
  timers : TimerSet
  subscribeAckAttempts : HashMap EntryKey Nat
  pendingConnectRequestId : Option Nat
  pendingCloseRequestId : Option Nat
  pendingReconnectRequestId : Option Nat
  additionalCloseRequestIds : List Nat
  additionalConnectRequestIds : List Nat
  deferredOpenAuthSubscribes : List (ChannelName × Option Symbol × SubscribeParams)
  nextSubscribeReqId : Nat
  pendingSubscribeReqIds : HashMap Nat EntryKey
  subscribeReqIdByKey : HashMap EntryKey Nat

namespace ManagedConnection

/-- `new` (mod.rs:140). -/
def new (url : WsUrl) (knobs : Knobs) : ManagedConnection where
  url := url
  state := .idle
  attemptCount := 0
  authHandshakeFailCount := 0
  hasBeenOpen := false
  awaitingTokenRefresh := false
  serverConnectionId := none
  socket := none
  pendingRequests := ∅
  stalenessMonitor := .new knobs.stalenessWindowMs
  bus := []
  timers := .empty
  subscribeAckAttempts := ∅
  pendingConnectRequestId := none
  pendingCloseRequestId := none
  pendingReconnectRequestId := none
  additionalCloseRequestIds := []
  additionalConnectRequestIds := []
  deferredOpenAuthSubscribes := []
  nextSubscribeReqId := 1
  pendingSubscribeReqIds := ∅
  subscribeReqIdByKey := ∅

/-! ## Emission -/

/-- `emit_lifecycle` (mod.rs:881). -/
def lifecycle (env : Env) (requestId : Option Nat) (payload : EventPayload) : Effect :=
  .publish { eventVersion := 1, timestampMonotonic := env.now, requestId, payload }

/-- Publish one lifecycle event. -/
def emitLifecycle (mc : ManagedConnection) (env : Env) (payload : EventPayload) (requestId : Option Nat) :
    ManagedConnection :=
  { mc with bus := mc.bus ++ [lifecycle env requestId payload] }

/-- `emit_rate_throttled` (handle_event.rs:1151). -/
def emitRateThrottled (mc : ManagedConnection) (env : Env) (requestId : Option Nat) (t : ConnectionRateThrottled) :
    ManagedConnection :=
  mc.emitLifecycle env
    (.connectionRateThrottledEvent mc.url t.attemptsUsed env.windowSeconds (t.budget - t.attemptsUsed)
      t.throttleUntilMonotonic) requestId

/-- Resolve and report every pending request (`pending_requests.drain(cause, &bus)`). -/
def drainPending (mc : ManagedConnection) (env : Env) (cause : DrainCause) : ManagedConnection :=
  let d := mc.pendingRequests.drain cause env.now
  { mc with pendingRequests := d.1, bus := mc.bus ++ d.2 }

/-- `if let Some(s) = self.socket.as_ref() { s.close(1000) }`. -/
def closeSocket (mc : ManagedConnection) : ManagedConnection :=
  { mc with bus := mc.bus ++ mc.socket.toList.map (.closeSocket · 1000) }

/-- `server_connection_id.map(|id| id.to_string())`. -/
def serverConnectionIdText (mc : ManagedConnection) : Option String := mc.serverConnectionId.map toString

/-! ## Subscribe-ack bookkeeping -/

/-- `next_subscribe_req_id` (mod.rs:181). -/
def takeSubscribeReqId (mc : ManagedConnection) : Nat × ManagedConnection :=
  (mc.nextSubscribeReqId, { mc with nextSubscribeReqId := min (mc.nextSubscribeReqId + 1) u64Max })

/-- `record_subscribe_req_id` (mod.rs:187): the key's prior id is evicted from the forward map. -/
def recordSubscribeReqId (mc : ManagedConnection) (reqId : Nat) (key : EntryKey) : ManagedConnection :=
  let forward := match mc.subscribeReqIdByKey.lookup key with
    | some prev => mc.pendingSubscribeReqIds.erase prev
    | none => mc.pendingSubscribeReqIds
  { mc with subscribeReqIdByKey := mc.subscribeReqIdByKey.insert key reqId
            pendingSubscribeReqIds := forward.insert reqId key }

/-- `resolve_subscribe_req_id` (mod.rs:201). -/
def resolveSubscribeReqId (mc : ManagedConnection) (reqId : Nat) : Option EntryKey :=
  mc.pendingSubscribeReqIds.lookup reqId

/-- `forget_subscribe_req_id_for_key` (mod.rs:208). -/
def forgetSubscribeReqIdForKey (mc : ManagedConnection) (key : EntryKey) : ManagedConnection :=
  { mc with
    subscribeReqIdByKey := mc.subscribeReqIdByKey.erase key
    pendingSubscribeReqIds := match mc.subscribeReqIdByKey.lookup key with
      | some reqId => mc.pendingSubscribeReqIds.erase reqId
      | none => mc.pendingSubscribeReqIds }

/-- `knobs.subscribe_ack_attempts.min(u8::MAX)`. -/
def subscribeAckBudget (env : Env) : Nat := min env.knobs.subscribeAckAttempts 255

/-- `arm_subscribe_ack` (mod.rs:509): the first arm seeds the budget, a re-arm leaves it alone. -/
def armSubscribeAck (mc : ManagedConnection) (env : Env) (key : EntryKey) (dueAt : MonotonicInstant) :
    ManagedConnection :=
  { mc with
    timers := { mc.timers with
      perEntrySubscribeAckTimeouts := mc.timers.perEntrySubscribeAckTimeouts.insert key dueAt }
    subscribeAckAttempts := match mc.subscribeAckAttempts.lookup key with
      | some _ => mc.subscribeAckAttempts
      | none => mc.subscribeAckAttempts.insert key (subscribeAckBudget env) }

/-- `disarm_subscribe_ack` (mod.rs:529). -/
def disarmSubscribeAck (mc : ManagedConnection) (key : EntryKey) : ManagedConnection :=
  let mc := { mc with
    timers := { mc.timers with
      perEntrySubscribeAckTimeouts := mc.timers.perEntrySubscribeAckTimeouts.erase key
      perEntrySubscribeResendDue := mc.timers.perEntrySubscribeResendDue.erase key }
    subscribeAckAttempts := mc.subscribeAckAttempts.erase key }
  mc.forgetSubscribeReqIdForKey key

/-- `arm_book_reseed_snapshot` (mod.rs:567). -/
def armBookReseedSnapshot (mc : ManagedConnection) (key : EntryKey) (dueAt : MonotonicInstant) : ManagedConnection :=
  { mc with timers := { mc.timers with
      perEntryBookReseedSnapshot := mc.timers.perEntryBookReseedSnapshot.insert key dueAt } }

/-- `disarm_book_reseed_snapshot` (mod.rs:537). -/
def disarmBookReseedSnapshot (mc : ManagedConnection) (key : EntryKey) : ManagedConnection :=
  { mc with timers := { mc.timers with
      perEntryBookReseedSnapshot := mc.timers.perEntryBookReseedSnapshot.erase key } }

/-- `pending_subscribe_ack_count` (mod.rs:549). -/
def pendingSubscribeAckCount (mc : ManagedConnection) : Nat :=
  HashMap.len mc.timers.perEntrySubscribeAckTimeouts

/-- `is_subscribe_ack_armed` (mod.rs:554). -/
def isSubscribeAckArmed (mc : ManagedConnection) (key : EntryKey) : Bool :=
  (mc.timers.perEntrySubscribeAckTimeouts.lookup key).isSome

/-- `authenticating_nothing_in_flight` (mod.rs:586). -/
def authenticatingNothingInFlight (mc : ManagedConnection) : Bool :=
  mc.state = .authenticating && mc.pendingSubscribeAckCount = 0 && HashMap.isEmpty mc.pendingRequests &&
    !mc.awaitingTokenRefresh

/-- `set_awaiting_token_refresh` (mod.rs:594). -/
def setAwaitingTokenRefresh (mc : ManagedConnection) (v : Bool) : ManagedConnection :=
  { mc with awaitingTokenRefresh := v }

/-- `remove_deferred_open_auth_subscribe` (mod.rs:599). -/
def removeDeferredOpenAuthSubscribe (mc : ManagedConnection) (key : EntryKey) : ManagedConnection :=
  { mc with deferredOpenAuthSubscribes :=
      mc.deferredOpenAuthSubscribes.filter fun d => !decide (d.1 = key.1 ∧ d.2.1 = key.2) }

/-- `defer_open_auth_subscribe` (mod.rs:609): de-duplicated by key. -/
def deferOpenAuthSubscribe (mc : ManagedConnection) (key : EntryKey) (params : SubscribeParams) : ManagedConnection :=
  if mc.deferredOpenAuthSubscribes.any fun d => decide (d.1 = key.1 ∧ d.2.1 = key.2) then mc
  else { mc with deferredOpenAuthSubscribes := mc.deferredOpenAuthSubscribes ++ [(key.1, key.2, params)] }

/-- `drain_deferred_open_auth_subscribes` (mod.rs:627). -/
def drainDeferredOpenAuthSubscribes (mc : ManagedConnection) :
    List (ChannelName × Option Symbol × SubscribeParams) × ManagedConnection :=
  (mc.deferredOpenAuthSubscribes, { mc with deferredOpenAuthSubscribes := [] })

/-- `clear_subscribe_ack_state` (mod.rs:343). -/
def clearSubscribeAckState (mc : ManagedConnection) : ManagedConnection :=
  { mc with
    timers := { mc.timers with
      perEntrySubscribeAckTimeouts := ∅, perEntrySubscribeResendDue := ∅, perEntryBookReseedSnapshot := ∅ }
    subscribeAckAttempts := ∅
    pendingSubscribeReqIds := ∅
    subscribeReqIdByKey := ∅
    deferredOpenAuthSubscribes := []
    awaitingTokenRefresh := false }

/-! ## Timers and teardowns -/

/-- `self.staleness_monitor.disarm(); self.timers.staleness_due_at = None;`. -/
def disarmStaleness (mc : ManagedConnection) : ManagedConnection :=
  { mc with stalenessMonitor := mc.stalenessMonitor.disarm, timers := { mc.timers with stalenessDueAt := none } }

/-- `exit_authenticating_teardown` (mod.rs:361): the drain comes last. -/
def exitAuthenticatingTeardown (mc : ManagedConnection) (env : Env) : ManagedConnection :=
  ({ mc with socket := none }.disarmStaleness.clearSubscribeAckState).drainPending env .requestInFlightWhenDropped

/-- `exit_authenticating_to_closing` (mod.rs:372): the socket is kept and nothing is drained. -/
def exitAuthenticatingToClosing (mc : ManagedConnection) : ManagedConnection :=
  mc.disarmStaleness.clearSubscribeAckState

/-- `exit_resubscribing_teardown` (mod.rs:379): the same shape as the `Authenticating` exit. -/
def exitResubscribingTeardown (mc : ManagedConnection) (env : Env) : ManagedConnection :=
  ({ mc with socket := none }.disarmStaleness.clearSubscribeAckState).drainPending env .requestInFlightWhenDropped

/-- `exit_open_teardown` (mod.rs:389): the drain comes first. -/
def exitOpenTeardown (mc : ManagedConnection) (env : Env) (cause : DrainCause) : ManagedConnection :=
  { mc.drainPending env cause with socket := none }.disarmStaleness

/-- `compute_backoff_due` (mod.rs:396). -/
def computeBackoffDue (mc : ManagedConnection) (env : Env) : MonotonicInstant :=
  env.now + env.nextBackoff (mc.attemptCount - 1)

/-- `arm_staleness` (mod.rs:403). -/
def armStaleness (mc : ManagedConnection) (env : Env) : ManagedConnection :=
  let monitor := (StalenessMonitor.new env.knobs.stalenessWindowMs).arm env.now
  { mc with stalenessMonitor := monitor, timers := { mc.timers with stalenessDueAt := monitor.deadline } }

/-- `note_inbound_activity` (mod.rs:411). -/
def noteInboundActivity (mc : ManagedConnection) (env : Env) : ManagedConnection :=
  let monitor := mc.stalenessMonitor.noteInbound env.now
  { mc with stalenessMonitor := monitor, timers := { mc.timers with stalenessDueAt := monitor.deadline } }

/-- `arm_upgrade_timeout` (mod.rs:417). -/
def armUpgradeTimeout (mc : ManagedConnection) (env : Env) : ManagedConnection :=
  { mc with timers := { mc.timers with upgradeTimeoutDueAt := some (env.now + env.knobs.upgradeTimeout) } }

/-- `arm_close_timeout` (mod.rs:423). -/
def armCloseTimeout (mc : ManagedConnection) (env : Env) : ManagedConnection :=
  { mc with timers := { mc.timers with closeTimeoutDueAt := some (env.now + env.knobs.closeTimeout) } }

/-- `arm_token_refresh` / `disarm_token_refresh` (mod.rs:429-435). -/
def setTokenRefreshDue (mc : ManagedConnection) (due : Option MonotonicInstant) : ManagedConnection :=
  { mc with timers := { mc.timers with tokenRefreshDueAt := due } }

/-- `pop_timer_for_event` (io_reactor/timer.rs:62-104): a timer is cleared before its event runs. -/
def popTimerForEvent (mc : ManagedConnection) (e : FsmEvent) : ManagedConnection :=
  let t := mc.timers
  match e with
  | .timerBackoffElapsed => { mc with timers := { t with backoffDueAt := none } }
  | .timerUpgradeTimeout => { mc with timers := { t with upgradeTimeoutDueAt := none } }
  | .timerStalenessElapsed => { mc with timers := { t with stalenessDueAt := none } }
  | .timerCloseTimeout => { mc with timers := { t with closeTimeoutDueAt := none } }
  | .timerRateBudgetWindowAdvanced => { mc with timers := { t with rateBudgetWindowAdvancedAt := none } }
  | .timerTokenRefreshDue => { mc with timers := { t with tokenRefreshDueAt := none } }
  | .timerSubscribeAckTimeout channel pair =>
    { mc with timers := { t with
        perEntrySubscribeAckTimeouts := t.perEntrySubscribeAckTimeouts.erase (channel, pair) } }
  | .timerSubscribeResendDue channel pair =>
    { mc with timers := { t with
        perEntrySubscribeResendDue := t.perEntrySubscribeResendDue.erase (channel, pair) } }
  | .timerBookReseedSnapshot channel pair =>
    { mc with timers := { t with
        perEntryBookReseedSnapshot := t.perEntryBookReseedSnapshot.erase (channel, pair) } }
  | _ => mc

/-! ## Entering a state -/

/-- `emit_open_or_reopened` (mod.rs:672), as the event it publishes. -/
def openOrReopened (mc : ManagedConnection) (env : Env) (isReopen : Bool) (reopenAttemptCount : Nat)
    (rid : Option Nat) : Effect :=
  lifecycle env rid <|
    if isReopen then .connectionReopenedEvent mc.url env.now reopenAttemptCount
    else .connectionOpenEvent mc.url env.now mc.serverConnectionIdText

/-- `enter_open` (mod.rs:645): one event for the primary waiter (or a broadcast), one per cohort id. -/
def enterOpen (mc : ManagedConnection) (env : Env) : ManagedConnection :=
  let event := mc.openOrReopened env mc.hasBeenOpen mc.attemptCount
  let mc' := { mc with attemptCount := 0, hasBeenOpen := true, state := .opened }.armStaleness env
  { mc' with
    pendingConnectRequestId := none
    additionalConnectRequestIds := []
    bus := mc'.bus ++ event mc.pendingConnectRequestId :: mc.additionalConnectRequestIds.map (event <| some ·) }

/-- `complete_resubscribe_if_empty` (mod.rs:636). -/
def completeResubscribeIfEmpty (mc : ManagedConnection) (env : Env) : ManagedConnection :=
  if mc.state = .resubscribing ∧ mc.pendingSubscribeAckCount = 0 ∧
      HashMap.isEmpty mc.timers.perEntrySubscribeResendDue then
    mc.enterOpen env
  else mc

/-- `emit_connection_failed` (mod.rs:700): one event per waiter, or a single broadcast. -/
def emitConnectionFailed (mc : ManagedConnection) (env : Env) (lastError : String) (transient : Bool)
    (cls : Option NonTransientClass) : ManagedConnection :=
  let event := fun rid =>
    lifecycle env rid (.connectionFailedEvent mc.url mc.attemptCount lastError transient cls)
  let waiters := mc.pendingConnectRequestId.toList ++ mc.additionalConnectRequestIds
  { mc with
    pendingConnectRequestId := none
    additionalConnectRequestIds := []
    bus := mc.bus ++ if waiters = [] then [event none] else waiters.map (event <| some ·) }

/-- `enter_connecting` (mod.rs:786). -/
def enterConnecting (mc : ManagedConnection) (env : Env) (rid : Option Nat) : ManagedConnection :=
  ({ mc with socket := some env.openSocket }.armUpgradeTimeout env).emitLifecycle env
    (.connectionConnectingEvent mc.url mc.attemptCount) rid

/-- `reenter_connecting` (mod.rs:801): `BackingOff` when the connect-rate budget refuses. -/
def reenterConnecting (mc : ManagedConnection) (env : Env) (rid : Nat) : ManagedConnection :=
  match env.tryConsume with
  | .error t =>
    { mc with
      state := .backingOff
      socket := none
      pendingConnectRequestId := some rid
      timers := { mc.timers with rateBudgetWindowAdvancedAt := some t.throttleUntilMonotonic }
    }.emitRateThrottled env (some rid) t
  | .ok () =>
    { mc with state := .connecting, pendingConnectRequestId := some rid }.enterConnecting env (some rid)

/-- `enter_closed_or_reconnect` (mod.rs:731): drain, then one `ConnectionClosedEvent` per `close()`
waiter, then the latched `force_reconnect()` or `Closed`. -/
def enterClosedOrReconnect (mc : ManagedConnection) (env : Env) (reason : ClosedReason) (ack : AckSource) :
    ManagedConnection :=
  let mc := { mc with timers := { mc.timers with closeTimeoutDueAt := none } }
  let mc := mc.drainPending env <|
    if mc.pendingReconnectRequestId.isSome then .requestInFlightWhenDropped else .clientClosed
  let closes := mc.pendingCloseRequestId.toList ++ mc.additionalCloseRequestIds
  let reconnect := mc.pendingReconnectRequestId
  let mc := { mc with
    pendingCloseRequestId := none
    additionalCloseRequestIds := []
    pendingReconnectRequestId := none
    bus := mc.bus ++ closes.map fun rid =>
      lifecycle env (some rid) (.connectionClosedEvent mc.url env.now reason ack mc.serverConnectionIdText) }
  match reconnect with
  | some rid => { mc with attemptCount := 0 }.reenterConnecting env rid
  | none => { mc with state := .closed, socket := none }

/-! ## Transient failures -/

/-- `emit_attempt_failed` (mod.rs:821). -/
def emitAttemptFailed (mc : ManagedConnection) (env : Env) (backoffDue : MonotonicInstant) (cls : TransientClass)
    (krakenError : Option String) (httpStatus closeCode : Option Nat) : ManagedConnection :=
  mc.emitLifecycle env
    (.connectionAttemptFailedEvent mc.url mc.attemptCount cls krakenError httpStatus closeCode
      ((backoffDue - env.now) / 1000000) env.now) none

/-- The test of `cap_exhausted_then_escalate` (mod.rs:848): `Some(n) if attempt_count >= n`. -/
def capExhausted (mc : ManagedConnection) (env : Env) : Bool :=
  match env.knobs.reconnectAttempts with
  | some n => n ≤ mc.attemptCount
  | none => false

/-- The escalation of `cap_exhausted_then_escalate`: `Failed`, with no backoff armed. Every caller
passes an empty `cleanup` and returns after it. -/
def escalate (mc : ManagedConnection) (env : Env) : ManagedConnection :=
  let mc := { mc with state := .failed, socket := none }.disarmStaleness
  { mc with timers := { mc.timers with upgradeTimeoutDueAt := none } }.emitConnectionFailed env
    s!"reconnect attempt budget exhausted ({mc.attemptCount} attempts)" false (some .retryCapExhausted)

/-- The pre-`Open` transition to `BackingOff`: arm the backoff, publish `ConnectionAttemptFailedEvent`. -/
def attemptFailed (mc : ManagedConnection) (env : Env) (cls : TransientClass) (krakenError : Option String)
    (httpStatus closeCode : Option Nat) : ManagedConnection :=
  let backoffDue := mc.computeBackoffDue env
  { mc with state := .backingOff, timers := { mc.timers with backoffDueAt := some backoffDue }
  }.emitAttemptFailed env backoffDue cls krakenError httpStatus closeCode

/-- The tail the pre-`Open` transient arms share: `Failed` at the cap, else `attemptFailed`. -/
def attemptFailedOrEscalate (mc : ManagedConnection) (env : Env) (cls : TransientClass)
    (krakenError : Option String) (httpStatus closeCode : Option Nat) : ManagedConnection :=
  if mc.capExhausted env then mc.escalate env
  else mc.attemptFailed env cls krakenError httpStatus closeCode

/-- The tail the `Open` transient arms share: `Failed` at the cap, else `BackingOff` with
`ConnectionDroppedEvent`. -/
def droppedOrEscalate (mc : ManagedConnection) (env : Env) (closeCode : Option Nat) (reason : Option String) :
    ManagedConnection :=
  if mc.capExhausted env then mc.escalate env
  else
    { mc with state := .backingOff, timers := { mc.timers with backoffDueAt := some (mc.computeBackoffDue env) }
    }.emitLifecycle env (.connectionDroppedEvent mc.url env.now closeCode reason) none

/-- The retry budget a transient subscribe failure leaves its key (mod.rs:262-277). A key with no
budget row failed before an ack timer was armed: it is seeded at budget - 1. -/
def subscribeAckRemaining (mc : ManagedConnection) (env : Env) (key : EntryKey) : Nat :=
  match mc.subscribeAckAttempts.lookup key with
  | some n => n - 1
  | none => subscribeAckBudget env - 1

/-- The head of `handle_subscribe_failure`: the key's timers and correlation go first. -/
def cancelEntryTimers (mc : ManagedConnection) (key : EntryKey) : ManagedConnection :=
  { mc with timers := { mc.timers with
      perEntrySubscribeAckTimeouts := mc.timers.perEntrySubscribeAckTimeouts.erase key
      perEntrySubscribeResendDue := mc.timers.perEntrySubscribeResendDue.erase key }
  }.forgetSubscribeReqIdForKey key

/-- The non-transient branch (mod.rs:230-258): only this entry ends, the connection stays up. -/
def terminateEntry (mc : ManagedConnection) (env : Env) (key : EntryKey) (lastError : Option String) :
    ManagedConnection :=
  { mc with
    subscribeAckAttempts := mc.subscribeAckAttempts.erase key
    bus := mc.bus ++ [Effect.publish {
      eventVersion := 2, timestampMonotonic := env.now, requestId := none
      payload := .subscriptionTerminatedEvent key.1 key.2 .nonTransientWireRejection lastError env.now }]
  }.completeResubscribeIfEmpty env

/-- `subscribe_ack budget exhausted for ({channel:?}, {pair:?})`. -/
def budgetExhausted (key : EntryKey) : String := s!"subscribe_ack budget exhausted for ({debugKey key})"

/-- The transient branch (mod.rs:260-340): a resend in 200 ms while the budget lasts, else teardown.
The pre-`Open` end of the budget does not consult the cap. -/
def retrySubscribe (mc : ManagedConnection) (env : Env) (key : EntryKey) : ManagedConnection :=
  let remaining := mc.subscribeAckRemaining env key
  let mc := { mc with subscribeAckAttempts := mc.subscribeAckAttempts.insert key remaining }
  if remaining > 0 then
    { mc with timers := { mc.timers with
        perEntrySubscribeResendDue :=
          mc.timers.perEntrySubscribeResendDue.insert key (env.now + fromMillis 200) } }
  else if mc.state = .opened then
    (mc.exitResubscribingTeardown env).droppedOrEscalate env none (some (budgetExhausted key))
  else
    (mc.exitResubscribingTeardown env).attemptFailed env .subscribeBudgetExhausted (some (budgetExhausted key))
      none none

/-- `handle_subscribe_failure` (mod.rs:219-341). -/
def handleSubscribeFailure (mc : ManagedConnection) (env : Env) (key : EntryKey) (transient : Bool)
    (lastError : Option String) : ManagedConnection :=
  let mc := mc.cancelEntryTimers key
  if transient then mc.retrySubscribe env key else mc.terminateEntry env key lastError

/-! ## Pending requests -/

/-- `record_pending_request` (mod.rs:907). -/
def recordPendingRequest (mc : ManagedConnection) (p : PendingRequest) : ManagedConnection :=
  { mc with pendingRequests := mc.pendingRequests.record p }

/-- `resolve_pending_request` (mod.rs:911). -/
def resolvePendingRequest (mc : ManagedConnection) (resp : WsResponse) : ManagedConnection :=
  let r := mc.pendingRequests.resolve resp
  { mc with pendingRequests := r.1, bus := mc.bus ++ r.2 }

/-- `fail_pending_request` (mod.rs:915). -/
def failPendingRequest (mc : ManagedConnection) (reqId : Nat) (err : ConnectionError) : ManagedConnection :=
  let r := mc.pendingRequests.failOne reqId err
  { mc with pendingRequests := r.1, bus := mc.bus ++ r.2 }

/-- `pending_requests_contains` (mod.rs:920). -/
def pendingRequestsContains (mc : ManagedConnection) (reqId : Nat) : Bool :=
  (mc.pendingRequests.lookup reqId).isSome

/-- `drain_one_retryable` (mod.rs:925). -/
def drainOneRetryable (mc : ManagedConnection) (env : Env) (reqId : Nat) : ManagedConnection :=
  let r := mc.pendingRequests.drainOneRetryable reqId env.now
  { mc with pendingRequests := r.1, bus := mc.bus ++ r.2 }

end ManagedConnection

end KrakenSdk.Conn
