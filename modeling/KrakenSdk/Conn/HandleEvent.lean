import KrakenSdk.Conn.ManagedConnection
/-!
# `ManagedConnection::handle_event` (managed_connection/handle_event.rs:9-1149)

One definition per source state, one match arm per source arm, in the source's order; an event a
state has no arm for leaves the connection unchanged. `handleEvent` dispatches on the state.
-/
namespace KrakenSdk.Conn.ManagedConnection

/-- `(Idle, _)` (handle_event.rs:25-117). -/
def handleIdle (mc : ManagedConnection) (env : Env) : FsmEvent → ManagedConnection
  | .callStartConnect requestId =>
    match env.tryConsume with
    | .error t =>
      { mc with
        state := .backingOff
        pendingConnectRequestId := some requestId
        timers := { mc.timers with rateBudgetWindowAdvancedAt := some t.throttleUntilMonotonic }
      }.emitRateThrottled env (some requestId) t
    | .ok () =>
      { mc with
        attemptCount := satAdd32 mc.attemptCount 1
        state := .connecting
        pendingConnectRequestId := some requestId
      }.enterConnecting env (some requestId)
  | .callClose requestId =>
    { mc with state := .closed }.emitLifecycle env
      (.connectionClosedEvent mc.url env.now .clientInitiated .neverOpened none) (some requestId)
  | .callForceReconnect requestId =>
    match env.tryConsume with
    | .error t =>
      { mc with
        attemptCount := 0
        state := .backingOff
        pendingConnectRequestId := some requestId
        timers := { mc.timers with rateBudgetWindowAdvancedAt := some t.throttleUntilMonotonic }
      }.emitRateThrottled env (some requestId) t
    | .ok () =>
      { mc with
        attemptCount := 0
        state := .connecting
        pendingConnectRequestId := some requestId
      }.enterConnecting env (some requestId)
  | _ => mc

/-- The transient half of `(Connecting, WireUpgradeFailed | WireConnectError)`. -/
def connectFailedOrEscalate (mc : ManagedConnection) (env : Env) (cls : TransientClass) (httpStatus : Option Nat) :
    ManagedConnection :=
  if mc.capExhausted env then mc.escalate env
  else
    { mc with socket := none, timers := { mc.timers with upgradeTimeoutDueAt := none }
    }.attemptFailed env cls none httpStatus none

/-- The permanent half: straight to `Failed`, clearing the upgrade timeout itself. -/
def connectFailedPermanently (mc : ManagedConnection) (env : Env) (lastError : String) : ManagedConnection :=
  { mc with state := .failed, socket := none, timers := { mc.timers with upgradeTimeoutDueAt := none }
  }.emitConnectionFailed env lastError false none

/-- `(Connecting, _)` (handle_event.rs:119-253). -/
def handleConnecting (mc : ManagedConnection) (env : Env) : FsmEvent → ManagedConnection
  | .wireUpgradeOk connectionId =>
    { mc with
      serverConnectionId := connectionId
      timers := { mc.timers with upgradeTimeoutDueAt := none }
      state := match mc.url with
        | .publicUrl => .resubscribing
        | .authUrl => .authenticating
    }.armStaleness env
  | .wireUpgradeFailed httpStatus =>
    if httpUpgradeStatusTransient httpStatus then
      mc.connectFailedOrEscalate env .httpTransient (some httpStatus)
    else
      mc.connectFailedPermanently env s!"ws upgrade failed: HTTP {httpStatus} (non-transient)"
  | .wireConnectError kind transient =>
    if transient then mc.connectFailedOrEscalate env .connectError none
    else mc.connectFailedPermanently env s!"connect error (non-transient): {kind.debug}"
  | .timerUpgradeTimeout =>
    { mc with socket := none, timers := { mc.timers with upgradeTimeoutDueAt := none }
    }.attemptFailedOrEscalate env .upgradeTimeout none none none
  | .callClose requestId =>
    { { mc with state := .closing, timers := { mc.timers with upgradeTimeoutDueAt := none }
      }.armCloseTimeout env with pendingCloseRequestId := some requestId }
  | .callForceReconnect requestId =>
    -- A first bring-up is not cohorted: its event would be `ConnectionOpenEvent`, not `Reopened`.
    if mc.hasBeenOpen then
      { mc with attemptCount := 0
                additionalConnectRequestIds := mc.additionalConnectRequestIds ++ [requestId] }
    else { mc with attemptCount := 0 }
  | _ => mc

/-- `WebsocketStaleEvent` of a staleness teardown, read off the monitor before it is disarmed. -/
def emitWebsocketStale (mc : ManagedConnection) (env : Env) : ManagedConnection :=
  mc.emitLifecycle env
    (.websocketStaleEvent mc.url (mc.stalenessMonitor.lastInboundAt.getD env.now) mc.stalenessMonitor.windowMs) none

/-- The close-code rule of a handshake, after its teardown: 1008 is `Failed`, every other code transient. -/
def closedDuringHandshake (mc : ManagedConnection) (env : Env) (code : Nat) (reason : Option String)
    (phase : String) : ManagedConnection :=
  if code = 1008 then
    { mc with state := .failed }.emitConnectionFailed env s!"ws close {code} during {phase} (policy violation)"
      false none
  else mc.attemptFailedOrEscalate env .closedDuringHandshake reason none (some code)

/-- `ConnectionFailedEvent` and `AuthenticationFailedEvent` of a terminal auth failure. -/
def emitAuthenticationFailed (mc : ManagedConnection) (env : Env) (lastError : String) (cls : NonTransientClass)
    (krakenResponse : Option String) : ManagedConnection :=
  (mc.emitConnectionFailed env lastError false (some cls)).emitLifecycle env
    (.authenticationFailedEvent mc.url cls krakenResponse) none

/-- `(Authenticating, _)` (handle_event.rs:255-559). -/
def handleAuthenticating (mc : ManagedConnection) (env : Env) : FsmEvent → ManagedConnection
  | .wireAuthHandshakeOk =>
    { mc with awaitingTokenRefresh := false, authHandshakeFailCount := 0, state := .resubscribing }
  | .wireOrderAuthOk =>
    ({ mc with awaitingTokenRefresh := false, authHandshakeFailCount := 0 }.clearSubscribeAckState).enterOpen env
  | .wireAuthHandshakeFailed .tokenStale =>
    let failCount := satAdd32 mc.authHandshakeFailCount 1
    let mc := { mc with authHandshakeFailCount := failCount }
    if failCount ≥ env.knobs.maxAuthHandshakeFailures then
      { mc.exitAuthenticatingTeardown env with state := .failed }.emitAuthenticationFailed env
        s!"auth handshake token-stale retried {failCount} times (cap)" .retryCapExhausted none
    else
      { mc with awaitingTokenRefresh := true, attemptCount := satAdd32 mc.attemptCount 1 }
  | .wireAuthHandshakeFailed .badCreds =>
    { mc.exitAuthenticatingTeardown env with state := .failed }.emitAuthenticationFailed env
      "auth handshake failed: BadCreds" .badCreds none
  | .wireAuthHandshakeFailed .permissionDenied =>
    { mc.exitAuthenticatingTeardown env with state := .failed }.emitAuthenticationFailed env
      "auth handshake failed: PermissionDenied" .permissionDenied none
  | .wireAuthHandshakeFailed .transient =>
    (mc.exitAuthenticatingTeardown env).attemptFailedOrEscalate env .authHandshakeTransient none none none
  | .wireCloseReceived code reason =>
    (mc.exitAuthenticatingTeardown env).closedDuringHandshake env code reason "auth"
  | .wireAbnormalClose _ =>
    (mc.exitAuthenticatingTeardown env).attemptFailedOrEscalate env .closedDuringHandshake none none none
  | .timerStalenessElapsed =>
    ((mc.emitWebsocketStale env).exitAuthenticatingTeardown env).attemptFailedOrEscalate env
      .closedDuringHandshake none none none
  | .busTokenRefreshFailed _ error =>
    let mc := mc.exitAuthenticatingTeardown env
    if error.retryable then mc.attemptFailedOrEscalate env .tokenRefreshTransient none none none
    else
      { mc with state := .failed }.emitAuthenticationFailed env s!"AuthRefreshFailed: {error.display}"
        .clientError (some error.display)
  | .busTokenRefreshed _ => { mc with awaitingTokenRefresh := false }
  | .timerSubscribeAckTimeout channel pair => mc.handleSubscribeFailure env (channel, pair) true none
  | .callClose requestId =>
    { { mc.exitAuthenticatingToClosing with state := .closing }.armCloseTimeout env with
      pendingCloseRequestId := some requestId }
  | .callForceReconnect requestId =>
    { { mc.exitAuthenticatingToClosing with state := .closing }.armCloseTimeout env with
      pendingReconnectRequestId := some requestId }
  | _ => mc

/-- `(Resubscribing, _)` (handle_event.rs:560-731). -/
def handleResubscribing (mc : ManagedConnection) (env : Env) : FsmEvent → ManagedConnection
  | .wireSubscribeAck channel pair false => mc.disarmSubscribeAck (channel, pair)
  | .wireSubscribeAck channel pair true => (mc.disarmSubscribeAck (channel, pair)).enterOpen env
  | .callClose requestId =>
    { ({ mc with state := .closing }.disarmStaleness.clearSubscribeAckState).armCloseTimeout env with
      pendingCloseRequestId := some requestId }
  | .callForceReconnect requestId =>
    { ({ mc with state := .closing }.disarmStaleness.clearSubscribeAckState).armCloseTimeout env with
      pendingReconnectRequestId := some requestId }.closeSocket
  | .timerSubscribeAckTimeout channel pair => mc.handleSubscribeFailure env (channel, pair) true none
  | .wireSubscribeFailed channel pair error =>
    mc.handleSubscribeFailure env (channel, pair) error.transient (some error.krakenCode)
  | .wireCloseReceived code reason =>
    (mc.exitResubscribingTeardown env).closedDuringHandshake env code reason "resubscribe"
  | .wireAbnormalClose _ =>
    (mc.exitResubscribingTeardown env).attemptFailedOrEscalate env .closedDuringHandshake none none none
  | .timerStalenessElapsed =>
    ((mc.emitWebsocketStale env).exitResubscribingTeardown env).attemptFailedOrEscalate env
      .closedDuringHandshake none none none
  | .busTokenRefreshed _ => { mc with awaitingTokenRefresh := false }
  | .busTokenRefreshFailed _ _ => { mc with awaitingTokenRefresh := false }
  | _ => mc

/-- `(Open, _)` (handle_event.rs:733-902). -/
def handleOpen (mc : ManagedConnection) (env : Env) : FsmEvent → ManagedConnection
  | .wireSubscribeAck channel pair _ => mc.disarmSubscribeAck (channel, pair)
  | .busTokenRefreshed _ => { mc with awaitingTokenRefresh := false }
  | .busTokenRefreshFailed _ _ => { mc with awaitingTokenRefresh := false }
  | .wireOrderAckTokenStale => { mc with awaitingTokenRefresh := true }
  | .wireSubscribeFailed channel pair error =>
    mc.handleSubscribeFailure env (channel, pair) error.transient (some error.krakenCode)
  | .timerSubscribeAckTimeout channel pair => mc.handleSubscribeFailure env (channel, pair) true none
  | .wireCloseReceived code reason =>
    let mc := (mc.exitOpenTeardown env .requestInFlightWhenDropped).clearSubscribeAckState
    if code = 1008 then
      { mc with state := .failed }.emitConnectionFailed env
        s!"ws close {code} (policy violation; non-transient)" false none
    else mc.droppedOrEscalate env (some code) reason
  | .wireAbnormalClose _ =>
    ((mc.exitOpenTeardown env .requestInFlightWhenDropped).clearSubscribeAckState).droppedOrEscalate env none none
  | .timerStalenessElapsed =>
    (((mc.emitWebsocketStale env).exitOpenTeardown env .requestInFlightWhenDropped).clearSubscribeAckState
      ).droppedOrEscalate env none none
  | .callClose requestId =>
    { ({ mc.drainPending env .clientClosed with state := .closing
        }.disarmStaleness.clearSubscribeAckState).armCloseTimeout env with
      pendingCloseRequestId := some requestId }.closeSocket
  | .callForceReconnect requestId =>
    { ({ mc.drainPending env .requestInFlightWhenDropped with state := .closing
        }.disarmStaleness.clearSubscribeAckState).armCloseTimeout env with
      pendingReconnectRequestId := some requestId }.closeSocket
  | _ => mc

/-- A `force_reconnect()` in `BackingOff` takes the connect latch, or joins the cohort behind it. -/
def latchConnect (mc : ManagedConnection) (requestId : Nat) : ManagedConnection :=
  match mc.pendingConnectRequestId with
  | none => { mc with pendingConnectRequestId := some requestId }
  | some _ => { mc with additionalConnectRequestIds := mc.additionalConnectRequestIds ++ [requestId] }

/-- `(BackingOff, _)` (handle_event.rs:904-1017). -/
def handleBackingOff (mc : ManagedConnection) (env : Env) : FsmEvent → ManagedConnection
  | .timerBackoffElapsed =>
    match env.tryConsume with
    | .error t =>
      { mc with timers := { mc.timers with rateBudgetWindowAdvancedAt := some t.throttleUntilMonotonic }
      }.emitRateThrottled env none t
    | .ok () =>
      { mc with
        timers := { mc.timers with backoffDueAt := none }
        attemptCount := satAdd32 mc.attemptCount 1
        state := .connecting
      }.enterConnecting env none
  | .timerRateBudgetWindowAdvanced =>
    match env.tryConsume with
    | .error t =>
      { mc with timers := { mc.timers with rateBudgetWindowAdvancedAt := some t.throttleUntilMonotonic }
      }.emitRateThrottled env none t
    | .ok () =>
      { mc with
        timers := { mc.timers with rateBudgetWindowAdvancedAt := none }
        attemptCount := satAdd32 mc.attemptCount 1
        state := .connecting
      }.enterConnecting env none
  | .callClose requestId =>
    { mc with state := .closed }.emitLifecycle env
      (.connectionClosedEvent mc.url env.now .clientInitiated .socketDropped none) (some requestId)
  | .callForceReconnect requestId =>
    match env.tryConsume with
    | .error t =>
      let mc := mc.latchConnect requestId
      { mc with timers := { mc.timers with rateBudgetWindowAdvancedAt := some t.throttleUntilMonotonic }
      }.emitRateThrottled env (some requestId) t
    | .ok () =>
      ({ mc with
        timers := { mc.timers with backoffDueAt := none }
        attemptCount := 0
        state := .connecting
      }.latchConnect requestId).enterConnecting env (some requestId)
  | _ => mc

/-- `(Closing, _)` (handle_event.rs:1019-1077). -/
def handleClosing (mc : ManagedConnection) (env : Env) : FsmEvent → ManagedConnection
  | .wireCloseReceived _ _ => mc.enterClosedOrReconnect env .clientInitiated .server
  | .wireAbnormalClose _ => mc.enterClosedOrReconnect env .clientInitiated .socketDropped
  | .timerCloseTimeout => mc.enterClosedOrReconnect env .forced .closeTimeout
  | .callClose requestId =>
    match mc.pendingCloseRequestId with
    | some _ => { mc with additionalCloseRequestIds := mc.additionalCloseRequestIds ++ [requestId] }
    | none => { mc with pendingCloseRequestId := some requestId }
  | .callForceReconnect requestId =>
    match mc.pendingReconnectRequestId with
    | none => { mc with pendingReconnectRequestId := some requestId }
    | some _ => { mc with additionalConnectRequestIds := mc.additionalConnectRequestIds ++ [requestId] }
  | _ => mc

/-- `(Failed, _)` (handle_event.rs:1087-1137). -/
def handleFailed (mc : ManagedConnection) (env : Env) : FsmEvent → ManagedConnection
  | .callForceReconnect requestId =>
    match env.tryConsume with
    | .error t =>
      { mc with
        attemptCount := 0
        state := .backingOff
        pendingConnectRequestId := some requestId
        timers := { mc.timers with rateBudgetWindowAdvancedAt := some t.throttleUntilMonotonic }
      }.emitRateThrottled env (some requestId) t
    | .ok () =>
      { mc with
        attemptCount := 0
        state := .connecting
        pendingConnectRequestId := some requestId
      }.enterConnecting env (some requestId)
  | .callClose requestId =>
    { mc with state := .closed }.emitLifecycle env
      (.connectionClosedEvent mc.url env.now .clientInitiated .socketDropped none) (some requestId)
  | _ => mc

/-- `handle_event` (handle_event.rs:11). -/
def handleEvent (mc : ManagedConnection) (env : Env) (event : FsmEvent) : ManagedConnection :=
  match mc.state with
  | .idle => mc.handleIdle env event
  | .connecting => mc.handleConnecting env event
  | .authenticating => mc.handleAuthenticating env event
  | .resubscribing => mc.handleResubscribing env event
  | .opened => mc.handleOpen env event
  | .backingOff => mc.handleBackingOff env event
  | .closing => mc.handleClosing env event
  | .closed => mc
  | .failed => mc.handleFailed env event

end KrakenSdk.Conn.ManagedConnection
