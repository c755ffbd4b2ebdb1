import KrakenSdk.Conn.InFlight
/-!
# The life of one request on the auth connection

A request is refused, and then its frame is never handed to a socket, or it is recorded and its frame is
handed over. From then on it is answered, abandoned by its caller, or failed with the connection
(`Drained`). `Life` is the invariant, `life_run` holds it of every run that submits no id twice, and the
theorems after it read off what the oneshot of a request says about its frame.
-/
namespace KrakenSdk.Conn

/-- The frame of a request that a socket took. -/
def Effect.sentFrame : Effect → Option Json
  | .requestSent _ frame => some frame
  | _ => none

/-- What an effect resolves the future of `reqId` with. -/
def Effect.resolution (reqId : Nat) : Effect → Option (Except ConnectionError WsResponse)
  | .resolve id r => if id = reqId then some r else none
  | _ => none

/-- `ConnectionErrorKind` as text (error.rs:331-350). -/
def ConnectionError.display : ConnectionError → String
  | .notOpen => "Connection is not open; the request was not sent."
  | .requestInFlightWhenDropped => "Connection dropped with the request in flight."
  | .clientClosed => "Client is closed; the in-flight request was abandoned."
  | .loopClosed => "The connection loop closed before the request was answered."
  | .queueFull => "The operation queue is full; the request was rejected."
  | .responseTimeout => "The request deadline elapsed before a response was received."

/-- `ConnectionError::is_definitely_not_sent` (error.rs:395). -/
def ConnectionError.isDefinitelyNotSent : ConnectionError → Bool
  | .notOpen | .queueFull => true
  | .requestInFlightWhenDropped | .clientClosed | .loopClosed | .responseTimeout => false

/-- The errors of a request that was in flight when its connection dropped or closed. -/
def ConnectionError.Drained (e : ConnectionError) : Prop := e = .requestInFlightWhenDropped ∨ e = .clientClosed

namespace ManagedConnection

open StepSystem

/-- The frames of requests that sockets have taken. -/
def sentFrames (mc : ManagedConnection) : List Json := mc.bus.filterMap Effect.sentFrame

/-- What the future of `reqId` has been resolved with. -/
def resolutions (mc : ManagedConnection) (reqId : Nat) : List (Except ConnectionError WsResponse) :=
  mc.bus.filterMap (Effect.resolution reqId)

/-- A socket has taken the frame of the request. -/
def HandedOver (mc : ManagedConnection) (reqId : Nat) : Prop :=
  ∃ frame ∈ mc.sentFrames, frame.get? "req_id" = some (.num (toString reqId))

/-! ## `handle_event` sends no request -/

section sentFrames

variable {mc m : ManagedConnection} {env : Env}

theorem sentFrames_append {new : List Effect} (hb : m.bus = mc.bus ++ new) (hx : ∀ x ∈ new, x.sentFrame = none) :
    m.sentFrames = mc.sentFrames := by
  rw [sentFrames, hb, List.filterMap_append, List.filterMap_eq_nil_iff.2 hx, List.append_nil, sentFrames]

theorem sentFrames_emitLifecycle (payload : EventPayload) (rid : Option Nat) :
    (mc.emitLifecycle env payload rid).sentFrames = mc.sentFrames :=
  sentFrames_append rfl fun x hm => by
    rw [List.mem_singleton.1 hm]
    rfl

theorem sentFrames_drainPending (cause : DrainCause) : (mc.drainPending env cause).sentFrames = mc.sentFrames := by
  have hnone : (mc.pendingRequests.drain cause env.now).2.filterMap Effect.sentFrame = [] :=
    PendingRequestMap.filterMap_drain (fun _ _ => rfl) (fun _ _ => rfl) mc.pendingRequests cause
  exact sentFrames_append rfl (List.filterMap_eq_nil_iff.1 hnone)

theorem sentFrames_closeSocket : mc.closeSocket.sentFrames = mc.sentFrames :=
  sentFrames_append rfl fun x hm => by
    obtain ⟨s, -, rfl⟩ := List.mem_map.1 hm
    rfl

theorem sentFrames_enterOpen : (mc.enterOpen env).sentFrames = mc.sentFrames := by
  refine sentFrames_append rfl fun x hm => ?_
  rcases List.mem_cons.1 hm with rfl | hm
  · rfl
  · obtain ⟨rid, -, rfl⟩ := List.mem_map.1 hm
    rfl

theorem sentFrames_emitConnectionFailed (lastError : String) (transient : Bool) (cls : Option NonTransientClass) :
    (mc.emitConnectionFailed env lastError transient cls).sentFrames = mc.sentFrames := by
  refine sentFrames_append rfl fun x hm => ?_
  split at hm
  · rw [List.mem_singleton.1 hm]
    rfl
  · obtain ⟨rid, -, rfl⟩ := List.mem_map.1 hm
    rfl

theorem sentFrames_escalate : (mc.escalate env).sentFrames = mc.sentFrames :=
  (sentFrames_emitConnectionFailed _ _ _).trans rfl

theorem sentFrames_attemptFailed (cls : TransientClass) (krakenError : Option String) (httpStatus closeCode : Option Nat) :
    (mc.attemptFailed env cls krakenError httpStatus closeCode).sentFrames = mc.sentFrames :=
  (sentFrames_emitLifecycle _ _).trans rfl

theorem sentFrames_attemptFailedOrEscalate (cls : TransientClass) (krakenError : Option String)
    (httpStatus closeCode : Option Nat) :
    (mc.attemptFailedOrEscalate env cls krakenError httpStatus closeCode).sentFrames = mc.sentFrames := by
  unfold attemptFailedOrEscalate
  split
  · exact sentFrames_escalate
  · exact sentFrames_attemptFailed ..

theorem sentFrames_droppedOrEscalate (closeCode : Option Nat) (reason : Option String) :
    (mc.droppedOrEscalate env closeCode reason).sentFrames = mc.sentFrames := by
  unfold droppedOrEscalate
  split
  · exact sentFrames_escalate
  · exact (sentFrames_emitLifecycle _ _).trans rfl

theorem sentFrames_closedDuringHandshake (code : Nat) (reason : Option String) (phase : String) :
    (mc.closedDuringHandshake env code reason phase).sentFrames = mc.sentFrames := by
  unfold closedDuringHandshake
  split
  · exact (sentFrames_emitConnectionFailed _ _ _).trans rfl
  · exact sentFrames_attemptFailedOrEscalate ..

theorem sentFrames_emitAuthenticationFailed (lastError : String) (cls : NonTransientClass) (krakenResponse : Option String) :
    (mc.emitAuthenticationFailed env lastError cls krakenResponse).sentFrames = mc.sentFrames :=
  (sentFrames_emitLifecycle _ _).trans (sentFrames_emitConnectionFailed _ _ _)

theorem sentFrames_enterConnecting (rid : Option Nat) : (mc.enterConnecting env rid).sentFrames = mc.sentFrames :=
  (sentFrames_emitLifecycle _ _).trans rfl

theorem sentFrames_reenterConnecting (rid : Nat) : (mc.reenterConnecting env rid).sentFrames = mc.sentFrames := by
  unfold reenterConnecting
  split
  · exact (sentFrames_emitLifecycle _ _).trans rfl
  · exact (sentFrames_enterConnecting _).trans rfl

theorem sentFrames_exitHandshake : (mc.exitResubscribingTeardown env).sentFrames = mc.sentFrames :=
  (sentFrames_drainPending _).trans rfl

theorem sentFrames_exitOpen (cause : DrainCause) :
    ((mc.exitOpenTeardown env cause).clearSubscribeAckState).sentFrames = mc.sentFrames := by
  show (mc.drainPending env cause).sentFrames = mc.sentFrames
  exact sentFrames_drainPending cause

theorem sentFrames_completeResubscribeIfEmpty : (mc.completeResubscribeIfEmpty env).sentFrames = mc.sentFrames := by
  unfold completeResubscribeIfEmpty
  split
  · exact sentFrames_enterOpen
  · rfl

theorem sentFrames_handleSubscribeFailure (key : EntryKey) (transient : Bool) (lastError : Option String) :
    (mc.handleSubscribeFailure env key transient lastError).sentFrames = mc.sentFrames := by
  unfold handleSubscribeFailure
  dsimp only
  split
  · unfold retrySubscribe
    dsimp only
    split_ifs
    · rfl
    · exact (sentFrames_droppedOrEscalate _ _).trans sentFrames_exitHandshake
    · exact (sentFrames_attemptFailed _ _ _ _).trans sentFrames_exitHandshake
  · unfold terminateEntry
    refine sentFrames_completeResubscribeIfEmpty.trans (sentFrames_append rfl fun x hm => ?_)
    rw [List.mem_singleton.1 hm]
    rfl

variable (e : FsmEvent)

theorem sentFrames_handleIdle : (mc.handleIdle env e).sentFrames = mc.sentFrames := by
  cases e <;> simp only [handleIdle]
  case callStartConnect | callForceReconnect =>
    split
    · exact (sentFrames_emitLifecycle _ _).trans rfl
    · exact (sentFrames_enterConnecting _).trans rfl
  case callClose => exact (sentFrames_emitLifecycle _ _).trans rfl

theorem sentFrames_handleConnecting : (mc.handleConnecting env e).sentFrames = mc.sentFrames := by
  cases e <;> simp only [handleConnecting]
  case wireUpgradeFailed | wireConnectError =>
    split
    · unfold connectFailedOrEscalate
      split
      · exact sentFrames_escalate
      · exact (sentFrames_attemptFailed _ _ _ _).trans rfl
    · exact (sentFrames_emitConnectionFailed _ _ _).trans rfl
  case timerUpgradeTimeout => exact (sentFrames_attemptFailedOrEscalate _ _ _ _).trans rfl
  case callForceReconnect => split <;> rfl
  all_goals rfl

theorem sentFrames_handleAuthenticating : (mc.handleAuthenticating env e).sentFrames = mc.sentFrames := by
  cases e
  case wireAuthHandshakeFailed kind =>
    cases kind <;> simp only [handleAuthenticating]
    case tokenStale =>
      split
      · exact (sentFrames_emitAuthenticationFailed _ _ _).trans (sentFrames_exitHandshake.trans rfl)
      · rfl
    case transient => exact (sentFrames_attemptFailedOrEscalate _ _ _ _).trans sentFrames_exitHandshake
    all_goals exact (sentFrames_emitAuthenticationFailed _ _ _).trans sentFrames_exitHandshake
  all_goals simp only [handleAuthenticating]
  case wireCloseReceived => exact (sentFrames_closedDuringHandshake _ _ _).trans sentFrames_exitHandshake
  case wireAbnormalClose => exact (sentFrames_attemptFailedOrEscalate _ _ _ _).trans sentFrames_exitHandshake
  case timerStalenessElapsed =>
    exact (sentFrames_attemptFailedOrEscalate _ _ _ _).trans (sentFrames_exitHandshake.trans (sentFrames_emitLifecycle _ _))
  case busTokenRefreshFailed =>
    split
    · exact (sentFrames_attemptFailedOrEscalate _ _ _ _).trans sentFrames_exitHandshake
    · exact (sentFrames_emitAuthenticationFailed _ _ _).trans sentFrames_exitHandshake
  case timerSubscribeAckTimeout => exact sentFrames_handleSubscribeFailure ..
  case wireOrderAuthOk => exact sentFrames_enterOpen.trans rfl
  all_goals rfl

theorem sentFrames_handleResubscribing : (mc.handleResubscribing env e).sentFrames = mc.sentFrames := by
  cases e
  case wireSubscribeAck channel pair last =>
    cases last <;> simp only [handleResubscribing]
    · rfl
    · exact sentFrames_enterOpen.trans rfl
  all_goals simp only [handleResubscribing]
  case wireCloseReceived => exact (sentFrames_closedDuringHandshake _ _ _).trans sentFrames_exitHandshake
  case wireAbnormalClose => exact (sentFrames_attemptFailedOrEscalate _ _ _ _).trans sentFrames_exitHandshake
  case timerStalenessElapsed =>
    exact (sentFrames_attemptFailedOrEscalate _ _ _ _).trans (sentFrames_exitHandshake.trans (sentFrames_emitLifecycle _ _))
  case timerSubscribeAckTimeout | wireSubscribeFailed => exact sentFrames_handleSubscribeFailure ..
  case callForceReconnect => exact sentFrames_closeSocket.trans rfl
  all_goals rfl

theorem sentFrames_handleOpen : (mc.handleOpen env e).sentFrames = mc.sentFrames := by
  cases e <;> simp only [handleOpen]
  case wireCloseReceived =>
    split
    · exact (sentFrames_emitConnectionFailed _ _ _).trans (sentFrames_exitOpen _)
    · exact (sentFrames_droppedOrEscalate _ _).trans (sentFrames_exitOpen _)
  case wireAbnormalClose => exact (sentFrames_droppedOrEscalate _ _).trans (sentFrames_exitOpen _)
  case timerStalenessElapsed =>
    exact (sentFrames_droppedOrEscalate _ _).trans ((sentFrames_exitOpen _).trans (sentFrames_emitLifecycle _ _))
  case timerSubscribeAckTimeout | wireSubscribeFailed => exact sentFrames_handleSubscribeFailure ..
  case callClose => exact sentFrames_closeSocket.trans (sentFrames_drainPending .clientClosed)
  case callForceReconnect => exact sentFrames_closeSocket.trans (sentFrames_drainPending .requestInFlightWhenDropped)
  all_goals rfl

theorem sentFrames_handleBackingOff : (mc.handleBackingOff env e).sentFrames = mc.sentFrames := by
  cases e <;> simp only [handleBackingOff]
  case timerBackoffElapsed | timerRateBudgetWindowAdvanced =>
    split
    · exact (sentFrames_emitLifecycle _ _).trans rfl
    · exact (sentFrames_enterConnecting _).trans rfl
  case callForceReconnect =>
    have hlatch : ∀ (mc : ManagedConnection) (rid : Nat), (mc.latchConnect rid).sentFrames = mc.sentFrames := by
      intro mc rid
      unfold latchConnect
      split <;> rfl
    split
    · exact (sentFrames_emitLifecycle _ _).trans (hlatch mc _)
    · exact (sentFrames_enterConnecting _).trans ((hlatch _ _).trans rfl)
  case callClose => exact (sentFrames_emitLifecycle _ _).trans rfl

theorem sentFrames_enterClosedOrReconnect (reason : ClosedReason) (ack : AckSource) :
    (mc.enterClosedOrReconnect env reason ack).sentFrames = mc.sentFrames := by
  unfold enterClosedOrReconnect
  dsimp only
  have hclosed : ∀ {rids : List Nat} {f : Nat → Effect}, (∀ rid, (f rid).sentFrame = none) → ∀ x ∈ rids.map f,
      x.sentFrame = none := by
    intro rids f hf x hm
    obtain ⟨rid, -, rfl⟩ := List.mem_map.1 hm
    exact hf rid
  split
  · exact (sentFrames_reenterConnecting _).trans
      ((sentFrames_append rfl (hclosed fun _ => rfl)).trans ((sentFrames_drainPending _).trans rfl))
  · exact (sentFrames_append rfl (hclosed fun _ => rfl)).trans ((sentFrames_drainPending _).trans rfl)

theorem sentFrames_handleClosing : (mc.handleClosing env e).sentFrames = mc.sentFrames := by
  cases e <;> simp only [handleClosing]
  case wireCloseReceived | wireAbnormalClose | timerCloseTimeout => exact sentFrames_enterClosedOrReconnect ..
  case callClose | callForceReconnect => split <;> rfl

theorem sentFrames_handleFailed : (mc.handleFailed env e).sentFrames = mc.sentFrames := by
  cases e <;> simp only [handleFailed]
  case callForceReconnect =>
    split
    · exact (sentFrames_emitLifecycle _ _).trans rfl
    · exact (sentFrames_enterConnecting _).trans rfl
  case callClose => exact (sentFrames_emitLifecycle _ _).trans rfl

theorem sentFrames_handleEvent : (mc.handleEvent env e).sentFrames = mc.sentFrames := by
  unfold handleEvent
  split
  · exact sentFrames_handleIdle e
  · exact sentFrames_handleConnecting e
  · exact sentFrames_handleAuthenticating e
  · exact sentFrames_handleResubscribing e
  · exact sentFrames_handleOpen e
  · exact sentFrames_handleBackingOff e
  · exact sentFrames_handleClosing e
  · rfl
  · exact sentFrames_handleFailed e

end sentFrames

/-! ## What a step resolves -/

/-- A resolution by a drain. -/
def Drains (r : Except ConnectionError WsResponse) : Prop := ∃ e, r = .error e ∧ e.Drained

/-- From `mc` to `m` no request is sent, and every future resolved is resolved as `p` says. -/
structure Resolves (p : Nat → Except ConnectionError WsResponse → Prop) (mc m : ManagedConnection) : Prop where
  sent : m.sentFrames = mc.sentFrames
  bus : ∃ new, m.bus = mc.bus ++ new ∧ ∀ id r, Effect.resolve id r ∈ new → p id r

section resolves

variable {mc m m' : ManagedConnection} {env : Env} {p q : Nat → Except ConnectionError WsResponse → Prop}

theorem Resolves.of_eq (hb : m.bus = mc.bus) : Resolves p mc m :=
  ⟨by rw [sentFrames, hb, sentFrames], [], by simp [hb], fun _ _ h => absurd h List.not_mem_nil⟩

theorem Resolves.trans (h : Resolves p mc m) (h' : Resolves p m m') : Resolves p mc m' := by
  obtain ⟨hs, xs, hb, hx⟩ := h
  obtain ⟨hs', ys, hb', hy⟩ := h'
  refine ⟨hs'.trans hs, xs ++ ys, by rw [hb', hb, List.append_assoc], fun id r hm => ?_⟩
  rcases List.mem_append.1 hm with hm | hm
  · exact hx id r hm
  · exact hy id r hm

theorem Resolves.mono (h : Resolves p mc m) (hpq : ∀ id r, p id r → q id r) : Resolves q mc m := by
  obtain ⟨hs, new, hb, hn⟩ := h
  exact ⟨hs, new, hb, fun id r hm => hpq id r (hn id r hm)⟩

/-- Effects that neither send nor resolve. -/
theorem resolves_perform {new : List Effect} (hs : ∀ x ∈ new, x.sentFrame = none) (hr : ∀ id r, Effect.resolve id r ∉ new) :
    Resolves p mc (mc.perform new) :=
  ⟨sentFrames_append rfl hs, new, rfl, fun id r hm => absurd hm (hr id r)⟩

/-- The calls into the auth stack. -/
theorem resolves_authStack (call : AuthStackCall) : Resolves p mc (mc.perform [.authStack call]) :=
  resolves_perform (by simp [Effect.sentFrame]) (by simp)

/-- A transition of the FSM resolves by drains only. -/
theorem resolves_of_transition (h : Transition mc m) (hs : m.sentFrames = mc.sentFrames) :
    Resolves (fun _ => Drains) mc m := by
  refine ⟨hs, ?_⟩
  have hnone : ∀ {xs : List Effect} {q : Effect → Prop}, (∀ x ∈ xs, x.resolvedId = none ∧ q x) →
      ∀ id r, Effect.resolve id r ∉ xs := by
    intro xs q hx id r hm
    cases (hx _ hm).1
  cases h with
  | kept h _ =>
    obtain ⟨-, xs, hb, hx⟩ := h
    exact ⟨xs, hb, fun id r hm => absurd hm (hnone hx id r)⟩
  | drained m' env cause before after =>
    obtain ⟨-, xs, hb, hx⟩ := before
    obtain ⟨-, ys, hb', hy⟩ := after
    refine ⟨xs ++ (m'.pendingRequests.drain cause env.now).2 ++ ys, by simp [hb', drainPending, hb], fun id r hm => ?_⟩
    rcases List.mem_append.1 hm with hm | hm
    · rcases List.mem_append.1 hm with hm | hm
      · exact absurd hm (hnone hx id r)
      · obtain ⟨p, -, hm⟩ := List.mem_flatMap.1 hm
        rcases List.mem_cons.1 hm with hm | hm
        · cases hm
          refine ⟨_, rfl, ?_⟩
          cases cause
          · exact .inl rfl
          · exact .inr rfl
        · simp [PendingRequestMap.requestFailed] at hm
    · exact absurd hm (hnone hy id r)

theorem resolves_handleEvent (e : FsmEvent) : Resolves (fun _ => Drains) mc (mc.handleEvent env e) :=
  resolves_of_transition (transition_handleEvent e) (sentFrames_handleEvent e)

theorem resolves_completeResubscribeIfEmpty : Resolves (fun _ => Drains) mc (mc.completeResubscribeIfEmpty env) :=
  resolves_of_transition transition_completeResubscribeIfEmpty sentFrames_completeResubscribeIfEmpty

theorem resolves_sendSubscribeFrame (socket : SocketId) (f : SubscribeFrame) (reqId : Nat) (context : String) :
    Resolves (fun _ => Drains) mc (mc.sendSubscribeFrame env socket f reqId context).2 := by
  unfold sendSubscribeFrame
  split
  · exact resolves_perform (by simp [Effect.sentFrame]) (by simp)
  · exact resolves_of_transition (by exact transition_handleSubscribeFailure f.key true none)
      (by exact sentFrames_handleSubscribeFailure f.key true none)
  · exact resolves_handleEvent _

theorem resolves_sendFrames (socket : SocketId) (context : String) (fs : List SubscribeFrame) :
    Resolves (fun _ => Drains) mc (mc.sendFrames env socket context fs) := by
  induction fs generalizing mc with
  | nil => exact .of_eq rfl
  | cons f fs ih =>
    simp only [sendFrames]
    have hsend := @resolves_sendSubscribeFrame mc.takeSubscribeReqId.2 env socket f mc.takeSubscribeReqId.1 context
    generalize mc.takeSubscribeReqId.2.sendSubscribeFrame env socket f mc.takeSubscribeReqId.1 context = out at hsend
    have htake : Resolves (fun _ => Drains) mc mc.takeSubscribeReqId.2 := .of_eq rfl
    obtain ⟨outcome, m⟩ := out
    cases outcome
    case sent =>
      have harm : Resolves (fun _ => Drains) m (m.armSubscribeAckTimerWithReqId env f.key mc.takeSubscribeReqId.1) := .of_eq rfl
      exact ((htake.trans hsend).trans harm).trans ih
    case backpressured =>
      dsimp only
      split
      · exact (htake.trans hsend).trans ih
      · exact htake.trans hsend
    case writerDead => exact htake.trans hsend

theorem resolves_deferAll (fs : List SubscribeFrame) :
    Resolves p mc (fs.foldl (fun mc f => mc.deferOpenAuthSubscribe f.key f.params) mc) := by
  induction fs generalizing mc with
  | nil => exact .of_eq rfl
  | cons f fs ih =>
    refine .trans ?_ ih
    simp only [deferOpenAuthSubscribe]
    split <;> exact .of_eq rfl

theorem resolves_refreshOnce : Resolves p mc mc.refreshOnce := by
  unfold refreshOnce
  split
  · exact .of_eq rfl
  · refine .trans ?_ (resolves_authStack _)
    exact .of_eq rfl

theorem resolves_sendRemainingSignedSubscribes (r : ReactorEnv) (alreadySent : Option EntryKey) :
    Resolves (fun _ => Drains) mc (mc.sendRemainingSignedSubscribes r alreadySent) := by
  unfold sendRemainingSignedSubscribes
  dsimp only
  split
  · exact (resolves_deferAll _).trans resolves_refreshOnce
  · split
    · exact .of_eq rfl
    · exact resolves_sendFrames _ _ _

theorem resolves_drainOneRetryable (reqId : Nat) : Resolves (fun _ => Drains) mc (mc.drainOneRetryable env reqId) := by
  unfold drainOneRetryable PendingRequestMap.drainOneRetryable
  split
  · refine ⟨sentFrames_append rfl (by simp [Effect.sentFrame, PendingRequestMap.requestFailed]), _, rfl, fun id r hm => ?_⟩
    rcases List.mem_cons.1 hm with hm | hm
    · cases hm
      exact ⟨_, rfl, .inl rfl⟩
    · simp [PendingRequestMap.requestFailed] at hm
  · exact .of_eq (by simp)

theorem resolves_driveAuthProbe (r : ReactorEnv) (reqId : Nat) (ack : OrderAckAuth) :
    Resolves (fun _ => Drains) mc (mc.driveAuthProbe r reqId ack) := by
  cases ack <;> simp only [driveAuthProbe]
  case authenticated =>
    split
    · split
      · exact (resolves_handleEvent _).trans
          ((resolves_sendRemainingSignedSubscribes r none).trans resolves_completeResubscribeIfEmpty)
      · exact resolves_handleEvent _
    · exact resolves_handleEvent _
  case authFailed kind =>
    split
    · exact (resolves_handleEvent _).trans (resolves_drainOneRetryable reqId)
    · exact resolves_handleEvent _

theorem resolves_recoverTokenStale (r : ReactorEnv) (reqId : Nat) :
    Resolves (fun _ => Drains) mc (mc.recoverTokenStale r reqId) := by
  unfold recoverTokenStale
  refine .trans ?_ (resolves_drainOneRetryable reqId)
  refine .trans ?_ (resolves_authStack _)
  refine .trans (m := (mc.handleEvent r.toEnv .wireOrderAckTokenStale).perform [.authStack .invalidateCachedToken]) ?_
    (.of_eq rfl)
  exact (resolves_handleEvent _).trans (resolves_authStack _)

/-- The answer of one request, or a drain. -/
def AnswerOf (resp : WsResponse) (id : Nat) (r : Except ConnectionError WsResponse) : Prop :=
  Drains r ∨ id = resp.reqId ∧ r = .ok resp

theorem resolves_routeResponse (r : ReactorEnv) (resp : WsResponse) : Resolves (AnswerOf resp) mc (mc.routeResponse r resp) := by
  have hdrains : ∀ {mc m : ManagedConnection}, Resolves (fun _ => Drains) mc m → Resolves (AnswerOf resp) mc m :=
    fun h => h.mono fun _ _ => .inl
  have hprobe : ∀ ack, Resolves (AnswerOf resp) mc
      (if mc.state = .authenticating then mc.driveAuthProbe r resp.reqId ack else mc) := by
    intro ack
    split
    · exact hdrains (resolves_driveAuthProbe _ _ _)
    · exact .of_eq rfl
  have hstale : ∀ (m : ManagedConnection) (ack : OrderAckAuth), Resolves (AnswerOf resp) m
      (if m.state = .opened ∧ ack = .authFailed .tokenStale then m.recoverTokenStale r resp.reqId else m) := by
    intro m ack
    split
    · exact hdrains (resolves_recoverTokenStale _ _)
    · exact .of_eq rfl
  have hresolve : ∀ m : ManagedConnection, Resolves (AnswerOf resp) m
      (if m.pendingRequestsContains resp.reqId then m.resolvePendingRequest resp else m) := by
    intro m
    split
    · unfold resolvePendingRequest PendingRequestMap.resolve
      split
      · refine ⟨sentFrames_append rfl (by simp [Effect.sentFrame]), _, rfl, fun id r hm => ?_⟩
        cases List.mem_singleton.1 hm
        exact .inr ⟨rfl, rfl⟩
      · exact .of_eq (by simp)
    · exact .of_eq rfl
  exact ((hprobe _).trans (hstale _ _)).trans (hresolve _)

/-- A request abandoned is resolved with its deadline's error. -/
theorem resolves_abandonWsRequest (reqId : Nat) :
    Resolves (fun id r => id = reqId ∧ r = .error .responseTimeout) mc (mc.abandonWsRequest reqId) := by
  unfold abandonWsRequest failPendingRequest PendingRequestMap.failOne
  split
  · refine ⟨sentFrames_append rfl (by simp [Effect.sentFrame]), _, rfl, fun id r hm => ?_⟩
    cases List.mem_singleton.1 hm
    exact ⟨rfl, rfl⟩
  · exact .of_eq (by simp)

/-- What a step may resolve, a request frame apart. -/
def Permits (act : WsAct) (id : Nat) (r : Except ConnectionError WsResponse) : Prop :=
  match act with
  | .requestResponse json => Drains r ∨ ∃ resp, decodeResponse json = some (some resp) ∧ id = resp.reqId ∧ r = .ok resp
  | .abandonWsRequest reqId => id = reqId ∧ r = .error .responseTimeout
  | _ => Drains r

theorem resolves_wsStep {l : WsLabel} (hl : ∀ f, l.act ≠ .wsRequestFrame f) : Resolves (Permits l.act) mc (mc.wsStep l) := by
  obtain ⟨r, act⟩ := l
  cases act with
  | event e =>
    have hpop : Resolves (fun _ => Drains) mc (mc.popTimerForEvent e) := by cases e <;> exact .of_eq rfl
    exact hpop.trans (resolves_handleEvent e)
  | update u =>
    cases u <;> simp only [wsStep, applyUpdate]
    case completeResubscribeIfEmpty => exact resolves_completeResubscribeIfEmpty
    case deferOpenAuthSubscribe =>
      unfold deferOpenAuthSubscribe
      split <;> exact .of_eq rfl
    all_goals exact .of_eq rfl
  | sendSubscribe socket f reqId context => exact resolves_sendSubscribeFrame _ _ _ _
  | wsRequestFrame f => exact absurd rfl (hl f)
  | requestResponse json =>
    simp only [wsStep, handleRequestResponse]
    split
    · exact .of_eq rfl
    · exact .of_eq rfl
    · rename_i resp hdecode
      refine (resolves_routeResponse r resp).mono fun id res h => h.imp_right ?_
      rintro ⟨rfl, rfl⟩
      exact ⟨resp, hdecode, rfl, rfl⟩
  | abandonWsRequest reqId => exact resolves_abandonWsRequest reqId

/-! ### In terms of one request -/

theorem resolution_eq_some {reqId : Nat} {x : Effect} {r : Except ConnectionError WsResponse} :
    x.resolution reqId = some r ↔ x = .resolve reqId r := by
  cases x <;> simp [Effect.resolution, eq_comm]

/-- The future of a request is resolved as the step permits. -/
theorem Resolves.resolutions (h : Resolves p mc m) (reqId : Nat) :
    ∃ rs, m.resolutions reqId = mc.resolutions reqId ++ rs ∧ ∀ r ∈ rs, p reqId r := by
  obtain ⟨-, new, hb, hn⟩ := h
  refine ⟨new.filterMap (Effect.resolution reqId), by simp [ManagedConnection.resolutions, hb], fun r hm => ?_⟩
  obtain ⟨x, hx, hr⟩ := List.mem_filterMap.1 hm
  rw [resolution_eq_some.1 hr] at hx
  exact hn reqId r hx

theorem count_resolved (mc : ManagedConnection) (reqId : Nat) : mc.resolved.count reqId = (mc.resolutions reqId).length := by
  unfold resolved ManagedConnection.resolutions
  induction mc.bus with
  | nil => rfl
  | cons x xs ih =>
    cases x with
    | resolve id r =>
      by_cases hid : id = reqId <;> simp [Effect.resolvedId, Effect.resolution, hid, ih]
    | _ => exact ih

theorem accounted_eq (mc : ManagedConnection) (reqId : Nat) :
    mc.accounted reqId = mc.pendingRequests.keys.count reqId + (mc.resolutions reqId).length := by
  rw [accounted, count_resolved]

/-- A request frame is refused, or handed over. -/
theorem handleWsRequestFrame_cases (r : ReactorEnv) (f : WsRequestFrame) :
    ((mc.handleWsRequestFrame r f).sentFrames = mc.sentFrames ∧
        ∀ id, (mc.handleWsRequestFrame r f).resolutions id =
          mc.resolutions id ++ if id = f.reqId then [.error .notOpen] else []) ∨
      ∃ token, (mc.handleWsRequestFrame r f).sentFrames = mc.sentFrames ++ [f.composed token] ∧
        ∀ id, (mc.handleWsRequestFrame r f).resolutions id = mc.resolutions id := by
  have hrefuse : ∀ m : ManagedConnection, m.sentFrames = mc.sentFrames → (∀ id, m.resolutions id = mc.resolutions id) →
      (m.rejectNotOpen f.reqId).sentFrames = mc.sentFrames ∧ ∀ id, (m.rejectNotOpen f.reqId).resolutions id =
        mc.resolutions id ++ if id = f.reqId then [.error .notOpen] else [] := by
    intro m hs hr
    refine ⟨(sentFrames_append rfl (by simp [Effect.sentFrame])).trans hs, fun id => ?_⟩
    show (m.bus ++ _).filterMap _ = _
    rw [List.filterMap_append, ← hr id]
    by_cases hid : id = f.reqId
    · simp [ManagedConnection.resolutions, Effect.resolution, hid]
    · simp [ManagedConnection.resolutions, Effect.resolution, hid, Ne.symm hid]
  unfold handleWsRequestFrame
  split
  · exact .inl (hrefuse mc rfl fun _ => rfl)
  · split
    · refine .inl (hrefuse _ ?_ fun id => ?_)
      · simp [sentFrames, perform, setAwaitingTokenRefresh, Effect.sentFrame]
      · simp [ManagedConnection.resolutions, perform, setAwaitingTokenRefresh, Effect.resolution]
    · rename_i token _
      dsimp only
      split
      · refine .inr ⟨token, ?_, fun id => ?_⟩
        · simp [sentFrames, perform, recordPendingRequest, Effect.sentFrame]
        · simp [ManagedConnection.resolutions, perform, recordPendingRequest, Effect.resolution]
      · left
        have hfail : (mc.recordPendingRequest { reqId := f.reqId, op := f.op, sentAt := r.now }).failPendingRequest f.reqId
            .notOpen = { mc with
              pendingRequests := (mc.pendingRequests.insert f.reqId ⟨f.reqId, f.op, r.now⟩).erase f.reqId
              bus := mc.bus ++ [.resolve f.reqId (.error .notOpen)] } := by
          simp [failPendingRequest, PendingRequestMap.failOne, recordPendingRequest, PendingRequestMap.record]
        rw [hfail]
        refine ⟨sentFrames_append rfl (by simp [Effect.sentFrame]), fun id => ?_⟩
        show (mc.bus ++ _).filterMap _ = _
        rw [List.filterMap_append]
        by_cases hid : id = f.reqId
        · simp [ManagedConnection.resolutions, Effect.resolution, hid]
        · simp [ManagedConnection.resolutions, Effect.resolution, hid, Ne.symm hid]

end resolves

/-! ## Every run -/

/-- The number in a frame is the id of its request. -/
theorem toString_inj {n k : Nat} (h : toString n = toString k) : n = k := by
  have hn := Nat.ofDigitChars_ten_toDigits (n := n)
  rw [← Nat.toList_repr, show n.repr = k.repr from h, Nat.toList_repr, Nat.ofDigitChars_ten_toDigits] at hn
  exact hn.symm

theorem reqId_composed (f : WsRequestFrame) (token : String) (reqId : Nat) :
    (f.composed token).get? "req_id" = some (.num (toString reqId)) ↔ f.reqId = reqId := by
  have hfield : (f.composed token).get? "req_id" = some (.num (toString f.reqId)) := rfl
  rw [hfield]
  constructor
  · intro h
    exact toString_inj (Json.num.inj (Option.some.inj h))
  · rintro rfl
    rfl

/-- A request is handed over exactly if it has been taken in and not refused. -/
def Life (mc : ManagedConnection) (reqId : Nat) : Prop :=
  mc.HandedOver reqId ↔ mc.accounted reqId = 1 ∧ .error .notOpen ∉ mc.resolutions reqId

section life

variable {mc m : ManagedConnection} {reqId : Nat}

theorem not_permits_notOpen {act : WsAct} : ¬ Permits act reqId (.error .notOpen) := by
  have hdrains : ¬ Drains (.error .notOpen) := by
    rintro ⟨e, he, rfl | rfl⟩ <;> cases he
  cases act with
  | requestResponse json =>
    rintro (h | ⟨resp, -, -, h⟩)
    · exact hdrains h
    · cases h
  | abandonWsRequest id =>
    rintro ⟨-, h⟩
    cases h
  | _ => exact hdrains

theorem handedOver_congr (h : m.sentFrames = mc.sentFrames) : m.HandedOver reqId ↔ mc.HandedOver reqId := by
  unfold HandedOver
  rw [h]

theorem life_wsStep (l : WsLabel) (ls : List WsLabel) (honce : mc.OnceOnly (l :: ls)) (h : mc.Life reqId) :
    (mc.wsStep l).Life reqId := by
  have hacc := (carries_wsStep l (onceOnly_fresh honce) honce.1).2 reqId
  have hle := honce.2 reqId
  rw [submittedIds, List.flatMap_cons, List.count_append] at hle
  by_cases hl : ∃ f, l.act = .wsRequestFrame f
  · obtain ⟨f, hf⟩ := hl
    have hsub : submitted l = [f.reqId] := by rw [submitted, hf]
    have hstep : mc.wsStep l = mc.handleWsRequestFrame l.env f := by rw [wsStep, hf]
    rw [hsub] at hacc hle
    by_cases hid : reqId = f.reqId
    · -- Its own frame: nothing is known of the request before.
      subst hid
      rw [List.count_singleton_self] at hacc hle
      have hzero : mc.accounted f.reqId = 0 := by omega
      have hnone : mc.resolutions f.reqId = [] := by
        rw [accounted_eq] at hzero
        exact List.eq_nil_of_length_eq_zero (by omega)
      have hnot : ¬ mc.HandedOver f.reqId := by
        intro hh
        have hone := (h.1 hh).1
        omega
      rcases @handleWsRequestFrame_cases mc l.env f with ⟨hs, hr⟩ | ⟨token, hs, hr⟩
      · rw [Life, hstep, handedOver_congr hs, hr, if_pos rfl]
        exact ⟨fun hh => absurd hh hnot, fun hh => absurd (by simp) hh.2⟩
      · rw [Life, hacc, hstep, hr, hnone]
        refine ⟨fun _ => ⟨by omega, by simp⟩, fun _ => ⟨f.composed token, by simp [hs], ?_⟩⟩
        exact (reqId_composed f token f.reqId).2 rfl
    · rw [List.count_singleton, if_neg (by simpa using Ne.symm hid)] at hacc
      rcases @handleWsRequestFrame_cases mc l.env f with ⟨hs, hr⟩ | ⟨token, hs, hr⟩
      · rw [Life, hacc, hstep, handedOver_congr hs, hr, if_neg hid, List.append_nil]
        exact h
      · have hhanded : (mc.handleWsRequestFrame l.env f).HandedOver reqId ↔ mc.HandedOver reqId := by
          unfold HandedOver
          rw [hs]
          constructor
          · rintro ⟨frame, hm, hframe⟩
            rcases List.mem_append.1 hm with hm | hm
            · exact ⟨frame, hm, hframe⟩
            · rw [List.mem_singleton.1 hm, reqId_composed] at hframe
              exact absurd hframe.symm hid
          · rintro ⟨frame, hm, hframe⟩
            exact ⟨frame, List.mem_append_left _ hm, hframe⟩
        rw [Life, hacc, hstep, hhanded, hr]
        exact h
  · have hans : Resolves (Permits l.act) mc (mc.wsStep l) := resolves_wsStep fun f hf => hl ⟨f, hf⟩
    have hsub : submitted l = [] := by
      unfold submitted
      split
      · rename_i f hf
        exact absurd ⟨f, hf⟩ hl
      · rfl
    obtain ⟨rs, hrs, hp⟩ := hans.resolutions reqId
    have hno : Except.error ConnectionError.notOpen ∉ rs := fun hm => not_permits_notOpen (hp _ hm)
    rw [hsub, List.count_nil] at hacc
    rw [Life, hacc, handedOver_congr hans.sent, hrs, List.mem_append, not_or, and_iff_left hno]
    exact h

theorem life_new (url : WsUrl) (knobs : Knobs) (reqId : Nat) : (new url knobs).Life reqId := by
  refine ⟨?_, fun h => by cases h.1⟩
  rintro ⟨frame, hm, -⟩
  cases hm

theorem life_run (url : WsUrl) (knobs : Knobs) {ls : List WsLabel} (hd : (submittedIds ls).Nodup) (reqId : Nat) :
    (wsRun url knobs ls).OnceOnly [] ∧ (wsRun url knobs ls).Life reqId := by
  have hstep : ∀ (mc : ManagedConnection) (l : WsLabel) (ls : List WsLabel), mc.OnceOnly (l :: ls) ∧ mc.Life reqId →
      (mc.wsStep l).OnceOnly ls ∧ (mc.wsStep l).Life reqId :=
    fun mc l ls h => ⟨onceOnly_step mc l ls h.1, life_wsStep l ls h.1 h.2⟩
  exact exec_remaining (J := fun (mc : ManagedConnection) (ls : List WsLabel) => mc.OnceOnly ls ∧ mc.Life reqId) hstep ls
    ⟨onceOnly_new url knobs hd, life_new url knobs reqId⟩

/-- What has been resolved stays resolved. -/
theorem resolutions_wsStep (mc : ManagedConnection) (l : WsLabel) (reqId : Nat) :
    ∃ rs, (mc.wsStep l).resolutions reqId = mc.resolutions reqId ++ rs := by
  by_cases hl : ∃ f, l.act = .wsRequestFrame f
  · obtain ⟨f, hf⟩ := hl
    have hstep : mc.wsStep l = mc.handleWsRequestFrame l.env f := by rw [wsStep, hf]
    rw [hstep]
    rcases @handleWsRequestFrame_cases mc l.env f with ⟨-, hr⟩ | ⟨token, -, hr⟩
    · exact ⟨_, hr reqId⟩
    · exact ⟨[], by rw [hr, List.append_nil]⟩
  · have hans : Resolves (Permits l.act) mc (mc.wsStep l) := resolves_wsStep fun f hf => hl ⟨f, hf⟩
    obtain ⟨rs, hrs, -⟩ := hans.resolutions reqId
    exact ⟨rs, hrs⟩

theorem resolutions_exec (mc : ManagedConnection) (ls : List WsLabel) (reqId : Nat) :
    ∃ rs, (exec wsStep mc ls).resolutions reqId = mc.resolutions reqId ++ rs := by
  induction ls generalizing mc with
  | nil => exact ⟨[], (List.append_nil _).symm⟩
  | cons l ls ih =>
    obtain ⟨rs, hrs⟩ := resolutions_wsStep mc l reqId
    obtain ⟨rs', hrs'⟩ := ih (mc.wsStep l)
    exact ⟨rs ++ rs', by rw [exec_cons, hrs', hrs, List.append_assoc]⟩

/-- What the reactor resolves a request with: refused, drained, abandoned or answered. -/
def Resolution (r : Except ConnectionError WsResponse) : Prop :=
  r = .error .notOpen ∨ Drains r ∨ r = .error .responseTimeout ∨ ∃ resp, r = .ok resp

theorem resolution_of_permits {act : WsAct} {r : Except ConnectionError WsResponse} (h : Permits act reqId r) :
    Resolution r := by
  cases act with
  | requestResponse json =>
    rcases h with h | ⟨resp, -, -, rfl⟩
    · exact .inr (.inl h)
    · exact .inr (.inr (.inr ⟨resp, rfl⟩))
  | abandonWsRequest id => exact .inr (.inr (.inl h.2))
  | _ => exact .inr (.inl h)

theorem resolution_wsStep (l : WsLabel) (h : ∀ r ∈ mc.resolutions reqId, Resolution r) :
    ∀ r ∈ (mc.wsStep l).resolutions reqId, Resolution r := by
  intro r hr
  by_cases hl : ∃ f, l.act = .wsRequestFrame f
  · obtain ⟨f, hf⟩ := hl
    have hstep : mc.wsStep l = mc.handleWsRequestFrame l.env f := by rw [wsStep, hf]
    rw [hstep] at hr
    rcases @handleWsRequestFrame_cases mc l.env f with ⟨-, hres⟩ | ⟨token, -, hres⟩
    · rw [hres, List.mem_append] at hr
      rcases hr with hr | hr
      · exact h r hr
      · split_ifs at hr
        · exact .inl (List.mem_singleton.1 hr)
        · exact absurd hr List.not_mem_nil
    · rw [hres] at hr
      exact h r hr
  · have hans : Resolves (Permits l.act) mc (mc.wsStep l) := resolves_wsStep fun f hf => hl ⟨f, hf⟩
    obtain ⟨rs, hrs, hp⟩ := hans.resolutions reqId
    rw [hrs, List.mem_append] at hr
    rcases hr with hr | hr
    · exact h r hr
    · exact resolution_of_permits (hp r hr)

theorem resolution_exec (ls : List WsLabel) (h : ∀ r ∈ mc.resolutions reqId, Resolution r) :
    ∀ r ∈ (exec wsStep mc ls).resolutions reqId, Resolution r := by
  induction ls generalizing mc with
  | nil => exact h
  | cons l ls ih => exact ih (resolution_wsStep l h)

theorem resolution_run (url : WsUrl) (knobs : Knobs) (ls : List WsLabel) :
    ∀ r ∈ (wsRun url knobs ls).resolutions reqId, Resolution r :=
  resolution_exec ls fun _ hr => absurd hr List.not_mem_nil

/-- At most one, in a run that submits no id twice. -/
theorem length_resolutions_run (url : WsUrl) (knobs : Knobs) {ls : List WsLabel} (hd : (submittedIds ls).Nodup)
    (reqId : Nat) : ((wsRun url knobs ls).resolutions reqId).length ≤ 1 := by
  have honce := (life_run url knobs hd reqId).1.2 reqId
  rw [accounted_eq] at honce
  omega

end life

end ManagedConnection

end KrakenSdk.Conn
