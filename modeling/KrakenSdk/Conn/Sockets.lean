import KrakenSdk.Conn.SubscribeSend
/-!
# Which operation opens a socket

`KeepsSocket` says what an operation of the reactor may do to a connection's socket: keep it, or drop it in
a state that needs none; under `opens` also open another. Of the FSM's events seven may open one or begin
a close, and an eighth, `WireAbnormalClose`, opens one where it completes a close with a `force_reconnect()`
latched (`Reopens`). The sends synthesise that event when the writer is dead, so the sends that look at no
state open a socket exactly there.
-/
namespace KrakenSdk.Conn.ManagedConnection

/-! ## What the reactor does to a connection's socket -/

/-- The states of an attempt or a handshake, which always hold a socket. -/
def HoldsSocket : ConnectionState → Prop
  | .connecting | .authenticating | .resubscribing => True
  | _ => False

/-- No attempt without a socket. -/
def SocketOk (mc : ManagedConnection) : Prop := HoldsSocket mc.state → mc.socket ≠ none

/-- A `WireAbnormalClose` here completes the close and opens the socket of the latched `force_reconnect()`. -/
def Reopens (mc : ManagedConnection) (env : Env) : Prop :=
  mc.state = .closing ∧ mc.pendingReconnectRequestId ≠ none ∧ env.tryConsume = .ok ()

/-- From `mc` to `m` the socket is kept or dropped and no attempt begins; under `opens` another may be
opened. -/
structure KeepsSocket (opens : Prop) (mc m : ManagedConnection) : Prop where
  socket : m.socket = mc.socket ∨ (m.socket = none ∧ ¬ HoldsSocket m.state) ∨ (opens ∧ m.socket ≠ none)
  attempt : HoldsSocket m.state → HoldsSocket mc.state ∨ (opens ∧ m.socket ≠ none)
  closing : m.state = .closing →
    (mc.state = .closing ∧ m.pendingReconnectRequestId = mc.pendingReconnectRequestId) ∨ opens

/-- Torn down: no socket, and none to come without an event that opens one. -/
structure Down (m : ManagedConnection) : Prop where
  socket : m.socket = none
  state : m.state = .backingOff ∨ m.state = .failed ∨ m.state = .closed

section keeps

variable {opens : Prop} {mc m m' : ManagedConnection} {env : Env}

theorem Down.keeps (h : m.Down) : KeepsSocket opens mc m := by
  have hs : ¬ HoldsSocket m.state := by rcases h.state with hs | hs | hs <;> simp [hs, HoldsSocket]
  have hc : m.state ≠ .closing := by rcases h.state with hs | hs | hs <;> simp [hs]
  exact ⟨.inr (.inl ⟨h.socket, hs⟩), fun hm => absurd hm hs, fun hm => absurd hm hc⟩

theorem KeepsSocket.same (hs : m.state = mc.state) (hk : m.socket = mc.socket)
    (hr : m.pendingReconnectRequestId = mc.pendingReconnectRequestId) : KeepsSocket opens mc m :=
  ⟨.inl hk, fun h => .inl (hs ▸ h), fun h => .inl ⟨hs ▸ h, hr⟩⟩

theorem KeepsSocket.refl (mc : ManagedConnection) : KeepsSocket opens mc mc := .same rfl rfl rfl

/-- The socket is kept and the state changes to one that begins neither an attempt nor a close. -/
theorem KeepsSocket.moved (hk : m.socket = mc.socket) (hs : HoldsSocket m.state → HoldsSocket mc.state)
    (hc : m.state ≠ .closing) : KeepsSocket opens mc m :=
  ⟨.inl hk, fun h => .inl (hs h), fun h => absurd h hc⟩

theorem KeepsSocket.opened (h : opens) (hk : m.socket ≠ none) : KeepsSocket opens mc m :=
  ⟨.inr (.inr ⟨h, hk⟩), fun _ => .inr ⟨h, hk⟩, fun _ => .inr h⟩

/-- A close begins: only where sockets may be opened. -/
theorem KeepsSocket.closes (h : opens) (hk : m.socket = mc.socket) (hs : m.state = .closing) :
    KeepsSocket opens mc m :=
  ⟨.inl hk, by simp [hs, HoldsSocket], fun _ => .inr h⟩

theorem KeepsSocket.trans (h : KeepsSocket opens mc m) (h' : KeepsSocket opens m m') : KeepsSocket opens mc m' := by
  constructor
  · rcases h'.socket with hk' | hk' | hk'
    · rcases h.socket with hk | ⟨hk, hs⟩ | ⟨ho, hk⟩
      · exact .inl (hk'.trans hk)
      · refine .inr (.inl ⟨hk'.trans hk, fun hm' => ?_⟩)
        rcases h'.attempt hm' with hm | ⟨-, hn⟩
        · exact hs hm
        · exact hn (hk'.trans hk)
      · exact .inr (.inr ⟨ho, by rwa [hk']⟩)
    · exact .inr (.inl hk')
    · exact .inr (.inr hk')
  · intro hm'
    rcases h'.attempt hm' with hm | hm
    · rcases h.attempt hm with hmc | ⟨ho, hk⟩
      · exact .inl hmc
      · rcases h'.socket with hk' | ⟨-, hs'⟩ | hk'
        · exact .inr ⟨ho, by rwa [hk']⟩
        · exact absurd hm' hs'
        · exact .inr hk'
    · exact .inr hm
  · intro hc'
    rcases h'.closing hc' with ⟨hc, hr'⟩ | ho
    · rcases h.closing hc with ⟨hmc, hr⟩ | ho
      · exact .inl ⟨hmc, hr'.trans hr⟩
      · exact .inr ho
    · exact .inr ho

theorem KeepsSocket.socketOk (h : KeepsSocket opens mc m) (hok : mc.SocketOk) : m.SocketOk := by
  intro hm hn
  rcases h.attempt hm with hmc | ⟨-, hk⟩
  · rcases h.socket with hk | ⟨-, hs⟩ | ⟨-, hk⟩
    · exact hok hmc (hk ▸ hn)
    · exact hs hm
    · exact hk hn
  · exact hk hn

theorem KeepsSocket.weaken (h : KeepsSocket False mc m) : KeepsSocket opens mc m := by
  refine ⟨?_, fun hm => ?_, fun hm => ?_⟩
  · rcases h.socket with hk | hk | ⟨hf, -⟩
    · exact .inl hk
    · exact .inr (.inl hk)
    · exact hf.elim
  · rcases h.attempt hm with hmc | ⟨hf, -⟩
    · exact .inl hmc
    · exact hf.elim
  · rcases h.closing hm with hmc | hf
    · exact .inl hmc
    · exact hf.elim

/-- What reopens later could have reopened before. -/
theorem KeepsSocket.reopens (h : KeepsSocket False mc m) (hm : m.Reopens env) : mc.Reopens env := by
  obtain ⟨hc, hr, ht⟩ := hm
  rcases h.closing hc with ⟨hmc, heq⟩ | hf
  · exact ⟨hmc, heq ▸ hr, ht⟩
  · exact hf.elim

end keeps

/-! ## The FSM -/

/-- The events that neither open a socket nor begin a close, a completed close apart. -/
def Passive : FsmEvent → Prop
  | .callStartConnect _ | .callClose _ | .callForceReconnect _ | .wireCloseReceived _ _ | .timerBackoffElapsed
  | .timerRateBudgetWindowAdvanced | .timerCloseTimeout => False
  | _ => True

section events

variable {opens : Prop} {mc : ManagedConnection} {env : Env}

theorem down_attemptFailed (h : mc.socket = none) (cls : TransientClass) (krakenError : Option String)
    (httpStatus closeCode : Option Nat) : (mc.attemptFailed env cls krakenError httpStatus closeCode).Down :=
  ⟨h, .inl rfl⟩

theorem down_escalate : (mc.escalate env).Down := ⟨rfl, .inr (.inl rfl)⟩

theorem down_attemptFailedOrEscalate (h : mc.socket = none) (cls : TransientClass) (krakenError : Option String)
    (httpStatus closeCode : Option Nat) :
    (mc.attemptFailedOrEscalate env cls krakenError httpStatus closeCode).Down := by
  unfold attemptFailedOrEscalate
  split_ifs
  · exact down_escalate
  · exact down_attemptFailed h ..

theorem down_droppedOrEscalate (h : mc.socket = none) (closeCode : Option Nat) (reason : Option String) :
    (mc.droppedOrEscalate env closeCode reason).Down := by
  unfold droppedOrEscalate
  split_ifs
  · exact down_escalate
  · exact ⟨h, .inl rfl⟩

theorem down_closedDuringHandshake (h : mc.socket = none) (code : Nat) (reason : Option String) (phase : String) :
    (mc.closedDuringHandshake env code reason phase).Down := by
  unfold closedDuringHandshake
  split_ifs
  · exact ⟨h, .inr (.inl rfl)⟩
  · exact down_attemptFailedOrEscalate h ..

theorem down_connectFailedOrEscalate (cls : TransientClass) (httpStatus : Option Nat) :
    (mc.connectFailedOrEscalate env cls httpStatus).Down := by
  unfold connectFailedOrEscalate
  split_ifs
  · exact down_escalate
  · exact down_attemptFailed rfl ..

theorem keepsSocket_completeResubscribeIfEmpty : KeepsSocket opens mc (mc.completeResubscribeIfEmpty env) := by
  unfold completeResubscribeIfEmpty
  split_ifs with h
  · exact .moved rfl (fun _ => by simp [h.1, HoldsSocket]) (by simp [enterOpen, armStaleness])
  · exact .refl mc

theorem keepsSocket_handleSubscribeFailure (key : EntryKey) (transient : Bool) (lastError : Option String) :
    KeepsSocket opens mc (mc.handleSubscribeFailure env key transient lastError) := by
  unfold handleSubscribeFailure
  dsimp only
  split_ifs
  · unfold retrySubscribe
    dsimp only
    split_ifs
    · exact .same rfl rfl rfl
    · exact (down_droppedOrEscalate rfl _ _).keeps
    · exact (down_attemptFailed rfl _ _ _ _).keeps
  · refine .trans ?_ keepsSocket_completeResubscribeIfEmpty
    exact .same rfl rfl rfl

theorem socket_enterConnecting (rid : Option Nat) : (mc.enterConnecting env rid).socket ≠ none := by
  simp [enterConnecting, emitLifecycle, armUpgradeTimeout]

/-- The end of a close: down, unless it was latched to reconnect and the budget lets it. -/
theorem keepsSocket_enterClosedOrReconnect (reason : ClosedReason) (ack : AckSource) (hs : mc.state = .closing)
    (ho : mc.Reopens env → opens) : KeepsSocket opens mc (mc.enterClosedOrReconnect env reason ack) := by
  unfold enterClosedOrReconnect
  cases hr : mc.pendingReconnectRequestId with
  | none =>
    refine Down.keeps ⟨?_, .inr (.inr ?_)⟩ <;> simp [drainPending]
  | some rid =>
    simp only [drainPending, reenterConnecting]
    cases ht : env.tryConsume with
    | error t => exact Down.keeps ⟨rfl, .inl rfl⟩
    | ok u => exact .opened (ho ⟨hs, by simp [hr], ht⟩) (socket_enterConnecting _)

variable {e : FsmEvent}

theorem keepsSocket_handleIdle (hq : ¬ Passive e → opens) :
    KeepsSocket opens mc (mc.handleIdle env e) := by
  cases e <;> simp only [handleIdle]
  case callStartConnect | callForceReconnect =>
    split
    · exact .moved rfl (fun h => h.elim) (by simp [emitRateThrottled, emitLifecycle])
    · exact .opened (hq (by simp [Passive])) (socket_enterConnecting _)
  case callClose => exact .moved rfl (fun h => h.elim) (by simp [emitLifecycle])
  all_goals exact .refl mc

theorem keepsSocket_handleConnecting (hq : ¬ Passive e → opens) (hs : mc.state = .connecting) :
    KeepsSocket opens mc (mc.handleConnecting env e) := by
  have hold : HoldsSocket mc.state := by simp [hs, HoldsSocket]
  cases e <;> simp only [handleConnecting]
  case wireUpgradeOk =>
    refine .moved rfl (fun _ => hold) ?_
    cases mc.url <;> simp [armStaleness]
  case wireUpgradeFailed | wireConnectError =>
    split_ifs
    · exact (down_connectFailedOrEscalate _ _).keeps
    · exact Down.keeps ⟨rfl, .inr (.inl rfl)⟩
  case timerUpgradeTimeout => exact (down_attemptFailedOrEscalate rfl _ _ _ _).keeps
  case callClose => exact .closes (hq (by simp [Passive])) rfl rfl
  case callForceReconnect => split_ifs <;> exact .same rfl rfl rfl
  all_goals exact .refl mc

theorem keepsSocket_handleAuthenticating (hq : ¬ Passive e → opens) (hs : mc.state = .authenticating) :
    KeepsSocket opens mc (mc.handleAuthenticating env e) := by
  have hold : HoldsSocket mc.state := by simp [hs, HoldsSocket]
  cases e
  case wireAuthHandshakeFailed kind =>
    cases kind <;> simp only [handleAuthenticating]
    case tokenStale =>
      split_ifs
      · exact Down.keeps ⟨rfl, .inr (.inl rfl)⟩
      · exact .same rfl rfl rfl
    case transient => exact (down_attemptFailedOrEscalate rfl _ _ _ _).keeps
    all_goals exact Down.keeps ⟨rfl, .inr (.inl rfl)⟩
  all_goals simp only [handleAuthenticating]
  case wireAuthHandshakeOk => exact .moved rfl (fun _ => hold) (by simp)
  case wireOrderAuthOk => exact .moved rfl (fun _ => hold) (by simp [enterOpen, armStaleness])
  case wireCloseReceived => exact (down_closedDuringHandshake rfl _ _ _).keeps
  case wireAbnormalClose | timerStalenessElapsed => exact (down_attemptFailedOrEscalate rfl _ _ _ _).keeps
  case busTokenRefreshFailed =>
    split_ifs
    · exact (down_attemptFailedOrEscalate rfl _ _ _ _).keeps
    · exact Down.keeps ⟨rfl, .inr (.inl rfl)⟩
  case timerSubscribeAckTimeout => exact keepsSocket_handleSubscribeFailure ..
  case callClose | callForceReconnect => exact .closes (hq (by simp [Passive])) rfl rfl
  case busTokenRefreshed => exact .same rfl rfl rfl
  all_goals exact .refl mc

theorem keepsSocket_handleResubscribing (hq : ¬ Passive e → opens) (hs : mc.state = .resubscribing) :
    KeepsSocket opens mc (mc.handleResubscribing env e) := by
  have hold : HoldsSocket mc.state := by simp [hs, HoldsSocket]
  cases e
  case wireSubscribeAck channel pair last =>
    cases last <;> simp only [handleResubscribing]
    · exact .same rfl rfl rfl
    · exact .moved rfl (fun _ => hold) (by simp [enterOpen, armStaleness])
  all_goals simp only [handleResubscribing]
  case wireCloseReceived => exact (down_closedDuringHandshake rfl _ _ _).keeps
  case wireAbnormalClose | timerStalenessElapsed => exact (down_attemptFailedOrEscalate rfl _ _ _ _).keeps
  case timerSubscribeAckTimeout | wireSubscribeFailed => exact keepsSocket_handleSubscribeFailure ..
  case callClose | callForceReconnect => exact .closes (hq (by simp [Passive])) rfl rfl
  case busTokenRefreshed | busTokenRefreshFailed => exact .same rfl rfl rfl
  all_goals exact .refl mc

theorem keepsSocket_handleOpen (hq : ¬ Passive e → opens) : KeepsSocket opens mc (mc.handleOpen env e) := by
  cases e <;> simp only [handleOpen]
  case wireCloseReceived =>
    split_ifs
    · exact Down.keeps ⟨rfl, .inr (.inl rfl)⟩
    · exact (down_droppedOrEscalate rfl _ _).keeps
  case wireAbnormalClose | timerStalenessElapsed => exact (down_droppedOrEscalate rfl _ _).keeps
  case timerSubscribeAckTimeout | wireSubscribeFailed => exact keepsSocket_handleSubscribeFailure ..
  case callClose | callForceReconnect => exact .closes (hq (by simp [Passive])) rfl rfl
  case wireSubscribeAck | busTokenRefreshed | busTokenRefreshFailed | wireOrderAckTokenStale =>
    exact .same rfl rfl rfl
  all_goals exact .refl mc

theorem keepsSocket_handleBackingOff (hq : ¬ Passive e → opens) :
    KeepsSocket opens mc (mc.handleBackingOff env e) := by
  cases e <;> simp only [handleBackingOff]
  case timerBackoffElapsed | timerRateBudgetWindowAdvanced =>
    split
    · exact .same rfl rfl rfl
    · exact .opened (hq (by simp [Passive])) (socket_enterConnecting _)
  case callForceReconnect =>
    cases env.tryConsume with
    | error t =>
      cases hp : mc.pendingConnectRequestId <;> simp only [latchConnect, hp] <;> exact .same rfl rfl rfl
    | ok u => exact .opened (hq (by simp [Passive])) (socket_enterConnecting _)
  case callClose => exact .moved rfl (fun h => h.elim) (by simp [emitLifecycle])
  all_goals exact .refl mc

theorem keepsSocket_handleClosing (hq : ¬ Passive e → opens) (hs : mc.state = .closing)
    (ho : (∃ error, e = .wireAbnormalClose error) → mc.Reopens env → opens) :
    KeepsSocket opens mc (mc.handleClosing env e) := by
  cases e <;> simp only [handleClosing]
  case wireAbnormalClose error => exact keepsSocket_enterClosedOrReconnect _ _ hs (ho ⟨error, rfl⟩)
  case wireCloseReceived | timerCloseTimeout =>
    exact keepsSocket_enterClosedOrReconnect _ _ hs fun _ => hq (by simp [Passive])
  case callClose => split <;> exact .same rfl rfl rfl
  case callForceReconnect =>
    split
    · exact .closes (hq (by simp [Passive])) rfl hs
    · exact .same rfl rfl rfl
  all_goals exact .refl mc

theorem keepsSocket_handleFailed (hq : ¬ Passive e → opens) :
    KeepsSocket opens mc (mc.handleFailed env e) := by
  cases e <;> simp only [handleFailed]
  case callForceReconnect =>
    split
    · exact .moved rfl (fun h => h.elim) (by simp [emitRateThrottled, emitLifecycle])
    · exact .opened (hq (by simp [Passive])) (socket_enterConnecting _)
  case callClose => exact .moved rfl (fun h => h.elim) (by simp [emitLifecycle])
  all_goals exact .refl mc

/-- **One call of `handle_event`.** -/
theorem keepsSocket_handleEvent (hq : ¬ Passive e → opens)
    (ho : (∃ error, e = .wireAbnormalClose error) → mc.Reopens env → opens) :
    KeepsSocket opens mc (mc.handleEvent env e) := by
  unfold handleEvent
  split
  · exact keepsSocket_handleIdle hq
  · exact keepsSocket_handleConnecting hq ‹_›
  · exact keepsSocket_handleAuthenticating hq ‹_›
  · exact keepsSocket_handleResubscribing hq ‹_›
  · exact keepsSocket_handleOpen hq
  · exact keepsSocket_handleBackingOff hq
  · exact keepsSocket_handleClosing hq ‹_› ho
  · exact .refl mc
  · exact keepsSocket_handleFailed hq

end events

/-! ## The sends -/

section sends

variable {opens : Prop} {mc : ManagedConnection} {env : Env}

theorem keepsSocket_passive {e : FsmEvent} (hq : Passive e) (hne : ∀ error, e ≠ .wireAbnormalClose error) :
    KeepsSocket opens mc (mc.handleEvent env e) :=
  keepsSocket_handleEvent (fun h => absurd hq h) fun ⟨error, he⟩ => absurd he (hne error)

/-- A dead writer matters only where the connection reopens. -/
theorem keepsSocket_sendSubscribeFrame (socket : SocketId) {f : SubscribeFrame} (reqId : Nat) (context : String)
    (ho : mc.Reopens env → f.sent = .error .writerClosed → opens) :
    KeepsSocket opens mc (mc.sendSubscribeFrame env socket f reqId context).2 := by
  unfold sendSubscribeFrame
  split
  · exact .same rfl rfl rfl
  · show KeepsSocket opens mc (mc.handleSubscribeFailure env f.key true none)
    exact keepsSocket_handleSubscribeFailure ..
  · rename_i hsent
    exact keepsSocket_handleEvent (fun hq => absurd trivial hq) fun _ hr => ho hr hsent

theorem keepsSocket_sendAndArm (socket : SocketId) {f : SubscribeFrame} (context : String)
    (ho : mc.Reopens env → f.sent = .error .writerClosed → opens) :
    KeepsSocket opens mc (mc.sendAndArm env socket f context) := by
  have htake : KeepsSocket opens mc mc.takeSubscribeReqId.2 := .same rfl rfl rfl
  have hsend : KeepsSocket opens mc.takeSubscribeReqId.2
      (mc.takeSubscribeReqId.2.sendSubscribeFrame env socket f mc.takeSubscribeReqId.1 context).2 :=
    keepsSocket_sendSubscribeFrame socket mc.takeSubscribeReqId.1 context ho
  unfold sendAndArm
  dsimp only
  generalize mc.takeSubscribeReqId.2.sendSubscribeFrame env socket f mc.takeSubscribeReqId.1 context = out at hsend ⊢
  obtain ⟨outcome, m⟩ := out
  cases outcome
  case sent => exact (htake.trans hsend).trans (.same rfl rfl rfl)
  all_goals exact htake.trans hsend

theorem keepsSocket_sendSingleSubscribe (socketOf : Option SocketId) {f : SubscribeFrame}
    (ho : mc.Reopens env → f.sent = .error .writerClosed → opens) :
    KeepsSocket opens mc (mc.sendSingleSubscribe env socketOf f) := by
  unfold sendSingleSubscribe
  split
  · exact .refl mc
  · exact keepsSocket_sendAndArm _ _ ho

theorem keepsSocket_deferOpenAuthSubscribe (key : EntryKey) (params : SubscribeParams) :
    KeepsSocket opens mc (mc.deferOpenAuthSubscribe key params) := by
  unfold deferOpenAuthSubscribe
  split <;> exact .same rfl rfl rfl

theorem keepsSocket_refreshOnce : KeepsSocket opens mc mc.refreshOnce := by
  unfold refreshOnce
  split <;> exact .same rfl rfl rfl

theorem keepsSocket_sendSingleSignedSubscribe (r : ReactorEnv) {f : SubscribeFrame}
    (ho : mc.Reopens r.toEnv → f.sent = .error .writerClosed → opens) :
    KeepsSocket opens mc (mc.sendSingleSignedSubscribe r f) := by
  unfold sendSingleSignedSubscribe
  split
  · exact (keepsSocket_deferOpenAuthSubscribe _ _).trans keepsSocket_refreshOnce
  · exact .refl mc
  · exact keepsSocket_sendAndArm _ _ ho

theorem keepsSocket_sendFirstSignedSubscribe (r : ReactorEnv)
    (ho : mc.Reopens r.toEnv → ∀ f ∈ r.entries, f.sent = .error .writerClosed → opens) :
    KeepsSocket opens mc (mc.sendFirstSignedSubscribe r) := by
  unfold sendFirstSignedSubscribe
  split
  · exact .same rfl rfl rfl
  · exact .refl mc
  · exact .refl mc
  · rename_i hentries
    exact keepsSocket_sendAndArm _ _ fun hr => ho hr _ (by simp [hentries])

theorem keepsSocket_handleSubscribeResend (r : ReactorEnv) (url : WsUrl) (f : Option SubscribeFrame)
    (ho : mc.Reopens r.toEnv → opens) : KeepsSocket opens mc (mc.handleSubscribeResend r url f) := by
  unfold handleSubscribeResend
  split
  · exact .refl mc
  · split_ifs
    · exact ((keepsSocket_deferOpenAuthSubscribe _ _).trans keepsSocket_completeResubscribeIfEmpty).trans
        keepsSocket_refreshOnce
    · split
      · exact .refl mc
      · exact keepsSocket_sendAndArm _ _ fun hr _ => ho hr

theorem keepsSocket_sendBookReseed (socketOf : Option SocketId) {f : SubscribeFrame}
    (ho : mc.Reopens env → f.sent = .error .writerClosed → opens) :
    KeepsSocket opens mc (mc.sendBookReseed env socketOf f) :=
  (keepsSocket_sendSingleSubscribe socketOf ho).trans (.same rfl rfl rfl)

/-- One frame of a loop, with an id of its own. -/
theorem keepsSocket_takeAndSend (socket : SocketId) (f : SubscribeFrame) (context : String) (hs : ¬ mc.Reopens env) :
    KeepsSocket False mc (mc.takeSubscribeReqId.2.sendSubscribeFrame env socket f mc.takeSubscribeReqId.1 context).2 := by
  have htake : KeepsSocket False mc mc.takeSubscribeReqId.2 := .same rfl rfl rfl
  exact htake.trans (keepsSocket_sendSubscribeFrame socket mc.takeSubscribeReqId.1 context fun hr => absurd (htake.reopens hr) hs)

/-- The loops run while `Resubscribing`, where nothing reopens. -/
theorem keepsSocket_sendFrames (socket : SocketId) (context : String) (fs : List SubscribeFrame)
    (hs : ¬ mc.Reopens env) : KeepsSocket False mc (mc.sendFrames env socket context fs) := by
  induction fs generalizing mc with
  | nil => exact .refl mc
  | cons f fs ih =>
    simp only [sendFrames]
    have hm := keepsSocket_takeAndSend socket f context hs
    generalize mc.takeSubscribeReqId.2.sendSubscribeFrame env socket f mc.takeSubscribeReqId.1 context = out at hm
    obtain ⟨outcome, m⟩ := out
    cases outcome
    case sent =>
      have harm : KeepsSocket False mc (m.armSubscribeAckTimerWithReqId env f.key mc.takeSubscribeReqId.1) :=
        hm.trans (.same rfl rfl rfl)
      exact harm.trans (ih fun hr => hs (harm.reopens hr))
    case backpressured =>
      dsimp only
      split_ifs
      · exact hm.trans (ih fun hr => hs (hm.reopens hr))
      · exact hm
    case writerDead => exact hm

/-- The loop of the replay. -/
theorem keepsSocket_replayFrames (socket : SocketId) (fs : List (SubscribeFrame × Bool)) (hs : ¬ mc.Reopens env) :
    KeepsSocket False mc (mc.replayFrames env socket fs) := by
  induction fs generalizing mc with
  | nil => exact .refl mc
  | cons row fs ih =>
    obtain ⟨f, resyncing⟩ := row
    simp only [replayFrames]
    have hm := keepsSocket_takeAndSend socket f "outbound writer task terminated (resubscribe replay)" hs
    generalize mc.takeSubscribeReqId.2.sendSubscribeFrame env socket f mc.takeSubscribeReqId.1
      "outbound writer task terminated (resubscribe replay)" = out at hm
    obtain ⟨outcome, m⟩ := out
    cases outcome
    case sent =>
      have harm : KeepsSocket False mc (if resyncing then
          (m.armSubscribeAckTimerWithReqId env f.key mc.takeSubscribeReqId.1).armBookReseedSnapshot f.key (ackDueAt env)
        else m.armSubscribeAckTimerWithReqId env f.key mc.takeSubscribeReqId.1) := by
        split <;> exact hm.trans (.same rfl rfl rfl)
      exact harm.trans (ih fun hr => hs (harm.reopens hr))
    case backpressured =>
      dsimp only
      split_ifs
      · exact hm.trans (ih fun hr => hs (hm.reopens hr))
      · exact hm
    case writerDead => exact hm

theorem keepsSocket_deferAll (fs : List SubscribeFrame) :
    KeepsSocket opens mc (fs.foldl (fun mc f => mc.deferOpenAuthSubscribe f.key f.params) mc) := by
  induction fs generalizing mc with
  | nil => exact .refl mc
  | cons f fs ih => exact (keepsSocket_deferOpenAuthSubscribe _ _).trans ih

theorem keepsSocket_sendRemainingSignedSubscribes (r : ReactorEnv) (alreadySent : Option EntryKey)
    (hs : mc.state ≠ .closing) : KeepsSocket opens mc (mc.sendRemainingSignedSubscribes r alreadySent) := by
  unfold sendRemainingSignedSubscribes
  dsimp only
  split
  · exact (keepsSocket_deferAll _).trans keepsSocket_refreshOnce
  · split
    · exact .refl mc
    · exact (keepsSocket_sendFrames _ _ _ fun hr => hs hr.1).weaken

/-! ### Requests -/

theorem keepsSocket_drainOneRetryable (reqId : Nat) : KeepsSocket opens mc (mc.drainOneRetryable env reqId) :=
  .same rfl rfl rfl

theorem keepsSocket_driveAuthProbe (r : ReactorEnv) (reqId : Nat) (ack : OrderAckAuth) :
    KeepsSocket opens mc (mc.driveAuthProbe r reqId ack) := by
  cases ack <;> simp only [driveAuthProbe]
  case authenticated =>
    have hok : KeepsSocket opens mc (mc.handleEvent r.toEnv .wireAuthHandshakeOk) :=
      keepsSocket_passive trivial fun _ => by simp
    split_ifs with hentry hres
    · refine (hok.trans ?_).trans keepsSocket_completeResubscribeIfEmpty
      exact keepsSocket_sendRemainingSignedSubscribes r none (by simp [hres])
    · exact hok
    · exact keepsSocket_passive trivial fun _ => by simp
  case authFailed kind =>
    have hfail : KeepsSocket opens mc (mc.handleEvent r.toEnv (.wireAuthHandshakeFailed kind)) :=
      keepsSocket_passive trivial fun _ => by simp
    split_ifs
    · exact hfail.trans (keepsSocket_drainOneRetryable reqId)
    · exact hfail

theorem keepsSocket_routeResponse (r : ReactorEnv) (resp : WsResponse) :
    KeepsSocket opens mc (mc.routeResponse r resp) := by
  have hprobe : ∀ ack, KeepsSocket opens mc
      (if mc.state = .authenticating then mc.driveAuthProbe r resp.reqId ack else mc) := by
    intro ack
    split_ifs
    · exact keepsSocket_driveAuthProbe _ _ _
    · exact .refl mc
  have hstale : ∀ (m : ManagedConnection) (ack : OrderAckAuth), KeepsSocket opens m
      (if m.state = .opened ∧ ack = .authFailed .tokenStale then m.recoverTokenStale r resp.reqId else m) := by
    intro m ack
    split_ifs
    · have hq : KeepsSocket opens m (m.handleEvent r.toEnv .wireOrderAckTokenStale) :=
        keepsSocket_passive trivial fun _ => by simp
      exact hq.trans (.same rfl rfl rfl)
    · exact .refl m
  have hresolve : ∀ m : ManagedConnection, KeepsSocket opens m
      (if m.pendingRequestsContains resp.reqId then m.resolvePendingRequest resp else m) := by
    intro m
    split_ifs
    · exact .same rfl rfl rfl
    · exact .refl m
  exact ((hprobe _).trans (hstale _ _)).trans (hresolve _)

theorem keepsSocket_handleRequestResponse (r : ReactorEnv) (json : Json) :
    KeepsSocket opens mc (mc.handleRequestResponse r json).2 := by
  unfold handleRequestResponse
  split
  · exact .refl mc
  · exact .refl mc
  · exact keepsSocket_routeResponse _ _

theorem keepsSocket_handleWsRequestFrame (r : ReactorEnv) (f : WsRequestFrame) :
    KeepsSocket opens mc (mc.handleWsRequestFrame r f) := by
  unfold handleWsRequestFrame
  split
  · exact .same rfl rfl rfl
  · split
    · exact .same rfl rfl rfl
    · dsimp only
      split <;> exact .same rfl rfl rfl

end sends

end KrakenSdk.Conn.ManagedConnection
