import KrakenSdk.Conn.Runs
import KrakenSdk.Conn.SubscribeSend
import Mathlib.Logic.Relation
/-!
# What the reactor does to a connection is a run of it (dispatch/io_reactor)

`Runs` says what a connection can go through: the acts, in any order. The functions of the reactor are made of
those acts, of effects that touch nothing but the bus, and of one more thing, the subscribe failure of a frame the
socket refused, which they run whatever the state (`Drive`). `Driven` is any number of them, so what every act keeps
every function of the reactor keeps (`Driven.keeps`); and where no frame is refused, what they leave is what a list
of acts leaves, the effects apart (`Driven.acts`).
-/
namespace KrakenSdk.Conn.ManagedConnection

/-- What may happen besides: a `force_reconnect()`, and a frame the outbound queue refuses. -/
structure Leeway where
  forces : Prop
  refuses : Prop

/-- The act is a `force_reconnect()`. -/
def ForcesReconnect (a : Act) : Prop := ∃ id, a = .event (.callForceReconnect id)

/-- One thing the reactor does to a connection. -/
inductive Drive (w : Leeway) (env : Env) (mc : ManagedConnection) : ManagedConnection → Prop
  | act (a : Act) (ha : ForcesReconnect a → w.forces) : Drive w env mc (mc.step ⟨env, a⟩)
  | perform (xs : List Effect) : Drive w env mc (mc.perform xs)
  | refused (key : EntryKey) (h : w.refuses) : Drive w env mc (mc.handleSubscribeFailure env key true none)

/-- Any number of them. -/
abbrev Driven (w : Leeway) (env : Env) : ManagedConnection → ManagedConnection → Prop :=
  Relation.ReflTransGen (Drive w env)

variable {w : Leeway} {env : Env} {mc m : ManagedConnection}

/-- **The rule of driven connections**: what each act keeps, and the effects, and a refused frame. -/
theorem Driven.keeps {P : ManagedConnection → Prop}
    (hact : ∀ mc a, P mc → (ForcesReconnect a → w.forces) → P (mc.step ⟨env, a⟩))
    (hperform : ∀ mc xs, P mc → P (mc.perform xs))
    (hrefused : ∀ mc key, P mc → w.refuses → P (mc.handleSubscribeFailure env key true none))
    (h : Driven w env mc m) (hp : P mc) : P m := by
  induction h with
  | refl => exact hp
  | tail _ hdrive ih =>
    cases hdrive with
    | act a ha => exact hact _ a ih ha
    | perform xs => exact hperform _ xs ih
    | refused key hw => exact hrefused _ key ih hw

/-! ## The functions of the reactor -/

theorem driven_update (u : Update) : Driven w env mc (mc.applyUpdate env u) := .single (.act (.update u) nofun)

theorem driven_request (r : RequestUpdate) : Driven w env mc (mc.applyRequest env r) :=
  .single (.act (.request r) nofun)

theorem driven_perform (xs : List Effect) : Driven w env mc (mc.perform xs) := .single (.perform xs)

/-- A timer popped, and its event delivered. -/
theorem driven_deliver {e : FsmEvent} (he : (∃ id, e = .callForceReconnect id) → w.forces) :
    Driven w env mc (mc.deliver env e) := by
  refine .single (.act (.event e) ?_)
  rintro ⟨id, h⟩
  exact he ⟨id, Act.event.inj h⟩

/-- An event no timer fires. -/
theorem driven_event {e : FsmEvent} (he : (∃ id, e = .callForceReconnect id) → w.forces)
    (hpop : mc.popTimerForEvent e = mc) : Driven w env mc (mc.handleEvent env e) := by
  have h : Driven w env mc (mc.deliver env e) := driven_deliver he
  rwa [deliver, hpop] at h

theorem driven_complete : Driven w env mc (mc.completeResubscribeIfEmpty env) :=
  driven_update .completeResubscribeIfEmpty

theorem driven_takeSubscribeReqId : Driven w env mc mc.takeSubscribeReqId.2 := driven_update .takeSubscribeReqId

theorem driven_setAwaitingTokenRefresh (v : Bool) : Driven w env mc (mc.setAwaitingTokenRefresh v) :=
  driven_update (.setAwaitingTokenRefresh v)

theorem driven_deferOpenAuthSubscribe (key : EntryKey) (params : SubscribeParams) :
    Driven w env mc (mc.deferOpenAuthSubscribe key params) := driven_update (.deferOpenAuthSubscribe key params)

theorem driven_armBookReseedSnapshot (key : EntryKey) (dueAt : MonotonicInstant) :
    Driven w env mc (mc.armBookReseedSnapshot key dueAt) := driven_update (.armBookReseedSnapshot key dueAt)

theorem driven_armSubscribeAckTimerWithReqId (key : EntryKey) (reqId : Nat) :
    Driven w env mc (mc.armSubscribeAckTimerWithReqId env key reqId) := by
  have hrecord : Driven w env mc (mc.recordSubscribeReqId reqId key) := driven_update (.recordSubscribeReqId reqId key)
  exact hrecord.trans (driven_update (.armSubscribeAck key _))

theorem driven_sendSubscribeFrame (socket : SocketId) {f : SubscribeFrame}
    (hf : f.sent = .error .backpressure → w.refuses) (reqId : Nat) (context : String) :
    Driven w env mc (mc.sendSubscribeFrame env socket f reqId context).2 := by
  unfold sendSubscribeFrame
  split
  · exact driven_perform _
  · rename_i hsent
    exact .single (.refused f.key (hf hsent))
  · exact driven_event (by simp) rfl

theorem driven_sendAndArm (socket : SocketId) {f : SubscribeFrame} (hf : f.sent = .error .backpressure → w.refuses)
    (context : String) : Driven w env mc (mc.sendAndArm env socket f context) := by
  have hsend : Driven w env mc
      (mc.takeSubscribeReqId.2.sendSubscribeFrame env socket f mc.takeSubscribeReqId.1 context).2 :=
    driven_takeSubscribeReqId.trans (driven_sendSubscribeFrame socket hf _ context)
  unfold sendAndArm
  dsimp only
  generalize mc.takeSubscribeReqId.2.sendSubscribeFrame env socket f mc.takeSubscribeReqId.1 context = out at hsend ⊢
  obtain ⟨outcome, m⟩ := out
  cases outcome with
  | sent => exact hsend.trans (driven_armSubscribeAckTimerWithReqId _ _)
  | backpressured => exact hsend
  | writerDead => exact hsend

theorem driven_sendSingleSubscribe (socketOf : Option SocketId) {f : SubscribeFrame}
    (hf : f.sent = .error .backpressure → w.refuses) : Driven w env mc (mc.sendSingleSubscribe env socketOf f) := by
  unfold sendSingleSubscribe
  split
  · exact .refl
  · exact driven_sendAndArm _ hf _

theorem driven_refreshOnce : Driven w env mc mc.refreshOnce := by
  unfold refreshOnce
  split_ifs
  · exact .refl
  · exact (driven_setAwaitingTokenRefresh true).trans (driven_perform _)

theorem driven_sendBookReseed (socketOf : Option SocketId) {f : SubscribeFrame}
    (hf : f.sent = .error .backpressure → w.refuses) : Driven w env mc (mc.sendBookReseed env socketOf f) :=
  (driven_sendSingleSubscribe socketOf hf).trans (driven_armBookReseedSnapshot _ _)

theorem driven_sendFrames (socket : SocketId) (context : String) {fs : List SubscribeFrame}
    (hfs : ∀ f ∈ fs, f.sent = .error .backpressure → w.refuses) :
    Driven w env mc (mc.sendFrames env socket context fs) := by
  induction fs generalizing mc with
  | nil => exact .refl
  | cons f fs ih =>
    have hsend : Driven w env mc
        (mc.takeSubscribeReqId.2.sendSubscribeFrame env socket f mc.takeSubscribeReqId.1 context).2 :=
      driven_takeSubscribeReqId.trans (driven_sendSubscribeFrame socket (hfs f (by simp)) _ context)
    have hrest : ∀ m, Driven w env m (m.sendFrames env socket context fs) :=
      fun m => ih fun f' hf' => hfs f' (List.mem_cons_of_mem _ hf')
    simp only [sendFrames]
    generalize mc.takeSubscribeReqId.2.sendSubscribeFrame env socket f mc.takeSubscribeReqId.1 context = out at hsend
    obtain ⟨outcome, m⟩ := out
    cases outcome with
    | sent => exact (hsend.trans (driven_armSubscribeAckTimerWithReqId _ _)).trans (hrest _)
    | backpressured =>
      dsimp only
      split_ifs
      · exact hsend.trans (hrest _)
      · exact hsend
    | writerDead => exact hsend

theorem driven_replayFrames (socket : SocketId) {fs : List (SubscribeFrame × Bool)}
    (hfs : ∀ row ∈ fs, row.1.sent = .error .backpressure → w.refuses) :
    Driven w env mc (mc.replayFrames env socket fs) := by
  induction fs generalizing mc with
  | nil => exact .refl
  | cons row fs ih =>
    obtain ⟨f, resyncing⟩ := row
    have hsend : Driven w env mc (mc.takeSubscribeReqId.2.sendSubscribeFrame env socket f mc.takeSubscribeReqId.1
        "outbound writer task terminated (resubscribe replay)").2 :=
      driven_takeSubscribeReqId.trans (driven_sendSubscribeFrame socket (hfs _ List.mem_cons_self) _ _)
    have hrest : ∀ m, Driven w env m (m.replayFrames env socket fs) :=
      fun m => ih fun row' hrow' => hfs row' (List.mem_cons_of_mem _ hrow')
    simp only [replayFrames]
    generalize mc.takeSubscribeReqId.2.sendSubscribeFrame env socket f mc.takeSubscribeReqId.1
      "outbound writer task terminated (resubscribe replay)" = out at hsend
    obtain ⟨outcome, m⟩ := out
    cases outcome with
    | sent =>
      have harm := hsend.trans (driven_armSubscribeAckTimerWithReqId f.key mc.takeSubscribeReqId.1)
      dsimp only
      split_ifs
      · exact (harm.trans (driven_armBookReseedSnapshot _ _)).trans (hrest _)
      · exact harm.trans (hrest _)
    | backpressured =>
      dsimp only
      split_ifs
      · exact hsend.trans (hrest _)
      · exact hsend
    | writerDead => exact hsend

section reactor

variable {r : ReactorEnv}

theorem driven_sendSingleSignedSubscribe {f : SubscribeFrame} (hf : f.sent = .error .backpressure → w.refuses) :
    Driven w r.toEnv mc (mc.sendSingleSignedSubscribe r f) := by
  unfold sendSingleSignedSubscribe
  split
  · exact (driven_deferOpenAuthSubscribe _ _).trans driven_refreshOnce
  · exact .refl
  · exact driven_sendAndArm _ hf _

theorem driven_handleSubscribeResend (url : WsUrl) {f : Option SubscribeFrame}
    (hf : ∀ f' ∈ f, f'.sent = .error .backpressure → w.refuses) :
    Driven w r.toEnv mc (mc.handleSubscribeResend r url f) := by
  unfold handleSubscribeResend
  split
  · exact .refl
  · split_ifs
    · exact ((driven_deferOpenAuthSubscribe _ _).trans driven_complete).trans driven_refreshOnce
    · split
      · exact .refl
      · exact driven_sendAndArm _ (hf _ rfl) _

/-- The frames the step composes are refused only if it refuses. -/
def FramesWithin (w : Leeway) (r : ReactorEnv) : Prop := ∀ f ∈ r.entries, f.sent = .error .backpressure → w.refuses

theorem driven_sendFirstSignedSubscribe (hr : FramesWithin w r) :
    Driven w r.toEnv mc (mc.sendFirstSignedSubscribe r) := by
  unfold sendFirstSignedSubscribe
  split
  · exact (driven_setAwaitingTokenRefresh true).trans (driven_perform _)
  · exact .refl
  · exact .refl
  · rename_i hentries
    exact driven_sendAndArm _ (hr _ (by rw [hentries]; exact List.mem_cons_self)) _

theorem driven_deferAll (fs : List SubscribeFrame) :
    Driven w env mc (fs.foldl (fun mc f => mc.deferOpenAuthSubscribe f.key f.params) mc) := by
  induction fs generalizing mc with
  | nil => exact .refl
  | cons f fs ih => exact (driven_deferOpenAuthSubscribe _ _).trans ih

theorem driven_sendRemainingSignedSubscribes (hr : FramesWithin w r) (alreadySent : Option EntryKey) :
    Driven w r.toEnv mc (mc.sendRemainingSignedSubscribes r alreadySent) := by
  unfold sendRemainingSignedSubscribes
  dsimp only
  split
  · exact (driven_deferAll _).trans driven_refreshOnce
  · split
    · exact .refl
    · exact driven_sendFrames _ _ fun f hf => hr f (List.mem_of_mem_filter hf)

theorem driven_drainOneRetryable (reqId : Nat) : Driven w env mc (mc.drainOneRetryable env reqId) :=
  driven_request (.drainOneRetryable reqId)

theorem driven_driveAuthProbe (hr : FramesWithin w r) (reqId : Nat) (ack : OrderAckAuth) :
    Driven w r.toEnv mc (mc.driveAuthProbe r reqId ack) := by
  cases ack with
  | authenticated =>
    have hok : Driven w r.toEnv mc (mc.handleEvent r.toEnv .wireAuthHandshakeOk) := driven_event (by simp) rfl
    simp only [driveAuthProbe]
    split_ifs
    · exact (hok.trans (driven_sendRemainingSignedSubscribes hr none)).trans driven_complete
    · exact hok
    · exact driven_event (by simp) rfl
  | authFailed kind =>
    have hfail : Driven w r.toEnv mc (mc.handleEvent r.toEnv (.wireAuthHandshakeFailed kind)) :=
      driven_event (by simp) rfl
    simp only [driveAuthProbe]
    split_ifs
    · exact hfail.trans (driven_drainOneRetryable reqId)
    · exact hfail

theorem driven_recoverTokenStale (reqId : Nat) : Driven w r.toEnv mc (mc.recoverTokenStale r reqId) := by
  have hstale : Driven w r.toEnv mc (mc.handleEvent r.toEnv .wireOrderAckTokenStale) := driven_event (by simp) rfl
  have hinvalid := hstale.trans (driven_perform [.authStack .invalidateCachedToken])
  have hrefresh :=
    (hinvalid.trans (driven_setAwaitingTokenRefresh true)).trans (driven_perform [.authStack .forceRefresh])
  exact hrefresh.trans (driven_drainOneRetryable reqId)

theorem driven_routeResponse (hr : FramesWithin w r) (resp : WsResponse) :
    Driven w r.toEnv mc (mc.routeResponse r resp) := by
  have hprobe : ∀ mc ack, Driven w r.toEnv mc
      (if mc.state = .authenticating then mc.driveAuthProbe r resp.reqId ack else mc) := by
    intro mc ack
    split_ifs
    · exact driven_driveAuthProbe hr _ _
    · exact .refl
  have hstale : ∀ mc ack, Driven w r.toEnv mc
      (if mc.state = .opened ∧ ack = OrderAckAuth.authFailed .tokenStale then mc.recoverTokenStale r resp.reqId
       else mc) := by
    intro mc ack
    split_ifs
    · exact driven_recoverTokenStale _
    · exact .refl
  have hresolve : ∀ mc, Driven w r.toEnv mc
      (if mc.pendingRequestsContains resp.reqId then mc.resolvePendingRequest resp else mc) := by
    intro mc
    split_ifs
    · exact driven_request (.resolvePendingRequest resp)
    · exact .refl
  exact ((hprobe mc _).trans (hstale _ _)).trans (hresolve _)

theorem driven_handleRequestResponse (hr : FramesWithin w r) (json : Json) :
    Driven w r.toEnv mc (mc.handleRequestResponse r json).2 := by
  unfold handleRequestResponse
  split
  · exact .refl
  · exact .refl
  · exact driven_routeResponse hr _

theorem driven_failPendingRequest (reqId : Nat) (err : ConnectionError) :
    Driven w env mc (mc.failPendingRequest reqId err) :=
  driven_request (.failPendingRequest reqId err)

theorem driven_handleWsRequestFrame (f : WsRequestFrame) : Driven w env mc (mc.handleWsRequestFrame r f) := by
  have hrecord : Driven w env mc (mc.recordPendingRequest { reqId := f.reqId, op := f.op, sentAt := r.now }) :=
    driven_request (.recordPendingRequest _)
  unfold handleWsRequestFrame
  split_ifs
  · exact driven_perform _
  · split
    · have hinvalid : Driven w env mc (mc.perform [.authStack .invalidateCachedToken]) := driven_perform _
      have hrefresh :=
        (hinvalid.trans (driven_setAwaitingTokenRefresh true)).trans (driven_perform [.authStack .forceRefresh])
      exact hrefresh.trans (driven_perform _)
    · dsimp only
      split
      · exact hrecord.trans (driven_perform _)
      · exact hrecord.trans (driven_failPendingRequest _ _)

end reactor

/-! ## The bus apart -/

/-- The connection with another history on the bus. -/
def onBus (mc : ManagedConnection) (bus : List Effect) : ManagedConnection := { mc with bus }

/-- Alike but for the bus. -/
def Alike (mc m : ManagedConnection) : Prop := ∃ bus, m = mc.onBus bus

theorem Alike.refl (mc : ManagedConnection) : Alike mc mc := ⟨mc.bus, rfl⟩

theorem Alike.trans {mc m m' : ManagedConnection} (h : Alike mc m) (h' : Alike m m') : Alike mc m' := by
  obtain ⟨bus, rfl⟩ := h
  obtain ⟨bus', rfl⟩ := h'
  exact ⟨bus', rfl⟩

section read

variable {mc : ManagedConnection} (b : List Effect) (env : Env) (e : FsmEvent)

/-- A branch on what both read alike. -/
theorem alike_ite {p p' : Prop} [Decidable p] [Decidable p'] {yes no yes' no' : ManagedConnection} (hp : p' ↔ p)
    (hyes : Alike yes yes') (hno : Alike no no') : Alike (if p then yes else no) (if p' then yes' else no') := by
  by_cases h : p
  · rwa [if_pos h, if_pos (hp.2 h)]
  · rwa [if_neg h, if_neg (mt hp.1 h)]

theorem alike_completeResubscribeIfEmpty :
    Alike (mc.completeResubscribeIfEmpty env) ((mc.onBus b).completeResubscribeIfEmpty env) :=
  alike_ite .rfl ⟨_, rfl⟩ ⟨_, rfl⟩

theorem alike_enterClosedOrReconnect (reason : ClosedReason) (ack : AckSource) :
    Alike (mc.enterClosedOrReconnect env reason ack) ((mc.onBus b).enterClosedOrReconnect env reason ack) := by
  have h' : (mc.onBus b).pendingReconnectRequestId = mc.pendingReconnectRequestId := rfl
  cases h : mc.pendingReconnectRequestId with
  | none =>
    simp only [enterClosedOrReconnect, drainPending, h', h]
    exact ⟨_, rfl⟩
  | some rid =>
    simp only [enterClosedOrReconnect, drainPending, reenterConnecting, h', h]
    cases env.tryConsume <;> exact ⟨_, rfl⟩

theorem alike_attemptFailedOrEscalate (cls : TransientClass) (krakenError : Option String)
    (httpStatus closeCode : Option Nat) :
    Alike (mc.attemptFailedOrEscalate env cls krakenError httpStatus closeCode)
      ((mc.onBus b).attemptFailedOrEscalate env cls krakenError httpStatus closeCode) :=
  alike_ite .rfl ⟨_, rfl⟩ ⟨_, rfl⟩

theorem alike_droppedOrEscalate (closeCode : Option Nat) (reason : Option String) :
    Alike (mc.droppedOrEscalate env closeCode reason) ((mc.onBus b).droppedOrEscalate env closeCode reason) :=
  alike_ite .rfl ⟨_, rfl⟩ ⟨_, rfl⟩

theorem alike_connectFailedOrEscalate (cls : TransientClass) (httpStatus : Option Nat) :
    Alike (mc.connectFailedOrEscalate env cls httpStatus) ((mc.onBus b).connectFailedOrEscalate env cls httpStatus) :=
  alike_ite .rfl ⟨_, rfl⟩ ⟨_, rfl⟩

theorem alike_closedDuringHandshake (code : Nat) (reason : Option String) (phase : String) :
    Alike (mc.closedDuringHandshake env code reason phase)
      ((mc.onBus b).closedDuringHandshake env code reason phase) := by
  unfold closedDuringHandshake
  split_ifs
  · exact ⟨_, rfl⟩
  · exact alike_attemptFailedOrEscalate ..

theorem alike_handleSubscribeFailure (key : EntryKey) (transient : Bool) (lastError : Option String) :
    Alike (mc.handleSubscribeFailure env key transient lastError)
      ((mc.onBus b).handleSubscribeFailure env key transient lastError) := by
  unfold handleSubscribeFailure
  cases transient with
  | true =>
    rw [if_pos rfl, if_pos rfl]
    refine alike_ite .rfl ⟨_, rfl⟩ (alike_ite .rfl ?_ ⟨_, rfl⟩)
    exact alike_ite .rfl ⟨_, rfl⟩ ⟨_, rfl⟩
  | false => exact alike_completeResubscribeIfEmpty _ env

theorem alike_handleIdle : Alike (mc.handleIdle env e) ((mc.onBus b).handleIdle env e) := by
  cases e <;> simp only [handleIdle]
  case callStartConnect | callForceReconnect => cases env.tryConsume <;> exact ⟨_, rfl⟩
  all_goals exact ⟨_, rfl⟩

theorem alike_handleConnecting : Alike (mc.handleConnecting env e) ((mc.onBus b).handleConnecting env e) := by
  cases e <;> simp only [handleConnecting]
  case wireUpgradeFailed | wireConnectError =>
    split_ifs
    · exact alike_connectFailedOrEscalate ..
    · exact ⟨_, rfl⟩
  case timerUpgradeTimeout => exact alike_attemptFailedOrEscalate ..
  case callForceReconnect =>
    have h' : (mc.onBus b).hasBeenOpen = mc.hasBeenOpen := rfl
    rw [h']
    split_ifs <;> exact ⟨_, rfl⟩
  all_goals exact ⟨_, rfl⟩

theorem alike_handleAuthenticating :
    Alike (mc.handleAuthenticating env e) ((mc.onBus b).handleAuthenticating env e) := by
  cases e
  case wireAuthHandshakeFailed kind =>
    cases kind <;> simp only [handleAuthenticating]
    case tokenStale =>
      have h' : (mc.onBus b).authHandshakeFailCount = mc.authHandshakeFailCount := rfl
      rw [h']
      split_ifs <;> exact ⟨_, rfl⟩
    case transient => exact alike_attemptFailedOrEscalate ..
    all_goals exact ⟨_, rfl⟩
  all_goals simp only [handleAuthenticating]
  case wireCloseReceived => exact alike_closedDuringHandshake ..
  case wireAbnormalClose | timerStalenessElapsed => exact alike_attemptFailedOrEscalate ..
  case busTokenRefreshFailed =>
    split_ifs
    · exact alike_attemptFailedOrEscalate ..
    · exact ⟨_, rfl⟩
  case timerSubscribeAckTimeout => exact alike_handleSubscribeFailure ..
  all_goals exact ⟨_, rfl⟩

theorem alike_handleResubscribing : Alike (mc.handleResubscribing env e) ((mc.onBus b).handleResubscribing env e) := by
  cases e
  case wireSubscribeAck channel pair last => cases last <;> exact ⟨_, rfl⟩
  all_goals simp only [handleResubscribing]
  case wireCloseReceived => exact alike_closedDuringHandshake ..
  case wireAbnormalClose | timerStalenessElapsed => exact alike_attemptFailedOrEscalate ..
  case timerSubscribeAckTimeout | wireSubscribeFailed => exact alike_handleSubscribeFailure ..
  all_goals exact ⟨_, rfl⟩

theorem alike_handleOpen : Alike (mc.handleOpen env e) ((mc.onBus b).handleOpen env e) := by
  cases e <;> simp only [handleOpen]
  case wireCloseReceived =>
    split_ifs
    · exact ⟨_, rfl⟩
    · exact alike_droppedOrEscalate ..
  case wireAbnormalClose | timerStalenessElapsed => exact alike_droppedOrEscalate ..
  case timerSubscribeAckTimeout | wireSubscribeFailed => exact alike_handleSubscribeFailure ..
  all_goals exact ⟨_, rfl⟩

theorem alike_handleBackingOff : Alike (mc.handleBackingOff env e) ((mc.onBus b).handleBackingOff env e) := by
  have h' : (mc.onBus b).pendingConnectRequestId = mc.pendingConnectRequestId := rfl
  cases e <;> simp only [handleBackingOff]
  case timerBackoffElapsed | timerRateBudgetWindowAdvanced => cases env.tryConsume <;> exact ⟨_, rfl⟩
  case callForceReconnect =>
    cases h : mc.pendingConnectRequestId <;> simp only [latchConnect, h', h] <;> cases env.tryConsume <;>
      exact ⟨_, rfl⟩
  all_goals exact ⟨_, rfl⟩

theorem alike_handleClosing : Alike (mc.handleClosing env e) ((mc.onBus b).handleClosing env e) := by
  cases e <;> simp only [handleClosing]
  case wireCloseReceived | wireAbnormalClose | timerCloseTimeout => exact alike_enterClosedOrReconnect ..
  case callClose =>
    have h' : (mc.onBus b).pendingCloseRequestId = mc.pendingCloseRequestId := rfl
    rw [h']
    cases mc.pendingCloseRequestId <;> exact ⟨_, rfl⟩
  case callForceReconnect =>
    have h' : (mc.onBus b).pendingReconnectRequestId = mc.pendingReconnectRequestId := rfl
    rw [h']
    cases mc.pendingReconnectRequestId <;> exact ⟨_, rfl⟩
  all_goals exact ⟨_, rfl⟩

theorem alike_handleFailed : Alike (mc.handleFailed env e) ((mc.onBus b).handleFailed env e) := by
  cases e <;> simp only [handleFailed]
  case callForceReconnect => cases env.tryConsume <;> exact ⟨_, rfl⟩
  all_goals exact ⟨_, rfl⟩

theorem alike_handleEvent : Alike (mc.handleEvent env e) ((mc.onBus b).handleEvent env e) := by
  have h' : (mc.onBus b).state = mc.state := rfl
  unfold handleEvent
  rw [h']
  cases mc.state with
  | idle => exact alike_handleIdle b env e
  | connecting => exact alike_handleConnecting b env e
  | authenticating => exact alike_handleAuthenticating b env e
  | resubscribing => exact alike_handleResubscribing b env e
  | opened => exact alike_handleOpen b env e
  | backingOff => exact alike_handleBackingOff b env e
  | closing => exact alike_handleClosing b env e
  | closed => exact ⟨b, rfl⟩
  | failed => exact alike_handleFailed b env e

theorem onBus_pop : (mc.onBus b).popTimerForEvent e = (mc.popTimerForEvent e).onBus b := by
  cases e <;> rfl

theorem alike_applyUpdate (u : Update) : Alike (mc.applyUpdate env u) ((mc.onBus b).applyUpdate env u) := by
  cases u
  case deferOpenAuthSubscribe key params =>
    have h' : (mc.onBus b).deferredOpenAuthSubscribes = mc.deferredOpenAuthSubscribes := rfl
    simp only [applyUpdate, deferOpenAuthSubscribe, h']
    split_ifs <;> exact ⟨b, rfl⟩
  case completeResubscribeIfEmpty => exact alike_completeResubscribeIfEmpty b env
  all_goals exact ⟨b, rfl⟩

theorem alike_applyRequest (r : RequestUpdate) : Alike (mc.applyRequest env r) ((mc.onBus b).applyRequest env r) := by
  cases r <;> exact ⟨_, rfl⟩

end read

/-- **No act reads the bus.** -/
theorem alike_step {mc m : ManagedConnection} (h : Alike mc m) (l : Label) : Alike (mc.step l) (m.step l) := by
  obtain ⟨b, rfl⟩ := h
  unfold step
  cases l.act with
  | event e =>
    dsimp only [deliver]
    rw [onBus_pop]
    exact alike_handleEvent b l.env e
  | update u => exact alike_applyUpdate b l.env u
  | request r => exact alike_applyRequest b l.env r

theorem alike_exec {mc m : ManagedConnection} (h : Alike mc m) (ls : List Label) :
    Alike (StepSystem.exec step mc ls) (StepSystem.exec step m ls) := by
  induction ls generalizing mc m with
  | nil => exact h
  | cons l ls ih => exact ih (alike_step h l)

/-- **Where no frame is refused the reactor runs the connection**: what it leaves is what some acts leave. -/
theorem Driven.acts (h : Driven w env mc m) (hw : ¬ w.refuses) :
    ∃ as : List Act, Alike m (StepSystem.exec step mc (as.map (⟨env, ·⟩))) ∧
      ∀ a ∈ as, ForcesReconnect a → w.forces := by
  induction h with
  | refl => exact ⟨[], .refl mc, nofun⟩
  | tail _ hdrive ih =>
    obtain ⟨as, halike, has⟩ := ih
    cases hdrive with
    | act a ha =>
      refine ⟨as ++ [a], ?_, ?_⟩
      · rw [List.map_append, StepSystem.exec_append]
        exact alike_step halike ⟨env, a⟩
      · intro a' ha'
        rcases List.mem_append.1 ha' with hmem | hmem
        · exact has a' hmem
        · obtain rfl := List.mem_singleton.1 hmem
          exact ha
    | perform xs => exact ⟨as, Alike.trans ⟨_, rfl⟩ halike, has⟩
    | refused key hrefused => exact absurd hrefused hw

end KrakenSdk.Conn.ManagedConnection
