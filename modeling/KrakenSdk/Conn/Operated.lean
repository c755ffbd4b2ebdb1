import KrakenSdk.Conn.InFlight
import KrakenSdk.Conn.SubscribeSend
import Mathlib.Logic.Relation
/-!
# What the reactor does to a connection (dispatch/io_reactor)

Every function of the reactor is made of four operations on a connection: an event, a subscribe failure, the
short-circuit of `Resubscribing`, and bookkeeping that keeps url, state and socket. `Operated` is any number of
them. A relation that each of the four satisfies holds across every send, drain, ack and request (`Operated.rel`);
only the success of an upgrade is set apart.
-/
namespace KrakenSdk.Conn.ManagedConnection

/-- One operation. -/
inductive Operation (env : Env) (mc : ManagedConnection) : ManagedConnection → Prop
  | event (e : FsmEvent) (he : ∀ connectionId, e ≠ .wireUpgradeOk connectionId) : Operation env mc (mc.handleEvent env e)
  | failure (key : EntryKey) (transient : Bool) (lastError : Option String) :
    Operation env mc (mc.handleSubscribeFailure env key transient lastError)
  | complete : Operation env mc (mc.completeResubscribeIfEmpty env)
  | bookkeeping {m : ManagedConnection} (hu : m.url = mc.url) (hs : m.state = mc.state) (hk : m.socket = mc.socket)
    (hb : ∃ new, m.bus = mc.bus ++ new) : Operation env mc m

/-- Any number of them. -/
abbrev Operated (env : Env) : ManagedConnection → ManagedConnection → Prop := Relation.ReflTransGen (Operation env)

variable {mc m : ManagedConnection} {env : Env}

/-- **The rule of operations.** -/
theorem Operated.rel {R : ManagedConnection → ManagedConnection → Prop} (hrefl : ∀ mc, R mc mc)
    (htrans : ∀ {mc m m'}, R mc m → R m m' → R mc m') (hstep : ∀ {mc m}, Operation env mc m → R mc m)
    (h : Operated env mc m) : R mc m := by
  induction h with
  | refl => exact hrefl mc
  | tail _ hop ih => exact htrans ih (hstep hop)

/-! ## The functions of the reactor -/

theorem operated_event {e : FsmEvent} (he : ∀ connectionId, e ≠ .wireUpgradeOk connectionId) :
    Operated env mc (mc.handleEvent env e) := .single (.event e he)

theorem operated_complete : Operated env mc (mc.completeResubscribeIfEmpty env) := .single .complete

theorem operated_kept (hu : m.url = mc.url) (hs : m.state = mc.state) (hk : m.socket = mc.socket) (hb : m.bus = mc.bus) :
    Operated env mc m := .single (.bookkeeping hu hs hk ⟨[], by simp [hb]⟩)

theorem operated_perform (xs : List Effect) : Operated env mc (mc.perform xs) :=
  .single (.bookkeeping rfl rfl rfl ⟨xs, rfl⟩)

theorem operated_sendSubscribeFrame (socket : SocketId) (f : SubscribeFrame) (reqId : Nat) (context : String) :
    Operated env mc (mc.sendSubscribeFrame env socket f reqId context).2 := by
  unfold sendSubscribeFrame
  split
  · exact operated_perform _
  · exact .single (.failure f.key true none)
  · exact operated_event (by simp)

theorem operated_takeSubscribeReqId : Operated env mc mc.takeSubscribeReqId.2 := operated_kept rfl rfl rfl rfl

theorem operated_sendAndArm (socket : SocketId) (f : SubscribeFrame) (context : String) :
    Operated env mc (mc.sendAndArm env socket f context) := by
  have hsend : Operated env mc
      (mc.takeSubscribeReqId.2.sendSubscribeFrame env socket f mc.takeSubscribeReqId.1 context).2 :=
    operated_takeSubscribeReqId.trans (operated_sendSubscribeFrame socket f mc.takeSubscribeReqId.1 context)
  unfold sendAndArm
  dsimp only
  generalize mc.takeSubscribeReqId.2.sendSubscribeFrame env socket f mc.takeSubscribeReqId.1 context = out at hsend ⊢
  obtain ⟨outcome, m⟩ := out
  cases outcome with
  | sent => exact hsend.trans (operated_kept rfl rfl rfl rfl)
  | backpressured => exact hsend
  | writerDead => exact hsend

theorem operated_sendSingleSubscribe (socketOf : Option SocketId) (f : SubscribeFrame) :
    Operated env mc (mc.sendSingleSubscribe env socketOf f) := by
  unfold sendSingleSubscribe
  split
  · exact .refl
  · exact operated_sendAndArm _ _ _

theorem operated_deferOpenAuthSubscribe (key : EntryKey) (params : SubscribeParams) :
    Operated env mc (mc.deferOpenAuthSubscribe key params) := by
  unfold deferOpenAuthSubscribe
  split_ifs
  · exact .refl
  · exact operated_kept rfl rfl rfl rfl

theorem operated_refreshOnce : Operated env mc mc.refreshOnce := by
  unfold refreshOnce
  split_ifs
  · exact .refl
  · exact .single (.bookkeeping rfl rfl rfl ⟨_, rfl⟩)

section reactor

variable {r : ReactorEnv}

theorem operated_sendSingleSignedSubscribe (f : SubscribeFrame) :
    Operated r.toEnv mc (mc.sendSingleSignedSubscribe r f) := by
  unfold sendSingleSignedSubscribe
  split
  · exact (operated_deferOpenAuthSubscribe _ _).trans operated_refreshOnce
  · exact .refl
  · exact operated_sendAndArm _ _ _

theorem operated_sendFirstSignedSubscribe : Operated r.toEnv mc (mc.sendFirstSignedSubscribe r) := by
  unfold sendFirstSignedSubscribe
  split
  · exact .single (.bookkeeping rfl rfl rfl ⟨_, rfl⟩)
  · exact .refl
  · exact .refl
  · exact operated_sendAndArm _ _ _

theorem operated_handleSubscribeResend (url : WsUrl) (f : Option SubscribeFrame) :
    Operated r.toEnv mc (mc.handleSubscribeResend r url f) := by
  unfold handleSubscribeResend
  split
  · exact .refl
  · split_ifs
    · exact ((operated_deferOpenAuthSubscribe _ _).trans operated_complete).trans operated_refreshOnce
    · split
      · exact .refl
      · exact operated_sendAndArm _ _ _

theorem operated_sendBookReseed (socketOf : Option SocketId) (f : SubscribeFrame) :
    Operated env mc (mc.sendBookReseed env socketOf f) :=
  (operated_sendSingleSubscribe socketOf f).trans (operated_kept rfl rfl rfl rfl)

theorem operated_sendFrames (socket : SocketId) (context : String) (fs : List SubscribeFrame) :
    Operated env mc (mc.sendFrames env socket context fs) := by
  induction fs generalizing mc with
  | nil => exact .refl
  | cons f fs ih =>
    have hsend : Operated env mc
        (mc.takeSubscribeReqId.2.sendSubscribeFrame env socket f mc.takeSubscribeReqId.1 context).2 :=
      operated_takeSubscribeReqId.trans (operated_sendSubscribeFrame socket f mc.takeSubscribeReqId.1 context)
    simp only [sendFrames]
    generalize mc.takeSubscribeReqId.2.sendSubscribeFrame env socket f mc.takeSubscribeReqId.1 context = out at hsend
    obtain ⟨outcome, m⟩ := out
    cases outcome with
    | sent =>
      have harm : Operated env m (m.armSubscribeAckTimerWithReqId env f.key mc.takeSubscribeReqId.1) :=
        operated_kept rfl rfl rfl rfl
      exact (hsend.trans harm).trans ih
    | backpressured =>
      dsimp only
      split_ifs
      · exact hsend.trans ih
      · exact hsend
    | writerDead => exact hsend

theorem operated_replayFrames (socket : SocketId) (fs : List (SubscribeFrame × Bool)) :
    Operated env mc (mc.replayFrames env socket fs) := by
  induction fs generalizing mc with
  | nil => exact .refl
  | cons row fs ih =>
    obtain ⟨f, resyncing⟩ := row
    have hsend : Operated env mc (mc.takeSubscribeReqId.2.sendSubscribeFrame env socket f mc.takeSubscribeReqId.1
        "outbound writer task terminated (resubscribe replay)").2 :=
      operated_takeSubscribeReqId.trans (operated_sendSubscribeFrame socket f mc.takeSubscribeReqId.1 _)
    simp only [replayFrames]
    generalize mc.takeSubscribeReqId.2.sendSubscribeFrame env socket f mc.takeSubscribeReqId.1
      "outbound writer task terminated (resubscribe replay)" = out at hsend
    obtain ⟨outcome, m⟩ := out
    cases outcome with
    | sent =>
      refine (hsend.trans ?_).trans ih
      dsimp only
      split_ifs <;> exact operated_kept rfl rfl rfl rfl
    | backpressured =>
      dsimp only
      split_ifs
      · exact hsend.trans ih
      · exact hsend
    | writerDead => exact hsend

theorem operated_deferAll (fs : List SubscribeFrame) :
    Operated env mc (fs.foldl (fun mc f => mc.deferOpenAuthSubscribe f.key f.params) mc) := by
  induction fs generalizing mc with
  | nil => exact .refl
  | cons f fs ih => exact (operated_deferOpenAuthSubscribe _ _).trans ih

theorem operated_sendRemainingSignedSubscribes (alreadySent : Option EntryKey) :
    Operated r.toEnv mc (mc.sendRemainingSignedSubscribes r alreadySent) := by
  unfold sendRemainingSignedSubscribes
  dsimp only
  split
  · exact (operated_deferAll _).trans operated_refreshOnce
  · split
    · exact .refl
    · exact operated_sendFrames _ _ _

theorem operated_drainOneRetryable (reqId : Nat) : Operated env mc (mc.drainOneRetryable env reqId) :=
  .single (.bookkeeping rfl rfl rfl ⟨_, rfl⟩)

theorem operated_driveAuthProbe (reqId : Nat) (ack : OrderAckAuth) :
    Operated r.toEnv mc (mc.driveAuthProbe r reqId ack) := by
  cases ack with
  | authenticated =>
    have hok : Operated r.toEnv mc (mc.handleEvent r.toEnv .wireAuthHandshakeOk) := operated_event (by simp)
    simp only [driveAuthProbe]
    split_ifs
    · exact (hok.trans (operated_sendRemainingSignedSubscribes none)).trans operated_complete
    · exact hok
    · exact operated_event (by simp)
  | authFailed kind =>
    have hfail : Operated r.toEnv mc (mc.handleEvent r.toEnv (.wireAuthHandshakeFailed kind)) := operated_event (by simp)
    simp only [driveAuthProbe]
    split_ifs
    · exact hfail.trans (operated_drainOneRetryable reqId)
    · exact hfail

theorem operated_recoverTokenStale (reqId : Nat) : Operated r.toEnv mc (mc.recoverTokenStale r reqId) := by
  have hstale : Operated r.toEnv mc (mc.handleEvent r.toEnv .wireOrderAckTokenStale) := operated_event (by simp)
  have hinvalid := hstale.trans (operated_perform [.authStack .invalidateCachedToken])
  refine (hinvalid.trans (.single (.bookkeeping ?_ ?_ ?_ ⟨[.authStack .forceRefresh], ?_⟩))).trans
    (operated_drainOneRetryable reqId) <;> rfl

theorem operated_recoverIfStale (resp : WsResponse) (ack : OrderAckAuth) : Operated r.toEnv mc
    (if mc.state = .opened ∧ ack = .authFailed .tokenStale then mc.recoverTokenStale r resp.reqId else mc) := by
  split_ifs
  · exact operated_recoverTokenStale _
  · exact .refl

theorem operated_resolveIfPending (resp : WsResponse) :
    Operated env mc (if mc.pendingRequestsContains resp.reqId then mc.resolvePendingRequest resp else mc) := by
  split_ifs
  · exact .single (.bookkeeping rfl rfl rfl ⟨_, rfl⟩)
  · exact .refl

theorem operated_routeResponse (resp : WsResponse) : Operated r.toEnv mc (mc.routeResponse r resp) := by
  have hprobe : ∀ ack, Operated r.toEnv mc
      (if mc.state = .authenticating then mc.driveAuthProbe r resp.reqId ack else mc) := by
    intro ack
    split_ifs
    · exact operated_driveAuthProbe _ _
    · exact .refl
  exact ((hprobe _).trans (operated_recoverIfStale resp _)).trans (operated_resolveIfPending resp)

theorem operated_handleRequestResponse (json : Json) : Operated r.toEnv mc (mc.handleRequestResponse r json).2 := by
  unfold handleRequestResponse
  split
  · exact .refl
  · exact .refl
  · exact operated_routeResponse _

theorem operated_handleWsRequestFrame (f : WsRequestFrame) : Operated env mc (mc.handleWsRequestFrame r f) := by
  unfold handleWsRequestFrame
  split_ifs
  · exact operated_perform _
  · split
    · refine .single (.bookkeeping rfl rfl rfl ⟨[.authStack .invalidateCachedToken, .authStack .forceRefresh,
        .resolve f.reqId (.error .notOpen)], ?_⟩)
      simp [rejectNotOpen, perform, setAwaitingTokenRefresh]
    · dsimp only
      split
      · exact .single (.bookkeeping rfl rfl rfl ⟨_, rfl⟩)
      · exact .single (.bookkeeping rfl rfl rfl ⟨_, rfl⟩)

theorem operated_abandonWsRequest (reqId : Nat) : Operated env mc (mc.abandonWsRequest reqId) :=
  .single (.bookkeeping rfl rfl rfl ⟨_, rfl⟩)

end reactor

/-! ## The effects are kept -/

theorem bus_of_transition (h : Transition mc m) : ∃ new, m.bus = mc.bus ++ new := by
  cases h with
  | kept h _ =>
    obtain ⟨-, new, hb, -⟩ := h
    exact ⟨new, hb⟩
  | drained m' env cause before after =>
    obtain ⟨-, new, hb, -⟩ := before
    obtain ⟨-, new', hb', -⟩ := after
    refine ⟨new ++ ((m'.pendingRequests.drain cause env.now).2 ++ new'), ?_⟩
    simp [hb', drainPending, hb]

theorem Operated.bus (h : Operated env mc m) : ∃ new, m.bus = mc.bus ++ new := by
  refine h.rel (R := fun mc m => ∃ new, m.bus = mc.bus ++ new) (fun mc => ⟨[], by simp⟩) ?_ ?_
  · rintro mc m m' ⟨new, hb⟩ ⟨new', hb'⟩
    exact ⟨new ++ new', by simp [hb', hb]⟩
  · intro mc m hop
    cases hop with
    | event e _ => exact bus_of_transition (transition_handleEvent e)
    | failure key transient lastError => exact bus_of_transition (transition_handleSubscribeFailure key transient lastError)
    | complete => exact bus_of_transition transition_completeResubscribeIfEmpty
    | bookkeeping _ _ _ hb => exact hb

end KrakenSdk.Conn.ManagedConnection
