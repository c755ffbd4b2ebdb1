import KrakenSdk.Conn.Working
/-!
# What moves the auth handshake (managed_connection/mod.rs:580-594)

In `Authenticating` the next move comes from an ack or resend timer, from the answer to a request, or from the
outcome of a token refresh (`Moves`). No event takes one of these away without leaving the state; a send that is
tried leaves an ack timer, a resend, or a dead connection, and one that lacks the token leaves a refresh (`Launches`).
-/
namespace KrakenSdk.Conn

/-- A call that spawns a token refresh. -/
def Effect.spawnsRefresh : Effect → Bool
  | .authStack .forceRefresh => true
  | _ => false

namespace ManagedConnection

/-- How many token refreshes the connection has spawned. -/
def refreshes (mc : ManagedConnection) : Nat := mc.bus.countP Effect.spawnsRefresh

/-- Something will move the handshake, the outcomes of `delivered` refreshes having come. -/
def Moves (mc : ManagedConnection) (delivered : Nat) : Prop :=
  (∃ key, mc.Armed key) ∨ (∃ reqId, mc.pendingRequestsContains reqId = true) ∨ delivered < mc.refreshes

/-- Something will, the ack timers `ack`, the resend timers `resend` and the requests `req` apart. -/
def MovesWithout (mc : ManagedConnection) (ack resend : EntryKey → Prop) (req : Nat → Prop) (delivered : Nat) : Prop :=
  (∃ key, mc.isSubscribeAckArmed key = true ∧ ¬ ack key) ∨
    (∃ key, (mc.timers.perEntrySubscribeResendDue.lookup key).isSome = true ∧ ¬ resend key) ∨
    (∃ reqId, mc.pendingRequestsContains reqId = true ∧ ¬ req reqId) ∨ delivered < mc.refreshes

variable {mc m m' : ManagedConnection} {env : Env} {e : FsmEvent} {d : Nat}

theorem refreshes_le (h : ∃ new, m.bus = mc.bus ++ new) : mc.refreshes ≤ m.refreshes := by
  obtain ⟨new, hb⟩ := h
  simp [refreshes, hb, List.countP_append]

theorem Operated.refreshes_le (h : Operated env mc m) : mc.refreshes ≤ m.refreshes :=
  ManagedConnection.refreshes_le h.bus

/-- What is left in flight still is, and that is enough. -/
theorem MovesWithout.moves {ack resend : EntryKey → Prop} {req : Nat → Prop} (h : mc.MovesWithout ack resend req d)
    (hack : ∀ key, mc.isSubscribeAckArmed key = true → ¬ ack key → m.Armed key)
    (hresend : ∀ key, (mc.timers.perEntrySubscribeResendDue.lookup key).isSome = true → ¬ resend key → m.Armed key)
    (hreq : ∀ reqId, mc.pendingRequestsContains reqId = true → ¬ req reqId → m.pendingRequestsContains reqId = true)
    (hb : mc.refreshes ≤ m.refreshes) : m.Moves d := by
  rcases h with ⟨key, ha, hn⟩ | ⟨key, ha, hn⟩ | ⟨reqId, hp, hn⟩ | hlt
  · exact .inl ⟨key, hack key ha hn⟩
  · exact .inl ⟨key, hresend key ha hn⟩
  · exact .inr (.inl ⟨reqId, hreq reqId hp hn⟩)
  · exact .inr (.inr (by omega))

/-- From `mc` to `m` nothing in flight is lost, unless the handshake is over. -/
structure KeepsInFlight (mc m : ManagedConnection) : Prop where
  handshake : m.state = .authenticating → mc.state = .authenticating
  armed : m.state = .authenticating → ∀ key, mc.Armed key → m.Armed key
  pending : m.state = .authenticating → ∀ reqId, mc.pendingRequestsContains reqId = true →
    m.pendingRequestsContains reqId = true
  spawned : mc.refreshes ≤ m.refreshes

/-- From `mc` to `m` something was put in flight, unless the handshake is over. -/
def Launches (mc m : ManagedConnection) : Prop := m.state = .authenticating → ∀ d, d ≤ mc.refreshes → m.Moves d

theorem KeepsInFlight.refl (mc : ManagedConnection) : KeepsInFlight mc mc :=
  ⟨id, fun _ _ => id, fun _ _ => id, Nat.le_refl _⟩

theorem KeepsInFlight.trans (h : KeepsInFlight mc m) (h' : KeepsInFlight m m') : KeepsInFlight mc m' where
  handshake hs := h.handshake (h'.handshake hs)
  armed hs key ha := h'.armed hs key (h.armed (h'.handshake hs) key ha)
  pending hs reqId hp := h'.pending hs reqId (h.pending (h'.handshake hs) reqId hp)
  spawned := Nat.le_trans h.spawned h'.spawned

theorem KeepsInFlight.moves (h : KeepsInFlight mc m) (hs : m.state = .authenticating) (hm : mc.Moves d) : m.Moves d := by
  rcases hm with ⟨key, ha⟩ | ⟨reqId, hp⟩ | hlt
  · exact .inl ⟨key, h.armed hs key ha⟩
  · exact .inr (.inl ⟨reqId, h.pending hs reqId hp⟩)
  · have hle := h.spawned
    exact .inr (.inr (by omega))

theorem KeepsInFlight.of_operated (h : Operated env mc m)
    (ha : m.state = .authenticating → ∀ key, mc.Armed key → m.Armed key)
    (hp : m.state = .authenticating → m.pendingRequests = mc.pendingRequests) : KeepsInFlight mc m where
  handshake := h.stays.handshake
  armed := ha
  pending hs reqId hc := by
    unfold pendingRequestsContains at hc ⊢
    rwa [hp hs]
  spawned := h.refreshes_le

theorem Launches.after (h : KeepsInFlight mc m) (hl : Launches m m') : Launches mc m' :=
  fun hs d hd => hl hs d (Nat.le_trans hd h.spawned)

theorem Launches.before (hl : Launches mc m) (h : KeepsInFlight m m') : Launches mc m' :=
  fun hs d hd => h.moves hs (hl (h.handshake hs) d hd)

theorem launches_left (h : m.state ≠ .authenticating) : Launches mc m := fun hs => absurd hs h

theorem launches_armed {key : EntryKey} (h : m.state = .authenticating → m.Armed key) : Launches mc m :=
  fun hs _ _ => .inl ⟨key, h hs⟩

/-! ## Events -/

theorem Down.not_handshake (h : m.Down) (hs : m.state = .authenticating) : False :=
  h.not_upgraded (by rw [hs]; trivial)

/-- A transient failure arms the resend of its key, or ends the connection. -/
theorem armed_retry {key : EntryKey} (hs : (mc.handleSubscribeFailure env key true none).state = .authenticating) :
    (mc.handleSubscribeFailure env key true none).Armed key ∧
      (∀ key', mc.Armed key' → (mc.handleSubscribeFailure env key true none).Armed key') ∧
        (mc.handleSubscribeFailure env key true none).pendingRequests = mc.pendingRequests := by
  simp only [handleSubscribeFailure, if_true, retrySubscribe] at hs ⊢
  split_ifs at hs ⊢
  · have hkey : ∀ m : ManagedConnection, (m.timers.perEntrySubscribeResendDue.lookup key).isSome → m.Armed key :=
      fun _ h => .inr h
    refine ⟨hkey _ (by simp), fun key' ha => ?_, rfl⟩
    by_cases hk : key' = key
    · subst hk
      exact hkey _ (by simp)
    · simpa [Armed, cancelEntryTimers, forgetSubscribeReqIdForKey, AList.lookup_erase_ne hk, AList.lookup_insert_ne hk] using ha
  · exact ((down_droppedOrEscalate rfl _ _).not_handshake hs).elim
  · exact ((down_attemptFailed rfl _ _ _ _).not_handshake hs).elim

theorem keepsInFlight_failure (key : EntryKey) : KeepsInFlight mc (mc.handleSubscribeFailure env key true none) :=
  .of_operated (.single (.failure key true none)) (fun hs => (armed_retry hs).2.1) fun hs => (armed_retry hs).2.2

theorem kept_handleAuthenticating (hs : (mc.handleAuthenticating env e).state = .authenticating) :
    (∀ key, mc.Armed key → (mc.handleAuthenticating env e).Armed key) ∧
      (mc.handleAuthenticating env e).pendingRequests = mc.pendingRequests := by
  cases e
  case timerSubscribeAckTimeout => exact (armed_retry hs).2
  case wireAuthHandshakeFailed kind =>
    cases kind <;> simp only [handleAuthenticating] at hs ⊢
    case tokenStale =>
      split_ifs at hs ⊢
      · cases hs
      · exact ⟨fun _ => id, rfl⟩
    case transient => exact ((down_attemptFailedOrEscalate rfl _ _ _ _).not_handshake hs).elim
    all_goals cases hs
  all_goals simp only [handleAuthenticating] at hs ⊢
  case wireAuthHandshakeOk | wireOrderAuthOk | callClose | callForceReconnect => cases hs
  case wireCloseReceived => exact ((down_closedDuringHandshake rfl _ _ _).not_handshake hs).elim
  case wireAbnormalClose | timerStalenessElapsed =>
    exact ((down_attemptFailedOrEscalate rfl _ _ _ _).not_handshake hs).elim
  case busTokenRefreshFailed =>
    split_ifs at hs ⊢
    · exact ((down_attemptFailedOrEscalate rfl _ _ _ _).not_handshake hs).elim
    · cases hs
  all_goals exact ⟨fun _ => id, by trivial⟩

theorem handleEvent_authenticating (hs : mc.state = .authenticating) :
    mc.handleEvent env e = mc.handleAuthenticating env e := by
  unfold handleEvent
  rw [hs]

/-- **No event takes away what is in flight** and stays in `Authenticating`. -/
theorem keepsInFlight_event (he : ∀ connectionId, e ≠ .wireUpgradeOk connectionId) :
    KeepsInFlight mc (mc.handleEvent env e) := by
  have hop : Operated env mc (mc.handleEvent env e) := operated_event he
  refine .of_operated hop (fun hs => ?_) fun hs => ?_
  all_goals
    have heq := @handleEvent_authenticating mc env e (hop.stays.handshake hs)
    rw [heq] at hs ⊢
  · exact (kept_handleAuthenticating hs).1
  · exact (kept_handleAuthenticating hs).2

theorem not_handshake_wireLost (he : WireLost e) : (mc.handleEvent env e).state ≠ .authenticating :=
  fun hs => not_upgraded_wireLost he (by rw [hs]; trivial)

/-- A rejected handshake that goes on awaits a refresh. -/
theorem awaiting_handshakeFailed (hs : mc.state = .authenticating) {kind : AuthErrorKind}
    (h : (mc.handleEvent env (.wireAuthHandshakeFailed kind)).state = .authenticating) :
    (mc.handleEvent env (.wireAuthHandshakeFailed kind)).awaitingTokenRefresh = true := by
  rw [handleEvent_authenticating hs] at h ⊢
  cases kind <;> simp only [handleAuthenticating] at h ⊢
  case tokenStale =>
    split_ifs at h ⊢
    · cases h
    · rfl
  case transient => exact ((down_attemptFailedOrEscalate rfl _ _ _ _).not_handshake h).elim
  all_goals cases h

/-- The firing of an ack timer. -/
theorem keepsInFlight_ackTimeout (channel : ChannelName) (pair : Option Symbol) :
    KeepsInFlight mc ((mc.popTimerForEvent (.timerSubscribeAckTimeout channel pair)).handleEvent env
      (.timerSubscribeAckTimeout channel pair)) := by
  have hpop : Operated env mc (mc.popTimerForEvent (.timerSubscribeAckTimeout channel pair)) :=
    operated_kept rfl rfl rfl rfl
  have hop : Operated env mc ((mc.popTimerForEvent (.timerSubscribeAckTimeout channel pair)).handleEvent env
      (.timerSubscribeAckTimeout channel pair)) := hpop.trans (operated_event (by simp))
  refine .of_operated hop (fun hs key ha => ?_) fun hs => ?_
  all_goals
    have hauth : (mc.popTimerForEvent (.timerSubscribeAckTimeout channel pair)).state = .authenticating :=
      hop.stays.handshake hs
    rw [handleEvent_authenticating hauth] at hs ⊢
    obtain ⟨hkey, hrest, hpending⟩ := armed_retry hs
  · by_cases hk : key = (channel, pair)
    · subst hk
      exact hkey
    · refine hrest key ?_
      simpa [Armed, popTimerForEvent, AList.lookup_erase_ne hk] using ha
  · exact hpending

/-! ## Sends -/

theorem keepsInFlight_same (hs : m.state = mc.state) (ha : ∀ key, mc.Armed key → m.Armed key)
    (hp : m.pendingRequests = mc.pendingRequests) (hb : ∃ new, m.bus = mc.bus ++ new) : KeepsInFlight mc m where
  handshake h := hs ▸ h
  armed _ := ha
  pending _ reqId h := by
    unfold pendingRequestsContains at h ⊢
    rwa [hp]
  spawned := refreshes_le hb

theorem keepsInFlight_take : KeepsInFlight mc mc.takeSubscribeReqId.2 :=
  keepsInFlight_same rfl (fun _ => id) rfl ⟨[], by simp [takeSubscribeReqId]⟩

theorem armed_armSubscribeAck {key key' : EntryKey} (reqId : Nat) (ha : mc.Armed key') :
    (mc.armSubscribeAckTimerWithReqId env key reqId).Armed key' := by
  by_cases hk : key' = key
  · subst hk
    exact armed_armSubscribeAckTimer _ _ _ _
  · simpa [Armed, armSubscribeAckTimerWithReqId, armSubscribeAck, recordSubscribeReqId, AList.lookup_insert_ne hk] using ha

theorem keepsInFlight_sendAndArm (socket : SocketId) (f : SubscribeFrame) (context : String) :
    KeepsInFlight mc (mc.sendAndArm env socket f context) := by
  refine keepsInFlight_take.trans ?_
  unfold sendAndArm sendSubscribeFrame
  cases f.sent with
  | ok => exact keepsInFlight_same rfl (fun _ ha => armed_armSubscribeAck _ ha) rfl ⟨_, rfl⟩
  | error e =>
    cases e with
    | backpressure => exact keepsInFlight_failure f.key
    | writerClosed => exact keepsInFlight_event (by simp)

/-- A frame that is tried leaves its ack timer, its resend, or a dead connection. -/
theorem launches_sendAndArm (socket : SocketId) (f : SubscribeFrame) (context : String) :
    Launches mc (mc.sendAndArm env socket f context) := by
  unfold sendAndArm sendSubscribeFrame
  cases f.sent with
  | ok => exact launches_armed fun _ => armed_armSubscribeAckTimer _ _ f.key _
  | error e =>
    cases e with
    | backpressure => exact launches_armed fun hs => (armed_retry hs).1
    | writerClosed => exact launches_left (not_handshake_wireLost (.inr ⟨_, rfl⟩))

theorem keepsInFlight_sendSingleSubscribe (socketOf : Option SocketId) (f : SubscribeFrame) :
    KeepsInFlight mc (mc.sendSingleSubscribe env socketOf f) := by
  unfold sendSingleSubscribe
  split
  · exact .refl mc
  · exact keepsInFlight_sendAndArm _ _ _

theorem keepsInFlight_sendBookReseed (socketOf : Option SocketId) (f : SubscribeFrame) :
    KeepsInFlight mc (mc.sendBookReseed env socketOf f) :=
  (keepsInFlight_sendSingleSubscribe socketOf f).trans
    (keepsInFlight_same rfl (fun _ => id) rfl ⟨[], by simp [sendBookReseed, armBookReseedSnapshot]⟩)

theorem keepsInFlight_deferOpenAuthSubscribe (key : EntryKey) (params : SubscribeParams) :
    KeepsInFlight mc (mc.deferOpenAuthSubscribe key params) := by
  unfold deferOpenAuthSubscribe
  split_ifs
  · exact .refl mc
  · exact keepsInFlight_same rfl (fun _ => id) rfl ⟨[], by simp⟩

theorem keepsInFlight_refreshOnce : KeepsInFlight mc mc.refreshOnce := by
  unfold refreshOnce
  split_ifs
  · exact .refl mc
  · exact keepsInFlight_same rfl (fun _ => id) rfl ⟨_, rfl⟩

/-- One more refresh than before. -/
theorem launches_spawned (h : mc.refreshes < m.refreshes) : Launches mc m :=
  fun _ d hd => .inr (.inr (by omega))

theorem refreshes_force (h : m.bus = mc.bus ++ [.authStack .forceRefresh]) : mc.refreshes < m.refreshes := by
  simp [refreshes, h, List.countP_append, Effect.spawnsRefresh]

theorem launches_refreshOnce (h : mc.awaitingTokenRefresh = false) : Launches mc mc.refreshOnce := by
  unfold refreshOnce
  rw [if_neg (by simp [h])]
  exact launches_spawned (refreshes_force rfl)

section reactor

variable {r : ReactorEnv}

theorem keepsInFlight_sendSingleSignedSubscribe (f : SubscribeFrame) :
    KeepsInFlight mc (mc.sendSingleSignedSubscribe r f) := by
  unfold sendSingleSignedSubscribe
  split
  · exact (keepsInFlight_deferOpenAuthSubscribe _ _).trans keepsInFlight_refreshOnce
  · exact .refl mc
  · exact keepsInFlight_sendAndArm _ _ _

theorem awaiting_deferOpenAuthSubscribe (mc : ManagedConnection) (key : EntryKey) (params : SubscribeParams) :
    (mc.deferOpenAuthSubscribe key params).awaitingTokenRefresh = mc.awaitingTokenRefresh := by
  unfold deferOpenAuthSubscribe
  split_ifs <;> rfl

theorem launches_sendSingleSignedSubscribe (f : SubscribeFrame) (ha : mc.awaitingTokenRefresh = false)
    (hk : r.socketOf ≠ none) : Launches mc (mc.sendSingleSignedSubscribe r f) := by
  unfold sendSingleSignedSubscribe
  split
  · refine .after (keepsInFlight_deferOpenAuthSubscribe _ _) (launches_refreshOnce ?_)
    rw [awaiting_deferOpenAuthSubscribe, ha]
  · rename_i hnone
    exact absurd hnone hk
  · exact launches_sendAndArm _ _ _

theorem keepsInFlight_complete : KeepsInFlight mc (mc.completeResubscribeIfEmpty env) := by
  refine .of_operated operated_complete (fun hs => ?_) fun hs => ?_
  all_goals
    unfold completeResubscribeIfEmpty at hs ⊢
    split_ifs at hs ⊢
  · cases hs
  · exact fun _ => id
  · cases hs
  · rfl

theorem awaiting_complete (mc : ManagedConnection) (env : Env) :
    (mc.completeResubscribeIfEmpty env).awaitingTokenRefresh = mc.awaitingTokenRefresh := by
  unfold completeResubscribeIfEmpty
  split_ifs <;> rfl

theorem keepsInFlight_handleSubscribeResend (url : WsUrl) (f : Option SubscribeFrame) :
    KeepsInFlight mc (mc.handleSubscribeResend r url f) := by
  unfold handleSubscribeResend
  split
  · exact .refl mc
  · split_ifs
    · exact ((keepsInFlight_deferOpenAuthSubscribe _ _).trans keepsInFlight_complete).trans keepsInFlight_refreshOnce
    · split
      · exact .refl mc
      · exact keepsInFlight_sendAndArm _ _ _

/-- A resend that finds its entry, and a token or no refresh awaited. -/
theorem launches_handleSubscribeResend {f : SubscribeFrame} (hk : r.socketOf ≠ none)
    (htoken : r.token = none → mc.awaitingTokenRefresh = false) :
    Launches mc (mc.handleSubscribeResend r .authUrl (some f)) := by
  unfold handleSubscribeResend
  dsimp only
  split_ifs with hnone
  · refine .after ((keepsInFlight_deferOpenAuthSubscribe _ _).trans keepsInFlight_complete) (launches_refreshOnce ?_)
    rw [awaiting_complete, awaiting_deferOpenAuthSubscribe, htoken hnone.2]
  · split
    · rename_i hnone
      exact absurd hnone hk
    · exact launches_sendAndArm _ _ _

theorem launches_sendFirstSignedSubscribe (hk : r.socketOf ≠ none) (he : r.entries ≠ []) :
    Launches mc (mc.sendFirstSignedSubscribe r) := by
  unfold sendFirstSignedSubscribe
  split
  · exact launches_spawned (refreshes_force rfl)
  · rename_i hnone
    exact absurd hnone hk
  · rename_i hnil
    exact absurd hnil he
  · exact launches_sendAndArm _ _ _

/-- With nothing in flight and no refresh awaited, nothing moves. -/
theorem authenticatingNothingInFlight_of_not_moves (hs : mc.state = .authenticating) (hm : ¬ mc.Moves d)
    (ha : mc.awaitingTokenRefresh = false) : mc.authenticatingNothingInFlight = true := by
  have hcount : mc.pendingSubscribeAckCount = 0 := by
    by_contra hpos
    exact hm (.inl (armed_iff.2 fun hno => hpos hno.1))
  have hpending : HashMap.isEmpty mc.pendingRequests = true := by
    rw [HashMap.isEmpty_iff_lookup]
    intro reqId
    by_contra hsome
    exact hm (.inr (.inl ⟨reqId, Option.isSome_iff_ne_none.2 hsome⟩))
  simp [authenticatingNothingInFlight, hs, hcount, hpending, ha]

/-! ## Requests -/

/-- A function that answers one request leaves the others. -/
theorem MovesWithout.answered {reqId : Nat} (h : mc.MovesWithout (fun _ => False) (fun _ => False) (· = reqId) d)
    (hack : m.timers.perEntrySubscribeAckTimeouts = mc.timers.perEntrySubscribeAckTimeouts)
    (hresend : m.timers.perEntrySubscribeResendDue = mc.timers.perEntrySubscribeResendDue)
    (hp : ∀ id, id ≠ reqId → m.pendingRequests.lookup id = mc.pendingRequests.lookup id)
    (hb : ∃ new, m.bus = mc.bus ++ new) : m.Moves d := by
  refine h.moves (fun key ha _ => ?_) (fun key ha _ => ?_) (fun id hc hne => ?_) (refreshes_le hb)
  · exact armed_of_lookup hack hresend key (.inl ha)
  · exact armed_of_lookup hack hresend key (.inr ha)
  · unfold pendingRequestsContains at hc ⊢
    rwa [hp id hne]

theorem lookup_failOne (p : PendingRequestMap) {reqId id : Nat} (hne : id ≠ reqId) (err : ConnectionError) :
    (p.failOne reqId err).1.lookup id = p.lookup id := by
  unfold PendingRequestMap.failOne
  split
  · exact AList.lookup_erase_ne hne
  · rfl

theorem lookup_drainOneRetryable (p : PendingRequestMap) {reqId id : Nat} (hne : id ≠ reqId) (now : MonotonicInstant) :
    (p.drainOneRetryable reqId now).1.lookup id = p.lookup id := by
  unfold PendingRequestMap.drainOneRetryable
  split
  · exact AList.lookup_erase_ne hne
  · rfl

theorem lookup_resolve (p : PendingRequestMap) {resp : WsResponse} {id : Nat} (hne : id ≠ resp.reqId) :
    (p.resolve resp).1.lookup id = p.lookup id := by
  unfold PendingRequestMap.resolve
  split
  · exact AList.lookup_erase_ne hne
  · rfl

theorem moves_abandonWsRequest {reqId : Nat}
    (h : mc.MovesWithout (fun _ => False) (fun _ => False) (· = reqId) d) : (mc.abandonWsRequest reqId).Moves d :=
  h.answered rfl rfl (fun _ hne => lookup_failOne _ hne _) ⟨_, rfl⟩

/-- An order ack that leaves the handshake going on rejects the token, below the cap of such rejects. -/
theorem driveAuthProbe_authenticating (hs : mc.state = .authenticating) {reqId : Nat} {ack : OrderAckAuth}
    (h : (mc.driveAuthProbe r reqId ack).state = .authenticating) : ack = .authFailed .tokenStale ∧
      satAdd32 mc.authHandshakeFailCount 1 < r.knobs.maxAuthHandshakeFailures ∧ mc.driveAuthProbe r reqId ack =
        ({ mc with authHandshakeFailCount := satAdd32 mc.authHandshakeFailCount 1, awaitingTokenRefresh := true
                   attemptCount := satAdd32 mc.attemptCount 1 } : ManagedConnection).drainOneRetryable r.toEnv reqId := by
  cases ack with
  | authenticated =>
    exfalso
    simp only [driveAuthProbe, handleEvent_authenticating hs] at h
    split_ifs at h
    · have hop : Operated r.toEnv (mc.handleAuthenticating r.toEnv .wireAuthHandshakeOk)
          (((mc.handleAuthenticating r.toEnv .wireAuthHandshakeOk).sendRemainingSignedSubscribes r
            none).completeResubscribeIfEmpty r.toEnv) :=
        (operated_sendRemainingSignedSubscribes none).trans operated_complete
      cases hop.stays.handshake h
    · cases h
    · cases h
  | authFailed kind =>
    simp only [driveAuthProbe, handleEvent_authenticating hs] at h ⊢
    cases kind with
    | tokenStale =>
      simp only [if_true, handleAuthenticating] at h ⊢
      split_ifs at h ⊢ with hcap
      · cases h
      · exact ⟨trivial, Nat.lt_of_not_le hcap, rfl⟩
    | transient =>
      exact ((down_attemptFailedOrEscalate rfl _ _ _ _).not_handshake h).elim
    | badCreds => cases h
    | permissionDenied => cases h

/-- **The answer to an order** in `Authenticating`: its request is gone, and no refresh was spawned for it. -/
theorem moves_routeResponse (hs : mc.state = .authenticating) {resp : WsResponse}
    (h : classifyOrderAckAuth resp.success resp.error = .authFailed .tokenStale →
      satAdd32 mc.authHandshakeFailCount 1 < r.knobs.maxAuthHandshakeFailures →
        mc.MovesWithout (fun _ => False) (fun _ => False) (· = resp.reqId) d)
    (hs' : (mc.routeResponse r resp).state = .authenticating) : (mc.routeResponse r resp).Moves d := by
  have hop : ∀ m : ManagedConnection, Operated r.toEnv m _ := fun m =>
    (@operated_recoverIfStale m r resp (classifyOrderAckAuth resp.success resp.error)).trans
      (operated_resolveIfPending resp)
  have hprobe : (mc.driveAuthProbe r resp.reqId (classifyOrderAckAuth resp.success resp.error)).state =
      .authenticating := by
    refine (hop _).stays.handshake ?_
    unfold routeResponse at hs'
    dsimp only at hs'
    rwa [if_pos hs] at hs'
  obtain ⟨hack, hcap, heq⟩ := driveAuthProbe_authenticating hs hprobe
  have hleft := h hack hcap
  have hno : ¬ ((mc.driveAuthProbe r resp.reqId (classifyOrderAckAuth resp.success resp.error)).state = .opened ∧
      classifyOrderAckAuth resp.success resp.error = .authFailed .tokenStale) := by simp [hprobe]
  unfold routeResponse
  dsimp only
  rw [if_pos hs, if_neg hno, heq]
  split_ifs
  · refine hleft.answered rfl rfl (fun id hne => ?_) ⟨_, List.append_assoc _ _ _⟩
    exact (lookup_resolve _ hne).trans (lookup_drainOneRetryable _ hne _)
  · exact hleft.answered rfl rfl (fun id hne => lookup_drainOneRetryable _ hne _) ⟨_, rfl⟩

end reactor

end ManagedConnection

end KrakenSdk.Conn
