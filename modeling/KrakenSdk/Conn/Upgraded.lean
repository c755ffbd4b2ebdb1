import KrakenSdk.Conn.Handed
import KrakenSdk.Conn.Operated
import KrakenSdk.Conn.Sockets
/-!
# The states over a socket that is up (managed_connection/handle_event.rs)

Only the success of an upgrade leads to `Authenticating`, `Resubscribing` or `Open` from another state, and in
these three the socket is the one that came up (`Stays`).
-/
namespace KrakenSdk.Conn.ManagedConnection

/-- The upgrade has succeeded, and the connection is not closing. -/
def Upgraded : ConnectionState → Prop
  | .authenticating | .resubscribing | .opened => True
  | _ => False

/-- From `mc` to `m` no socket came up; the socket of one that is up is kept, and an attempt has one. -/
structure Stays (mc m : ManagedConnection) : Prop where
  url : m.url = mc.url
  session : Upgraded m.state → Upgraded mc.state ∧ m.socket = mc.socket
  handshake : m.state = .authenticating → mc.state = .authenticating
  attempt : m.state = .connecting → mc.state = .connecting ∧ m.socket = mc.socket ∨ m.socket ≠ none

/-- An attempt, and what it leads to, has a socket. -/
structure HasSocket (mc : ManagedConnection) : Prop where
  session : Upgraded mc.state → mc.socket ≠ none
  attempt : mc.state = .connecting → mc.socket ≠ none

variable {mc m m' : ManagedConnection} {env : Env} {e : FsmEvent}

theorem Stays.refl (mc : ManagedConnection) : Stays mc mc := ⟨rfl, fun h => ⟨h, rfl⟩, id, fun h => .inl ⟨h, rfl⟩⟩

theorem Stays.trans (h : Stays mc m) (h' : Stays m m') : Stays mc m' where
  url := h'.url.trans h.url
  session hs := by
    obtain ⟨hm, hk'⟩ := h'.session hs
    obtain ⟨hmc, hk⟩ := h.session hm
    exact ⟨hmc, hk'.trans hk⟩
  handshake hs := h.handshake (h'.handshake hs)
  attempt hs := by
    rcases h'.attempt hs with ⟨hm, hk'⟩ | hk'
    · rw [hk']
      exact h.attempt hm
    · exact .inr hk'

theorem Stays.same (hu : m.url = mc.url) (hs : m.state = mc.state) (hk : m.socket = mc.socket) : Stays mc m :=
  ⟨hu, fun h => ⟨hs ▸ h, hk⟩, fun h => hs ▸ h, fun h => .inl ⟨hs ▸ h, hk⟩⟩

theorem Stays.within (hu : m.url = mc.url) (hk : m.socket = mc.socket) (hs : Upgraded mc.state)
    (hm : m.state = .resubscribing ∨ m.state = .opened) : Stays mc m := by
  refine ⟨hu, fun _ => ⟨hs, hk⟩, fun ha => ?_, fun hc => ?_⟩
  · rcases hm with hm | hm <;> simp [hm] at ha
  · rcases hm with hm | hm <;> simp [hm] at hc

theorem Stays.left (hu : m.url = mc.url) (hs : ¬ Upgraded m.state) (hc : m.state ≠ .connecting) : Stays mc m :=
  ⟨hu, fun h => absurd h hs, fun h => absurd (by simp [h, Upgraded]) hs, fun h => absurd h hc⟩

theorem Stays.connects (hu : m.url = mc.url) (hs : m.state = .connecting) (hk : m.socket ≠ none) : Stays mc m :=
  ⟨hu, fun h => by rw [hs] at h; exact h.elim, fun h => by simp [hs] at h, fun _ => .inr hk⟩

theorem Down.stays (h : m.Down) (hu : m.url = mc.url) : Stays mc m := by
  rcases h.state with hs | hs | hs <;> exact .left hu (by simp [hs, Upgraded]) (by simp [hs])

theorem HasSocket.stays (h : mc.HasSocket) (hs : Stays mc m) : m.HasSocket where
  session hm := by
    obtain ⟨hmc, hk⟩ := hs.session hm
    rw [hk]
    exact h.session hmc
  attempt hm := by
    rcases hs.attempt hm with ⟨hmc, hk⟩ | hk
    · rw [hk]
      exact h.attempt hmc
    · exact hk

theorem hasSocket_new (url : WsUrl) (knobs : Knobs) : (new url knobs).HasSocket := ⟨False.elim, by simp [new]⟩

/-! ## The exits keep the url -/

theorem url_attemptFailedOrEscalate (m : ManagedConnection) (env : Env) (cls : TransientClass)
    (krakenError : Option String) (httpStatus closeCode : Option Nat) :
    (m.attemptFailedOrEscalate env cls krakenError httpStatus closeCode).url = m.url := by
  unfold attemptFailedOrEscalate
  split_ifs <;> rfl

theorem url_droppedOrEscalate (m : ManagedConnection) (env : Env) (closeCode : Option Nat) (reason : Option String) :
    (m.droppedOrEscalate env closeCode reason).url = m.url := by
  unfold droppedOrEscalate
  split_ifs <;> rfl

theorem url_closedDuringHandshake (m : ManagedConnection) (env : Env) (code : Nat) (reason : Option String)
    (phase : String) : (m.closedDuringHandshake env code reason phase).url = m.url := by
  unfold closedDuringHandshake
  split_ifs
  · rfl
  · exact url_attemptFailedOrEscalate _ _ _ _ _ _

theorem url_connectFailedOrEscalate (m : ManagedConnection) (env : Env) (cls : TransientClass) (httpStatus : Option Nat) :
    (m.connectFailedOrEscalate env cls httpStatus).url = m.url := by
  unfold connectFailedOrEscalate
  split_ifs <;> rfl

/-! ## Operations -/

theorem stays_completeResubscribeIfEmpty : Stays mc (mc.completeResubscribeIfEmpty env) := by
  unfold completeResubscribeIfEmpty
  split_ifs with hc
  · exact .within rfl rfl (by rw [hc.1]; trivial) (.inr rfl)
  · exact .refl mc

theorem stays_handleSubscribeFailure (key : EntryKey) (transient : Bool) (lastError : Option String) :
    Stays mc (mc.handleSubscribeFailure env key transient lastError) := by
  have hcancel : Stays mc (mc.cancelEntryTimers key) := .same rfl rfl rfl
  cases transient with
  | true =>
    show Stays mc ((mc.cancelEntryTimers key).retrySubscribe env key)
    unfold retrySubscribe
    dsimp only
    split_ifs
    · exact .same rfl rfl rfl
    · exact (down_droppedOrEscalate rfl _ _).stays (url_droppedOrEscalate _ _ _ _)
    · exact (down_attemptFailed rfl _ _ _ _).stays rfl
  | false => exact Stays.trans (m := { mc.cancelEntryTimers key with
      subscribeAckAttempts := _, bus := _ }) (.same rfl rfl rfl) stays_completeResubscribeIfEmpty

theorem stays_reenterConnecting (hu : m.url = mc.url) (rid : Nat) : Stays mc (m.reenterConnecting env rid) := by
  unfold reenterConnecting
  split
  · exact .left hu (by simp [emitRateThrottled, emitLifecycle, Upgraded]) (by simp [emitRateThrottled, emitLifecycle])
  · exact .connects hu rfl (socket_enterConnecting _)

theorem stays_enterClosedOrReconnect (reason : ClosedReason) (ack : AckSource) :
    Stays mc (mc.enterClosedOrReconnect env reason ack) := by
  unfold enterClosedOrReconnect
  dsimp only
  split
  · refine stays_reenterConnecting ?_ _
    rfl
  · exact .left rfl False.elim (by simp)

theorem stays_handleAuthenticating (hs : mc.state = .authenticating) : Stays mc (mc.handleAuthenticating env e) := by
  have hold : Upgraded mc.state := by rw [hs]; trivial
  cases e
  case wireAuthHandshakeFailed kind =>
    cases kind <;> simp only [handleAuthenticating]
    case tokenStale =>
      split_ifs
      · exact .left rfl False.elim (by rintro ⟨⟩)
      · exact .same rfl rfl rfl
    case transient => exact (down_attemptFailedOrEscalate rfl _ _ _ _).stays (url_attemptFailedOrEscalate _ _ _ _ _ _)
    all_goals exact .left rfl False.elim (by rintro ⟨⟩)
  all_goals simp only [handleAuthenticating]
  case wireAuthHandshakeOk => exact .within rfl rfl hold (.inl rfl)
  case wireOrderAuthOk => exact .within rfl rfl hold (.inr rfl)
  case wireCloseReceived => exact (down_closedDuringHandshake rfl _ _ _).stays (url_closedDuringHandshake _ _ _ _ _)
  case wireAbnormalClose | timerStalenessElapsed =>
    exact (down_attemptFailedOrEscalate rfl _ _ _ _).stays (url_attemptFailedOrEscalate _ _ _ _ _ _)
  case busTokenRefreshFailed =>
    split_ifs
    · exact (down_attemptFailedOrEscalate rfl _ _ _ _).stays (url_attemptFailedOrEscalate _ _ _ _ _ _)
    · exact .left rfl False.elim (by rintro ⟨⟩)
  case timerSubscribeAckTimeout => exact stays_handleSubscribeFailure ..
  case callClose | callForceReconnect => exact .left rfl False.elim (by rintro ⟨⟩)
  case busTokenRefreshed => exact .same rfl rfl rfl
  all_goals exact .refl mc

theorem stays_handleResubscribing (hs : mc.state = .resubscribing) : Stays mc (mc.handleResubscribing env e) := by
  have hold : Upgraded mc.state := by rw [hs]; trivial
  cases e
  case wireSubscribeAck channel pair last =>
    cases last <;> simp only [handleResubscribing]
    · exact .same rfl rfl rfl
    · exact .within rfl rfl hold (.inr rfl)
  all_goals simp only [handleResubscribing]
  case wireCloseReceived => exact (down_closedDuringHandshake rfl _ _ _).stays (url_closedDuringHandshake _ _ _ _ _)
  case wireAbnormalClose | timerStalenessElapsed =>
    exact (down_attemptFailedOrEscalate rfl _ _ _ _).stays (url_attemptFailedOrEscalate _ _ _ _ _ _)
  case timerSubscribeAckTimeout | wireSubscribeFailed => exact stays_handleSubscribeFailure ..
  case callClose | callForceReconnect => exact .left rfl False.elim (by rintro ⟨⟩)
  case busTokenRefreshed | busTokenRefreshFailed => exact .same rfl rfl rfl
  all_goals exact .refl mc

theorem stays_handleOpen : Stays mc (mc.handleOpen env e) := by
  cases e <;> simp only [handleOpen]
  case wireCloseReceived =>
    split_ifs
    · exact .left rfl False.elim (by rintro ⟨⟩)
    · exact (down_droppedOrEscalate rfl _ _).stays (url_droppedOrEscalate _ _ _ _)
  case wireAbnormalClose | timerStalenessElapsed =>
    exact (down_droppedOrEscalate rfl _ _).stays (url_droppedOrEscalate _ _ _ _)
  case timerSubscribeAckTimeout | wireSubscribeFailed => exact stays_handleSubscribeFailure ..
  case callClose | callForceReconnect => exact .left rfl False.elim (by rintro ⟨⟩)
  case wireSubscribeAck | busTokenRefreshed | busTokenRefreshFailed | wireOrderAckTokenStale => exact .same rfl rfl rfl
  all_goals exact .refl mc

theorem stays_handleIdle : Stays mc (mc.handleIdle env e) := by
  cases e <;> simp only [handleIdle]
  case callStartConnect | callForceReconnect =>
    split
    · exact .left rfl False.elim (by rintro ⟨⟩)
    · exact .connects rfl rfl (socket_enterConnecting _)
  case callClose => exact .left rfl False.elim (by rintro ⟨⟩)
  all_goals exact .refl mc

theorem stays_handleConnecting (he : ∀ connectionId, e ≠ .wireUpgradeOk connectionId) :
    Stays mc (mc.handleConnecting env e) := by
  cases e <;> simp only [handleConnecting]
  case wireUpgradeOk => exact absurd rfl (he _)
  case wireUpgradeFailed | wireConnectError =>
    split_ifs
    · exact (down_connectFailedOrEscalate _ _).stays (url_connectFailedOrEscalate _ _ _ _)
    · exact .left rfl False.elim (by rintro ⟨⟩)
  case timerUpgradeTimeout =>
    exact (down_attemptFailedOrEscalate rfl _ _ _ _).stays (url_attemptFailedOrEscalate _ _ _ _ _ _)
  case callClose => exact .left rfl False.elim (by rintro ⟨⟩)
  case callForceReconnect => split_ifs <;> exact .same rfl rfl rfl
  all_goals exact .refl mc

theorem state_latchConnect (m : ManagedConnection) (rid : Nat) : (m.latchConnect rid).state = m.state := by
  unfold latchConnect
  split <;> rfl

theorem stays_latchConnect (rid : Nat) : Stays mc (mc.latchConnect rid) := by
  unfold latchConnect
  split <;> exact .same rfl rfl rfl

theorem stays_handleBackingOff : Stays mc (mc.handleBackingOff env e) := by
  cases e <;> simp only [handleBackingOff]
  case timerBackoffElapsed | timerRateBudgetWindowAdvanced =>
    split
    · exact .same rfl rfl rfl
    · exact .connects rfl rfl (socket_enterConnecting _)
  case callForceReconnect =>
    split
    · exact .trans (stays_latchConnect _) (.same rfl rfl rfl)
    · refine .connects ?_ ?_ (socket_enterConnecting _)
      · exact (stays_latchConnect _).url
      · exact state_latchConnect _ _
  case callClose => exact .left rfl False.elim (by rintro ⟨⟩)
  all_goals exact .refl mc

theorem stays_handleClosing : Stays mc (mc.handleClosing env e) := by
  cases e <;> simp only [handleClosing]
  case wireAbnormalClose | wireCloseReceived | timerCloseTimeout => exact stays_enterClosedOrReconnect _ _
  case callClose | callForceReconnect => split <;> exact .same rfl rfl rfl
  all_goals exact .refl mc

theorem stays_handleFailed : Stays mc (mc.handleFailed env e) := by
  cases e <;> simp only [handleFailed]
  case callForceReconnect =>
    split
    · exact .left rfl False.elim (by rintro ⟨⟩)
    · exact .connects rfl rfl (socket_enterConnecting _)
  case callClose => exact .left rfl False.elim (by rintro ⟨⟩)
  all_goals exact .refl mc

/-- **One call of `handle_event`** that is not the success of an upgrade. -/
theorem stays_handleEvent (he : ∀ connectionId, e ≠ .wireUpgradeOk connectionId) : Stays mc (mc.handleEvent env e) := by
  unfold handleEvent
  split
  · exact stays_handleIdle
  · exact stays_handleConnecting he
  · exact stays_handleAuthenticating ‹_›
  · exact stays_handleResubscribing ‹_›
  · exact stays_handleOpen
  · exact stays_handleBackingOff
  · exact stays_handleClosing
  · exact .refl mc
  · exact stays_handleFailed

theorem Operated.stays (h : Operated env mc m) : Stays mc m := by
  refine h.rel Stays.refl (fun h h' => h.trans h') ?_
  intro mc m hop
  cases hop with
  | event e he => exact stays_handleEvent he
  | failure key transient lastError => exact stays_handleSubscribeFailure key transient lastError
  | complete => exact stays_completeResubscribeIfEmpty
  | bookkeeping hu hs hk _ => exact .same hu hs hk

theorem Down.not_upgraded (h : m.Down) : ¬ Upgraded m.state := by
  rcases h.state with hs | hs | hs <;> simp [hs, Upgraded]

theorem not_upgraded_enterClosedOrReconnect (reason : ClosedReason) (ack : AckSource) :
    ¬ Upgraded (mc.enterClosedOrReconnect env reason ack).state := by
  unfold enterClosedOrReconnect reenterConnecting
  dsimp only
  split
  · split <;> exact False.elim
  · exact False.elim

/-- A lost wire is no socket that is up. -/
theorem not_upgraded_wireLost (he : WireLost e) : ¬ Upgraded (mc.handleEvent env e).state := by
  unfold handleEvent
  split
  case h_3 =>
    rcases he with ⟨code, reason, rfl⟩ | ⟨error, rfl⟩
    · exact (down_closedDuringHandshake rfl _ _ _).not_upgraded
    · exact (down_attemptFailedOrEscalate rfl _ _ _ _).not_upgraded
  case h_4 =>
    rcases he with ⟨code, reason, rfl⟩ | ⟨error, rfl⟩
    · exact (down_closedDuringHandshake rfl _ _ _).not_upgraded
    · exact (down_attemptFailedOrEscalate rfl _ _ _ _).not_upgraded
  case h_5 =>
    rcases he with ⟨code, reason, rfl⟩ | ⟨error, rfl⟩
    · simp only [handleOpen]
      split_ifs
      · exact False.elim
      · exact (down_droppedOrEscalate rfl _ _).not_upgraded
    · exact (down_droppedOrEscalate rfl _ _).not_upgraded
  case h_7 =>
    rcases he with ⟨code, reason, rfl⟩ | ⟨error, rfl⟩ <;> exact not_upgraded_enterClosedOrReconnect _ _
  -- Elsewhere it is not heard.
  all_goals
    rename_i hs
    rcases he with ⟨code, reason, rfl⟩ | ⟨error, rfl⟩ <;>
      simp [hs, handleIdle, handleConnecting, handleBackingOff, handleFailed, Upgraded]

/-! ## The success of an upgrade -/

/-- It is for an attempt alone. -/
theorem handleEvent_wireUpgradeOk_of_ne (hs : mc.state ≠ .connecting) (connectionId : Option Nat) :
    mc.handleEvent env (.wireUpgradeOk connectionId) = mc := by
  unfold handleEvent
  split
  case h_2 hc => exact absurd hc hs
  all_goals rfl

theorem hasSocket_wireUpgradeOk (h : mc.HasSocket) (connectionId : Option Nat) :
    (mc.handleEvent env (.wireUpgradeOk connectionId)).HasSocket := by
  by_cases hs : mc.state = .connecting
  · have hk := h.attempt hs
    simp only [handleEvent, hs, handleConnecting]
    exact ⟨fun _ => hk, fun _ => hk⟩
  · rw [handleEvent_wireUpgradeOk_of_ne hs]
    exact h

end KrakenSdk.Conn.ManagedConnection
