import KrakenSdk.Conn.Driven
import KrakenSdk.Conn.Sockets
/-!
# A connection that closes ends closed (managed_connection/handle_event.rs)

`close()` sends a connection into `Closed`, or into `Closing` with the close timer armed; from there, with no
`force_reconnect()` latched, every way out leads to `Closed`. `CloseArmed` is what every run without a forced reconnect
keeps, and `ShuttingDown` what every step keeps from the close on, unless the outbound queue refuses a frame: a
subscribe failure whose budget is spent leads from `Closing` into `BackingOff` like from any other state.
-/
namespace KrakenSdk.Conn.ManagedConnection

/-- No reconnect is latched, and a connection that is closing has the close timer armed. -/
structure CloseArmed (mc : ManagedConnection) : Prop where
  reconnect : mc.pendingReconnectRequestId = none
  timer : mc.state = .closing → mc.timers.closeTimeoutDueAt.isSome

/-- Closing, or closed. -/
def ShuttingDown (mc : ManagedConnection) : Prop := mc.state = .closing ∨ mc.state = .closed

variable {mc m : ManagedConnection} {env : Env} {e : FsmEvent}

theorem closeArmed_new (url : WsUrl) (knobs : Knobs) : (new url knobs).CloseArmed := ⟨rfl, by rintro ⟨⟩⟩

theorem CloseArmed.same (h : mc.CloseArmed) (hr : m.pendingReconnectRequestId = mc.pendingReconnectRequestId)
    (hs : m.state = mc.state) (ht : m.timers.closeTimeoutDueAt = mc.timers.closeTimeoutDueAt) : m.CloseArmed :=
  ⟨hr.trans h.reconnect, fun hc => ht ▸ h.timer (hs ▸ hc)⟩

/-- A step that leads elsewhere than into `Closing`. -/
theorem CloseArmed.elsewhere (h : mc.CloseArmed) (hr : m.pendingReconnectRequestId = mc.pendingReconnectRequestId)
    (hs : m.state ≠ .closing) : m.CloseArmed := ⟨hr.trans h.reconnect, fun hc => absurd hc hs⟩

/-- A step that arms the close timer. -/
theorem CloseArmed.closes (h : mc.CloseArmed) (hr : m.pendingReconnectRequestId = mc.pendingReconnectRequestId)
    (ht : m.timers.closeTimeoutDueAt.isSome) : m.CloseArmed := ⟨hr.trans h.reconnect, fun _ => ht⟩

theorem Down.closeArmed (hd : m.Down) (h : mc.CloseArmed)
    (hr : m.pendingReconnectRequestId = mc.pendingReconnectRequestId) : m.CloseArmed := by
  refine h.elsewhere hr ?_
  rcases hd.state with hs | hs | hs <;> simp [hs]

/-! ## The exits latch no reconnect -/

theorem reconnect_attemptFailedOrEscalate (m : ManagedConnection) (env : Env) (cls : TransientClass)
    (krakenError : Option String) (httpStatus closeCode : Option Nat) :
    (m.attemptFailedOrEscalate env cls krakenError httpStatus closeCode).pendingReconnectRequestId =
      m.pendingReconnectRequestId := by
  unfold attemptFailedOrEscalate
  split_ifs <;> rfl

theorem reconnect_droppedOrEscalate (m : ManagedConnection) (env : Env) (closeCode : Option Nat)
    (reason : Option String) :
    (m.droppedOrEscalate env closeCode reason).pendingReconnectRequestId = m.pendingReconnectRequestId := by
  unfold droppedOrEscalate
  split_ifs <;> rfl

theorem reconnect_closedDuringHandshake (m : ManagedConnection) (env : Env) (code : Nat) (reason : Option String)
    (phase : String) :
    (m.closedDuringHandshake env code reason phase).pendingReconnectRequestId = m.pendingReconnectRequestId := by
  unfold closedDuringHandshake
  split_ifs
  · rfl
  · exact reconnect_attemptFailedOrEscalate ..

theorem reconnect_connectFailedOrEscalate (m : ManagedConnection) (env : Env) (cls : TransientClass)
    (httpStatus : Option Nat) :
    (m.connectFailedOrEscalate env cls httpStatus).pendingReconnectRequestId = m.pendingReconnectRequestId := by
  unfold connectFailedOrEscalate
  split_ifs <;> rfl

theorem closeArmed_completeResubscribeIfEmpty (h : mc.CloseArmed) : (mc.completeResubscribeIfEmpty env).CloseArmed := by
  unfold completeResubscribeIfEmpty
  split_ifs
  · exact h.elsewhere rfl (by rintro ⟨⟩)
  · exact h

theorem closeArmed_handleSubscribeFailure (h : mc.CloseArmed) (key : EntryKey) (transient : Bool)
    (lastError : Option String) : (mc.handleSubscribeFailure env key transient lastError).CloseArmed := by
  unfold handleSubscribeFailure
  cases transient with
  | true =>
    rw [if_pos rfl]
    unfold retrySubscribe
    dsimp only
    split_ifs
    · exact h.same rfl rfl rfl
    · exact (down_droppedOrEscalate rfl _ _).closeArmed h (reconnect_droppedOrEscalate ..)
    · exact (down_attemptFailed rfl _ _ _ _).closeArmed h rfl
  | false =>
    rw [if_neg Bool.false_ne_true]
    refine closeArmed_completeResubscribeIfEmpty ?_
    exact h.same rfl rfl rfl

/-- The end of a close: with no reconnect latched it is `Closed`. -/
theorem state_enterClosedOrReconnect (hr : mc.pendingReconnectRequestId = none) (reason : ClosedReason)
    (ack : AckSource) : (mc.enterClosedOrReconnect env reason ack).state = .closed := by
  simp [enterClosedOrReconnect, drainPending, hr]

theorem closeArmed_enterClosedOrReconnect (hr : mc.pendingReconnectRequestId = none) (reason : ClosedReason)
    (ack : AckSource) : (mc.enterClosedOrReconnect env reason ack).CloseArmed := by
  refine ⟨?_, fun hc => ?_⟩
  · simp [enterClosedOrReconnect, drainPending, hr]
  · rw [state_enterClosedOrReconnect hr] at hc
    exact absurd hc (by simp)

/-! ## One event -/

section event

variable (h : mc.CloseArmed) (he : ∀ id, e ≠ .callForceReconnect id)

include h he

theorem closeArmed_handleIdle : (mc.handleIdle env e).CloseArmed := by
  cases e <;> simp only [handleIdle]
  case callForceReconnect id => exact absurd rfl (he id)
  case callStartConnect => split <;> exact h.elsewhere rfl (by rintro ⟨⟩)
  case callClose => exact h.elsewhere rfl (by rintro ⟨⟩)
  all_goals exact h

theorem closeArmed_handleConnecting : (mc.handleConnecting env e).CloseArmed := by
  cases e <;> simp only [handleConnecting]
  case callForceReconnect id => exact absurd rfl (he id)
  case wireUpgradeOk =>
    refine h.elsewhere rfl ?_
    cases mc.url <;> simp [armStaleness]
  case wireUpgradeFailed | wireConnectError =>
    split_ifs
    · exact (down_connectFailedOrEscalate _ _).closeArmed h (reconnect_connectFailedOrEscalate ..)
    · exact h.elsewhere rfl (by rintro ⟨⟩)
  case timerUpgradeTimeout =>
    exact (down_attemptFailedOrEscalate rfl _ _ _ _).closeArmed h (reconnect_attemptFailedOrEscalate ..)
  case callClose => exact h.closes rfl rfl
  all_goals exact h

theorem closeArmed_handleAuthenticating : (mc.handleAuthenticating env e).CloseArmed := by
  cases e
  case callForceReconnect id => exact absurd rfl (he id)
  case wireAuthHandshakeFailed kind =>
    cases kind <;> simp only [handleAuthenticating]
    case tokenStale =>
      split_ifs
      · exact h.elsewhere rfl (by rintro ⟨⟩)
      · exact h.same rfl rfl rfl
    case transient =>
      exact (down_attemptFailedOrEscalate rfl _ _ _ _).closeArmed h (reconnect_attemptFailedOrEscalate ..)
    all_goals exact h.elsewhere rfl (by rintro ⟨⟩)
  all_goals simp only [handleAuthenticating]
  case wireAuthHandshakeOk | wireOrderAuthOk => exact h.elsewhere rfl (by rintro ⟨⟩)
  case wireCloseReceived =>
    exact (down_closedDuringHandshake rfl _ _ _).closeArmed h (reconnect_closedDuringHandshake ..)
  case wireAbnormalClose | timerStalenessElapsed =>
    exact (down_attemptFailedOrEscalate rfl _ _ _ _).closeArmed h (reconnect_attemptFailedOrEscalate ..)
  case busTokenRefreshFailed =>
    split_ifs
    · exact (down_attemptFailedOrEscalate rfl _ _ _ _).closeArmed h (reconnect_attemptFailedOrEscalate ..)
    · exact h.elsewhere rfl (by rintro ⟨⟩)
  case timerSubscribeAckTimeout => exact closeArmed_handleSubscribeFailure h ..
  case callClose => exact h.closes rfl rfl
  case busTokenRefreshed => exact h.same rfl rfl rfl
  all_goals exact h

theorem closeArmed_handleResubscribing : (mc.handleResubscribing env e).CloseArmed := by
  cases e
  case callForceReconnect id => exact absurd rfl (he id)
  case wireSubscribeAck channel pair last =>
    cases last
    · exact h.same rfl rfl rfl
    · exact h.elsewhere rfl (by rintro ⟨⟩)
  all_goals simp only [handleResubscribing]
  case wireCloseReceived =>
    exact (down_closedDuringHandshake rfl _ _ _).closeArmed h (reconnect_closedDuringHandshake ..)
  case wireAbnormalClose | timerStalenessElapsed =>
    exact (down_attemptFailedOrEscalate rfl _ _ _ _).closeArmed h (reconnect_attemptFailedOrEscalate ..)
  case timerSubscribeAckTimeout | wireSubscribeFailed => exact closeArmed_handleSubscribeFailure h ..
  case callClose => exact h.closes rfl rfl
  case busTokenRefreshed | busTokenRefreshFailed => exact h.same rfl rfl rfl
  all_goals exact h

theorem closeArmed_handleOpen : (mc.handleOpen env e).CloseArmed := by
  cases e <;> simp only [handleOpen]
  case callForceReconnect id => exact absurd rfl (he id)
  case wireCloseReceived =>
    split_ifs
    · exact h.elsewhere rfl (by rintro ⟨⟩)
    · exact (down_droppedOrEscalate rfl _ _).closeArmed h (reconnect_droppedOrEscalate ..)
  case wireAbnormalClose | timerStalenessElapsed =>
    exact (down_droppedOrEscalate rfl _ _).closeArmed h (reconnect_droppedOrEscalate ..)
  case timerSubscribeAckTimeout | wireSubscribeFailed => exact closeArmed_handleSubscribeFailure h ..
  case callClose => exact h.closes rfl rfl
  case wireSubscribeAck | busTokenRefreshed | busTokenRefreshFailed | wireOrderAckTokenStale => exact h.same rfl rfl rfl
  all_goals exact h

theorem closeArmed_handleBackingOff : (mc.handleBackingOff env e).CloseArmed := by
  cases e <;> simp only [handleBackingOff]
  case callForceReconnect id => exact absurd rfl (he id)
  case timerBackoffElapsed | timerRateBudgetWindowAdvanced =>
    split
    · exact h.same rfl rfl rfl
    · exact h.elsewhere rfl (by rintro ⟨⟩)
  case callClose => exact h.elsewhere rfl (by rintro ⟨⟩)
  all_goals exact h

theorem closeArmed_handleClosing : (mc.handleClosing env e).CloseArmed := by
  cases e <;> simp only [handleClosing]
  case callForceReconnect id => exact absurd rfl (he id)
  case wireCloseReceived | wireAbnormalClose | timerCloseTimeout =>
    exact closeArmed_enterClosedOrReconnect h.reconnect _ _
  case callClose => split <;> exact h.same rfl rfl rfl
  all_goals exact h

theorem closeArmed_handleFailed : (mc.handleFailed env e).CloseArmed := by
  cases e <;> simp only [handleFailed]
  case callForceReconnect id => exact absurd rfl (he id)
  case callClose => exact h.elsewhere rfl (by rintro ⟨⟩)
  all_goals exact h

theorem closeArmed_handleEvent : (mc.handleEvent env e).CloseArmed := by
  unfold handleEvent
  split
  · exact closeArmed_handleIdle h he
  · exact closeArmed_handleConnecting h he
  · exact closeArmed_handleAuthenticating h he
  · exact closeArmed_handleResubscribing h he
  · exact closeArmed_handleOpen h he
  · exact closeArmed_handleBackingOff h he
  · exact closeArmed_handleClosing h he
  · exact h
  · exact closeArmed_handleFailed h he

end event

/-- The close timer: it ends the close of a connection that is closing, and no other state has an arm for it. -/
theorem handleEvent_timerCloseTimeout (mc : ManagedConnection) (env : Env) : mc.handleEvent env .timerCloseTimeout =
    if mc.state = .closing then mc.enterClosedOrReconnect env .forced .closeTimeout else mc := by
  unfold handleEvent
  cases hs : mc.state <;> rfl

/-- A timer popped, and its event delivered: the close timer is popped where its event ends the close. -/
theorem closeArmed_deliver (h : mc.CloseArmed) (he : ∀ id, e ≠ .callForceReconnect id) :
    (mc.deliver env e).CloseArmed := by
  have hs := popTimerForEvent_state mc e
  have hr : (mc.popTimerForEvent e).pendingReconnectRequestId = mc.pendingReconnectRequestId := by cases e <;> rfl
  by_cases hclose : e = .timerCloseTimeout
  · subst hclose
    rw [deliver, handleEvent_timerCloseTimeout]
    split_ifs with hc
    · exact closeArmed_enterClosedOrReconnect (hr.trans h.reconnect) _ _
    · exact h.elsewhere hr hc
  · refine closeArmed_handleEvent (h.same hr hs ?_) he
    cases e <;> first | rfl | exact absurd rfl hclose

theorem closeArmed_applyUpdate (h : mc.CloseArmed) (env : Env) (u : Update) : (mc.applyUpdate env u).CloseArmed := by
  cases u <;> simp only [applyUpdate]
  case deferOpenAuthSubscribe =>
    unfold deferOpenAuthSubscribe
    split_ifs <;> exact h.same rfl rfl rfl
  case completeResubscribeIfEmpty => exact closeArmed_completeResubscribeIfEmpty h
  all_goals exact h.same rfl rfl rfl

theorem closeArmed_step (h : mc.CloseArmed) (l : Label) (hf : ¬ ForcesReconnect l.act) : (mc.step l).CloseArmed := by
  apply step_keeps
  · exact fun u => closeArmed_applyUpdate h l.env u
  · exact fun r => by cases r <;> exact h.same rfl rfl rfl
  · intro e he
    refine closeArmed_deliver h ?_
    rintro id rfl
    exact hf ⟨id, he⟩

/-- **With no reconnect forced** a connection that closes has its close timer armed, whatever the reactor does. -/
theorem Driven.closeArmed {w : Leeway} (h : Driven w env mc m) (hw : ¬ w.forces) (hc : mc.CloseArmed) :
    m.CloseArmed := by
  refine h.keeps (fun mc a hc ha => ?_) (fun mc xs hc => ?_) (fun mc key hc _ => ?_) hc
  · exact closeArmed_step hc ⟨env, a⟩ fun hf => hw (ha hf)
  · exact hc.same rfl rfl rfl
  · exact closeArmed_handleSubscribeFailure hc key true none

/-! ## From the close on -/

/-- A close shuts the connection down, whatever its state. -/
theorem shuttingDown_callClose (mc : ManagedConnection) (env : Env) (id : Nat) :
    (mc.handleEvent env (.callClose id)).ShuttingDown := by
  unfold handleEvent ShuttingDown
  cases hs : mc.state
  case closing =>
    simp only [handleClosing]
    split <;> exact .inl hs
  case closed => exact .inr hs
  case idle | backingOff | failed => exact .inr rfl
  all_goals exact .inl rfl

theorem shuttingDown_step (h : mc.ShuttingDown) (ha : mc.CloseArmed) (l : Label) (hf : ¬ ForcesReconnect l.act) :
    (mc.step l).ShuttingDown := by
  have hsame : ∀ {m : ManagedConnection}, m.state = mc.state → m.ShuttingDown := fun hs => by rwa [ShuttingDown, hs]
  have hcomplete : (mc.completeResubscribeIfEmpty l.env).state = mc.state := by
    unfold completeResubscribeIfEmpty
    rw [if_neg]
    rcases h with hs | hs <;> simp [hs]
  apply step_keeps
  · intro u
    cases u
    case deferOpenAuthSubscribe key params =>
      simp only [applyUpdate, deferOpenAuthSubscribe]
      split_ifs <;> exact hsame rfl
    case completeResubscribeIfEmpty => exact hsame hcomplete
    all_goals exact hsame rfl
  · exact fun r => by cases r <;> exact hsame rfl
  · intro e he
    have hs := popTimerForEvent_state mc e
    have hr : (mc.popTimerForEvent e).pendingReconnectRequestId = none := by
      rw [← ha.reconnect]
      cases e <;> rfl
    unfold deliver handleEvent
    rw [hs]
    rcases h with hc | hc
    · rw [hc]
      dsimp only
      cases e <;> simp only [handleClosing]
      case callForceReconnect id => exact absurd ⟨id, he⟩ hf
      case wireCloseReceived | wireAbnormalClose | timerCloseTimeout => exact .inr (state_enterClosedOrReconnect hr _ _)
      case callClose => split <;> exact .inl hc
      all_goals exact .inl hc
    · rw [hc]
      exact hsame hs

/-- **What shuts down stays down**: no reconnect forced, no frame refused. -/
theorem Driven.shuttingDown {w : Leeway} (h : Driven w env mc m) (hf : ¬ w.forces) (hr : ¬ w.refuses)
    (hc : mc.CloseArmed) (hd : mc.ShuttingDown) : m.ShuttingDown := by
  have hboth : m.CloseArmed ∧ m.ShuttingDown := by
    refine h.keeps (P := fun mc => mc.CloseArmed ∧ mc.ShuttingDown) (fun mc a hm ha => ?_) (fun mc xs hm => ?_)
      (fun mc key _ hrefused => absurd hrefused hr) ⟨hc, hd⟩
    · exact ⟨closeArmed_step hm.1 ⟨env, a⟩ fun hf' => hf (ha hf'),
        shuttingDown_step hm.2 hm.1 ⟨env, a⟩ fun hf' => hf (ha hf')⟩
    · exact ⟨hm.1.same rfl rfl rfl, hm.2⟩
  exact hboth.2

theorem closed_step (hd : mc.state = .closed) (l : Label) : (mc.step l).state = .closed := by
  apply step_keeps (P := fun m => m.state = .closed)
  · intro u
    cases u
    case deferOpenAuthSubscribe key params =>
      simp only [applyUpdate, deferOpenAuthSubscribe]
      split_ifs <;> exact hd
    case completeResubscribeIfEmpty => simp [applyUpdate, completeResubscribeIfEmpty, hd]
    all_goals exact hd
  · exact fun r => by cases r <;> exact hd
  · intro e he
    have hs := (popTimerForEvent_state mc e).trans hd
    unfold deliver handleEvent
    rw [hs]
    exact hs

/-- **A closed connection stays closed**, unless a frame is refused. -/
theorem Driven.closed {w : Leeway} (h : Driven w env mc m) (hr : ¬ w.refuses) (hd : mc.state = .closed) :
    m.state = .closed := by
  refine h.keeps (P := fun mc => mc.state = .closed) (fun mc a hd _ => ?_) (fun mc xs hd => hd)
    (fun mc key _ hrefused => absurd hrefused hr) hd
  exact closed_step hd ⟨env, a⟩

end KrakenSdk.Conn.ManagedConnection
