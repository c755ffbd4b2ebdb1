import KrakenSdk.Conn.Runs
/-!
# Which timer is armed in which state

`StateTimers` says, state by state, which of the upgrade, close and staleness timers is armed, and
that `BackingOff` has one of its two; it is an invariant of every run (`stateTimers_run`). Two
results read off it:

* `wakesUp`: every state that waits for something has a timer armed for it;
* `timersHygienic_iff_cleanExits`: no timer is ever armed outside its states in exactly the runs
  whose exits from `BackingOff` leave neither of that state's two timers behind (`CleanExit`).

The second needs its condition: `BackingOff` can hold the backoff and the rate-budget timer at the
same time and each exit clears at most its own one, so a run carries a backoff timer into
`Connecting` (`backoffTimer_escapes`). The invariant takes a proposition `strict` that says
whether the two timers are constrained outside `BackingOff`; one proof serves both results.
-/
namespace KrakenSdk.Conn.ManagedConnection

attribute [local simp] emitLifecycle emitRateThrottled drainPending closeSocket forgetSubscribeReqIdForKey
  disarmSubscribeAck clearSubscribeAckState disarmStaleness exitAuthenticatingTeardown exitAuthenticatingToClosing
  exitResubscribingTeardown exitOpenTeardown armStaleness armUpgradeTimeout armCloseTimeout enterOpen
  emitConnectionFailed enterConnecting emitAttemptFailed escalate attemptFailed emitWebsocketStale
  emitAuthenticationFailed connectFailedPermanently StalenessMonitor.arm StalenessMonitor.disarm

/-! ## The invariant -/

/-- The staleness watchdog is off, and its timer with it. -/
def Quiet (mc : ManagedConnection) : Prop :=
  mc.timers.stalenessDueAt = none ∧ mc.stalenessMonitor.armed = false

/-- The staleness watchdog is on and has a deadline. -/
def Watched (mc : ManagedConnection) : Prop :=
  mc.timers.stalenessDueAt.isSome ∧ mc.stalenessMonitor.armed = true ∧ mc.stalenessMonitor.lastInboundAt.isSome

/-- Under `strict`, neither of `BackingOff`'s timers is armed. -/
def Unbacked (strict : Prop) (mc : ManagedConnection) : Prop :=
  strict → mc.timers.backoffDueAt = none ∧ mc.timers.rateBudgetWindowAdvancedAt = none

/-- No timer is armed but, without `strict`, those of `BackingOff`: what a teardown leaves. -/
def TornDown (strict : Prop) (mc : ManagedConnection) : Prop :=
  mc.timers.upgradeTimeoutDueAt = none ∧ mc.timers.closeTimeoutDueAt = none ∧ mc.Quiet ∧ mc.Unbacked strict

/-- The timers of each state. -/
def StateTimers (strict : Prop) (mc : ManagedConnection) : Prop :=
  match mc.state with
  | .idle | .closed | .failed => mc.TornDown strict
  | .connecting =>
    mc.timers.upgradeTimeoutDueAt.isSome ∧ mc.timers.closeTimeoutDueAt = none ∧ mc.Quiet ∧ mc.Unbacked strict
  | .authenticating | .resubscribing | .opened =>
    mc.timers.upgradeTimeoutDueAt = none ∧ mc.timers.closeTimeoutDueAt = none ∧ mc.Watched ∧ mc.Unbacked strict
  | .backingOff =>
    mc.timers.upgradeTimeoutDueAt = none ∧ mc.timers.closeTimeoutDueAt = none ∧ mc.Quiet ∧
      (mc.timers.backoffDueAt.isSome ∨ mc.timers.rateBudgetWindowAdvancedAt.isSome)
  | .closing =>
    mc.timers.upgradeTimeoutDueAt = none ∧ mc.timers.closeTimeoutDueAt.isSome ∧ mc.Quiet ∧ mc.Unbacked strict

/-- The exits of `BackingOff` that leave neither of its timers behind. Each exit clears the timer
named beside it: the event's own (`pop_timer_for_event`), and the backoff on a `force_reconnect()`. -/
def CleanExit (mc : ManagedConnection) (l : Label) : Prop :=
  mc.state = .backingOff →
    match l.act with
    | .event .timerBackoffElapsed => l.env.tryConsume = .ok () → mc.timers.rateBudgetWindowAdvancedAt = none
    | .event .timerRateBudgetWindowAdvanced => l.env.tryConsume = .ok () → mc.timers.backoffDueAt = none
    | .event (.callForceReconnect _) => l.env.tryConsume = .ok () → mc.timers.rateBudgetWindowAdvancedAt = none
    | .event (.callClose _) => mc.timers.backoffDueAt = none ∧ mc.timers.rateBudgetWindowAdvancedAt = none
    | _ => True

/-! ## The shared tails -/

section tails

variable {strict : Prop} {mc : ManagedConnection} {env : Env}

theorem stateTimers_escalate (hc : mc.timers.closeTimeoutDueAt = none) (hb : mc.Unbacked strict) :
    (mc.escalate env).StateTimers strict := by
  simpa [StateTimers, TornDown, Quiet, Unbacked, hc] using hb

theorem stateTimers_attemptFailed (h : mc.TornDown strict) (cls : TransientClass) (krakenError : Option String)
    (httpStatus closeCode : Option Nat) :
    (mc.attemptFailed env cls krakenError httpStatus closeCode).StateTimers strict := by
  obtain ⟨hu, hc, hq, -⟩ := h
  simp [StateTimers, Quiet, hu, hc, hq.1, hq.2]

theorem stateTimers_attemptFailedOrEscalate (h : mc.TornDown strict) (cls : TransientClass)
    (krakenError : Option String) (httpStatus closeCode : Option Nat) :
    (mc.attemptFailedOrEscalate env cls krakenError httpStatus closeCode).StateTimers strict := by
  unfold attemptFailedOrEscalate
  split_ifs
  · exact stateTimers_escalate h.2.1 h.2.2.2
  · exact stateTimers_attemptFailed h ..

theorem stateTimers_droppedOrEscalate (h : mc.TornDown strict) (closeCode : Option Nat) (reason : Option String) :
    (mc.droppedOrEscalate env closeCode reason).StateTimers strict := by
  unfold droppedOrEscalate
  split_ifs
  · exact stateTimers_escalate h.2.1 h.2.2.2
  · obtain ⟨hu, hc, hq, -⟩ := h
    simp [StateTimers, Quiet, hu, hc, hq.1, hq.2]

theorem stateTimers_failed (h : mc.TornDown strict) (lastError : String) (cls : Option NonTransientClass) :
    ({ mc with state := .failed }.emitConnectionFailed env lastError false cls).StateTimers strict := by
  obtain ⟨hu, hc, hq, hb⟩ := h
  simpa [StateTimers, TornDown, Quiet, Unbacked, hu, hc, hq.1, hq.2] using hb

theorem stateTimers_authFailed (h : mc.TornDown strict) (lastError : String) (cls : NonTransientClass)
    (krakenResponse : Option String) :
    ({ mc with state := .failed }.emitAuthenticationFailed env lastError cls krakenResponse).StateTimers strict := by
  obtain ⟨hu, hc, hq, hb⟩ := h
  simpa [StateTimers, TornDown, Quiet, Unbacked, hu, hc, hq.1, hq.2] using hb

theorem stateTimers_closedDuringHandshake (h : mc.TornDown strict) (code : Nat) (reason : Option String)
    (phase : String) : (mc.closedDuringHandshake env code reason phase).StateTimers strict := by
  unfold closedDuringHandshake
  split_ifs
  · exact stateTimers_failed h ..
  · exact stateTimers_attemptFailedOrEscalate h ..

theorem stateTimers_connectFailedOrEscalate (hc : mc.timers.closeTimeoutDueAt = none) (hq : mc.Quiet)
    (hb : mc.Unbacked strict) (cls : TransientClass) (httpStatus : Option Nat) :
    (mc.connectFailedOrEscalate env cls httpStatus).StateTimers strict := by
  unfold connectFailedOrEscalate
  split_ifs
  · exact stateTimers_escalate hc hb
  · exact stateTimers_attemptFailed (by exact ⟨rfl, hc, hq, hb⟩) ..

theorem stateTimers_enterOpen (hu : mc.timers.upgradeTimeoutDueAt = none)
    (hc : mc.timers.closeTimeoutDueAt = none) (hb : mc.Unbacked strict) : (mc.enterOpen env).StateTimers strict := by
  simpa [StateTimers, Watched, Unbacked, StalenessMonitor.deadline, hu, hc] using hb

theorem stateTimers_enterConnecting (hc : mc.timers.closeTimeoutDueAt = none) (hq : mc.Quiet)
    (hb : mc.Unbacked strict) (hs : mc.state = .connecting) (rid : Option Nat) :
    (mc.enterConnecting env rid).StateTimers strict := by
  simpa [StateTimers, Quiet, Unbacked, hs, hc, hq.1, hq.2] using hb

theorem stateTimers_reenterConnecting (h : mc.TornDown strict) (rid : Nat) :
    (mc.reenterConnecting env rid).StateTimers strict := by
  obtain ⟨hu, hc, hq, hb⟩ := h
  unfold reenterConnecting
  split
  · simp [StateTimers, Quiet, hu, hc, hq.1, hq.2]
  · exact stateTimers_enterConnecting (by exact hc) (by exact hq) (by exact hb) rfl _

theorem stateTimers_enterClosedOrReconnect (hu : mc.timers.upgradeTimeoutDueAt = none) (hq : mc.Quiet)
    (hb : mc.Unbacked strict) (reason : ClosedReason) (ack : AckSource) :
    (mc.enterClosedOrReconnect env reason ack).StateTimers strict := by
  unfold enterClosedOrReconnect
  cases hr : mc.pendingReconnectRequestId
  · simpa [StateTimers, TornDown, Quiet, Unbacked, hu, hq.1, hq.2] using hb
  · exact stateTimers_reenterConnecting (by exact ⟨hu, rfl, hq, hb⟩) _

theorem stateTimers_completeResubscribeIfEmpty (h : mc.StateTimers strict) :
    (mc.completeResubscribeIfEmpty env).StateTimers strict := by
  unfold completeResubscribeIfEmpty
  split_ifs with hs
  · simp only [StateTimers, hs.1] at h
    exact stateTimers_enterOpen h.1 h.2.1 h.2.2.2
  · exact h

theorem tornDown_exit (hu : mc.timers.upgradeTimeoutDueAt = none) (hc : mc.timers.closeTimeoutDueAt = none)
    (hb : mc.Unbacked strict) : (mc.exitResubscribingTeardown env).TornDown strict := by
  simpa [TornDown, Quiet, Unbacked, hu, hc] using hb

theorem tornDown_exitOpen (hu : mc.timers.upgradeTimeoutDueAt = none) (hc : mc.timers.closeTimeoutDueAt = none)
    (hb : mc.Unbacked strict) (cause : DrainCause) :
    ((mc.exitOpenTeardown env cause).clearSubscribeAckState).TornDown strict := by
  simpa [TornDown, Quiet, Unbacked, hu, hc] using hb

theorem stateTimers_handleSubscribeFailure (h : mc.StateTimers strict) (hu : mc.timers.upgradeTimeoutDueAt = none)
    (hc : mc.timers.closeTimeoutDueAt = none) (hb : mc.Unbacked strict) (key : EntryKey) (transient : Bool)
    (lastError : Option String) : (mc.handleSubscribeFailure env key transient lastError).StateTimers strict := by
  unfold handleSubscribeFailure
  dsimp only
  split
  · unfold retrySubscribe
    dsimp only
    split_ifs
    · exact h
    · exact stateTimers_droppedOrEscalate (tornDown_exit (by exact hu) (by exact hc) (by exact hb)) ..
    · exact stateTimers_attemptFailed (tornDown_exit (by exact hu) (by exact hc) (by exact hb)) ..
  · exact stateTimers_completeResubscribeIfEmpty (by exact h)

end tails

/-! ## What popping an event's timer keeps -/

section pop

variable {strict : Prop} {mc : ManagedConnection} {e : FsmEvent}

theorem unbacked_pop (h : mc.Unbacked strict) : (mc.popTimerForEvent e).Unbacked strict := by
  cases e
  case timerBackoffElapsed => exact fun hx => ⟨rfl, (h hx).2⟩
  case timerRateBudgetWindowAdvanced => exact fun hx => ⟨(h hx).1, rfl⟩
  all_goals exact h

theorem quiet_pop (h : mc.Quiet) : (mc.popTimerForEvent e).Quiet := by
  cases e
  case timerStalenessElapsed => exact ⟨rfl, h.2⟩
  all_goals exact h

theorem upgrade_pop_none (h : mc.timers.upgradeTimeoutDueAt = none) :
    (mc.popTimerForEvent e).timers.upgradeTimeoutDueAt = none := by
  cases e <;> first | exact h | rfl

theorem close_pop_none (h : mc.timers.closeTimeoutDueAt = none) :
    (mc.popTimerForEvent e).timers.closeTimeoutDueAt = none := by
  cases e <;> first | exact h | rfl

theorem tornDown_pop (h : mc.TornDown strict) : (mc.popTimerForEvent e).TornDown strict :=
  ⟨upgrade_pop_none h.1, close_pop_none h.2.1, quiet_pop h.2.2.1, unbacked_pop h.2.2.2⟩

theorem watched_pop (h : mc.Watched) (he : e ≠ .timerStalenessElapsed) : (mc.popTimerForEvent e).Watched := by
  cases e <;> first | exact h | exact absurd rfl he

theorem upgrade_pop_isSome (h : mc.timers.upgradeTimeoutDueAt.isSome) (he : e ≠ .timerUpgradeTimeout) :
    (mc.popTimerForEvent e).timers.upgradeTimeoutDueAt.isSome := by
  cases e <;> first | exact h | exact absurd rfl he

theorem close_pop_isSome (h : mc.timers.closeTimeoutDueAt.isSome) (he : e ≠ .timerCloseTimeout) :
    (mc.popTimerForEvent e).timers.closeTimeoutDueAt.isSome := by
  cases e <;> first | exact h | exact absurd rfl he

theorem backing_pop (h : mc.timers.backoffDueAt.isSome ∨ mc.timers.rateBudgetWindowAdvancedAt.isSome)
    (hb : e ≠ .timerBackoffElapsed) (hr : e ≠ .timerRateBudgetWindowAdvanced) :
    (mc.popTimerForEvent e).timers.backoffDueAt.isSome ∨
      (mc.popTimerForEvent e).timers.rateBudgetWindowAdvancedAt.isSome := by
  cases e <;> first | exact h | exact absurd rfl hb | exact absurd rfl hr

/-- `CleanExit` reads only the timer the event does not pop. -/
theorem cleanExit_pop {env : Env} (h : mc.CleanExit ⟨env, .event e⟩) :
    (mc.popTimerForEvent e).CleanExit ⟨env, .event e⟩ := by
  cases e <;> exact h

end pop

/-! ## One lemma per source state

Each takes the connection as `handle_event` sees it, its event's timer already popped: the timer a
state waits on is armed unless the event is the firing of that timer. -/

section states

variable {strict : Prop} {mc : ManagedConnection} (env : Env) (e : FsmEvent)

theorem stateTimers_handleIdle (hs : mc.state = .idle) (h : mc.TornDown strict) :
    (mc.handleIdle env e).StateTimers strict := by
  have stay : mc.StateTimers strict := by simpa [StateTimers, hs] using h
  obtain ⟨hu, hc, hq, hb⟩ := h
  cases e <;> simp only [handleIdle]
  case callStartConnect | callForceReconnect =>
    cases env.tryConsume
    · simp [StateTimers, Quiet, hu, hc, hq.1, hq.2]
    · exact stateTimers_enterConnecting (by exact hc) (by exact hq) (by exact hb) rfl _
  case callClose => exact ⟨hu, hc, hq, hb⟩
  all_goals exact stay

theorem stateTimers_handleConnecting (hs : mc.state = .connecting)
    (hu : e ≠ .timerUpgradeTimeout → mc.timers.upgradeTimeoutDueAt.isSome)
    (hc : mc.timers.closeTimeoutDueAt = none) (hq : mc.Quiet) (hb : mc.Unbacked strict) :
    (mc.handleConnecting env e).StateTimers strict := by
  have stay : e ≠ .timerUpgradeTimeout → mc.StateTimers strict := by
    intro he
    simpa [StateTimers, hs] using ⟨hu he, hc, hq, hb⟩
  cases e <;> simp only [handleConnecting]
  case wireUpgradeOk =>
    cases hurl : mc.url <;>
      exact by simpa [StateTimers, Watched, Unbacked, StalenessMonitor.deadline, hc] using hb
  case wireUpgradeFailed | wireConnectError =>
    split
    · exact stateTimers_connectFailedOrEscalate hc hq hb ..
    · exact by simpa [StateTimers, TornDown, Quiet, Unbacked, hc, hq.1, hq.2] using hb
  case timerUpgradeTimeout => exact stateTimers_attemptFailedOrEscalate (by exact ⟨rfl, hc, hq, hb⟩) ..
  case callClose => exact by simpa [StateTimers, Quiet, Unbacked, hq.1, hq.2] using hb
  case callForceReconnect => split <;> exact stay (by rintro ⟨⟩)
  all_goals exact stay (by rintro ⟨⟩)

theorem stateTimers_handleAuthenticating (hs : mc.state = .authenticating)
    (hu : mc.timers.upgradeTimeoutDueAt = none) (hc : mc.timers.closeTimeoutDueAt = none)
    (hw : e ≠ .timerStalenessElapsed → mc.Watched) (hb : mc.Unbacked strict) :
    (mc.handleAuthenticating env e).StateTimers strict := by
  have stay : e ≠ .timerStalenessElapsed → mc.StateTimers strict := by
    intro he
    simpa [StateTimers, hs] using ⟨hu, hc, hw he, hb⟩
  cases e
  case wireAuthHandshakeFailed kind =>
    cases kind <;> simp only [handleAuthenticating]
    case tokenStale =>
      split
      · exact stateTimers_authFailed (tornDown_exit (by exact hu) (by exact hc) (by exact hb)) ..
      · exact stay nofun
    case transient => exact stateTimers_attemptFailedOrEscalate (tornDown_exit hu hc hb) ..
    all_goals exact stateTimers_authFailed (tornDown_exit hu hc hb) ..
  all_goals simp only [handleAuthenticating]
  case wireCloseReceived => exact stateTimers_closedDuringHandshake (tornDown_exit hu hc hb) ..
  case wireAbnormalClose => exact stateTimers_attemptFailedOrEscalate (tornDown_exit hu hc hb) ..
  case timerStalenessElapsed =>
    exact stateTimers_attemptFailedOrEscalate (tornDown_exit (by exact hu) (by exact hc) (by exact hb)) ..
  case busTokenRefreshFailed =>
    split
    · exact stateTimers_attemptFailedOrEscalate (tornDown_exit hu hc hb) ..
    · exact stateTimers_authFailed (tornDown_exit hu hc hb) ..
  case timerSubscribeAckTimeout => exact stateTimers_handleSubscribeFailure (stay nofun) hu hc hb ..
  case wireOrderAuthOk => exact stateTimers_enterOpen hu hc hb
  case callClose | callForceReconnect => exact by simpa [StateTimers, Quiet, Unbacked, hu] using hb
  case wireAuthHandshakeOk =>
    have hw' := hw nofun
    exact ⟨hu, hc, hw', hb⟩
  all_goals exact stay nofun

theorem stateTimers_handleResubscribing (hs : mc.state = .resubscribing)
    (hu : mc.timers.upgradeTimeoutDueAt = none) (hc : mc.timers.closeTimeoutDueAt = none)
    (hw : e ≠ .timerStalenessElapsed → mc.Watched) (hb : mc.Unbacked strict) :
    (mc.handleResubscribing env e).StateTimers strict := by
  have stay : e ≠ .timerStalenessElapsed → mc.StateTimers strict := by
    intro he
    simpa [StateTimers, hs] using ⟨hu, hc, hw he, hb⟩
  cases e
  case wireSubscribeAck channel pair last =>
    cases last <;> simp only [handleResubscribing]
    · exact stay nofun
    · exact stateTimers_enterOpen hu hc hb
  all_goals simp only [handleResubscribing]
  case wireCloseReceived => exact stateTimers_closedDuringHandshake (tornDown_exit hu hc hb) ..
  case wireAbnormalClose => exact stateTimers_attemptFailedOrEscalate (tornDown_exit hu hc hb) ..
  case timerStalenessElapsed =>
    exact stateTimers_attemptFailedOrEscalate (tornDown_exit (by exact hu) (by exact hc) (by exact hb)) ..
  case timerSubscribeAckTimeout | wireSubscribeFailed =>
    exact stateTimers_handleSubscribeFailure (stay nofun) hu hc hb ..
  case callClose | callForceReconnect => exact by simpa [StateTimers, Quiet, Unbacked, hu] using hb
  all_goals exact stay nofun

theorem stateTimers_handleOpen (hs : mc.state = .opened)
    (hu : mc.timers.upgradeTimeoutDueAt = none) (hc : mc.timers.closeTimeoutDueAt = none)
    (hw : e ≠ .timerStalenessElapsed → mc.Watched) (hb : mc.Unbacked strict) :
    (mc.handleOpen env e).StateTimers strict := by
  have stay : e ≠ .timerStalenessElapsed → mc.StateTimers strict := by
    intro he
    simpa [StateTimers, hs] using ⟨hu, hc, hw he, hb⟩
  cases e <;> simp only [handleOpen]
  case wireCloseReceived =>
    split
    · exact stateTimers_failed (tornDown_exitOpen hu hc hb _) ..
    · exact stateTimers_droppedOrEscalate (tornDown_exitOpen hu hc hb _) ..
  case wireAbnormalClose => exact stateTimers_droppedOrEscalate (tornDown_exitOpen hu hc hb _) ..
  case timerStalenessElapsed =>
    exact stateTimers_droppedOrEscalate (tornDown_exitOpen (by exact hu) (by exact hc) (by exact hb) _) ..
  case timerSubscribeAckTimeout | wireSubscribeFailed =>
    exact stateTimers_handleSubscribeFailure (stay nofun) hu hc hb ..
  case callClose | callForceReconnect => exact by simpa [StateTimers, Quiet, Unbacked, hu] using hb
  all_goals exact stay nofun

theorem stateTimers_handleBackingOff (hs : mc.state = .backingOff)
    (hu : mc.timers.upgradeTimeoutDueAt = none) (hc : mc.timers.closeTimeoutDueAt = none) (hq : mc.Quiet)
    (hb : e ≠ .timerBackoffElapsed → e ≠ .timerRateBudgetWindowAdvanced →
      mc.timers.backoffDueAt.isSome ∨ mc.timers.rateBudgetWindowAdvancedAt.isSome)
    (hclean : strict → mc.CleanExit ⟨env, .event e⟩) : (mc.handleBackingOff env e).StateTimers strict := by
  have stay : e ≠ .timerBackoffElapsed → e ≠ .timerRateBudgetWindowAdvanced → mc.StateTimers strict := by
    intro he he'
    simpa [StateTimers, hs] using ⟨hu, hc, hq, hb he he'⟩
  have clean := fun hx => hclean hx hs
  cases e <;> simp only [handleBackingOff]
  case timerBackoffElapsed | timerRateBudgetWindowAdvanced =>
    cases ht : env.tryConsume
    · simp [StateTimers, Quiet, hs, hu, hc, hq.1, hq.2]
    · exact stateTimers_enterConnecting (by exact hc) (by exact hq) (fun hx => by simpa using clean hx ht) rfl _
  case callForceReconnect =>
    simp only [latchConnect]
    cases ht : env.tryConsume <;> cases mc.pendingConnectRequestId
    · simp [StateTimers, Quiet, hs, hu, hc, hq.1, hq.2]
    · simp [StateTimers, Quiet, hs, hu, hc, hq.1, hq.2]
    all_goals
      exact stateTimers_enterConnecting (by exact hc) (by exact hq) (fun hx => by simpa using clean hx ht) rfl _
  case callClose => exact ⟨hu, hc, hq, clean⟩
  all_goals exact stay nofun nofun

theorem stateTimers_handleClosing (hs : mc.state = .closing) (hu : mc.timers.upgradeTimeoutDueAt = none)
    (hc : e ≠ .timerCloseTimeout → mc.timers.closeTimeoutDueAt.isSome) (hq : mc.Quiet) (hb : mc.Unbacked strict) :
    (mc.handleClosing env e).StateTimers strict := by
  have stay : e ≠ .timerCloseTimeout → mc.StateTimers strict := by
    intro he
    simpa [StateTimers, hs] using ⟨hu, hc he, hq, hb⟩
  cases e <;> simp only [handleClosing]
  case wireCloseReceived | wireAbnormalClose | timerCloseTimeout =>
    exact stateTimers_enterClosedOrReconnect hu hq hb ..
  case callClose => cases mc.pendingCloseRequestId <;> exact stay nofun
  case callForceReconnect => cases mc.pendingReconnectRequestId <;> exact stay nofun
  all_goals exact stay nofun

theorem stateTimers_handleFailed (hs : mc.state = .failed) (h : mc.TornDown strict) :
    (mc.handleFailed env e).StateTimers strict := by
  have stay : mc.StateTimers strict := by simpa [StateTimers, hs] using h
  obtain ⟨hu, hc, hq, hb⟩ := h
  cases e <;> simp only [handleFailed]
  case callForceReconnect =>
    cases env.tryConsume
    · simp [StateTimers, Quiet, hu, hc, hq.1, hq.2]
    · exact stateTimers_enterConnecting (by exact hc) (by exact hq) (by exact hb) rfl _
  case callClose => exact ⟨hu, hc, hq, hb⟩
  all_goals exact stay

end states

/-! ## Every step -/

section step

variable {strict : Prop} {mc : ManagedConnection}

theorem stateTimers_deliver (env : Env) (e : FsmEvent) (h : mc.StateTimers strict)
    (hclean : strict → mc.CleanExit ⟨env, .event e⟩) : (mc.deliver env e).StateTimers strict := by
  have hs' : (mc.popTimerForEvent e).state = mc.state := popTimerForEvent_state mc e
  apply deliver_cases <;> intro hs <;> simp only [StateTimers, hs] at h <;> rw [hs] at hs'
  case idle => exact stateTimers_handleIdle env e hs' (tornDown_pop h)
  case connecting =>
    obtain ⟨hu, hc, hq, hb⟩ := h
    exact stateTimers_handleConnecting env e hs' (upgrade_pop_isSome hu) (close_pop_none hc) (quiet_pop hq)
      (unbacked_pop hb)
  case authenticating =>
    obtain ⟨hu, hc, hw, hb⟩ := h
    exact stateTimers_handleAuthenticating env e hs' (upgrade_pop_none hu) (close_pop_none hc) (watched_pop hw)
      (unbacked_pop hb)
  case resubscribing =>
    obtain ⟨hu, hc, hw, hb⟩ := h
    exact stateTimers_handleResubscribing env e hs' (upgrade_pop_none hu) (close_pop_none hc) (watched_pop hw)
      (unbacked_pop hb)
  case opened =>
    obtain ⟨hu, hc, hw, hb⟩ := h
    exact stateTimers_handleOpen env e hs' (upgrade_pop_none hu) (close_pop_none hc) (watched_pop hw)
      (unbacked_pop hb)
  case backingOff =>
    obtain ⟨hu, hc, hq, hb⟩ := h
    exact stateTimers_handleBackingOff env e hs' (upgrade_pop_none hu) (close_pop_none hc) (quiet_pop hq)
      (backing_pop hb) (fun hx => cleanExit_pop (hclean hx))
  case closing =>
    obtain ⟨hu, hc, hq, hb⟩ := h
    exact stateTimers_handleClosing env e hs' (upgrade_pop_none hu) (close_pop_isSome hc) (quiet_pop hq)
      (unbacked_pop hb)
  case closed =>
    unfold StateTimers
    rw [hs']
    exact tornDown_pop h
  case failed => exact stateTimers_handleFailed env e hs' (tornDown_pop h)

theorem stateTimers_noteInboundActivity (env : Env) (h : mc.StateTimers strict) :
    (mc.noteInboundActivity env).StateTimers strict := by
  cases hs : mc.state <;>
    simp_all [StateTimers, TornDown, Quiet, Watched, Unbacked, noteInboundActivity, StalenessMonitor.noteInbound,
      StalenessMonitor.deadline]

theorem stateTimers_applyUpdate (env : Env) (u : Update) (h : mc.StateTimers strict) :
    (mc.applyUpdate env u).StateTimers strict := by
  cases u <;> simp only [applyUpdate]
  case noteInboundActivity => exact stateTimers_noteInboundActivity env h
  case completeResubscribeIfEmpty => exact stateTimers_completeResubscribeIfEmpty h
  case deferOpenAuthSubscribe => unfold deferOpenAuthSubscribe; split <;> exact h
  all_goals exact h

theorem stateTimers_step (l : Label) (h : mc.StateTimers strict) (hclean : strict → mc.CleanExit l) :
    (mc.step l).StateTimers strict := by
  apply step_keeps
  · exact fun u => stateTimers_applyUpdate l.env u h
  · exact fun r => by cases r <;> exact h
  · intro e he
    refine stateTimers_deliver l.env e h fun hx => ?_
    rw [← he]
    exact hclean hx

theorem stateTimers_new (url : WsUrl) (knobs : Knobs) : (new url knobs).StateTimers strict := by
  simp [StateTimers, TornDown, Quiet, Unbacked, new, TimerSet.empty, StalenessMonitor.new]

end step

/-! ## Every run -/

/-- No timer is armed but in the states that wait on it. -/
structure TimersHygienic (mc : ManagedConnection) : Prop where
  backoff : mc.timers.backoffDueAt.isSome → mc.state = .backingOff
  rateBudget : mc.timers.rateBudgetWindowAdvancedAt.isSome → mc.state = .backingOff
  upgrade : mc.timers.upgradeTimeoutDueAt.isSome → mc.state = .connecting
  close : mc.timers.closeTimeoutDueAt.isSome → mc.state = .closing
  staleness : mc.timers.stalenessDueAt.isSome →
    mc.state = .authenticating ∨ mc.state = .resubscribing ∨ mc.state = .opened

/-- Every state that waits has the timer it waits on armed. -/
def WakesUp (mc : ManagedConnection) : Prop :=
  match mc.state with
  | .connecting => mc.timers.upgradeTimeoutDueAt.isSome
  | .closing => mc.timers.closeTimeoutDueAt.isSome
  | .backingOff => mc.timers.backoffDueAt.isSome ∨ mc.timers.rateBudgetWindowAdvancedAt.isSome
  | .authenticating | .resubscribing | .opened => mc.timers.stalenessDueAt.isSome
  | .idle | .closed | .failed => True

theorem stateTimers_run (url : WsUrl) (knobs : Knobs) (ls : List Label) : (run url knobs ls).StateTimers False :=
  run_invariant (stateTimers_new url knobs) (fun _ l h => stateTimers_step l h False.elim) ls

theorem timersHygienic_of_stateTimers {mc : ManagedConnection} (h : mc.StateTimers True) : mc.TimersHygienic := by
  cases hs : mc.state <;> simp only [StateTimers, hs, TornDown, Quiet, Watched, Unbacked] at h <;>
    constructor <;> simp_all

theorem stateTimers_of_timersHygienic {mc : ManagedConnection} (h : mc.StateTimers False) (hh : mc.TimersHygienic) :
    mc.StateTimers True := by
  have unbacked : mc.state ≠ .backingOff → mc.Unbacked True := by
    intro hne _
    exact ⟨Option.not_isSome_iff_eq_none.1 fun hb => hne (hh.backoff hb),
      Option.not_isSome_iff_eq_none.1 fun hb => hne (hh.rateBudget hb)⟩
  cases hs : mc.state <;> simp only [StateTimers, hs, TornDown] at h ⊢
  case backingOff => exact h
  all_goals exact ⟨h.1, h.2.1, h.2.2.1, unbacked (by simp [hs])⟩

/-- A step that leaves a timer of `BackingOff` behind breaks hygiene at once. -/
theorem cleanExit_of_timersHygienic {mc : ManagedConnection} {l : Label} (h : (mc.step l).TimersHygienic) :
    mc.CleanExit l := by
  intro hs
  have left : ∀ {m : ManagedConnection} {t : Option MonotonicInstant},
      (t.isSome → m.state = .backingOff) → m.state ≠ .backingOff → t = none :=
    fun hm hne => Option.not_isSome_iff_eq_none.1 fun ht => hne (hm ht)
  obtain ⟨env, act⟩ := l
  cases act with
  | update u | request r => trivial
  | event e =>
    cases e
    case timerBackoffElapsed =>
      intro (ht : env.tryConsume = .ok ())
      simp only [step, deliver, popTimerForEvent, handleEvent, hs, handleBackingOff, ht] at h
      exact left h.rateBudget (by simp)
    case timerRateBudgetWindowAdvanced =>
      intro (ht : env.tryConsume = .ok ())
      simp only [step, deliver, popTimerForEvent, handleEvent, hs, handleBackingOff, ht] at h
      exact left h.backoff (by simp)
    case callForceReconnect rid =>
      intro (ht : env.tryConsume = .ok ())
      cases hp : mc.pendingConnectRequestId <;>
        · simp only [step, deliver, popTimerForEvent, handleEvent, hs, handleBackingOff, latchConnect, ht, hp] at h
          exact left h.rateBudget (by simp)
    case callClose rid =>
      simp only [step, deliver, popTimerForEvent, handleEvent, hs, handleBackingOff] at h
      exact ⟨left h.backoff (by simp), left h.rateBudget (by simp)⟩
    all_goals trivial

theorem timersHygienic_step_iff {mc : ManagedConnection} (l : Label) (h : mc.StateTimers False)
    (hh : mc.TimersHygienic) : (mc.step l).TimersHygienic ↔ mc.CleanExit l := by
  constructor
  · exact cleanExit_of_timersHygienic
  · intro hclean
    exact timersHygienic_of_stateTimers
      (stateTimers_step l (stateTimers_of_timersHygienic h hh) fun _ => hclean)

/-- **Timer hygiene**: every state of a run has its timers armed only where they belong exactly when
every exit the run takes from `BackingOff` is clean. -/
theorem timersHygienic_iff_cleanExits (url : WsUrl) (knobs : Knobs) (ls : List Label) :
    (∀ p, p <+: ls → (run url knobs p).TimersHygienic) ↔ AllowedRun CleanExit url knobs ls :=
  StepSystem.forall_prefix_iff_allowed (fun _ l h => stateTimers_step l h False.elim)
    (fun _ l h hh => timersHygienic_step_iff l h hh) (stateTimers_new url knobs)
    (timersHygienic_of_stateTimers (stateTimers_new url knobs)) ls

/-- **Wake-up**: no reachable state that waits for something is without a timer that will fire. -/
theorem wakesUp (url : WsUrl) (knobs : Knobs) (ls : List Label) : (run url knobs ls).WakesUp := by
  have h := stateTimers_run url knobs ls
  generalize run url knobs ls = mc at h
  cases hs : mc.state <;> simp only [StateTimers, hs, TornDown] at h <;> simp only [WakesUp, hs]
  case connecting => exact h.1
  case closing => exact h.2.1
  case backingOff => exact h.2.2.2
  all_goals exact h.2.2.1.1

/-! ## A run that carries a timer out of `BackingOff` -/

/-- The environment of the run below at time `now`: the rate budget refuses exactly when asked to. -/
def sampleEnv (now : MonotonicInstant) (tryConsume : Except ConnectionRateThrottled Unit) : Env where
  now := now
  knobs := { stalenessWindowMs := 30000, upgradeTimeout := fromMillis 10000, closeTimeout := fromMillis 5000
             reconnectAttempts := none, maxAuthHandshakeFailures := 3, subscribeAckAttempts := 3
             subscribeAckTimeoutMs := 5000 }
  tryConsume := tryConsume
  windowSeconds := 10
  nextBackoff := fun _ => fromMillis 60000
  openSocket := now

/-- With a budget of one attempt in 10 s: a first connect is refused by the peer, so a 60 s backoff is
armed; a `force_reconnect()` is throttled until the window moves on; the rate-budget timer fires
then, and the budget lets the attempt through. -/
def escapingRun : List Label :=
  [ ⟨sampleEnv 0 (.ok ()), .event (.callStartConnect 1)⟩,
    ⟨sampleEnv (fromMillis 100) (.ok ()), .event (.wireConnectError .tcpRefused true)⟩,
    ⟨sampleEnv (fromMillis 200) (.error ⟨1, 1, fromMillis 10000⟩), .event (.callForceReconnect 2)⟩,
    ⟨sampleEnv (fromMillis 10001) (.ok ()), .event .timerRateBudgetWindowAdvanced⟩ ]

/-- The backoff timer of the failed attempt is still armed in the next attempt's `Connecting`. -/
theorem backoffTimer_escapes :
    ¬ ∀ (url : WsUrl) (knobs : Knobs) (ls : List Label), (run url knobs ls).TimersHygienic := by
  intro h
  have hs := (h .publicUrl (sampleEnv 0 (.ok ())).knobs escapingRun).backoff rfl
  exact absurd hs (by decide)

end KrakenSdk.Conn.ManagedConnection
