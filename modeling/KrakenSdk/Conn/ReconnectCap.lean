import KrakenSdk.Conn.Runs
/-!
# The reconnect cap (`reconnect_attempts = Some(n)`)

* `deliver_state_capped`: what the cap does to one delivered event. Away from the pre-`Open` exhaustion
  of a subscribe-ack budget, an event that would move an attempting connection to `BackingOff`
  without the cap does so under it exactly when `attempt_count < n`, and moves it to `Failed` else.
* `reconnectCap_honoured`: so it is in every state of a run under the cap `n` with no
  `force_reconnect()`, and the connect attempts since the last visit to `Open` are at most `n` plus
  the exhaustions since then.
* `subscribeExhaustion_ignores_cap`: the exception is real. A connection at its cap whose first
  subscribe is never acknowledged backs off, as docs/events.md:261 says it does.

The attempts and the exhaustions are counted on the bus (`tallyOf`), where the source publishes one
`ConnectionConnectingEvent` for each socket it opens; `CapInv` is the invariant that bounds them.
-/
namespace KrakenSdk.Conn.ManagedConnection

/-- The states a connect attempt or a live connection is in: a failure there is a failed attempt or a drop. -/
def Attempting (mc : ManagedConnection) : Prop :=
  mc.state = .connecting ∨ mc.state = .authenticating ∨ mc.state = .resubscribing ∨ mc.state = .opened

/-- The key whose subscribe an event reports as failed transiently, in a state that handles it. -/
def transientSubscribeFailure (mc : ManagedConnection) : FsmEvent → Option EntryKey
  | .timerSubscribeAckTimeout channel pair => some (channel, pair)
  | .wireSubscribeFailed channel pair error =>
    if error.transient ∧ mc.state = .resubscribing then some (channel, pair) else none
  | _ => none

/-- The event exhausts a subscribe-ack budget before `Open`: the branch of `handle_subscribe_failure`
that does not consult the cap. -/
def PreOpenExhaustion (mc : ManagedConnection) (env : Env) (e : FsmEvent) : Prop :=
  (mc.state = .authenticating ∨ mc.state = .resubscribing) ∧
    ∃ key ∈ mc.transientSubscribeFailure e, mc.subscribeAckRemaining env key = 0

instance (mc : ManagedConnection) (env : Env) (e : FsmEvent) : Decidable (mc.PreOpenExhaustion env e) :=
  inferInstanceAs (Decidable (_ ∧ _))

/-- The same step under `reconnect_attempts = None`. -/
def uncapped (env : Env) : Env := { env with knobs := { env.knobs with reconnectAttempts := none } }

/-! ## One event -/

section event

variable {n : Nat} {mc : ManagedConnection} {env : Env}

attribute [local simp] emitLifecycle drainPending closeSocket forgetSubscribeReqIdForKey disarmSubscribeAck
  clearSubscribeAckState disarmStaleness exitAuthenticatingTeardown exitAuthenticatingToClosing
  exitResubscribingTeardown exitOpenTeardown armStaleness armUpgradeTimeout armCloseTimeout enterOpen
  emitConnectionFailed emitAttemptFailed escalate attemptFailed emitWebsocketStale emitAuthenticationFailed
  connectFailedPermanently

theorem state_attemptFailedOrEscalate (cls : TransientClass) (krakenError : Option String)
    (httpStatus closeCode : Option Nat) :
    (mc.attemptFailedOrEscalate env cls krakenError httpStatus closeCode).state =
      if mc.capExhausted env then .failed else .backingOff := by
  unfold attemptFailedOrEscalate
  split_ifs <;> simp

theorem state_droppedOrEscalate (closeCode : Option Nat) (reason : Option String) :
    (mc.droppedOrEscalate env closeCode reason).state = if mc.capExhausted env then .failed else .backingOff := by
  unfold droppedOrEscalate
  split_ifs <;> simp

theorem state_connectFailedOrEscalate (cls : TransientClass) (httpStatus : Option Nat) :
    (mc.connectFailedOrEscalate env cls httpStatus).state = if mc.capExhausted env then .failed else .backingOff := by
  unfold connectFailedOrEscalate
  split_ifs <;> simp

theorem state_closedDuringHandshake (code : Nat) (reason : Option String) (phase : String) :
    (mc.closedDuringHandshake env code reason phase).state =
      if code = 1008 then .failed else if mc.capExhausted env then .failed else .backingOff := by
  unfold closedDuringHandshake
  split
  · simp
  · exact state_attemptFailedOrEscalate ..

/-- A transient subscribe failure keeps the state while the key's budget lasts. -/
theorem state_retrySubscribe (key : EntryKey) :
    (mc.retrySubscribe env key).state =
      if 0 < mc.subscribeAckRemaining env key then mc.state
      else if mc.state = .opened then (if mc.capExhausted env then .failed else .backingOff)
      else .backingOff := by
  unfold retrySubscribe
  dsimp only
  split
  · rfl
  · split
    · exact state_droppedOrEscalate ..
    · simp

theorem state_completeResubscribeIfEmpty :
    (mc.completeResubscribeIfEmpty env).state =
      if mc.state = .resubscribing ∧ mc.pendingSubscribeAckCount = 0 ∧
          HashMap.isEmpty mc.timers.perEntrySubscribeResendDue then .opened
      else mc.state := by
  unfold completeResubscribeIfEmpty
  split <;> simp

/-- A permanent subscribe failure reads neither the knobs nor the attempt count. -/
theorem state_terminateEntry (key : EntryKey) (lastError : Option String) :
    (mc.terminateEntry (uncapped env) key lastError).state = (mc.terminateEntry env key lastError).state ∧
      (mc.state ≠ .backingOff → (mc.terminateEntry env key lastError).state ≠ .backingOff) := by
  unfold terminateEntry
  constructor
  · rw [state_completeResubscribeIfEmpty, state_completeResubscribeIfEmpty]
    rfl
  · intro hs
    rw [state_completeResubscribeIfEmpty]
    split
    · simp
    · exact hs

theorem capExhausted_uncapped : mc.capExhausted (uncapped env) = false := by
  simp [capExhausted, uncapped]

theorem capExhausted_capped (hn : env.knobs.reconnectAttempts = some n) :
    mc.capExhausted env = decide (n ≤ mc.attemptCount) := by
  simp [capExhausted, hn]

/-- `BackingOff` becomes `Failed` when the cap is reached. -/
def capState (n attemptCount : Nat) (s : ConnectionState) : ConnectionState :=
  if s = .backingOff ∧ n ≤ attemptCount then .failed else s

theorem state_handleConnecting_capped (hn : env.knobs.reconnectAttempts = some n) (e : FsmEvent)
    (hs : mc.state = .connecting) :
    (mc.handleConnecting env e).state = capState n mc.attemptCount (mc.handleConnecting (uncapped env) e).state := by
  cases e <;> simp only [handleConnecting]
  case wireUpgradeOk => cases mc.url <;> simp [capState]
  case wireUpgradeFailed | wireConnectError =>
    split <;> simp [state_connectFailedOrEscalate, capExhausted_uncapped, capState, capExhausted_capped hn]
  case timerUpgradeTimeout => simp [state_attemptFailedOrEscalate, capExhausted_uncapped, capState, capExhausted_capped hn]
  case callForceReconnect => split <;> simp [capState, hs]
  all_goals simp [capState, hs]

theorem state_handleSubscribeFailure_capped (hn : env.knobs.reconnectAttempts = some n) (key : EntryKey) (transient : Bool) (lastError : Option String)
    (hs : mc.state ≠ .backingOff)
    (hr : transient = true → mc.state = .opened ∨ mc.subscribeAckRemaining env key ≠ 0) :
    (mc.handleSubscribeFailure env key transient lastError).state =
      capState n mc.attemptCount (mc.handleSubscribeFailure (uncapped env) key transient lastError).state := by
  have hs' : (mc.cancelEntryTimers key).state = mc.state := rfl
  have hrem : ∀ env', (mc.cancelEntryTimers key).subscribeAckRemaining env' key = mc.subscribeAckRemaining env' key :=
    fun _ => rfl
  have hcap : (mc.cancelEntryTimers key).capExhausted env = mc.capExhausted env := rfl
  have hrem' : mc.subscribeAckRemaining (uncapped env) key = mc.subscribeAckRemaining env key := rfl
  cases transient <;> simp only [handleSubscribeFailure, Bool.false_eq_true, if_false, if_true]
  · obtain ⟨h1, h2⟩ := @state_terminateEntry (mc.cancelEntryTimers key) env key lastError
    rw [h1, capState, if_neg]
    exact fun h => h2 hs h.1
  · rw [state_retrySubscribe, state_retrySubscribe, hrem, hrem, hrem', hs', hcap, capExhausted_uncapped]
    split
    · simp [capState, hs]
    · rename_i hz
      have ho : mc.state = .opened := (hr rfl).resolve_right (by omega)
      simp [ho, capState, capExhausted_capped hn]

theorem state_handleAuthenticating_capped (hn : env.knobs.reconnectAttempts = some n) (e : FsmEvent)
    (hs : mc.state = .authenticating) (hx : ¬ mc.PreOpenExhaustion env e) :
    (mc.handleAuthenticating env e).state = capState n mc.attemptCount (mc.handleAuthenticating (uncapped env) e).state := by
  cases e
  case wireAuthHandshakeFailed kind =>
    cases kind <;> simp only [handleAuthenticating]
    case tokenStale =>
      by_cases hm : satAdd32 mc.authHandshakeFailCount 1 ≥ env.knobs.maxAuthHandshakeFailures <;>
        simp [uncapped, hm, capState, hs]
    case transient => simp [state_attemptFailedOrEscalate, capExhausted_uncapped, capState, capExhausted_capped hn]
    all_goals simp [capState]
  all_goals simp only [handleAuthenticating]
  case wireCloseReceived =>
    simp only [state_closedDuringHandshake, capExhausted_uncapped]
    split <;> simp [capState, capExhausted_capped hn]
  case wireAbnormalClose => simp [state_attemptFailedOrEscalate, capExhausted_uncapped, capState, capExhausted_capped hn]
  case timerStalenessElapsed => simp [state_attemptFailedOrEscalate, capExhausted_uncapped, capState, capExhausted_capped hn]
  case busTokenRefreshFailed =>
    split
    · simp [state_attemptFailedOrEscalate, capExhausted_uncapped, capState, capExhausted_capped hn]
    · simp [capState]
  case timerSubscribeAckTimeout channel pair =>
    refine state_handleSubscribeFailure_capped hn _ _ _ (by simp [hs]) fun _ => .inr fun hz => hx ?_
    exact ⟨.inl hs, (channel, pair), rfl, hz⟩
  all_goals simp [capState, hs]

theorem state_handleResubscribing_capped (hn : env.knobs.reconnectAttempts = some n) (e : FsmEvent)
    (hs : mc.state = .resubscribing) (hx : ¬ mc.PreOpenExhaustion env e) :
    (mc.handleResubscribing env e).state = capState n mc.attemptCount (mc.handleResubscribing (uncapped env) e).state := by
  cases e
  case wireSubscribeAck channel pair last => cases last <;> simp [handleResubscribing, capState, hs]
  all_goals simp only [handleResubscribing]
  case wireCloseReceived =>
    simp only [state_closedDuringHandshake, capExhausted_uncapped]
    split <;> simp [capState, capExhausted_capped hn]
  case wireAbnormalClose => simp [state_attemptFailedOrEscalate, capExhausted_uncapped, capState, capExhausted_capped hn]
  case timerStalenessElapsed => simp [state_attemptFailedOrEscalate, capExhausted_uncapped, capState, capExhausted_capped hn]
  case timerSubscribeAckTimeout channel pair =>
    refine state_handleSubscribeFailure_capped hn _ _ _ (by simp [hs]) fun _ => .inr fun hz => hx ?_
    exact ⟨.inr hs, (channel, pair), rfl, hz⟩
  case wireSubscribeFailed channel pair error =>
    refine state_handleSubscribeFailure_capped hn _ _ _ (by simp [hs]) fun ht => .inr fun hz => hx ?_
    exact ⟨.inr hs, (channel, pair), by simp [transientSubscribeFailure, ht, hs], hz⟩
  all_goals simp [capState, hs]

theorem state_handleOpen_capped (hn : env.knobs.reconnectAttempts = some n) (e : FsmEvent)
    (hs : mc.state = .opened) :
    (mc.handleOpen env e).state = capState n mc.attemptCount (mc.handleOpen (uncapped env) e).state := by
  cases e <;> simp only [handleOpen]
  case wireCloseReceived =>
    split
    · simp [capState]
    · simp [state_droppedOrEscalate, capExhausted_uncapped, capState, capExhausted_capped hn]
  case wireAbnormalClose => simp [state_droppedOrEscalate, capExhausted_uncapped, capState, capExhausted_capped hn]
  case timerStalenessElapsed => simp [state_droppedOrEscalate, capExhausted_uncapped, capState, capExhausted_capped hn]
  case timerSubscribeAckTimeout =>
    refine state_handleSubscribeFailure_capped hn _ _ _ (by simp [hs]) fun _ => ?_
    exact .inl hs
  case wireSubscribeFailed =>
    refine state_handleSubscribeFailure_capped hn _ _ _ (by simp [hs]) fun _ => ?_
    exact .inl hs
  all_goals simp [capState, hs]

/-- A pre-`Open` budget exhaustion backs off, whatever the cap says. -/
theorem state_handleSubscribeFailure_exhausted (key : EntryKey) (lastError : Option String) (hs : mc.state ≠ .opened)
    (hr : mc.subscribeAckRemaining env key = 0) :
    (mc.handleSubscribeFailure env key true lastError).state = .backingOff := by
  have hrem : (mc.cancelEntryTimers key).subscribeAckRemaining env key = mc.subscribeAckRemaining env key := rfl
  have hs' : (mc.cancelEntryTimers key).state = mc.state := rfl
  simp only [handleSubscribeFailure, if_true]
  rw [state_retrySubscribe, hrem, hr, hs', if_neg (by omega), if_neg hs]

end event

/-! ## One delivered event -/

section deliver

variable {n : Nat} {mc : ManagedConnection} {env : Env} {e : FsmEvent}

/-- Popping an event's timer is invisible to the subscribe budget. -/
theorem preOpenExhaustion_pop : (mc.popTimerForEvent e).PreOpenExhaustion env e ↔ mc.PreOpenExhaustion env e := by
  cases e <;> exact Iff.rfl

theorem attemptCount_pop : (mc.popTimerForEvent e).attemptCount = mc.attemptCount := by
  cases e <;> rfl

/-- **The cap on one event.** -/
theorem deliver_state_capped (hn : env.knobs.reconnectAttempts = some n) (ha : mc.Attempting)
    (hx : ¬ mc.PreOpenExhaustion env e) :
    (mc.deliver env e).state = capState n mc.attemptCount (mc.deliver (uncapped env) e).state := by
  have hx' := preOpenExhaustion_pop.not.2 hx
  have hs' : (mc.popTimerForEvent e).state = mc.state := popTimerForEvent_state mc e
  unfold deliver
  rw [← attemptCount_pop (e := e)]
  rcases ha with h | h | h | h <;> simp only [handleEvent, hs', h] <;> rw [h] at hs'
  · exact state_handleConnecting_capped hn e hs'
  · exact state_handleAuthenticating_capped hn e hs' hx'
  · exact state_handleResubscribing_capped hn e hs' hx'
  · exact state_handleOpen_capped hn e hs'

/-- The exception: a pre-`Open` exhaustion of a subscribe-ack budget always backs off. -/
theorem deliver_state_exhausted (hx : mc.PreOpenExhaustion env e) : (mc.deliver env e).state = .backingOff := by
  have hs' : (mc.popTimerForEvent e).state = mc.state := popTimerForEvent_state mc e
  obtain ⟨hs, key, hk, hz⟩ := preOpenExhaustion_pop.2 hx
  unfold deliver
  generalize mc.popTimerForEvent e = m at hs' hs hk hz
  have hne : m.state ≠ .opened := by rcases hs with h | h <;> simp [h]
  cases e <;> simp only [transientSubscribeFailure, Option.mem_def, reduceCtorEq] at hk
  case timerSubscribeAckTimeout =>
    cases hk
    rcases hs with h | h <;> simp only [handleEvent, h, handleAuthenticating, handleResubscribing] <;>
      exact state_handleSubscribeFailure_exhausted _ _ hne hz
  case wireSubscribeFailed =>
    obtain ⟨⟨ht, h⟩, hk⟩ := Option.ite_none_right_eq_some.1 hk
    cases hk
    simp only [handleEvent, h, handleResubscribing, ht]
    exact state_handleSubscribeFailure_exhausted _ _ hne hz

end deliver

/-! ## Counting connect attempts on the bus -/

/-- What is counted since the last visit to `Open`. -/
structure Tally where
  connects : Nat
  exhaustions : Nat
  deriving DecidableEq

/-- One effect: an `Open` or `Reopened` event starts a new count. -/
def Tally.count (t : Tally) : Effect → Tally
  | .publish { payload := .connectionConnectingEvent .., .. } => { t with connects := t.connects + 1 }
  | .publish { payload := .connectionOpenEvent .., .. } => ⟨0, 0⟩
  | .publish { payload := .connectionReopenedEvent .., .. } => ⟨0, 0⟩
  | .publish { payload := .connectionAttemptFailedEvent _ _ .subscribeBudgetExhausted .., .. } =>
    { t with exhaustions := t.exhaustions + 1 }
  | _ => t

/-- The counts after a list of effects. -/
def tallyOf (bus : List Effect) : Tally := bus.foldl Tally.count ⟨0, 0⟩

@[simp] theorem tallyOf_nil : tallyOf [] = ⟨0, 0⟩ := rfl

@[simp] theorem tallyOf_append (xs ys : List Effect) : tallyOf (xs ++ ys) = ys.foldl Tally.count (tallyOf xs) :=
  List.foldl_append

/-- Effects that are neither an attempt, an exhaustion nor a visit to `Open` count nothing. -/
theorem foldl_count_neutral {xs : List Effect} (h : ∀ x ∈ xs, ∀ t : Tally, t.count x = t) (t : Tally) :
    xs.foldl Tally.count t = t := by
  induction xs with
  | nil => rfl
  | cons x xs ih =>
    rw [List.foldl_cons, h x (by simp), ih fun y hy => h y (by simp [hy])]

@[simp] theorem foldl_count_drain (m : PendingRequestMap) (cause : DrainCause) (now : MonotonicInstant) (t : Tally) :
    (m.drain cause now).2.foldl Tally.count t = t := by
  apply foldl_count_neutral
  intro x hx t
  obtain ⟨p, -, hx⟩ := List.mem_flatMap.1 hx
  simp only [List.mem_cons, List.not_mem_nil, or_false] at hx
  rcases hx with rfl | rfl <;> rfl

@[simp] theorem foldl_count_close (socket : Option SocketId) (t : Tally) :
    (socket.toList.map (Effect.closeSocket · 1000)).foldl Tally.count t = t := by
  cases socket <;> rfl

@[simp] theorem tallyOf_emitConnectionFailed (mc : ManagedConnection) (env : Env) (lastError : String)
    (cls : Option NonTransientClass) :
    tallyOf (mc.emitConnectionFailed env lastError false cls).bus = tallyOf mc.bus := by
  simp only [emitConnectionFailed, tallyOf_append]
  apply foldl_count_neutral
  intro x hx t
  split at hx
  · obtain rfl := List.mem_singleton.1 hx
    rfl
  · obtain ⟨rid, -, rfl⟩ := List.mem_map.1 hx
    rfl

/-- Entering `Open` starts a new count. -/
theorem tallyOf_enterOpen (mc : ManagedConnection) (env : Env) : tallyOf (mc.enterOpen env).bus = ⟨0, 0⟩ := by
  have hone : ∀ t rid, Tally.count t (mc.openOrReopened env mc.hasBeenOpen mc.attemptCount rid) = ⟨0, 0⟩ := by
    intro t rid
    unfold openOrReopened lifecycle
    cases mc.hasBeenOpen <;> rfl
  have hall : ∀ rids : List Nat, ((rids.map fun rid =>
      mc.openOrReopened env mc.hasBeenOpen mc.attemptCount (some rid)).foldl Tally.count ⟨0, 0⟩) = ⟨0, 0⟩ := by
    intro rids
    induction rids with
    | nil => rfl
    | cons rid rids ih => rw [List.map_cons, List.foldl_cons, hone, ih]
  simp only [enterOpen, tallyOf_append, List.foldl_cons, hone]
  exact hall _

/-! ## The invariant -/

/-- The attempts the cap allows: `n`, but the first one of all is free, as `start_connect()` does not
consult the cap. -/
def allowance (n : Nat) (hasBeenOpen : Bool) : Nat := if hasBeenOpen then n else max n 1

/-- The bound on connect attempts: the allowance, and one more for each exhaustion. -/
def connectBound (n : Nat) (mc : ManagedConnection) : Nat :=
  allowance n mc.hasBeenOpen + (tallyOf mc.bus).exhaustions

/-- The attempts made are within the bound, and `attempt_count` has counted them unless it is past
the cap anyway; no `force_reconnect()` is latched. -/
structure Capped (n : Nat) (mc : ManagedConnection) : Prop where
  reconnect : mc.pendingReconnectRequestId = none
  counted : n ≤ mc.attemptCount ∨ (tallyOf mc.bus).connects ≤ mc.attemptCount
  bound : (tallyOf mc.bus).connects ≤ mc.connectBound n

/-- `Capped`, with room for one more attempt in `BackingOff`. -/
def CapInv (n : Nat) (mc : ManagedConnection) : Prop :=
  match mc.state with
  | .idle => mc.pendingReconnectRequestId = none ∧ mc.attemptCount = 0 ∧ tallyOf mc.bus = ⟨0, 0⟩ ∧
      mc.hasBeenOpen = false
  | .backingOff => mc.Capped n ∧ (tallyOf mc.bus).connects + 1 ≤ mc.connectBound n
  | _ => mc.Capped n

theorem le_allowance (n : Nat) (hasBeenOpen : Bool) : n ≤ allowance n hasBeenOpen := by
  unfold allowance
  split <;> omega

section invariant

variable {n : Nat} {mc : ManagedConnection} {env : Env}

attribute [local simp] emitLifecycle drainPending closeSocket forgetSubscribeReqIdForKey disarmSubscribeAck
  clearSubscribeAckState disarmStaleness exitAuthenticatingTeardown exitAuthenticatingToClosing
  exitResubscribingTeardown exitOpenTeardown armStaleness armUpgradeTimeout armCloseTimeout
  emitAttemptFailed attemptFailed emitWebsocketStale emitRateThrottled lifecycle Tally.count

theorem Capped.of_eq {m : ManagedConnection} (h : mc.Capped n)
    (hr : m.pendingReconnectRequestId = mc.pendingReconnectRequestId) (ha : m.attemptCount = mc.attemptCount)
    (ho : m.hasBeenOpen = mc.hasBeenOpen) (ht : tallyOf m.bus = tallyOf mc.bus) : m.Capped n := by
  obtain ⟨h1, h2, h3⟩ := h
  constructor
  · rw [hr, h1]
  · rw [ht, ha]
    exact h2
  · simpa only [connectBound, ho, ht] using h3

theorem capped_exit (h : mc.Capped n) : (mc.exitResubscribingTeardown env).Capped n :=
  h.of_eq rfl rfl rfl (by simp)

theorem capped_exitOpen (h : mc.Capped n) (cause : DrainCause) :
    ((mc.exitOpenTeardown env cause).clearSubscribeAckState).Capped n :=
  h.of_eq rfl rfl rfl (by simp)

theorem capped_emitWebsocketStale (h : mc.Capped n) : (mc.emitWebsocketStale env).Capped n :=
  h.of_eq rfl rfl rfl (by simp)

/-- Below the cap there is room for one more attempt. -/
theorem Capped.room (h : mc.Capped n) (hn : env.knobs.reconnectAttempts = some n) (hc : mc.capExhausted env = false) :
    (tallyOf mc.bus).connects + 1 ≤ mc.connectBound n := by
  have hlt : mc.attemptCount < n := by simpa [capExhausted, hn] using hc
  have hle := h.counted.resolve_left (by omega)
  have hn := le_allowance n mc.hasBeenOpen
  unfold connectBound
  omega

theorem capInv_failed (h : mc.Capped n) (lastError : String) (cls : Option NonTransientClass) :
    ({ mc with state := .failed }.emitConnectionFailed env lastError false cls).CapInv n :=
  h.of_eq rfl rfl rfl (tallyOf_emitConnectionFailed ..)

theorem capInv_authFailed (h : mc.Capped n) (lastError : String) (cls : NonTransientClass)
    (krakenResponse : Option String) :
    ({ mc with state := .failed }.emitAuthenticationFailed env lastError cls krakenResponse).CapInv n := by
  refine h.of_eq rfl rfl rfl ?_
  simp [emitAuthenticationFailed]

theorem capInv_escalate (h : mc.Capped n) : (mc.escalate env).CapInv n :=
  h.of_eq rfl rfl rfl (tallyOf_emitConnectionFailed ..)

/-- An exhaustion makes its own room; any other failure needs it. -/
theorem capInv_attemptFailed (h : mc.Capped n) (cls : TransientClass) (krakenError : Option String)
    (httpStatus closeCode : Option Nat)
    (hroom : cls = .subscribeBudgetExhausted ∨ (tallyOf mc.bus).connects + 1 ≤ mc.connectBound n) :
    (mc.attemptFailed env cls krakenError httpStatus closeCode).CapInv n := by
  obtain ⟨h1, h2, h3⟩ := h
  simp only [connectBound] at h3 hroom
  cases cls <;> simp [CapInv, connectBound] at hroom ⊢ <;>
    exact ⟨⟨h1, by simpa using h2, by simp [connectBound]; omega⟩, by omega⟩

theorem capInv_attemptFailedOrEscalate (h : mc.Capped n) (hn : env.knobs.reconnectAttempts = some n)
    (cls : TransientClass) (krakenError : Option String) (httpStatus closeCode : Option Nat) :
    (mc.attemptFailedOrEscalate env cls krakenError httpStatus closeCode).CapInv n := by
  unfold attemptFailedOrEscalate
  split
  · exact capInv_escalate h
  · rename_i hc
    exact capInv_attemptFailed h _ _ _ _ (.inr (h.room hn (by simpa using hc)))

theorem capInv_droppedOrEscalate (h : mc.Capped n) (hn : env.knobs.reconnectAttempts = some n)
    (closeCode : Option Nat) (reason : Option String) : (mc.droppedOrEscalate env closeCode reason).CapInv n := by
  unfold droppedOrEscalate
  split
  · exact capInv_escalate h
  · rename_i hc
    have hroom := h.room hn (by simpa using hc)
    refine ⟨h.of_eq rfl rfl rfl (by simp), ?_⟩
    simpa [connectBound] using hroom

theorem capInv_closedDuringHandshake (h : mc.Capped n) (hn : env.knobs.reconnectAttempts = some n) (code : Nat)
    (reason : Option String) (phase : String) : (mc.closedDuringHandshake env code reason phase).CapInv n := by
  unfold closedDuringHandshake
  split
  · exact capInv_failed h ..
  · exact capInv_attemptFailedOrEscalate h hn ..

theorem capInv_enterOpen (hr : mc.pendingReconnectRequestId = none) : (mc.enterOpen env).CapInv n := by
  have ht := tallyOf_enterOpen mc env
  refine ⟨hr, .inr ?_, ?_⟩ <;> simp [ht]

/-- An attempt uses the room `BackingOff` has, or the first attempt's own. -/
theorem capInv_enterConnecting (hs : mc.state = .connecting) (hr : mc.pendingReconnectRequestId = none)
    (hc : n ≤ mc.attemptCount ∨ (tallyOf mc.bus).connects + 1 ≤ mc.attemptCount)
    (hb : (tallyOf mc.bus).connects + 1 ≤ mc.connectBound n) (rid : Option Nat) :
    (mc.enterConnecting env rid).CapInv n := by
  have ht : tallyOf (mc.enterConnecting env rid).bus =
      { tallyOf mc.bus with connects := (tallyOf mc.bus).connects + 1 } := by
    simp [enterConnecting]
  have hs' : (mc.enterConnecting env rid).state = .connecting := hs
  unfold CapInv
  rw [hs']
  refine ⟨hr, ?_, ?_⟩
  · rw [ht]
    exact hc
  · rw [ht]
    simpa [connectBound, ht, enterConnecting] using hb

/-- With no `force_reconnect()` latched, the end of a close is `Closed`. -/
theorem capInv_enterClosedOrReconnect (h : mc.Capped n) (reason : ClosedReason) (ack : AckSource) :
    (mc.enterClosedOrReconnect env reason ack).CapInv n := by
  have hneutral : ∀ (rids : List Nat) (f : Nat → Effect), (∀ rid t, Tally.count t (f rid) = t) → ∀ t,
      (rids.map f).foldl Tally.count t = t := by
    intro rids f hf t
    apply foldl_count_neutral
    intro x hx t
    obtain ⟨rid, -, rfl⟩ := List.mem_map.1 hx
    exact hf rid t
  unfold enterClosedOrReconnect
  cases hr : mc.pendingReconnectRequestId with
  | some rid => exact absurd h.reconnect (by simp [hr])
  | none =>
    refine h.of_eq hr.symm rfl rfl ?_
    simp only [drainPending, tallyOf_append]
    rw [hneutral _ _ fun _ _ => rfl]
    exact foldl_count_drain ..

theorem capInv_of_state {m : ManagedConnection} (h : m.Capped n) (hi : m.state ≠ .idle) (hb : m.state ≠ .backingOff) :
    m.CapInv n := by
  unfold CapInv
  split
  · exact absurd ‹_› hi
  · exact absurd ‹_› hb
  · exact h

theorem capInv_completeResubscribeIfEmpty (h : mc.CapInv n) : (mc.completeResubscribeIfEmpty env).CapInv n := by
  unfold completeResubscribeIfEmpty
  split
  · rename_i hs
    simp only [CapInv, hs.1] at h
    exact capInv_enterOpen h.reconnect
  · exact h

theorem capInv_handleSubscribeFailure (h : mc.Capped n) (hi : mc.state ≠ .idle) (hb : mc.state ≠ .backingOff)
    (hn : env.knobs.reconnectAttempts = some n) (key : EntryKey) (transient : Bool) (lastError : Option String) :
    (mc.handleSubscribeFailure env key transient lastError).CapInv n := by
  unfold handleSubscribeFailure
  dsimp only
  split
  · unfold retrySubscribe
    dsimp only
    split_ifs
    · exact capInv_of_state (by exact h.of_eq rfl rfl rfl rfl) hi hb
    · exact capInv_droppedOrEscalate (capped_exit (by exact h.of_eq rfl rfl rfl rfl)) hn ..
    · exact capInv_attemptFailed (capped_exit (by exact h.of_eq rfl rfl rfl rfl)) _ _ _ _ (.inl rfl)
  · refine capInv_completeResubscribeIfEmpty (capInv_of_state ?_ hi hb)
    exact h.of_eq rfl rfl rfl (by simp [cancelEntryTimers])

/-! ### One lemma per source state -/

theorem capInv_handleIdle (e : FsmEvent) (he : ∀ rid, e ≠ .callForceReconnect rid) (hs : mc.state = .idle)
    (hr : mc.pendingReconnectRequestId = none) (ha : mc.attemptCount = 0) (ht : tallyOf mc.bus = ⟨0, 0⟩)
    (ho : mc.hasBeenOpen = false) : (mc.handleIdle env e).CapInv n := by
  have stay : mc.CapInv n := by
    unfold CapInv
    rw [hs]
    exact ⟨hr, ha, ht, ho⟩
  have hfree : 1 ≤ allowance n mc.hasBeenOpen := by simp [allowance, ho]
  cases e <;> simp only [handleIdle]
  case callStartConnect rid =>
    cases env.tryConsume
    · refine ⟨⟨hr, .inr (by simp [ht]), by simp [ht]⟩, ?_⟩
      simpa [connectBound, ht] using hfree
    · apply capInv_enterConnecting (by exact rfl) (by exact hr)
      · right
        simp [ht, ha, satAdd32, u32Max]
      · simpa [connectBound, ht] using hfree
  case callForceReconnect rid => exact absurd rfl (he rid)
  case callClose => exact ⟨hr, .inr (by simp [ht]), by simp [ht]⟩
  all_goals exact stay

theorem capInv_handleConnecting (e : FsmEvent) (he : ∀ rid, e ≠ .callForceReconnect rid) (hs : mc.state = .connecting)
    (h : mc.Capped n) (hn : env.knobs.reconnectAttempts = some n) : (mc.handleConnecting env e).CapInv n := by
  have stay : mc.CapInv n := capInv_of_state h (by simp [hs]) (by simp [hs])
  cases e <;> simp only [handleConnecting]
  case wireUpgradeOk => cases hurl : mc.url <;> exact h.of_eq rfl rfl rfl rfl
  case wireUpgradeFailed | wireConnectError =>
    split
    · unfold connectFailedOrEscalate
      split
      · exact capInv_escalate h
      · rename_i hc
        exact capInv_attemptFailed (by exact h.of_eq rfl rfl rfl rfl) _ _ _ _ (.inr (by exact h.room hn (by simpa using hc)))
    · exact h.of_eq rfl rfl rfl (tallyOf_emitConnectionFailed ..)
  case timerUpgradeTimeout => exact capInv_attemptFailedOrEscalate (by exact h.of_eq rfl rfl rfl rfl) hn ..
  case callClose => exact h.of_eq rfl rfl rfl rfl
  case callForceReconnect rid => exact absurd rfl (he rid)
  all_goals exact stay

theorem capInv_handleAuthenticating (e : FsmEvent) (he : ∀ rid, e ≠ .callForceReconnect rid)
    (hs : mc.state = .authenticating) (h : mc.Capped n) (hn : env.knobs.reconnectAttempts = some n)
    (hmax : n ≤ u32Max) : (mc.handleAuthenticating env e).CapInv n := by
  have stay : mc.CapInv n := capInv_of_state h (by simp [hs]) (by simp [hs])
  cases e
  case wireAuthHandshakeFailed kind =>
    cases kind <;> simp only [handleAuthenticating]
    case tokenStale =>
      split
      · exact capInv_authFailed (capped_exit (by exact h.of_eq rfl rfl rfl rfl)) ..
      · refine capInv_of_state ⟨h.reconnect, ?_, h.bound⟩ (by simp [hs]) (by simp [hs])
        have hc := h.counted
        simp only [satAdd32]
        omega
    case transient => exact capInv_attemptFailedOrEscalate (capped_exit h) hn ..
    all_goals exact capInv_authFailed (capped_exit h) ..
  all_goals simp only [handleAuthenticating]
  case wireCloseReceived => exact capInv_closedDuringHandshake (capped_exit h) hn ..
  case wireAbnormalClose => exact capInv_attemptFailedOrEscalate (capped_exit h) hn ..
  case timerStalenessElapsed => exact capInv_attemptFailedOrEscalate (capped_exit (capped_emitWebsocketStale h)) hn ..
  case busTokenRefreshFailed =>
    split
    · exact capInv_attemptFailedOrEscalate (capped_exit h) hn ..
    · exact capInv_authFailed (capped_exit h) ..
  case timerSubscribeAckTimeout =>
    exact capInv_handleSubscribeFailure h (by simp [hs]) (by simp [hs]) hn ..
  case wireOrderAuthOk => exact capInv_enterOpen h.reconnect
  case callForceReconnect rid => exact absurd rfl (he rid)
  case callClose => exact h.of_eq rfl rfl rfl rfl
  case wireAuthHandshakeOk => exact h.of_eq rfl rfl rfl rfl
  case busTokenRefreshed => exact capInv_of_state (by exact h.of_eq rfl rfl rfl rfl) (by simp [hs]) (by simp [hs])
  all_goals exact stay

theorem capInv_handleResubscribing (e : FsmEvent) (he : ∀ rid, e ≠ .callForceReconnect rid)
    (hs : mc.state = .resubscribing) (h : mc.Capped n) (hn : env.knobs.reconnectAttempts = some n) :
    (mc.handleResubscribing env e).CapInv n := by
  have stay : mc.CapInv n := capInv_of_state h (by simp [hs]) (by simp [hs])
  cases e
  case wireSubscribeAck channel pair last =>
    cases last <;> simp only [handleResubscribing]
    · exact capInv_of_state (by exact h.of_eq rfl rfl rfl rfl) (by simp [hs]) (by simp [hs])
    · exact capInv_enterOpen h.reconnect
  all_goals simp only [handleResubscribing]
  case wireCloseReceived => exact capInv_closedDuringHandshake (capped_exit h) hn ..
  case wireAbnormalClose => exact capInv_attemptFailedOrEscalate (capped_exit h) hn ..
  case timerStalenessElapsed => exact capInv_attemptFailedOrEscalate (capped_exit (capped_emitWebsocketStale h)) hn ..
  case timerSubscribeAckTimeout | wireSubscribeFailed =>
    exact capInv_handleSubscribeFailure h (by simp [hs]) (by simp [hs]) hn ..
  case callForceReconnect rid => exact absurd rfl (he rid)
  case callClose => exact h.of_eq rfl rfl rfl rfl
  case busTokenRefreshed | busTokenRefreshFailed =>
    exact capInv_of_state (by exact h.of_eq rfl rfl rfl rfl) (by simp [hs]) (by simp [hs])
  all_goals exact stay

theorem capInv_handleOpen (e : FsmEvent) (he : ∀ rid, e ≠ .callForceReconnect rid) (hs : mc.state = .opened)
    (h : mc.Capped n) (hn : env.knobs.reconnectAttempts = some n) : (mc.handleOpen env e).CapInv n := by
  have stay : mc.CapInv n := capInv_of_state h (by simp [hs]) (by simp [hs])
  cases e <;> simp only [handleOpen]
  case wireCloseReceived =>
    split
    · exact capInv_failed (capped_exitOpen h _) ..
    · exact capInv_droppedOrEscalate (capped_exitOpen h _) hn ..
  case wireAbnormalClose => exact capInv_droppedOrEscalate (capped_exitOpen h _) hn ..
  case timerStalenessElapsed => exact capInv_droppedOrEscalate (capped_exitOpen (capped_emitWebsocketStale h) _) hn ..
  case timerSubscribeAckTimeout | wireSubscribeFailed =>
    exact capInv_handleSubscribeFailure h (by simp [hs]) (by simp [hs]) hn ..
  case callForceReconnect rid => exact absurd rfl (he rid)
  case callClose => exact h.of_eq rfl rfl rfl (by simp)
  case wireSubscribeAck | busTokenRefreshed | busTokenRefreshFailed | wireOrderAckTokenStale =>
    exact capInv_of_state (by exact h.of_eq rfl rfl rfl rfl) (by simp [hs]) (by simp [hs])
  all_goals exact stay

theorem capInv_handleBackingOff (e : FsmEvent) (he : ∀ rid, e ≠ .callForceReconnect rid) (hs : mc.state = .backingOff)
    (h : mc.Capped n) (hroom : (tallyOf mc.bus).connects + 1 ≤ mc.connectBound n) (hmax : n ≤ u32Max) :
    (mc.handleBackingOff env e).CapInv n := by
  have stay : mc.CapInv n := by
    unfold CapInv
    rw [hs]
    exact ⟨h, hroom⟩
  have hcount : n ≤ satAdd32 mc.attemptCount 1 ∨ (tallyOf mc.bus).connects + 1 ≤ satAdd32 mc.attemptCount 1 := by
    have hc := h.counted
    unfold satAdd32
    omega
  cases e <;> simp only [handleBackingOff]
  case timerBackoffElapsed | timerRateBudgetWindowAdvanced =>
    cases env.tryConsume
    · unfold CapInv
      simp only [emitRateThrottled, emitLifecycle, hs]
      exact ⟨h.of_eq rfl rfl rfl (by simp), by simpa [connectBound] using hroom⟩
    · exact capInv_enterConnecting (by exact rfl) (by exact h.reconnect) (by exact hcount) (by exact hroom) _
  case callForceReconnect rid => exact absurd rfl (he rid)
  case callClose => exact h.of_eq rfl rfl rfl (by simp)
  all_goals exact stay

theorem capInv_handleClosing (e : FsmEvent) (he : ∀ rid, e ≠ .callForceReconnect rid) (hs : mc.state = .closing)
    (h : mc.Capped n) : (mc.handleClosing env e).CapInv n := by
  have stay : mc.CapInv n := capInv_of_state h (by simp [hs]) (by simp [hs])
  cases e <;> simp only [handleClosing]
  case wireCloseReceived | wireAbnormalClose | timerCloseTimeout => exact capInv_enterClosedOrReconnect h ..
  case callClose =>
    cases mc.pendingCloseRequestId <;>
      exact capInv_of_state (by exact h.of_eq rfl rfl rfl rfl) (by simp [hs]) (by simp [hs])
  case callForceReconnect rid => exact absurd rfl (he rid)
  all_goals exact stay

theorem capInv_handleFailed (e : FsmEvent) (he : ∀ rid, e ≠ .callForceReconnect rid) (hs : mc.state = .failed)
    (h : mc.Capped n) : (mc.handleFailed env e).CapInv n := by
  have stay : mc.CapInv n := capInv_of_state h (by simp [hs]) (by simp [hs])
  cases e <;> simp only [handleFailed]
  case callForceReconnect rid => exact absurd rfl (he rid)
  case callClose => exact h.of_eq rfl rfl rfl (by simp)
  all_goals exact stay

end invariant

/-! ## Every step -/

section step

variable {n : Nat} {mc : ManagedConnection}

/-- The labels of a run under the cap `n` in which no `force_reconnect()` is called. -/
def CapLabel (n : Nat) (l : Label) : Prop :=
  l.env.knobs.reconnectAttempts = some n ∧ ∀ rid, l.act ≠ .event (.callForceReconnect rid)

theorem capped_pop (e : FsmEvent) (h : mc.Capped n) : (mc.popTimerForEvent e).Capped n := by
  cases e <;> exact h.of_eq rfl rfl rfl rfl

theorem capInv_deliver (env : Env) (e : FsmEvent) (hmax : n ≤ u32Max) (hn : env.knobs.reconnectAttempts = some n)
    (he : ∀ rid, e ≠ .callForceReconnect rid) (h : mc.CapInv n) : (mc.deliver env e).CapInv n := by
  have hs' : (mc.popTimerForEvent e).state = mc.state := popTimerForEvent_state mc e
  apply deliver_cases <;> intro hs <;> simp only [CapInv, hs] at h <;> rw [hs] at hs'
  case idle =>
    obtain ⟨hr, ha, ht, ho⟩ := h
    apply capInv_handleIdle e he hs' <;> cases e <;> assumption
  case connecting => exact capInv_handleConnecting e he hs' (capped_pop e h) hn
  case authenticating => exact capInv_handleAuthenticating e he hs' (capped_pop e h) hn hmax
  case resubscribing => exact capInv_handleResubscribing e he hs' (capped_pop e h) hn
  case opened => exact capInv_handleOpen e he hs' (capped_pop e h) hn
  case backingOff =>
    refine capInv_handleBackingOff e he hs' (capped_pop e h.1) ?_ hmax
    cases e <;> exact h.2
  case closing => exact capInv_handleClosing e he hs' (capped_pop e h)
  case closed => exact capInv_of_state (capped_pop e h) (by rw [hs']; decide) (by rw [hs']; decide)
  case failed => exact capInv_handleFailed e he hs' (capped_pop e h)

theorem CapInv.of_eq {m : ManagedConnection} (h : mc.CapInv n) (hs : m.state = mc.state)
    (hr : m.pendingReconnectRequestId = mc.pendingReconnectRequestId) (ha : m.attemptCount = mc.attemptCount)
    (ho : m.hasBeenOpen = mc.hasBeenOpen) (ht : tallyOf m.bus = tallyOf mc.bus) : m.CapInv n := by
  have hb : m.connectBound n = mc.connectBound n := by simp [connectBound, ho, ht]
  unfold CapInv at h ⊢
  rw [hs]
  cases hst : mc.state <;> simp only [hst] at h ⊢
  case idle =>
    rw [hr, ha, ht, ho]
    exact h
  case backingOff =>
    rw [ht, hb]
    exact ⟨h.1.of_eq hr ha ho ht, h.2⟩
  all_goals exact h.of_eq hr ha ho ht

theorem capInv_applyUpdate (env : Env) (u : Update) (h : mc.CapInv n) : (mc.applyUpdate env u).CapInv n := by
  cases u <;> simp only [applyUpdate]
  case completeResubscribeIfEmpty => exact capInv_completeResubscribeIfEmpty h
  case deferOpenAuthSubscribe =>
    unfold deferOpenAuthSubscribe
    split <;> exact h.of_eq rfl rfl rfl rfl rfl
  all_goals exact h.of_eq rfl rfl rfl rfl rfl

theorem capInv_applyRequest (env : Env) (r : RequestUpdate) (h : mc.CapInv n) : (mc.applyRequest env r).CapInv n := by
  cases r <;> simp only [applyRequest]
  case recordPendingRequest p => exact h.of_eq rfl rfl rfl rfl rfl
  case resolvePendingRequest resp =>
    refine h.of_eq rfl rfl rfl rfl ?_
    simp only [resolvePendingRequest, PendingRequestMap.resolve, tallyOf_append]
    split <;> rfl
  case failPendingRequest reqId err =>
    refine h.of_eq rfl rfl rfl rfl ?_
    simp only [failPendingRequest, PendingRequestMap.failOne, tallyOf_append]
    split <;> rfl
  case drainOneRetryable reqId =>
    refine h.of_eq rfl rfl rfl rfl ?_
    simp only [drainOneRetryable, PendingRequestMap.drainOneRetryable, tallyOf_append]
    split <;> rfl

theorem capInv_step (l : Label) (hmax : n ≤ u32Max) (hl : CapLabel n l) (h : mc.CapInv n) : (mc.step l).CapInv n := by
  apply step_keeps
  · exact fun u => capInv_applyUpdate l.env u h
  · exact fun r => capInv_applyRequest l.env r h
  · intro e he
    refine capInv_deliver l.env e hmax hl.1 (fun rid hr => hl.2 rid ?_) h
    rw [he, hr]

theorem capInv_new (url : WsUrl) (knobs : Knobs) : (new url knobs).CapInv n := ⟨rfl, rfl, rfl, rfl⟩

end step

/-! ## Every run -/

theorem capInv_run (n : Nat) (hmax : n ≤ u32Max) (url : WsUrl) (knobs : Knobs) (ls : List Label)
    (hls : ∀ l ∈ ls, CapLabel n l) : (run url knobs ls).CapInv n := by
  have hrun : AllowedRun (fun _ l => CapLabel n l) url knobs ls := StepSystem.allowed_of_forall hls _
  exact allowedRun_invariant hrun (capInv_new url knobs) fun _ l h hl => capInv_step l hmax hl h

theorem connects_le_bound {n : Nat} {mc : ManagedConnection} (h : mc.CapInv n) :
    (tallyOf mc.bus).connects ≤ mc.connectBound n := by
  unfold CapInv at h
  split at h
  · simp [h.2.2.1]
  · exact h.1.bound
  · exact h.bound

/-- **The cap on every run** with no `force_reconnect()`: any failure but the pre-`Open` exhaustion of
a subscribe-ack budget backs off below the cap only and fails at it, the exhaustion always backs off,
and the connect attempts since the last visit to `Open` are `n` and one for each exhaustion at most. -/
theorem reconnectCap_honoured (n : Nat) (hmax : n ≤ u32Max) (url : WsUrl) (knobs : Knobs) (ls : List Label)
    (hls : ∀ l ∈ ls, CapLabel n l) :
    (∀ env e, env.knobs.reconnectAttempts = some n → (run url knobs ls).Attempting →
      ((run url knobs ls).deliver env e).state =
        if (run url knobs ls).PreOpenExhaustion env e then .backingOff
        else capState n (run url knobs ls).attemptCount ((run url knobs ls).deliver (uncapped env) e).state) ∧
      (tallyOf (run url knobs ls).bus).connects ≤
        allowance n (run url knobs ls).hasBeenOpen + (tallyOf (run url knobs ls).bus).exhaustions := by
  refine ⟨fun env e hn ha => ?_, connects_le_bound (capInv_run n hmax url knobs ls hls)⟩
  split
  · exact deliver_state_exhausted ‹_›
  · exact deliver_state_capped hn ha ‹_›

/-! ## A run that passes its cap -/

/-- The environment of the run below at time `now`: a cap of one attempt, one subscribe try. -/
def capEnv (now : MonotonicInstant) : Env where
  now := now
  knobs := { stalenessWindowMs := 30000, upgradeTimeout := fromMillis 10000, closeTimeout := fromMillis 5000
             reconnectAttempts := some 1, maxAuthHandshakeFailures := 3, subscribeAckAttempts := 1
             subscribeAckTimeoutMs := 5000 }
  tryConsume := .ok ()
  windowSeconds := 600
  nextBackoff := fun _ => fromMillis 500
  openSocket := now

/-- The first attempt reaches its handshake; a `status` subscribe is sent. -/
def unackedRun : List Label :=
  [ ⟨capEnv 0, .event (.callStartConnect 1)⟩,
    ⟨capEnv 1, .event (.wireUpgradeOk none)⟩,
    ⟨capEnv 2, .update (.armSubscribeAck (.status, none) (fromMillis 5000))⟩ ]

theorem capLabel_unackedRun : ∀ l ∈ unackedRun, CapLabel 1 l := by
  intro l hl
  simp only [unackedRun, List.mem_cons, List.not_mem_nil, or_false] at hl
  rcases hl with rfl | rfl | rfl <;> exact ⟨rfl, nofun⟩

theorem reconnectCap_honoured_unackedRun :
    ((run .publicUrl (capEnv 0).knobs unackedRun).deliver (capEnv 9) (.wireAbnormalClose ⟨.socketReset, true⟩)).state
      = .failed := by
  rw [((reconnectCap_honoured 1 (by decide) .publicUrl (capEnv 0).knobs unackedRun capLabel_unackedRun).1 (capEnv 9)
    (.wireAbnormalClose ⟨.socketReset, true⟩) rfl (.inr (.inr (.inl rfl))))]
  rfl

/-- The subscribe is never acknowledged: its budget ends, and the connection backs off at its cap. -/
theorem subscribeExhaustion_ignores_cap :
    ¬ ∀ (n : Nat) (_ : n ≤ u32Max) (url : WsUrl) (knobs : Knobs) (ls : List Label) (_ : ∀ l ∈ ls, CapLabel n l) (env : Env)
        (e : FsmEvent), env.knobs.reconnectAttempts = some n → (run url knobs ls).Attempting →
      ((run url knobs ls).deliver env e).state = .backingOff → (run url knobs ls).attemptCount < n := by
  intro h
  have hlt := h 1 (by decide) .publicUrl (capEnv 0).knobs unackedRun capLabel_unackedRun (capEnv (fromMillis 5000))
    (.timerSubscribeAckTimeout .status none) rfl (.inr (.inr (.inl rfl))) (by decide)
  exact absurd hlt (by decide)

end KrakenSdk.Conn.ManagedConnection
