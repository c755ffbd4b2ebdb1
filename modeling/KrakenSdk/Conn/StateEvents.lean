import KrakenSdk.Conn.Runs
/-!
# What a connection tells of its state (managed_connection/mod.rs:645-771, handle_event.rs)

A connection announces three of its states: `Open` by `ConnectionOpenEvent` the first time and
`ConnectionReopenedEvent` from then on, `Failed` by `ConnectionFailedEvent`, `Closed` by one
`ConnectionClosedEvent` per `close()` waiter. `Turn` is what one step publishes of this kind, and
`turn_step` that every step takes one. That `Closed` never comes without an event rests on
`Latched`: a connection in `Closing` holds a waiter for its end.
-/
namespace KrakenSdk.Conn

/-- The events that announce a state. -/
inductive StateNews where
  | opened | reopened | failed | closed
  deriving DecidableEq, Repr

/-- The connection an event is about and the state it announces. -/
def EventPayload.news : EventPayload → Option (WsUrl × StateNews)
  | .connectionOpenEvent url .. => some (url, .opened)
  | .connectionReopenedEvent url .. => some (url, .reopened)
  | .connectionFailedEvent url .. => some (url, .failed)
  | .connectionClosedEvent url .. => some (url, .closed)
  | _ => none

def Effect.news : Effect → Option (WsUrl × StateNews)
  | .publish e => e.payload.news
  | _ => none

namespace ManagedConnection

/-- The event `enter_open` publishes. -/
def openNews (mc : ManagedConnection) : StateNews := if mc.hasBeenOpen then .reopened else .opened

/-- On the way: neither announced nor waiting for the end of a close. -/
def Underway : ConnectionState → Prop
  | .connecting | .authenticating | .resubscribing | .backingOff => True
  | _ => False

/-- What `Closing` waits for is somebody's. -/
def Latched (mc : ManagedConnection) : Prop :=
  mc.state = .closing → mc.pendingCloseRequestId ≠ none ∨ mc.pendingReconnectRequestId ≠ none

/-! ## What is published -/

/-- From `mc` to `m` exactly `ns` was announced. -/
def Tells (ns : List (WsUrl × StateNews)) (mc m : ManagedConnection) : Prop :=
  m.url = mc.url ∧ m.hasBeenOpen = mc.hasBeenOpen ∧ ∃ new, m.bus = mc.bus ++ new ∧ new.filterMap Effect.news = ns

section tells

variable {mc m m' : ManagedConnection} {env : Env} {ns ns' : List (WsUrl × StateNews)}

theorem Tells.of_eq (hu : m.url = mc.url) (ho : m.hasBeenOpen = mc.hasBeenOpen) (hb : m.bus = mc.bus) : Tells [] mc m :=
  ⟨hu, ho, [], by simp [hb], rfl⟩

theorem Tells.append (h : Tells ns mc m) (h' : Tells ns' m m') : Tells (ns ++ ns') mc m' := by
  obtain ⟨hu, ho, new, hb, hn⟩ := h
  obtain ⟨hu', ho', new', hb', hn'⟩ := h'
  exact ⟨hu'.trans hu, ho'.trans ho, new ++ new', by simp [hb', hb], by simp [hn, hn']⟩

/-- What is silent may precede. -/
theorem Tells.after (h : Tells [] mc m) (h' : Tells ns m m') : Tells ns mc m' := h.append h'

theorem tells_emitLifecycle (payload : EventPayload) (rid : Option Nat) :
    Tells payload.news.toList mc (mc.emitLifecycle env payload rid) := by
  refine ⟨rfl, rfl, [lifecycle env rid payload], rfl, ?_⟩
  show List.filterMap Effect.news [lifecycle env rid payload] = payload.news.toList
  cases h : payload.news <;> simp [lifecycle, Effect.news, h]

theorem tells_emitWebsocketStale : Tells [] mc (mc.emitWebsocketStale env) := tells_emitLifecycle _ _

theorem tells_drainPending (cause : DrainCause) : Tells [] mc (mc.drainPending env cause) :=
  ⟨rfl, rfl, _, rfl, PendingRequestMap.filterMap_drain (fun _ _ => rfl) (fun _ _ => rfl) _ _⟩

theorem tells_closeSocket : Tells [] mc mc.closeSocket := by
  refine ⟨rfl, rfl, mc.socket.toList.map (.closeSocket · 1000), rfl, ?_⟩
  cases mc.socket <;> rfl

/-- One event for each waiter announces the same news as often. -/
theorem filterMap_waiters {event : Option Nat → Effect} {n : WsUrl × StateNews} (h : ∀ rid, (event rid).news = some n)
    (rids : List Nat) : (rids.map (event <| some ·)).filterMap Effect.news = List.replicate rids.length n := by
  induction rids with
  | nil => rfl
  | cons rid rids ih => simp [h, ih, List.replicate_succ]

theorem tells_emitConnectionFailed (mc : ManagedConnection) (env : Env) (lastError : String) (transient : Bool) (cls : Option NonTransientClass) :
    ∃ n, Tells (List.replicate (n + 1) (mc.url, .failed)) mc (mc.emitConnectionFailed env lastError transient cls) := by
  unfold emitConnectionFailed
  dsimp only
  split_ifs with hw
  · exact ⟨0, rfl, rfl, _, rfl, rfl⟩
  · obtain ⟨rid, rids, hr⟩ := List.exists_cons_of_ne_nil hw
    refine ⟨rids.length, rfl, rfl, _, rfl, ?_⟩
    have hevent : ∀ w : Option Nat, (lifecycle env w (.connectionFailedEvent mc.url mc.attemptCount lastError transient
        cls)).news = some (mc.url, .failed) := fun _ => rfl
    rw [filterMap_waiters hevent, hr]
    rfl

end tells

/-! ## One step -/

/-- What a step does to the state, and what it tells of it. -/
inductive Turn (mc m : ManagedConnection) : Prop
  | same (h : Tells [] mc m) (hs : m.state = mc.state) (hc : m.pendingCloseRequestId = mc.pendingCloseRequestId)
      (hr : m.pendingReconnectRequestId = mc.pendingReconnectRequestId)
  | moves (h : Tells [] mc m) (hs : Underway m.state)
  | latches (h : Tells [] mc m) (hs : m.state = .closing)
      (hl : m.pendingCloseRequestId ≠ none ∨ m.pendingReconnectRequestId ≠ none)
  | opens (n : Nat) (hu : m.url = mc.url) (hb : ∃ new, m.bus = mc.bus ++ new ∧
      new.filterMap Effect.news = List.replicate (n + 1) (mc.url, mc.openNews)) (hs : m.state = .opened)
  | fails (n : Nat) (h : Tells (List.replicate (n + 1) (mc.url, .failed)) mc m) (hs : m.state = .failed)
  | closes (n : Nat) (h : Tells (List.replicate (n + 1) (mc.url, .closed)) mc m) (hs : m.state = .closed)
  | reconnects (n : Nat) (h : Tells (List.replicate n (mc.url, .closed)) mc m) (hc : mc.state = .closing)
      (hs : Underway m.state)

section turn

variable {mc m m' : ManagedConnection} {env : Env}

theorem turn_enterOpen (h : Tells [] mc m) : Turn mc (m.enterOpen env) := by
  obtain ⟨hu, ho, new, hb, hn⟩ := h
  have hevent : ∀ rid, (m.openOrReopened env m.hasBeenOpen m.attemptCount rid).news = some (mc.url, mc.openNews) := by
    intro rid
    rw [openOrReopened, openNews, ho, ← hu]
    cases mc.hasBeenOpen <;> rfl
  refine .opens m.additionalConnectRequestIds.length hu ⟨new ++ (m.openOrReopened env m.hasBeenOpen m.attemptCount
    m.pendingConnectRequestId :: m.additionalConnectRequestIds.map fun rid =>
      m.openOrReopened env m.hasBeenOpen m.attemptCount (some rid)), ?_, ?_⟩ rfl
  · show m.bus ++ _ = _
    rw [hb, List.append_assoc]
  · rw [List.filterMap_append, hn, List.nil_append, List.filterMap_cons_some (hevent _), filterMap_waiters hevent]
    rfl

theorem turn_completeResubscribeIfEmpty (h : Tells [] mc m) (hs : m.state = mc.state)
    (hc : m.pendingCloseRequestId = mc.pendingCloseRequestId)
    (hr : m.pendingReconnectRequestId = mc.pendingReconnectRequestId) : Turn mc (m.completeResubscribeIfEmpty env) := by
  unfold completeResubscribeIfEmpty
  split
  · exact turn_enterOpen h
  · exact .same h hs hc hr

theorem turn_emitConnectionFailed (h : Tells [] mc m) (hs : m.state = .failed) (lastError : String) (transient : Bool)
    (cls : Option NonTransientClass) : Turn mc (m.emitConnectionFailed env lastError transient cls) := by
  obtain ⟨n, hn⟩ := tells_emitConnectionFailed m env lastError transient cls
  rw [h.1] at hn
  exact .fails n (h.after hn) hs

theorem turn_escalate (h : Tells [] mc m) : Turn mc (m.escalate env) := by
  unfold escalate
  exact turn_emitConnectionFailed (h.after (by exact .of_eq rfl rfl rfl)) (by rfl) _ _ _

theorem turn_attemptFailed (h : Tells [] mc m) (cls : TransientClass) (krakenError : Option String)
    (httpStatus closeCode : Option Nat) : Turn mc (m.attemptFailed env cls krakenError httpStatus closeCode) :=
  .moves (h.after (.after (.of_eq rfl rfl rfl) (tells_emitLifecycle _ _))) trivial

theorem turn_attemptFailedOrEscalate (h : Tells [] mc m) (cls : TransientClass) (krakenError : Option String)
    (httpStatus closeCode : Option Nat) :
    Turn mc (m.attemptFailedOrEscalate env cls krakenError httpStatus closeCode) := by
  unfold attemptFailedOrEscalate
  split
  · exact turn_escalate h
  · exact turn_attemptFailed h ..

theorem turn_droppedOrEscalate (h : Tells [] mc m) (closeCode : Option Nat) (reason : Option String) :
    Turn mc (m.droppedOrEscalate env closeCode reason) := by
  unfold droppedOrEscalate
  split
  · exact turn_escalate h
  · exact .moves (h.after (.after (.of_eq rfl rfl rfl) (tells_emitLifecycle _ _))) trivial

theorem turn_closedDuringHandshake (h : Tells [] mc m) (code : Nat) (reason : Option String) (phase : String) :
    Turn mc (m.closedDuringHandshake env code reason phase) := by
  unfold closedDuringHandshake
  split
  · exact turn_emitConnectionFailed (h.after (by exact .of_eq rfl rfl rfl)) (by rfl) _ _ _
  · exact turn_attemptFailedOrEscalate h ..

theorem turn_emitAuthenticationFailed (h : Tells [] mc m) (hs : m.state = .failed) (lastError : String)
    (cls : NonTransientClass) (krakenResponse : Option String) :
    Turn mc (m.emitAuthenticationFailed env lastError cls krakenResponse) := by
  obtain ⟨n, hn⟩ := tells_emitConnectionFailed m env lastError false (some cls)
  have hauth : Tells [] (m.emitConnectionFailed env lastError false (some cls))
      (m.emitAuthenticationFailed env lastError cls krakenResponse) := tells_emitLifecycle _ _
  have hall := (h.after hn).append hauth
  rw [List.append_nil, h.1] at hall
  exact .fails n hall hs

theorem turn_enterConnecting (h : Tells [] mc m) (hs : m.state = .connecting) (rid : Option Nat) :
    Turn mc (m.enterConnecting env rid) := by
  refine .moves (h.after (.after (.of_eq rfl rfl rfl) (tells_emitLifecycle _ _))) ?_
  show Underway m.state
  rw [hs]
  trivial

theorem turn_emitRateThrottled (h : Tells [] mc m) (hs : m.state = .backingOff) (rid : Option Nat)
    (t : ConnectionRateThrottled) : Turn mc (m.emitRateThrottled env rid t) := by
  refine .moves (h.after (tells_emitLifecycle _ _)) ?_
  show Underway m.state
  rw [hs]
  trivial

theorem tells_exitHandshake : Tells [] mc (mc.exitResubscribingTeardown env) :=
  .after (.of_eq rfl rfl rfl) (tells_drainPending _)

theorem tells_exitOpen (cause : DrainCause) : Tells [] mc ((mc.exitOpenTeardown env cause).clearSubscribeAckState) :=
  .append (tells_drainPending cause) (.of_eq rfl rfl rfl)

theorem turn_handleSubscribeFailure (key : EntryKey) (transient : Bool) (lastError : Option String) :
    Turn mc (mc.handleSubscribeFailure env key transient lastError) := by
  unfold handleSubscribeFailure
  dsimp only
  split
  · unfold retrySubscribe
    dsimp only
    split_ifs
    · exact .same (.of_eq rfl rfl rfl) rfl rfl rfl
    · exact turn_droppedOrEscalate (.after (by exact .of_eq rfl rfl rfl) tells_exitHandshake) ..
    · exact turn_attemptFailed (.after (by exact .of_eq rfl rfl rfl) tells_exitHandshake) ..
  · unfold terminateEntry
    exact turn_completeResubscribeIfEmpty ⟨rfl, rfl, _, rfl, rfl⟩ rfl rfl rfl

/-! ### One lemma per source state -/

variable (e : FsmEvent)

theorem turn_handleIdle : Turn mc (mc.handleIdle env e) := by
  cases e <;> simp only [handleIdle]
  case callStartConnect | callForceReconnect =>
    split
    · exact turn_emitRateThrottled (by exact .of_eq rfl rfl rfl) (by rfl) ..
    · exact turn_enterConnecting (by exact .of_eq rfl rfl rfl) (by rfl) _
  case callClose => exact .closes 0 (.after (.of_eq rfl rfl rfl) (tells_emitLifecycle _ _)) rfl
  all_goals exact .same (.of_eq rfl rfl rfl) rfl rfl rfl

theorem turn_handleConnecting : Turn mc (mc.handleConnecting env e) := by
  cases e <;> simp only [handleConnecting]
  case wireUpgradeOk =>
    refine .moves (.of_eq rfl rfl rfl) ?_
    simp only [armStaleness]
    cases mc.url <;> trivial
  case wireUpgradeFailed | wireConnectError =>
    split
    · unfold connectFailedOrEscalate
      split
      · exact turn_escalate (by exact .of_eq rfl rfl rfl)
      · exact turn_attemptFailed (by exact .of_eq rfl rfl rfl) ..
    · exact turn_emitConnectionFailed (by exact .of_eq rfl rfl rfl) (by rfl) _ _ _
  case timerUpgradeTimeout => exact turn_attemptFailedOrEscalate (by exact .of_eq rfl rfl rfl) ..
  case callClose => exact .latches (.of_eq rfl rfl rfl) rfl (.inl (by rintro ⟨⟩))
  case callForceReconnect => split <;> exact .same (.of_eq rfl rfl rfl) rfl rfl rfl
  all_goals exact .same (.of_eq rfl rfl rfl) rfl rfl rfl

theorem turn_handleAuthenticating : Turn mc (mc.handleAuthenticating env e) := by
  cases e
  case wireAuthHandshakeFailed kind =>
    cases kind <;> simp only [handleAuthenticating]
    case tokenStale =>
      split
      · refine turn_emitAuthenticationFailed ?_ (by rfl) ..
        exact .after (.of_eq rfl rfl rfl) (.append tells_exitHandshake (.of_eq rfl rfl rfl))
      · exact .same (.of_eq rfl rfl rfl) rfl rfl rfl
    case transient => exact turn_attemptFailedOrEscalate tells_exitHandshake ..
    all_goals
      exact turn_emitAuthenticationFailed (.append tells_exitHandshake (by exact .of_eq rfl rfl rfl)) (by rfl) ..
  all_goals simp only [handleAuthenticating]
  case wireCloseReceived => exact turn_closedDuringHandshake tells_exitHandshake ..
  case wireAbnormalClose => exact turn_attemptFailedOrEscalate tells_exitHandshake ..
  case timerStalenessElapsed =>
    exact turn_attemptFailedOrEscalate (.after tells_emitWebsocketStale tells_exitHandshake) ..
  case busTokenRefreshFailed =>
    split
    · exact turn_attemptFailedOrEscalate tells_exitHandshake ..
    · exact turn_emitAuthenticationFailed (.append tells_exitHandshake (by exact .of_eq rfl rfl rfl)) (by rfl) ..
  case timerSubscribeAckTimeout => exact turn_handleSubscribeFailure ..
  case wireOrderAuthOk => exact turn_enterOpen (by exact .of_eq rfl rfl rfl)
  case wireAuthHandshakeOk => exact .moves (.of_eq rfl rfl rfl) trivial
  case callClose => exact .latches (.of_eq rfl rfl rfl) rfl (.inl nofun)
  case callForceReconnect => exact .latches (.of_eq rfl rfl rfl) rfl (.inr nofun)
  all_goals exact .same (.of_eq rfl rfl rfl) rfl rfl rfl

theorem turn_handleResubscribing : Turn mc (mc.handleResubscribing env e) := by
  cases e
  case wireSubscribeAck channel pair last =>
    cases last <;> simp only [handleResubscribing]
    · exact .same (.of_eq rfl rfl rfl) rfl rfl rfl
    · exact turn_enterOpen (by exact .of_eq rfl rfl rfl)
  all_goals simp only [handleResubscribing]
  case wireCloseReceived => exact turn_closedDuringHandshake tells_exitHandshake ..
  case wireAbnormalClose => exact turn_attemptFailedOrEscalate tells_exitHandshake ..
  case timerStalenessElapsed =>
    exact turn_attemptFailedOrEscalate (.after tells_emitWebsocketStale tells_exitHandshake) ..
  case timerSubscribeAckTimeout | wireSubscribeFailed => exact turn_handleSubscribeFailure ..
  case callClose => exact .latches (.of_eq rfl rfl rfl) rfl (.inl nofun)
  case callForceReconnect => exact .latches (.after (.of_eq rfl rfl rfl) tells_closeSocket) rfl (.inr nofun)
  all_goals exact .same (.of_eq rfl rfl rfl) rfl rfl rfl

theorem turn_handleOpen : Turn mc (mc.handleOpen env e) := by
  cases e <;> simp only [handleOpen]
  case wireCloseReceived =>
    split
    · exact turn_emitConnectionFailed (.append (tells_exitOpen _) (by exact .of_eq rfl rfl rfl)) (by rfl) _ _ _
    · exact turn_droppedOrEscalate (tells_exitOpen _) ..
  case wireAbnormalClose => exact turn_droppedOrEscalate (tells_exitOpen _) ..
  case timerStalenessElapsed =>
    exact turn_droppedOrEscalate (.after tells_emitWebsocketStale (tells_exitOpen _)) ..
  case timerSubscribeAckTimeout | wireSubscribeFailed => exact turn_handleSubscribeFailure ..
  case callClose =>
    exact .latches (.after (.append (tells_drainPending _) (.of_eq rfl rfl rfl)) tells_closeSocket) rfl (.inl nofun)
  case callForceReconnect =>
    exact .latches (.after (.append (tells_drainPending _) (.of_eq rfl rfl rfl)) tells_closeSocket) rfl (.inr nofun)
  all_goals exact .same (.of_eq rfl rfl rfl) rfl rfl rfl

theorem turn_handleBackingOff (hs : mc.state = .backingOff) : Turn mc (mc.handleBackingOff env e) := by
  cases e <;> simp only [handleBackingOff]
  case timerBackoffElapsed | timerRateBudgetWindowAdvanced =>
    split
    · exact turn_emitRateThrottled (by exact .of_eq rfl rfl rfl) (by exact hs) ..
    · exact turn_enterConnecting (by exact .of_eq rfl rfl rfl) (by rfl) _
  case callForceReconnect =>
    cases env.tryConsume <;> cases hp : mc.pendingConnectRequestId <;> simp only [latchConnect, hp]
    · exact turn_emitRateThrottled (by exact .of_eq rfl rfl rfl) (by exact hs) ..
    · exact turn_emitRateThrottled (by exact .of_eq rfl rfl rfl) (by exact hs) ..
    · exact turn_enterConnecting (by exact .of_eq rfl rfl rfl) (by rfl) _
    · exact turn_enterConnecting (by exact .of_eq rfl rfl rfl) (by rfl) _
  case callClose => exact .closes 0 (.after (.of_eq rfl rfl rfl) (tells_emitLifecycle _ _)) rfl
  all_goals exact .same (.of_eq rfl rfl rfl) rfl rfl rfl

theorem tells_reenterConnecting (mc : ManagedConnection) (env : Env) (rid : Nat) :
    Tells [] mc (mc.reenterConnecting env rid) ∧ Underway (mc.reenterConnecting env rid).state := by
  unfold reenterConnecting
  split
  · exact ⟨.after (by exact .of_eq rfl rfl rfl) (tells_emitLifecycle _ _), trivial⟩
  · exact ⟨.after (by exact .of_eq rfl rfl rfl) (tells_emitLifecycle _ _), trivial⟩

/-- The end of a close is announced to whoever waits for it; without a reconnect somebody does. -/
theorem turn_enterClosedOrReconnect (hs : mc.state = .closing) (hl : mc.Latched) (reason : ClosedReason)
    (ack : AckSource) : Turn mc (mc.enterClosedOrReconnect env reason ack) := by
  have hevent : ∀ w : Option Nat, (lifecycle env w (.connectionClosedEvent mc.url env.now reason ack
      mc.serverConnectionIdText)).news = some (mc.url, .closed) := fun _ => rfl
  have hnews : ∀ (cause : DrainCause) (rids : List Nat), ((mc.pendingRequests.drain cause env.now).2 ++ rids.map fun rid =>
      lifecycle env (some rid) (.connectionClosedEvent mc.url env.now reason ack mc.serverConnectionIdText)).filterMap
        Effect.news = List.replicate rids.length (mc.url, .closed) := by
    intro cause rids
    rw [List.filterMap_append, PendingRequestMap.filterMap_drain (fun _ _ => rfl) (fun _ _ => rfl),
      filterMap_waiters hevent, List.nil_append]
  unfold enterClosedOrReconnect
  dsimp only
  cases hr : mc.pendingReconnectRequestId with
  | none =>
    obtain ⟨rid, hc⟩ := Option.ne_none_iff_exists'.1 ((hl hs).resolve_right fun h => h hr)
    rw [hc]
    exact .closes mc.additionalCloseRequestIds.length
      ⟨rfl, rfl, _, List.append_assoc .., hnews .clientClosed (rid :: mc.additionalCloseRequestIds)⟩ rfl
  | some rid =>
    have hreenter := fun t : ManagedConnection => tells_reenterConnecting t env rid
    refine .reconnects (mc.pendingCloseRequestId.toList ++ mc.additionalCloseRequestIds).length ?_ hs (hreenter _).2
    rw [← List.append_nil (List.replicate _ _)]
    refine .append ?_ (hreenter _).1
    exact ⟨rfl, rfl, _, List.append_assoc .., hnews .requestInFlightWhenDropped _⟩

theorem turn_handleClosing (hs : mc.state = .closing) (hl : mc.Latched) : Turn mc (mc.handleClosing env e) := by
  cases e <;> simp only [handleClosing]
  case wireCloseReceived | wireAbnormalClose | timerCloseTimeout => exact turn_enterClosedOrReconnect hs hl ..
  case callClose =>
    split
    · exact .same (.of_eq rfl rfl rfl) rfl rfl rfl
    · exact .latches (.of_eq rfl rfl rfl) hs (.inl nofun)
  case callForceReconnect =>
    split
    · exact .latches (.of_eq rfl rfl rfl) hs (.inr nofun)
    · exact .same (.of_eq rfl rfl rfl) rfl rfl rfl
  all_goals exact .same (.of_eq rfl rfl rfl) rfl rfl rfl

theorem turn_handleFailed : Turn mc (mc.handleFailed env e) := by
  cases e <;> simp only [handleFailed]
  case callForceReconnect =>
    split
    · exact turn_emitRateThrottled (by exact .of_eq rfl rfl rfl) (by rfl) ..
    · exact turn_enterConnecting (by exact .of_eq rfl rfl rfl) (by rfl) _
  case callClose => exact .closes 0 (.after (.of_eq rfl rfl rfl) (tells_emitLifecycle _ _)) rfl
  all_goals exact .same (.of_eq rfl rfl rfl) rfl rfl rfl

/-- **One call of `handle_event`.** -/
theorem turn_handleEvent (hl : mc.Latched) : Turn mc (mc.handleEvent env e) := by
  unfold handleEvent
  split
  · exact turn_handleIdle e
  · exact turn_handleConnecting e
  · exact turn_handleAuthenticating e
  · exact turn_handleResubscribing e
  · exact turn_handleOpen e
  · exact turn_handleBackingOff e ‹_›
  · exact turn_handleClosing e ‹_› hl
  · exact .same (.of_eq rfl rfl rfl) rfl rfl rfl
  · exact turn_handleFailed e

/-- Popping the timer of an event tells nothing. -/
theorem Turn.ofPopped (h : Turn (mc.popTimerForEvent e) m) : Turn mc m := by
  have hu : (mc.popTimerForEvent e).url = mc.url := by cases e <;> rfl
  have ho : (mc.popTimerForEvent e).hasBeenOpen = mc.hasBeenOpen := by cases e <;> rfl
  have hb : (mc.popTimerForEvent e).bus = mc.bus := by cases e <;> rfl
  have hs : (mc.popTimerForEvent e).state = mc.state := popTimerForEvent_state ..
  have hc : (mc.popTimerForEvent e).pendingCloseRequestId = mc.pendingCloseRequestId := by cases e <;> rfl
  have hr : (mc.popTimerForEvent e).pendingReconnectRequestId = mc.pendingReconnectRequestId := by cases e <;> rfl
  have hn : (mc.popTimerForEvent e).openNews = mc.openNews := by rw [openNews, openNews, ho]
  cases h with
  | same h hs' hc' hr' => exact .same (.after (.of_eq hu ho hb) h) (hs'.trans hs) (hc'.trans hc) (hr'.trans hr)
  | moves h hs' => exact .moves (.after (.of_eq hu ho hb) h) hs'
  | latches h hs' hl => exact .latches (.after (.of_eq hu ho hb) h) hs' hl
  | opens n hu' hb' hs' =>
    rw [hb, hu, hn] at hb'
    exact .opens n (hu'.trans hu) hb' hs'
  | fails n h hs' =>
    rw [hu] at h
    exact .fails n (.after (.of_eq hu ho hb) h) hs'
  | closes n h hs' =>
    rw [hu] at h
    exact .closes n (.after (.of_eq hu ho hb) h) hs'
  | reconnects n h hc' hs' =>
    rw [hu] at h
    exact .reconnects n (.after (.of_eq hu ho hb) h) (hs ▸ hc') hs'

end turn

/-! ## Every step -/

variable {mc m : ManagedConnection}

theorem turn_applyUpdate (env : Env) (u : Update) : Turn mc (mc.applyUpdate env u) := by
  cases u
  case completeResubscribeIfEmpty => exact turn_completeResubscribeIfEmpty (.of_eq rfl rfl rfl) rfl rfl rfl
  case deferOpenAuthSubscribe key params =>
    show Turn mc (mc.deferOpenAuthSubscribe key params)
    unfold deferOpenAuthSubscribe
    split <;> exact .same (.of_eq rfl rfl rfl) rfl rfl rfl
  all_goals exact .same (.of_eq rfl rfl rfl) rfl rfl rfl

/-- Settling a request tells nothing of the state. -/
theorem turn_applyRequest (env : Env) (r : RequestUpdate) : Turn mc (mc.applyRequest env r) := by
  cases r with
  | recordPendingRequest p => exact .same (.of_eq rfl rfl rfl) rfl rfl rfl
  | resolvePendingRequest resp =>
    refine .same ⟨rfl, rfl, _, rfl, ?_⟩ rfl rfl rfl
    unfold PendingRequestMap.resolve
    split <;> rfl
  | failPendingRequest reqId err =>
    refine .same ⟨rfl, rfl, _, rfl, ?_⟩ rfl rfl rfl
    unfold PendingRequestMap.failOne
    split <;> rfl
  | drainOneRetryable reqId =>
    refine .same ⟨rfl, rfl, _, rfl, ?_⟩ rfl rfl rfl
    unfold PendingRequestMap.drainOneRetryable
    split <;> rfl

/-- **One step of a connection.** -/
theorem turn_step (hl : mc.Latched) (l : Label) : Turn mc (mc.step l) := by
  refine step_keeps l (turn_applyUpdate l.env) (turn_applyRequest l.env) fun e _ => ?_
  have hl' : (mc.popTimerForEvent e).Latched := by
    intro hs
    rw [popTimerForEvent_state] at hs
    cases e <;> exact hl hs
  exact Turn.ofPopped e (turn_handleEvent e hl')

theorem latched_new (url : WsUrl) (knobs : Knobs) : (new url knobs).Latched := nofun

theorem Turn.latched (h : Turn mc m) (hl : mc.Latched) : m.Latched := by
  intro hm
  cases h with
  | same h hs hc hr =>
    rw [hc, hr]
    exact hl (hs ▸ hm)
  | latches h hs hl' => exact hl'
  | moves h hs | reconnects n h hc hs =>
    rw [hm] at hs
    exact hs.elim
  | opens n hu hb hs | fails n h hs | closes n h hs =>
    rw [hs] at hm
    cases hm

/-! ## The news of a step -/

/-- What was announced from `mc` to `m`. -/
def newsSince (mc m : ManagedConnection) : List (WsUrl × StateNews) :=
  (m.bus.drop mc.bus.length).filterMap Effect.news

theorem newsSince_eq {new : List Effect} (hb : m.bus = mc.bus ++ new) : newsSince mc m = new.filterMap Effect.news := by
  rw [newsSince, hb, List.drop_left]

theorem Tells.newsSince {ns : List (WsUrl × StateNews)} (h : Tells ns mc m) : newsSince mc m = ns := by
  obtain ⟨-, -, new, hb, hn⟩ := h
  rw [newsSince_eq hb, hn]

/-- A step into one of the announced states announces it. -/
theorem Turn.announces (h : Turn mc m) :
    (m.state = .opened → mc.state = .opened ∨ (mc.url, mc.openNews) ∈ newsSince mc m) ∧
    (m.state = .failed → mc.state = .failed ∨ (mc.url, .failed) ∈ newsSince mc m) ∧
    (m.state = .closed → mc.state = .closed ∨ (mc.url, .closed) ∈ newsSince mc m) := by
  cases h with
  | same h hs hc hr => rw [hs]; exact ⟨.inl, .inl, .inl⟩
  | moves h hs | reconnects n h hc hs =>
    refine ⟨fun hm => ?_, fun hm => ?_, fun hm => ?_⟩ <;> rw [hm] at hs <;> exact hs.elim
  | latches h hs hl => rw [hs]; exact ⟨nofun, nofun, nofun⟩
  | opens n hu hb hs =>
    obtain ⟨new, hb, hn⟩ := hb
    rw [hs, newsSince_eq hb, hn]
    exact ⟨fun _ => .inr (by simp), nofun, nofun⟩
  | fails n h hs =>
    rw [hs, h.newsSince]
    exact ⟨nofun, fun _ => .inr (by simp), nofun⟩
  | closes n h hs =>
    rw [hs, h.newsSince]
    exact ⟨nofun, nofun, fun _ => .inr (by simp)⟩

/-- The state a piece of news stands for, after the step that tells it. -/
def StandsFor (mc m : ManagedConnection) : StateNews → Prop
  | .opened | .reopened => m.state = .opened
  | .failed => m.state = .failed
  | .closed => m.state = .closed ∨ mc.state = .closing

/-- What a step announces is about this connection, and so. -/
theorem Turn.truthful (h : Turn mc m) {n : WsUrl × StateNews} (hn : n ∈ newsSince mc m) :
    n.1 = mc.url ∧ StandsFor mc m n.2 := by
  cases h with
  | same h hs hc hr =>
    rw [h.newsSince] at hn
    cases hn
  | moves h hs | latches h hs hl =>
    rw [h.newsSince] at hn
    cases hn
  | opens k hu hb hs =>
    obtain ⟨new, hb, hnew⟩ := hb
    rw [newsSince_eq hb, hnew] at hn
    obtain rfl := List.eq_of_mem_replicate hn
    refine ⟨rfl, ?_⟩
    show StandsFor mc m mc.openNews
    unfold openNews
    split <;> exact hs
  | fails k h hs =>
    rw [h.newsSince] at hn
    obtain rfl := List.eq_of_mem_replicate hn
    exact ⟨rfl, hs⟩
  | closes k h hs =>
    rw [h.newsSince] at hn
    obtain rfl := List.eq_of_mem_replicate hn
    exact ⟨rfl, .inl hs⟩
  | reconnects k h hc hs =>
    rw [h.newsSince] at hn
    obtain rfl := List.eq_of_mem_replicate hn
    exact ⟨rfl, .inr hc⟩

theorem Turn.url (h : Turn mc m) : m.url = mc.url := by
  cases h with
  | same h | moves h | latches h | fails _ h | closes _ h | reconnects _ h => exact h.1
  | opens n hu hb hs => exact hu

end ManagedConnection

end KrakenSdk.Conn
