import KrakenSdk.Conn.WsRequests
/-!
# No in-flight request outlives its session

A request is recorded in `Open`, or in `Authenticating` when it is the auth probe, and it may stay
pending in the four states of a session (`InSession`). `handle_event` does one of two things to the
pending map (`Transition`): it leaves it alone, and then it neither leaves a session nor publishes
the event of a session's end from within one; or it drains it, and then the drain comes before
every such event.

* `drained_before_end`: what the second means for the effects of a transition that ends a session.
* `inFlight_accounted`: in every run of the auth connection, the pending map is empty outside a
  session, and every submitted request is pending and unanswered or has been answered exactly once.
-/
namespace KrakenSdk.Conn

/-- The id whose future an effect resolves. -/
def Effect.resolvedId : Effect → Option Nat
  | .resolve reqId _ => some reqId
  | _ => none

/-- The events that report the end of a session or of an attempt. -/
def Effect.endsSession : Effect → Bool
  | .publish { payload := .connectionDroppedEvent .., .. } => true
  | .publish { payload := .connectionAttemptFailedEvent .., .. } => true
  | .publish { payload := .connectionFailedEvent .., .. } => true
  | .publish { payload := .connectionClosedEvent .., .. } => true
  | _ => false

/-- The states that may hold a pending request. -/
def InSession : ConnectionState → Prop
  | .authenticating | .resubscribing | .opened | .closing => True
  | _ => False

namespace ManagedConnection

open StepSystem

/-! ## Transitions that leave the pending requests alone -/

/-- From `mc` to `m` no request was resolved, and every effect satisfies `p`. -/
def Emits (p : Effect → Prop) (mc m : ManagedConnection) : Prop :=
  m.pendingRequests = mc.pendingRequests ∧
    ∃ new, m.bus = mc.bus ++ new ∧ ∀ x ∈ new, x.resolvedId = none ∧ p x

/-- Any effect. -/
def anyEffect (_ : Effect) : Prop := True

/-- An effect that does not end a session. -/
def keepsSession (x : Effect) : Prop := x.endsSession = false

section emits

variable {p q : Effect → Prop} {mc m m' : ManagedConnection} {env : Env}

theorem Emits.of_eq (hp : m.pendingRequests = mc.pendingRequests) (hb : m.bus = mc.bus) : Emits p mc m :=
  ⟨hp, [], by simp [hb], by simp⟩

theorem Emits.trans (h : Emits p mc m) (h' : Emits p m m') : Emits p mc m' := by
  obtain ⟨hp, xs, hb, hx⟩ := h
  obtain ⟨hp', ys, hb', hy⟩ := h'
  refine ⟨hp'.trans hp, xs ++ ys, by simp [hb', hb], fun x hm => ?_⟩
  rcases List.mem_append.1 hm with hm | hm
  · exact hx x hm
  · exact hy x hm

theorem Emits.weaken (h : Emits p mc m) : Emits anyEffect mc m := by
  obtain ⟨hp, xs, hb, hx⟩ := h
  exact ⟨hp, xs, hb, fun x hm => ⟨(hx x hm).1, trivial⟩⟩

/-- Appending to the bus alone. -/
theorem emits_append {new : List Effect} (hp : m.pendingRequests = mc.pendingRequests) (hb : m.bus = mc.bus ++ new)
    (hx : ∀ x ∈ new, x.resolvedId = none ∧ p x) : Emits p mc m := ⟨hp, new, hb, hx⟩

theorem emits_emitLifecycle (payload : EventPayload) (rid : Option Nat) (h : p (lifecycle env rid payload)) :
    Emits p mc (mc.emitLifecycle env payload rid) := by
  refine emits_append rfl rfl fun x hm => ?_
  obtain rfl := List.mem_singleton.1 hm
  exact ⟨rfl, h⟩

theorem emits_websocketStale : Emits keepsSession mc (mc.emitWebsocketStale env) := emits_emitLifecycle _ _ rfl

theorem emits_closeSocket (h : ∀ s, p (.closeSocket s 1000)) : Emits p mc mc.closeSocket := by
  refine emits_append rfl rfl fun x hm => ?_
  obtain ⟨s, -, rfl⟩ := List.mem_map.1 hm
  exact ⟨rfl, h s⟩

theorem emits_enterOpen : Emits keepsSession mc (mc.enterOpen env) := by
  have hone : ∀ rid, (mc.openOrReopened env mc.hasBeenOpen mc.attemptCount rid).resolvedId = none ∧
      keepsSession (mc.openOrReopened env mc.hasBeenOpen mc.attemptCount rid) := by
    intro rid
    unfold openOrReopened
    cases mc.hasBeenOpen <;> exact ⟨rfl, rfl⟩
  refine emits_append rfl rfl fun x hm => ?_
  rcases List.mem_cons.1 hm with rfl | hm
  · exact hone _
  · obtain ⟨rid, -, rfl⟩ := List.mem_map.1 hm
    exact hone _

theorem emits_emitConnectionFailed (lastError : String) (transient : Bool) (cls : Option NonTransientClass) :
    Emits anyEffect mc (mc.emitConnectionFailed env lastError transient cls) := by
  refine emits_append rfl rfl fun x hm => ?_
  split at hm
  · obtain rfl := List.mem_singleton.1 hm
    exact ⟨rfl, trivial⟩
  · obtain ⟨rid, -, rfl⟩ := List.mem_map.1 hm
    exact ⟨rfl, trivial⟩

theorem emits_escalate : Emits anyEffect mc (mc.escalate env) :=
  .trans (.of_eq rfl rfl) (emits_emitConnectionFailed ..)

theorem emits_attemptFailed (cls : TransientClass) (krakenError : Option String) (httpStatus closeCode : Option Nat) :
    Emits anyEffect mc (mc.attemptFailed env cls krakenError httpStatus closeCode) :=
  .trans (.of_eq rfl rfl) (emits_emitLifecycle _ _ trivial)

theorem emits_attemptFailedOrEscalate (cls : TransientClass) (krakenError : Option String)
    (httpStatus closeCode : Option Nat) :
    Emits anyEffect mc (mc.attemptFailedOrEscalate env cls krakenError httpStatus closeCode) := by
  unfold attemptFailedOrEscalate
  split
  · exact emits_escalate
  · exact emits_attemptFailed ..

theorem emits_droppedOrEscalate (closeCode : Option Nat) (reason : Option String) :
    Emits anyEffect mc (mc.droppedOrEscalate env closeCode reason) := by
  unfold droppedOrEscalate
  split
  · exact emits_escalate
  · exact .trans (.of_eq rfl rfl) (emits_emitLifecycle _ _ trivial)

theorem emits_closedDuringHandshake (code : Nat) (reason : Option String) (phase : String) :
    Emits anyEffect mc (mc.closedDuringHandshake env code reason phase) := by
  unfold closedDuringHandshake
  split
  · exact .trans (.of_eq rfl rfl) (emits_emitConnectionFailed ..)
  · exact emits_attemptFailedOrEscalate ..

theorem emits_emitAuthenticationFailed (lastError : String) (cls : NonTransientClass) (krakenResponse : Option String) :
    Emits anyEffect mc (mc.emitAuthenticationFailed env lastError cls krakenResponse) :=
  .trans (emits_emitConnectionFailed ..) (emits_emitLifecycle _ _ trivial)

theorem emits_enterConnecting (rid : Option Nat) : Emits keepsSession mc (mc.enterConnecting env rid) :=
  .trans (.of_eq rfl rfl) (emits_emitLifecycle _ _ rfl)

theorem emits_reenterConnecting (rid : Nat) : Emits anyEffect mc (mc.reenterConnecting env rid) := by
  unfold reenterConnecting
  split
  · exact .trans (.of_eq rfl rfl) (emits_emitLifecycle _ _ trivial)
  · exact .trans (.of_eq rfl rfl) (emits_enterConnecting _).weaken

end emits

/-! ## What `handle_event` does to the pending requests -/

/-- One transition: the pending map is kept, within the session if there is one, or drained before
anything that ends a session is published. -/
inductive Transition (mc m : ManagedConnection) : Prop
  | kept (h : Emits anyEffect mc m) (hs : InSession mc.state → InSession m.state ∧ Emits keepsSession mc m)
  | drained (m' : ManagedConnection) (env : Env) (cause : DrainCause) (before : Emits keepsSession mc m')
      (after : Emits anyEffect (m'.drainPending env cause) m)

section transition

variable {mc m : ManagedConnection} {env : Env}

/-- Outside a session there is nothing to drain. -/
theorem Transition.outside (hs : ¬ InSession mc.state) (h : Emits anyEffect mc m) : Transition mc m :=
  .kept h fun hc => absurd hc hs

theorem Transition.within (hs : InSession m.state) (h : Emits keepsSession mc m) : Transition mc m :=
  .kept h.weaken fun _ => ⟨hs, h⟩

theorem Transition.same (hs : m.state = mc.state) (hp : m.pendingRequests = mc.pendingRequests) (hb : m.bus = mc.bus) :
    Transition mc m := by
  refine .kept (.of_eq hp hb) fun hc => ⟨?_, .of_eq hp hb⟩
  rwa [hs]

/-- The teardown of a handshake drains first, and so does what follows it. -/
theorem Transition.afterExit {m' : ManagedConnection} (before : Emits keepsSession mc m')
    (after : Emits anyEffect (m'.exitResubscribingTeardown env) m) : Transition mc m :=
  .drained _ env .requestInFlightWhenDropped (before.trans (.of_eq rfl rfl)) after

theorem Transition.afterExitOpen {m' : ManagedConnection} {cause : DrainCause} (before : Emits keepsSession mc m')
    (after : Emits anyEffect ((m'.exitOpenTeardown env cause).clearSubscribeAckState) m) : Transition mc m :=
  .drained m' env cause before (.trans (.of_eq rfl rfl) after)

/-- What precedes a transition without ending the session is part of it. -/
theorem Transition.after {m' : ManagedConnection} (before : Emits keepsSession mc m') (hst : m'.state = mc.state)
    (h : Transition m' m) : Transition mc m := by
  cases h with
  | kept h hs =>
    refine .kept (before.weaken.trans h) fun hc => ?_
    obtain ⟨hm, he⟩ := hs (by rwa [hst])
    exact ⟨hm, before.trans he⟩
  | drained m'' env cause before' after => exact .drained m'' env cause (before.trans before') after

theorem transition_completeResubscribeIfEmpty : Transition mc (mc.completeResubscribeIfEmpty env) := by
  unfold completeResubscribeIfEmpty
  split
  · exact .within trivial emits_enterOpen
  · exact .same rfl rfl rfl

theorem transition_handleSubscribeFailure (key : EntryKey) (transient : Bool) (lastError : Option String) :
    Transition mc (mc.handleSubscribeFailure env key transient lastError) := by
  unfold handleSubscribeFailure
  dsimp only
  split
  · unfold retrySubscribe
    dsimp only
    split_ifs
    · exact .same rfl rfl rfl
    · exact .afterExit (.of_eq rfl rfl) (emits_droppedOrEscalate ..)
    · exact .afterExit (.of_eq rfl rfl) (emits_attemptFailed ..)
  · unfold terminateEntry
    refine .after ?_ ?_ transition_completeResubscribeIfEmpty
    case refine_2 => rfl
    refine emits_append rfl rfl fun x hm => ?_
    obtain rfl := List.mem_singleton.1 hm
    exact ⟨rfl, rfl⟩

/-! ### One lemma per source state -/

variable (e : FsmEvent)

theorem transition_handleIdle (hs : mc.state = .idle) : Transition mc (mc.handleIdle env e) := by
  have hout : ¬ InSession mc.state := by simp [hs, InSession]
  apply Transition.outside hout
  cases e <;> simp only [handleIdle]
  case callStartConnect | callForceReconnect =>
    split
    · exact .trans (.of_eq rfl rfl) (emits_emitLifecycle _ _ trivial)
    · exact .trans (.of_eq rfl rfl) (emits_enterConnecting _).weaken
  case callClose => exact .trans (.of_eq rfl rfl) (emits_emitLifecycle _ _ trivial)
  all_goals exact .of_eq rfl rfl

theorem transition_handleConnecting (hs : mc.state = .connecting) : Transition mc (mc.handleConnecting env e) := by
  have hout : ¬ InSession mc.state := by simp [hs, InSession]
  apply Transition.outside hout
  cases e <;> simp only [handleConnecting]
  case wireUpgradeFailed | wireConnectError =>
    split
    · unfold connectFailedOrEscalate
      split
      · exact emits_escalate
      · exact .trans (.of_eq rfl rfl) (emits_attemptFailed ..)
    · exact .trans (.of_eq rfl rfl) (emits_emitConnectionFailed ..)
  case timerUpgradeTimeout => exact .trans (.of_eq rfl rfl) (emits_attemptFailedOrEscalate ..)
  case callForceReconnect => split <;> exact .of_eq rfl rfl
  all_goals exact .of_eq rfl rfl

theorem transition_handleAuthenticating : Transition mc (mc.handleAuthenticating env e) := by
  cases e
  case wireAuthHandshakeFailed kind =>
    cases kind <;> simp only [handleAuthenticating]
    case tokenStale =>
      split
      · exact .afterExit (.of_eq rfl rfl) (.trans (.of_eq rfl rfl) (emits_emitAuthenticationFailed ..))
      · exact .same rfl rfl rfl
    case transient => exact .afterExit (.of_eq rfl rfl) (emits_attemptFailedOrEscalate ..)
    all_goals exact .afterExit (.of_eq rfl rfl) (.trans (.of_eq rfl rfl) (emits_emitAuthenticationFailed ..))
  all_goals simp only [handleAuthenticating]
  case wireCloseReceived => exact .afterExit (.of_eq rfl rfl) (emits_closedDuringHandshake ..)
  case wireAbnormalClose => exact .afterExit (.of_eq rfl rfl) (emits_attemptFailedOrEscalate ..)
  case timerStalenessElapsed =>
    exact .afterExit emits_websocketStale (emits_attemptFailedOrEscalate ..)
  case busTokenRefreshFailed =>
    split
    · exact .afterExit (.of_eq rfl rfl) (emits_attemptFailedOrEscalate ..)
    · exact .afterExit (.of_eq rfl rfl) (.trans (.of_eq rfl rfl) (emits_emitAuthenticationFailed ..))
  case timerSubscribeAckTimeout => exact transition_handleSubscribeFailure ..
  case wireOrderAuthOk => exact .within trivial (.trans (.of_eq rfl rfl) emits_enterOpen)
  case wireAuthHandshakeOk | callClose | callForceReconnect => exact .within trivial (.of_eq rfl rfl)
  all_goals exact .same rfl rfl rfl

theorem transition_handleResubscribing : Transition mc (mc.handleResubscribing env e) := by
  cases e
  case wireSubscribeAck channel pair last =>
    cases last <;> simp only [handleResubscribing]
    · exact .same rfl rfl rfl
    · exact .within trivial (.trans (.of_eq rfl rfl) emits_enterOpen)
  all_goals simp only [handleResubscribing]
  case wireCloseReceived => exact .afterExit (.of_eq rfl rfl) (emits_closedDuringHandshake ..)
  case wireAbnormalClose => exact .afterExit (.of_eq rfl rfl) (emits_attemptFailedOrEscalate ..)
  case timerStalenessElapsed =>
    exact .afterExit emits_websocketStale (emits_attemptFailedOrEscalate ..)
  case timerSubscribeAckTimeout | wireSubscribeFailed => exact transition_handleSubscribeFailure ..
  case callClose => exact .within trivial (.of_eq rfl rfl)
  case callForceReconnect => exact .within trivial (.trans (.of_eq rfl rfl) (emits_closeSocket fun _ => rfl))
  all_goals exact .same rfl rfl rfl

theorem transition_handleOpen : Transition mc (mc.handleOpen env e) := by
  cases e <;> simp only [handleOpen]
  case wireCloseReceived =>
    split
    · exact .afterExitOpen (.of_eq rfl rfl) (.trans (.of_eq rfl rfl) (emits_emitConnectionFailed ..))
    · exact .afterExitOpen (.of_eq rfl rfl) (emits_droppedOrEscalate ..)
  case wireAbnormalClose => exact .afterExitOpen (.of_eq rfl rfl) (emits_droppedOrEscalate ..)
  case timerStalenessElapsed => exact .afterExitOpen emits_websocketStale (emits_droppedOrEscalate ..)
  case timerSubscribeAckTimeout | wireSubscribeFailed => exact transition_handleSubscribeFailure ..
  case callClose =>
    exact .drained mc env .clientClosed (.of_eq rfl rfl)
      (.trans (.of_eq rfl rfl) (emits_closeSocket fun _ => trivial))
  case callForceReconnect =>
    exact .drained mc env .requestInFlightWhenDropped (.of_eq rfl rfl)
      (.trans (.of_eq rfl rfl) (emits_closeSocket fun _ => trivial))
  all_goals exact .same rfl rfl rfl

theorem transition_handleBackingOff (hs : mc.state = .backingOff) : Transition mc (mc.handleBackingOff env e) := by
  have hout : ¬ InSession mc.state := by simp [hs, InSession]
  apply Transition.outside hout
  cases e <;> simp only [handleBackingOff]
  case timerBackoffElapsed | timerRateBudgetWindowAdvanced =>
    split
    · exact .trans (.of_eq rfl rfl) (emits_emitLifecycle _ _ trivial)
    · exact .trans (.of_eq rfl rfl) (emits_enterConnecting _).weaken
  case callForceReconnect =>
    cases env.tryConsume <;> cases hp : mc.pendingConnectRequestId <;> simp only [latchConnect, hp]
    · exact .trans (.of_eq rfl rfl) (emits_emitLifecycle _ _ trivial)
    · exact .trans (.of_eq rfl rfl) (emits_emitLifecycle _ _ trivial)
    · exact .trans (.of_eq rfl rfl) (emits_enterConnecting _).weaken
    · exact .trans (.of_eq rfl rfl) (emits_enterConnecting _).weaken
  case callClose => exact .trans (.of_eq rfl rfl) (emits_emitLifecycle _ _ trivial)
  all_goals exact .of_eq rfl rfl

/-- The end of a close is the drain point of the exits that deferred it. -/
theorem transition_enterClosedOrReconnect (reason : ClosedReason) (ack : AckSource) :
    Transition mc (mc.enterClosedOrReconnect env reason ack) := by
  have hclosed : ∀ (rids : List Nat) (f : Nat → Effect), (∀ rid, (f rid).resolvedId = none) →
      ∀ x ∈ rids.map f, x.resolvedId = none ∧ anyEffect x := by
    intro rids f hf x hx
    obtain ⟨rid, -, rfl⟩ := List.mem_map.1 hx
    exact ⟨hf rid, trivial⟩
  unfold enterClosedOrReconnect
  refine .drained { mc with timers := { mc.timers with closeTimeoutDueAt := none } } env
    (if mc.pendingReconnectRequestId.isSome then .requestInFlightWhenDropped else .clientClosed) (.of_eq rfl rfl) ?_
  cases hr : mc.pendingReconnectRequestId with
  | none => exact emits_append rfl rfl (hclosed _ _ fun _ => rfl)
  | some rid =>
    refine .trans ?_ (emits_reenterConnecting rid)
    exact emits_append rfl rfl (hclosed _ _ fun _ => rfl)

theorem transition_handleClosing : Transition mc (mc.handleClosing env e) := by
  cases e <;> simp only [handleClosing]
  case wireCloseReceived | wireAbnormalClose | timerCloseTimeout => exact transition_enterClosedOrReconnect ..
  case callClose => split <;> exact .same rfl rfl rfl
  case callForceReconnect => split <;> exact .same rfl rfl rfl
  all_goals exact .same rfl rfl rfl

theorem transition_handleFailed (hs : mc.state = .failed) : Transition mc (mc.handleFailed env e) := by
  have hout : ¬ InSession mc.state := by simp [hs, InSession]
  apply Transition.outside hout
  cases e <;> simp only [handleFailed]
  case callForceReconnect =>
    split
    · exact .trans (.of_eq rfl rfl) (emits_emitLifecycle _ _ trivial)
    · exact .trans (.of_eq rfl rfl) (emits_enterConnecting _).weaken
  case callClose => exact .trans (.of_eq rfl rfl) (emits_emitLifecycle _ _ trivial)
  all_goals exact .of_eq rfl rfl

/-- **One call of `handle_event`.** -/
theorem transition_handleEvent : Transition mc (mc.handleEvent env e) := by
  unfold handleEvent
  split
  · exact transition_handleIdle e ‹_›
  · exact transition_handleConnecting e ‹_›
  · exact transition_handleAuthenticating e
  · exact transition_handleResubscribing e
  · exact transition_handleOpen e
  · exact transition_handleBackingOff e ‹_›
  · exact transition_handleClosing e
  · exact .same rfl rfl rfl
  · exact transition_handleFailed e ‹_›

end transition

/-! ## A transition that ends a session -/

/-- If the step from `mc` to `m` ends a session, every pending request is failed before any event
that reports the end. -/
def EndsDrained (mc m : ManagedConnection) : Prop :=
  InSession mc.state → ¬ InSession m.state → ∃ pre post, m.bus = mc.bus ++ pre ++ post ∧
    (∀ p ∈ HashMap.values mc.pendingRequests, ∃ err, Effect.resolve p.reqId (.error err) ∈ pre) ∧
    ∀ x ∈ pre, x.endsSession = false

/-- **The drain comes first.** -/
theorem drained_before_end {mc m : ManagedConnection} (h : Transition mc m) : EndsDrained mc m := by
  intro hin hout
  cases h with
  | kept _ hs => exact absurd (hs hin).1 hout
  | drained m' env cause before after =>
    obtain ⟨hp, xs, hb, hx⟩ := before
    obtain ⟨-, ys, hb', -⟩ := after
    refine ⟨xs ++ (m'.pendingRequests.drain cause env.now).2, ys, ?_, fun p hmem => ?_, fun x hmem => ?_⟩
    · simp [hb', drainPending, hb]
    · refine ⟨cause.resolve.1, List.mem_append_right _ (List.mem_flatMap.2 ⟨p, ?_, by simp⟩)⟩
      rwa [PendingRequestMap.mem_drainOrder, hp]
    · rcases List.mem_append.1 hmem with hmem | hmem
      · exact (hx x hmem).2
      · obtain ⟨p, -, hmem⟩ := List.mem_flatMap.1 hmem
        simp only [List.mem_cons, List.not_mem_nil, or_false] at hmem
        rcases hmem with rfl | rfl <;> rfl

/-! ## Accounting for every request -/

/-- The ids whose futures have been resolved. -/
def resolved (mc : ManagedConnection) : List Nat := mc.bus.filterMap Effect.resolvedId

/-- How often an id is pending or resolved. -/
def accounted (mc : ManagedConnection) (reqId : Nat) : Nat :=
  mc.pendingRequests.keys.count reqId + mc.resolved.count reqId

/-- Every row of the pending map is under its own id, and the map is empty outside a session. -/
structure PendingOk (mc : ManagedConnection) : Prop where
  keyed : ∀ row ∈ mc.pendingRequests.entries, row.2.reqId = row.1
  idle : ¬ InSession mc.state → mc.pendingRequests = ∅

/-- From `mc` to `m` the pending map stays well formed, and the requests `taken` were taken in. -/
def Carries (taken : List Nat) (mc m : ManagedConnection) : Prop :=
  mc.PendingOk → m.PendingOk ∧ ∀ reqId, m.accounted reqId = mc.accounted reqId + taken.count reqId

section carries

variable {mc m m' : ManagedConnection} {env : Env} {taken : List Nat}

theorem Carries.after (h : Carries [] mc m) (h' : Carries taken m m') : Carries taken mc m' := by
  intro hok
  obtain ⟨hok', h1⟩ := h hok
  obtain ⟨hok'', h2⟩ := h' hok'
  refine ⟨hok'', fun reqId => ?_⟩
  rw [h2, h1]
  simp

theorem Carries.andThen (h : Carries taken mc m) (h' : Carries [] m m') : Carries taken mc m' := by
  intro hok
  obtain ⟨hok', h1⟩ := h hok
  obtain ⟨hok'', h2⟩ := h' hok'
  refine ⟨hok'', fun reqId => ?_⟩
  rw [h2, h1]
  simp

/-- The pending map is untouched, and so is the session; effects may resolve what was just taken in. -/
theorem carries_effects {new : List Effect} (hs : m.state = mc.state) (hp : m.pendingRequests = mc.pendingRequests)
    (hb : m.bus = mc.bus ++ new) (hn : new.filterMap Effect.resolvedId = taken) : Carries taken mc m := by
  rintro ⟨hk, hi⟩
  refine ⟨⟨by rwa [hp], by rwa [hs, hp]⟩, fun reqId => ?_⟩
  simp only [accounted, resolved, hp, hb, List.filterMap_append, List.count_append, hn]
  omega

theorem carries_same (hs : m.state = mc.state) (hp : m.pendingRequests = mc.pendingRequests) (hb : m.bus = mc.bus) :
    Carries [] mc m := by
  have hb' : m.bus = mc.bus ++ [] := by simp [hb]
  exact carries_effects hs hp hb' rfl

theorem accounted_emits {p : Effect → Prop} (h : Emits p mc m) (reqId : Nat) :
    m.accounted reqId = mc.accounted reqId := by
  obtain ⟨hp, xs, hb, hx⟩ := h
  have hnil : xs.filterMap Effect.resolvedId = [] := List.filterMap_eq_nil_iff.2 fun x hm => (hx x hm).1
  simp [accounted, resolved, hp, hb, hnil]

/-- A drain resolves each pending request once. -/
theorem accounted_drainPending (hk : ∀ row ∈ mc.pendingRequests.entries, row.2.reqId = row.1) (cause : DrainCause)
    (reqId : Nat) : (mc.drainPending env cause).accounted reqId = mc.accounted reqId := by
  have hids : ∀ ps : List PendingRequest, (ps.flatMap fun p => [Effect.resolve p.reqId (.error cause.resolve.1),
      PendingRequestMap.requestFailed env.now p cause.resolve.2]).filterMap Effect.resolvedId = ps.map (·.reqId) := by
    intro ps
    induction ps with
    | nil => rfl
    | cons p ps ih =>
      rw [List.flatMap_cons, List.filterMap_append, ih]
      rfl
  have hperm : ((mc.pendingRequests.drainOrder).map (·.reqId)).Perm mc.pendingRequests.keys := by
    have hvals : (HashMap.values mc.pendingRequests).map (·.reqId) = mc.pendingRequests.keys := by
      simp only [HashMap.values, AList.keys, List.keys, List.map_map]
      exact List.map_congr_left hk
    rw [← hvals]
    exact (List.perm_insertionSort _ _).map _
  simp only [accounted, resolved, drainPending, PendingRequestMap.drain, List.filterMap_append, hids,
    List.count_append, hperm.count_eq]
  have hempty : (∅ : PendingRequestMap).keys.count reqId = 0 := rfl
  omega

theorem carries_of_transition (h : Transition mc m) : Carries [] mc m := by
  rintro ⟨hk, hi⟩
  cases h with
  | kept h hs =>
    refine ⟨⟨by rw [h.1]; exact hk, fun hout => ?_⟩, fun reqId => accounted_emits h reqId⟩
    rw [h.1]
    exact hi fun hin => hout (hs hin).1
  | drained m' env cause before after =>
    have hempty : m.pendingRequests = ∅ := after.1
    refine ⟨⟨by simp [hempty], fun _ => hempty⟩, fun reqId => ?_⟩
    rw [accounted_emits after, accounted_drainPending (by rwa [before.1]), accounted_emits before]
    simp

/-- Removing a pending row and resolving its future once. -/
theorem carries_remove {reqId : Nat} {p : PendingRequest} {new : List Effect} (hl : mc.pendingRequests.lookup reqId = some p)
    (hs : m.state = mc.state) (hp : m.pendingRequests = mc.pendingRequests.erase reqId) (hb : m.bus = mc.bus ++ new)
    (hn : mc.PendingOk → new.filterMap Effect.resolvedId = [reqId]) : Carries [] mc m := by
  intro hok
  have hmem : reqId ∈ mc.pendingRequests.keys := AList.lookup_isSome.1 (by simp [hl])
  obtain ⟨hk, hi⟩ := hok
  refine ⟨⟨fun row hrow => ?_, fun hout => ?_⟩, fun r => ?_⟩
  · rw [hp] at hrow
    exact hk row ((List.kerase_sublist _ _).subset hrow)
  · rw [hs] at hout
    rw [hi hout] at hl
    simp at hl
  · have hpos := List.count_pos_iff.2 hmem
    simp only [accounted, resolved, hp, hb, AList.keys_erase, List.filterMap_append, hn ⟨hk, hi⟩, List.count_append,
      List.count_erase, List.count_singleton, List.count_nil, beq_iff_eq]
    split <;> rename_i h
    · subst h
      omega
    · omega

theorem carries_resolvePendingRequest (resp : WsResponse) : Carries [] mc (mc.resolvePendingRequest resp) := by
  unfold resolvePendingRequest PendingRequestMap.resolve
  cases hl : mc.pendingRequests.lookup resp.reqId with
  | none => exact carries_same rfl rfl (by simp)
  | some p => exact carries_remove hl rfl rfl rfl fun _ => rfl

theorem carries_failPendingRequest (reqId : Nat) (err : ConnectionError) :
    Carries [] mc (mc.failPendingRequest reqId err) := by
  unfold failPendingRequest PendingRequestMap.failOne
  cases hl : mc.pendingRequests.lookup reqId with
  | none => exact carries_same rfl rfl (by simp)
  | some p => exact carries_remove hl rfl rfl rfl fun _ => rfl

theorem carries_drainOneRetryable (reqId : Nat) : Carries [] mc (mc.drainOneRetryable env reqId) := by
  unfold drainOneRetryable PendingRequestMap.drainOneRetryable
  cases hl : mc.pendingRequests.lookup reqId with
  | none => exact carries_same rfl rfl (by simp)
  | some p =>
    refine carries_remove hl rfl rfl rfl fun hok => ?_
    have hkey : p.reqId = reqId := hok.keyed ⟨reqId, p⟩ (AList.mem_lookup_iff.1 hl)
    simp [Effect.resolvedId, PendingRequestMap.requestFailed, hkey]

theorem carries_recordPendingRequest {p : PendingRequest} (hs : InSession mc.state)
    (hfresh : mc.pendingRequests.keys.count p.reqId = 0) : Carries [p.reqId] mc (mc.recordPendingRequest p) := by
  rintro ⟨hk, hi⟩
  refine ⟨⟨fun row hrow => ?_, fun hout => absurd hs hout⟩, fun r => ?_⟩
  · simp only [recordPendingRequest, PendingRequestMap.record, AList.entries_insert, List.mem_cons] at hrow
    rcases hrow with rfl | hrow
    · rfl
    · exact hk row ((List.kerase_sublist _ _).subset hrow)
  · have hne : p.reqId ∉ mc.pendingRequests.keys := List.count_eq_zero.1 hfresh
    simp only [accounted, resolved, recordPendingRequest, PendingRequestMap.record, AList.keys_insert,
      List.erase_of_not_mem hne, List.count_cons, List.count_nil]
    omega

theorem carries_applyUpdate (u : Update) : Carries [] mc (mc.applyUpdate env u) := by
  cases u <;> simp only [applyUpdate]
  case completeResubscribeIfEmpty => exact carries_of_transition transition_completeResubscribeIfEmpty
  case deferOpenAuthSubscribe =>
    unfold deferOpenAuthSubscribe
    split <;> exact carries_same rfl rfl rfl
  all_goals exact carries_same rfl rfl rfl

theorem carries_deliver (e : FsmEvent) : Carries [] mc (mc.deliver env e) := by
  have hpop : Carries [] mc (mc.popTimerForEvent e) := by cases e <;> exact carries_same rfl rfl rfl
  exact hpop.after (carries_of_transition (transition_handleEvent e))

theorem carries_perform {new : List Effect} (hn : new.filterMap Effect.resolvedId = taken) :
    Carries taken mc (mc.perform new) := carries_effects rfl rfl rfl hn

/-! ### The reactor's functions -/

theorem carries_sendSubscribeFrame (socket : SocketId) (f : SubscribeFrame) (reqId : Nat) (context : String) :
    Carries [] mc (mc.sendSubscribeFrame env socket f reqId context).2 := by
  unfold sendSubscribeFrame
  split
  · exact carries_perform (by rfl)
  · exact carries_of_transition (by exact transition_handleSubscribeFailure f.key true none)
  · exact carries_of_transition (by exact transition_handleEvent _)

theorem carries_sendFrames (socket : SocketId) (context : String) (fs : List SubscribeFrame) :
    Carries [] mc (mc.sendFrames env socket context fs) := by
  induction fs generalizing mc with
  | nil => exact carries_same rfl rfl rfl
  | cons f fs ih =>
    simp only [sendFrames]
    have hsend := @carries_sendSubscribeFrame mc.takeSubscribeReqId.2 env socket f mc.takeSubscribeReqId.1 context
    generalize mc.takeSubscribeReqId.2.sendSubscribeFrame env socket f mc.takeSubscribeReqId.1 context = out at hsend
    have htake : Carries [] mc mc.takeSubscribeReqId.2 := carries_same rfl rfl rfl
    obtain ⟨outcome, m⟩ := out
    cases outcome
    case sent =>
      have harm : Carries [] m (m.armSubscribeAckTimerWithReqId env f.key mc.takeSubscribeReqId.1) :=
        carries_same rfl rfl rfl
      exact ((htake.after hsend).after harm).after ih
    case backpressured =>
      dsimp only
      split
      · exact (htake.after hsend).after ih
      · exact htake.after hsend
    case writerDead => exact htake.after hsend

theorem carries_deferAll (fs : List SubscribeFrame) :
    Carries [] mc (fs.foldl (fun mc f => mc.deferOpenAuthSubscribe f.key f.params) mc) := by
  induction fs generalizing mc with
  | nil => exact carries_same rfl rfl rfl
  | cons f fs ih =>
    refine .after ?_ ih
    simp only [deferOpenAuthSubscribe]
    split <;> exact carries_same rfl rfl rfl

theorem carries_refreshOnce : Carries [] mc mc.refreshOnce := by
  unfold refreshOnce
  split
  · exact carries_same rfl rfl rfl
  · refine .after ?_ (carries_perform (by rfl))
    exact carries_same rfl rfl rfl

theorem carries_sendRemainingSignedSubscribes (r : ReactorEnv) (alreadySent : Option EntryKey) :
    Carries [] mc (mc.sendRemainingSignedSubscribes r alreadySent) := by
  unfold sendRemainingSignedSubscribes
  dsimp only
  split
  · exact (carries_deferAll _).after carries_refreshOnce
  · split
    · exact carries_same rfl rfl rfl
    · exact carries_sendFrames _ _ _

theorem carries_driveAuthProbe (r : ReactorEnv) (reqId : Nat) (ack : OrderAckAuth) :
    Carries [] mc (mc.driveAuthProbe r reqId ack) := by
  cases ack <;> simp only [driveAuthProbe]
  case authenticated =>
    split
    · split
      · exact (carries_of_transition (transition_handleEvent _)).after
          ((carries_sendRemainingSignedSubscribes r none).after
            (carries_of_transition transition_completeResubscribeIfEmpty))
      · exact carries_of_transition (transition_handleEvent _)
    · exact carries_of_transition (transition_handleEvent _)
  case authFailed kind =>
    split
    · exact (carries_of_transition (transition_handleEvent _)).after (carries_drainOneRetryable reqId)
    · exact carries_of_transition (transition_handleEvent _)

theorem carries_recoverTokenStale (r : ReactorEnv) (reqId : Nat) : Carries [] mc (mc.recoverTokenStale r reqId) := by
  unfold recoverTokenStale
  refine .after ?_ (carries_drainOneRetryable reqId)
  refine .after ?_ (carries_perform (by rfl))
  refine .after (m := (mc.handleEvent r.toEnv .wireOrderAckTokenStale).perform [.authStack .invalidateCachedToken]) ?_ ?_
  · exact .after (carries_of_transition (transition_handleEvent _)) (carries_perform (by rfl))
  · exact carries_same rfl rfl rfl

theorem carries_routeResponse (r : ReactorEnv) (resp : WsResponse) : Carries [] mc (mc.routeResponse r resp) := by
  have hprobe : ∀ ack, Carries [] mc (if mc.state = .authenticating then mc.driveAuthProbe r resp.reqId ack else mc) := by
    intro ack
    split
    · exact carries_driveAuthProbe _ _ _
    · exact carries_same rfl rfl rfl
  have hstale : ∀ (m : ManagedConnection) (ack : OrderAckAuth), Carries [] m
      (if m.state = .opened ∧ ack = .authFailed .tokenStale then m.recoverTokenStale r resp.reqId else m) := by
    intro m ack
    split
    · exact carries_recoverTokenStale _ _
    · exact carries_same rfl rfl rfl
  have hresolve : ∀ m : ManagedConnection, Carries [] m
      (if m.pendingRequestsContains resp.reqId then m.resolvePendingRequest resp else m) := by
    intro m
    split
    · exact carries_resolvePendingRequest resp
    · exact carries_same rfl rfl rfl
  exact ((hprobe _).after (hstale _ _)).after (hresolve _)

theorem carries_handleRequestResponse (r : ReactorEnv) (json : Json) :
    Carries [] mc (mc.handleRequestResponse r json).2 := by
  unfold handleRequestResponse
  split
  · exact carries_same rfl rfl rfl
  · exact carries_same rfl rfl rfl
  · exact carries_routeResponse _ _

/-- A request is recorded, and then sent or failed, or it is rejected: its id is taken in once. -/
theorem carries_handleWsRequestFrame (r : ReactorEnv) (f : WsRequestFrame)
    (hfresh : mc.pendingRequests.keys.count f.reqId = 0) : Carries [f.reqId] mc (mc.handleWsRequestFrame r f) := by
  unfold handleWsRequestFrame
  split
  · exact carries_perform (by rfl)
  · rename_i hadmit
    have hin : InSession mc.state := by
      unfold admitsRequest at hadmit
      split at hadmit <;> simp_all [InSession]
    split
    · refine .after ?_ (carries_perform (by rfl))
      refine .after ?_ (carries_perform (by rfl))
      refine .after (m := mc.perform [.authStack .invalidateCachedToken]) (carries_perform (by rfl)) ?_
      exact carries_same rfl rfl rfl
    · dsimp only
      split
      · exact (carries_recordPendingRequest hin hfresh).andThen (carries_perform (by rfl))
      · exact (carries_recordPendingRequest hin hfresh).andThen (carries_failPendingRequest _ _)

end carries

/-! ## Every run of the auth connection -/

/-- One action of the reactor on the auth connection. -/
inductive WsAct where
  | event (e : FsmEvent)
  | update (u : Update)
  | sendSubscribe (socket : SocketId) (f : SubscribeFrame) (reqId : Nat) (context : String)
  | wsRequestFrame (f : WsRequestFrame)
  | requestResponse (json : Json)
  | abandonWsRequest (reqId : Nat)

/-- An action and what it reads. -/
structure WsLabel where
  env : ReactorEnv
  act : WsAct

/-- One step of the auth connection. -/
def wsStep (mc : ManagedConnection) (l : WsLabel) : ManagedConnection :=
  match l.act with
  | .event e => mc.deliver l.env.toEnv e
  | .update u => mc.applyUpdate l.env.toEnv u
  | .sendSubscribe socket f reqId context => (mc.sendSubscribeFrame l.env.toEnv socket f reqId context).2
  | .wsRequestFrame f => mc.handleWsRequestFrame l.env f
  | .requestResponse json => (mc.handleRequestResponse l.env json).2
  | .abandonWsRequest reqId => mc.abandonWsRequest reqId

/-- The request a step submits. -/
def submitted (l : WsLabel) : List Nat :=
  match l.act with
  | .wsRequestFrame f => [f.reqId]
  | _ => []

/-- The requests a list of labels submits. -/
def submittedIds (ls : List WsLabel) : List Nat := ls.flatMap submitted

/-- The state of a fresh connection after a list of labels. -/
def wsRun (url : WsUrl) (knobs : Knobs) (ls : List WsLabel) : ManagedConnection := exec wsStep (new url knobs) ls

theorem carries_wsStep {mc : ManagedConnection} (l : WsLabel)
    (hfresh : ∀ reqId ∈ submitted l, mc.pendingRequests.keys.count reqId = 0) :
    Carries (submitted l) mc (mc.wsStep l) := by
  obtain ⟨r, act⟩ := l
  cases act with
  | event e => exact carries_deliver e
  | update u => exact carries_applyUpdate u
  | sendSubscribe socket f reqId context => exact carries_sendSubscribeFrame _ _ _ _
  | wsRequestFrame f => exact carries_handleWsRequestFrame r f (hfresh _ (List.mem_singleton.2 rfl))
  | requestResponse json => exact carries_handleRequestResponse _ _
  | abandonWsRequest reqId => exact carries_failPendingRequest _ _

/-- What holds at each point of a run that submits no id twice, `ls` being what is still to come. -/
def OnceOnly (mc : ManagedConnection) (ls : List WsLabel) : Prop :=
  mc.PendingOk ∧ ∀ reqId, mc.accounted reqId + (submittedIds ls).count reqId ≤ 1

theorem onceOnly_fresh {mc : ManagedConnection} {l : WsLabel} {ls : List WsLabel} (h : mc.OnceOnly (l :: ls)) :
    ∀ reqId ∈ submitted l, mc.pendingRequests.keys.count reqId = 0 := by
  intro reqId hmem
  have hle := h.2 reqId
  have hpos := List.count_pos_iff.2 hmem
  simp only [submittedIds, List.flatMap_cons, List.count_append, accounted] at hle
  omega

theorem onceOnly_step (mc : ManagedConnection) (l : WsLabel) (ls : List WsLabel) (h : mc.OnceOnly (l :: ls)) :
    (mc.wsStep l).OnceOnly ls := by
  obtain ⟨hok, hacc⟩ := carries_wsStep l (onceOnly_fresh h) h.1
  refine ⟨hok, fun reqId => ?_⟩
  have hle := h.2 reqId
  simp only [submittedIds, List.flatMap_cons, List.count_append] at hle ⊢
  rw [hacc]
  omega

theorem onceOnly_new (url : WsUrl) (knobs : Knobs) {ls : List WsLabel} (hd : (submittedIds ls).Nodup) :
    (new url knobs).OnceOnly ls := by
  refine ⟨⟨by simp [new], fun _ => rfl⟩, fun reqId => ?_⟩
  have hone := List.nodup_iff_count_le_one.1 hd reqId
  have hzero : (new url knobs).accounted reqId = 0 := rfl
  omega

theorem onceOnly_run (url : WsUrl) (knobs : Knobs) (ls : List WsLabel) (hd : (submittedIds ls).Nodup) :
    (wsRun url knobs ls).OnceOnly [] :=
  exec_remaining onceOnly_step ls (onceOnly_new url knobs hd)

/-- **Requests are conserved**: each submitted request is pending, or its future has been resolved. -/
theorem accounted_run (url : WsUrl) (knobs : Knobs) (ls : List WsLabel) (hd : (submittedIds ls).Nodup) (reqId : Nat) :
    (wsRun url knobs ls).accounted reqId = (submittedIds ls).count reqId := by
  have hstep : ∀ (mc : ManagedConnection) (l : WsLabel) (ls : List WsLabel), mc.OnceOnly (l :: ls) → ∀ reqId,
      ((mc.wsStep l).pendingRequests.keys ++ (mc.wsStep l).resolved).count reqId + ([] : List Nat).count reqId =
        (mc.pendingRequests.keys ++ mc.resolved).count reqId + (submitted l).count reqId := by
    intro mc l ls h reqId
    have hacc := (carries_wsStep l (onceOnly_fresh h) h.1).2 reqId
    simpa [accounted, List.count_append] using hacc
  have h := conserved (fun mc => mc.pendingRequests.keys ++ mc.resolved) (fun _ l => submitted l) (fun _ _ => [])
    onceOnly_step hstep ls (onceOnly_new url knobs hd) reqId
  have hzero : ((new url knobs).pendingRequests.keys ++ (new url knobs).resolved).count reqId = 0 := rfl
  rw [along_nil, along_const, hzero, List.count_append] at h
  simpa [accounted, wsRun, submittedIds] using h

/-- **No in-flight request outlives its session.** -/
theorem inFlight_accounted (url : WsUrl) (knobs : Knobs) (ls : List WsLabel) (hd : (submittedIds ls).Nodup) :
    (∀ mc env e, EndsDrained mc (mc.handleEvent env e)) ∧
      (∀ mc env key transient lastError, EndsDrained mc (mc.handleSubscribeFailure env key transient lastError)) ∧
      (¬ InSession (wsRun url knobs ls).state → (wsRun url knobs ls).pendingRequests = ∅) ∧
      ∀ reqId ∈ submittedIds ls, HeldOrGiven (wsRun url knobs ls).pendingRequests.keys (wsRun url knobs ls).resolved reqId := by
  refine ⟨fun _ _ e => drained_before_end (transition_handleEvent e),
    fun _ _ key transient lastError => drained_before_end (transition_handleSubscribeFailure key transient lastError),
    (onceOnly_run url knobs ls hd).1.idle, fun reqId hmem => heldOrGiven_of_count ?_⟩
  have hacc := accounted_run url knobs ls hd reqId
  rw [List.count_eq_one_of_mem hd hmem] at hacc
  exact hacc

/-! ## A run that loses its session with a request in flight -/

/-- What the reactor reads in the run below: a cached token, a socket that takes every frame, no
subscription on the auth URL. -/
def orderEnv : ReactorEnv where
  now := 0
  knobs := { stalenessWindowMs := 30000, upgradeTimeout := fromMillis 10000, closeTimeout := fromMillis 5000
             reconnectAttempts := none, maxAuthHandshakeFailures := 3, subscribeAckAttempts := 3
             subscribeAckTimeoutMs := 5000 }
  tryConsume := .ok ()
  windowSeconds := 600
  nextBackoff := fun _ => fromMillis 500
  openSocket := 1
  token := some "token"
  socketOf := some 1
  entries := []
  requestSend := .ok ()

/-- An order is the auth probe of a fresh connection; the socket dies before its answer. -/
def droppedOrder : List WsLabel :=
  [⟨orderEnv, .event (.callStartConnect 1)⟩, ⟨orderEnv, .event (.wireUpgradeOk none)⟩,
    ⟨orderEnv, .wsRequestFrame ⟨7, "add_order", .addOrder, .obj []⟩⟩,
    ⟨orderEnv, .event (.wireAbnormalClose ⟨.socketReset, true⟩)⟩]

theorem inFlight_accounted_droppedOrder :
    (wsRun .authUrl orderEnv.knobs droppedOrder).pendingRequests = ∅ ∧
      HeldOrGiven (wsRun .authUrl orderEnv.knobs droppedOrder).pendingRequests.keys
        (wsRun .authUrl orderEnv.knobs droppedOrder).resolved 7 :=
  ⟨(inFlight_accounted .authUrl orderEnv.knobs droppedOrder (by decide)).2.2.1 fun h => h,
    (inFlight_accounted .authUrl orderEnv.knobs droppedOrder (by decide)).2.2.2 7 (by decide)⟩

end ManagedConnection

end KrakenSdk.Conn
