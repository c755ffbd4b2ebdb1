import KrakenSdk.Conn.Handshake
import KrakenSdk.Conn.Upgraded
import KrakenSdk.Lib.HashMap
/-!
# The subscribe `req_id` index (managed_connection/mod.rs:175-357, io_reactor/subscribe_send.rs)

A subscribe frame goes out under a `req_id`, and two maps keep which key the id was sent for and which id is the key's
latest. They are kept in step by hand: a send records, an ack, a failure and a disarm forget one key, the end of a
session clears both.

* `forgetting_handleEvent` is what an event does to the index, state by state.
* `recorded_indexStep` is what any action does to the row of one key.
* `subscribeReqIds_bijective` is what holds after any run.
-/
namespace KrakenSdk.Conn

/-- The two maps and the counter the ids are drawn from. -/
@[ext] structure SubscribeIndex where
  next : Nat
  pending : HashMap Nat EntryKey
  byKey : HashMap EntryKey Nat

namespace SubscribeIndex

/-- `next_subscribe_req_id`. -/
def draw (x : SubscribeIndex) : SubscribeIndex := { x with next := min (x.next + 1) u64Max }

/-- `record_subscribe_req_id`. -/
def record (x : SubscribeIndex) (reqId : Nat) (key : EntryKey) : SubscribeIndex :=
  { x with
    pending := (HashMap.evict x.pending (x.byKey.lookup key)).insert reqId key
    byKey := x.byKey.insert key reqId }

/-- `forget_subscribe_req_id_for_key`. -/
def forget (x : SubscribeIndex) (key : EntryKey) : SubscribeIndex :=
  { x with
    pending := HashMap.evict x.pending (x.byKey.lookup key)
    byKey := x.byKey.erase key }

/-- Both maps emptied. -/
def clear (x : SubscribeIndex) : SubscribeIndex := { x with pending := ∅, byKey := ∅ }

/-- What an action forgets. -/
inductive Forgotten where
  | nothing
  | key (key : EntryKey)
  | all

/-- The index without what is forgotten. -/
def drop (x : SubscribeIndex) : Forgotten → SubscribeIndex
  | .nothing => x
  | .key key => x.forget key
  | .all => x.clear

/-- The maps are inverse to each other, and every id in them was drawn. -/
structure Coherent (x : SubscribeIndex) : Prop where
  inverse : HashMap.Inverse x.pending x.byKey
  drawn : ∀ reqId key, x.byKey.lookup key = some reqId → reqId < x.next
  bounded : x.next ≤ u64Max

variable {x : SubscribeIndex}

theorem Coherent.fresh (h : x.Coherent) {reqId : Nat} (hnew : x.next ≤ reqId) : x.pending.lookup reqId = none := by
  cases hp : x.pending.lookup reqId with
  | none => rfl
  | some key =>
    have hlt := h.drawn reqId key ((h.inverse reqId key).1 hp)
    omega

theorem Coherent.draw (h : x.Coherent) : x.draw.Coherent where
  inverse := h.inverse
  drawn reqId key hl := by
    have hlt := h.drawn reqId key hl
    have hmax := h.bounded
    show reqId < min (x.next + 1) u64Max
    omega
  bounded := Nat.min_le_right _ _

/-- A send: the id just drawn is recorded. -/
theorem Coherent.record (h : x.Coherent) (hmax : x.next < u64Max) (key : EntryKey) : (x.draw.record x.next key).Coherent where
  inverse := h.inverse.link (h.fresh (Nat.le_refl _)) key
  drawn reqId k hl := by
    have hl' : (x.byKey.insert key x.next).lookup k = some reqId := hl
    show reqId < min (x.next + 1) u64Max
    rw [HashMap.lookup_insert_ite] at hl'
    split at hl'
    · obtain rfl := Option.some.inj hl'
      omega
    · have hlt := h.drawn reqId k hl'
      omega
  bounded := Nat.min_le_right _ _

theorem Coherent.drop (h : x.Coherent) (f : Forgotten) : (x.drop f).Coherent := by
  cases f with
  | nothing => exact h
  | key key =>
    refine ⟨h.inverse.unlink key, fun reqId k hl => ?_, h.bounded⟩
    have hl' : (x.byKey.erase key).lookup k = some reqId := hl
    rw [HashMap.lookup_erase_ite] at hl'
    split at hl'
    · cases hl'
    · exact h.drawn reqId k hl'
  | all =>
    refine ⟨HashMap.inverse_empty, fun reqId k hl => ?_, h.bounded⟩
    cases (AList.lookup_empty k).symm.trans hl

/-- The row of a key after something is forgotten. -/
theorem lookup_drop (x : SubscribeIndex) (f : Forgotten) (key : EntryKey) (reqId : Nat) :
    (x.drop f).byKey.lookup key = some reqId ↔ x.byKey.lookup key = some reqId ∧ ¬ (f = .all ∨ f = .key key) := by
  cases f with
  | nothing => simp [drop]
  | key k =>
    show (x.byKey.erase k).lookup key = some reqId ↔ _
    rw [HashMap.lookup_erase_ite]
    by_cases hk : key = k
    · rw [if_pos hk, hk]
      exact iff_of_false nofun fun h => h.2 (.inr rfl)
    · rw [if_neg hk]
      refine (and_iff_left ?_).symm
      rintro (h | h)
      · cases h
      · exact hk (Forgotten.key.inj h).symm
  | all =>
    refine iff_of_false (fun h => ?_) fun h => h.2 (.inl rfl)
    cases (AList.lookup_empty key).symm.trans h

end SubscribeIndex

namespace ManagedConnection

open SubscribeIndex (Forgotten)

/-- The index of a connection. -/
def index (mc : ManagedConnection) : SubscribeIndex where
  next := mc.nextSubscribeReqId
  pending := mc.pendingSubscribeReqIds
  byKey := mc.subscribeReqIdByKey

variable {mc m : ManagedConnection} {env : Env} {e : FsmEvent}

theorem coherent_new (url : WsUrl) (knobs : Knobs) : (new url knobs).index.Coherent := by
  have hmax : 1 ≤ u64Max := by decide
  refine ⟨HashMap.inverse_empty, fun reqId key hl => ?_, hmax⟩
  cases (AList.lookup_empty key).symm.trans hl

/-! ## The methods of the index -/

@[simp] theorem index_takeSubscribeReqId (mc : ManagedConnection) : mc.takeSubscribeReqId.2.index = mc.index.draw := rfl

@[simp] theorem index_recordSubscribeReqId (mc : ManagedConnection) (reqId : Nat) (key : EntryKey) :
    (mc.recordSubscribeReqId reqId key).index = mc.index.record reqId key := by
  unfold recordSubscribeReqId SubscribeIndex.record index
  cases mc.subscribeReqIdByKey.lookup key <;> rfl

@[simp] theorem index_forgetSubscribeReqIdForKey (mc : ManagedConnection) (key : EntryKey) :
    (mc.forgetSubscribeReqIdForKey key).index = mc.index.forget key := by
  unfold forgetSubscribeReqIdForKey SubscribeIndex.forget index
  cases mc.subscribeReqIdByKey.lookup key <;> rfl

@[simp] theorem index_clearSubscribeAckState (mc : ManagedConnection) :
    mc.clearSubscribeAckState.index = mc.index.clear := rfl

theorem index_disarmSubscribeAck (mc : ManagedConnection) (key : EntryKey) :
    (mc.disarmSubscribeAck key).index = mc.index.forget key := index_forgetSubscribeReqIdForKey _ key

/-! ## What leaves the index alone -/

theorem index_popTimerForEvent (mc : ManagedConnection) (e : FsmEvent) : (mc.popTimerForEvent e).index = mc.index := by
  cases e <;> rfl

theorem index_completeResubscribeIfEmpty (mc : ManagedConnection) (env : Env) :
    (mc.completeResubscribeIfEmpty env).index = mc.index := by
  unfold completeResubscribeIfEmpty
  split_ifs <;> rfl

theorem index_attemptFailedOrEscalate (mc : ManagedConnection) (env : Env) (cls : TransientClass)
    (krakenError : Option String) (httpStatus closeCode : Option Nat) :
    (mc.attemptFailedOrEscalate env cls krakenError httpStatus closeCode).index = mc.index := by
  unfold attemptFailedOrEscalate
  split_ifs <;> rfl

theorem index_droppedOrEscalate (mc : ManagedConnection) (env : Env) (closeCode : Option Nat) (reason : Option String) :
    (mc.droppedOrEscalate env closeCode reason).index = mc.index := by
  unfold droppedOrEscalate
  split_ifs <;> rfl

theorem index_closedDuringHandshake (mc : ManagedConnection) (env : Env) (code : Nat) (reason : Option String)
    (phase : String) : (mc.closedDuringHandshake env code reason phase).index = mc.index := by
  unfold closedDuringHandshake
  split_ifs
  · rfl
  · exact index_attemptFailedOrEscalate ..

theorem index_connectFailedOrEscalate (mc : ManagedConnection) (env : Env) (cls : TransientClass) (httpStatus : Option Nat) :
    (mc.connectFailedOrEscalate env cls httpStatus).index = mc.index := by
  unfold connectFailedOrEscalate
  split_ifs <;> rfl

theorem index_reenterConnecting (mc : ManagedConnection) (env : Env) (rid : Nat) :
    (mc.reenterConnecting env rid).index = mc.index := by
  unfold reenterConnecting
  split <;> rfl

theorem index_enterClosedOrReconnect (mc : ManagedConnection) (env : Env) (reason : ClosedReason) (ack : AckSource) :
    (mc.enterClosedOrReconnect env reason ack).index = mc.index := by
  unfold enterClosedOrReconnect
  dsimp only
  split
  · exact index_reenterConnecting ..
  · rfl

theorem index_latchConnect (mc : ManagedConnection) (requestId : Nat) : (mc.latchConnect requestId).index = mc.index := by
  unfold latchConnect
  split <;> rfl

theorem index_deferOpenAuthSubscribe (mc : ManagedConnection) (key : EntryKey) (params : SubscribeParams) :
    (mc.deferOpenAuthSubscribe key params).index = mc.index := by
  unfold deferOpenAuthSubscribe
  split_ifs <;> rfl

/-! ## What an event forgets -/

/-- What an event forgets of a connection that it does not take out of its session. -/
def forgottenBy : ConnectionState → FsmEvent → Forgotten
  | .authenticating, .wireOrderAuthOk => .all
  | .authenticating, .timerSubscribeAckTimeout channel pair => .key (channel, pair)
  | .resubscribing, .wireSubscribeAck channel pair _ => .key (channel, pair)
  | .resubscribing, .wireSubscribeFailed channel pair _ => .key (channel, pair)
  | .resubscribing, .timerSubscribeAckTimeout channel pair => .key (channel, pair)
  | .opened, .wireSubscribeAck channel pair _ => .key (channel, pair)
  | .opened, .wireSubscribeFailed channel pair _ => .key (channel, pair)
  | .opened, .timerSubscribeAckTimeout channel pair => .key (channel, pair)
  -- A failed attempt and a completed close have no teardown: they leave what was sent in `Connecting` or `Closing`.
  | _, _ => .nothing

/-- From `mc` to `m` the index lost what is forgotten or, with the session, everything. -/
inductive Forgetting (mc m : ManagedConnection) (f : Forgotten) : Prop
  | kept (hstate : Upgraded mc.state → Upgraded m.state) (hindex : m.index = mc.index.drop f)
  | ended (hbefore : Upgraded mc.state) (hafter : ¬ Upgraded m.state) (hindex : m.index = mc.index.clear)

theorem Forgetting.same (hs : m.state = mc.state) (hi : m.index = mc.index) : Forgetting mc m .nothing :=
  .kept (fun h => hs ▸ h) hi

/-- Outside a session. -/
theorem Forgetting.outside (hs : ¬ Upgraded mc.state) (hi : m.index = mc.index) : Forgetting mc m .nothing :=
  .kept (fun h => absurd h hs) hi

theorem upgraded_completeResubscribeIfEmpty (h : Upgraded mc.state) :
    Upgraded (mc.completeResubscribeIfEmpty env).state := by
  unfold completeResubscribeIfEmpty
  split_ifs
  · trivial
  · exact h

/-- What a subscribe failure forgets: with the last retry the index is cleared. -/
def forgottenByFailure (mc : ManagedConnection) (env : Env) (key : EntryKey) (transient : Bool) : Forgotten :=
  if transient = true ∧ mc.subscribeAckRemaining env key = 0 then .all else .key key

/-- The last retry of a key: everything goes, with the session if there is one. -/
theorem index_lastRetry {key : EntryKey} (hlast : mc.subscribeAckRemaining env key = 0) (lastError : Option String) :
    (mc.handleSubscribeFailure env key true lastError).index = mc.index.clear ∧
      ¬ Upgraded (mc.handleSubscribeFailure env key true lastError).state := by
  have hnone : ¬ (mc.cancelEntryTimers key).subscribeAckRemaining env key > 0 := by
    have hremaining : (mc.cancelEntryTimers key).subscribeAckRemaining env key = 0 := hlast
    omega
  simp only [handleSubscribeFailure, retrySubscribe, if_true, if_neg hnone]
  split_ifs
  · exact ⟨index_droppedOrEscalate .., (down_droppedOrEscalate rfl _ _).not_upgraded⟩
  · exact ⟨rfl, (down_attemptFailed rfl _ _ _ _).not_upgraded⟩

/-- Any other failure forgets its key. -/
theorem index_failure {key : EntryKey} {transient : Bool}
    (hmore : ¬ (transient = true ∧ mc.subscribeAckRemaining env key = 0)) (lastError : Option String) :
    (mc.handleSubscribeFailure env key transient lastError).index = mc.index.forget key ∧
      (Upgraded mc.state → Upgraded (mc.handleSubscribeFailure env key transient lastError).state) := by
  have hcancel : (mc.cancelEntryTimers key).index = mc.index.forget key := index_forgetSubscribeReqIdForKey _ key
  cases transient with
  | false =>
    refine ⟨(index_completeResubscribeIfEmpty _ env).trans hcancel, fun h => ?_⟩
    exact upgraded_completeResubscribeIfEmpty h
  | true =>
    have hpos : (mc.cancelEntryTimers key).subscribeAckRemaining env key > 0 :=
      Nat.pos_of_ne_zero fun hzero => hmore ⟨rfl, hzero⟩
    simp only [handleSubscribeFailure, retrySubscribe, if_true, if_pos hpos]
    exact ⟨hcancel, id⟩

theorem forgetting_failure (key : EntryKey) (transient : Bool) (lastError : Option String) :
    Forgetting mc (mc.handleSubscribeFailure env key transient lastError) (mc.forgottenByFailure env key transient) := by
  unfold forgottenByFailure
  split_ifs with h
  · obtain ⟨rfl, hlast⟩ := h
    obtain ⟨hindex, hstate⟩ := index_lastRetry hlast lastError
    by_cases hup : Upgraded mc.state
    · exact .ended hup hstate hindex
    · exact .kept (fun h => absurd h hup) hindex
  · obtain ⟨hindex, hstate⟩ := index_failure h lastError
    exact .kept hstate hindex

/-- Within a session. -/
theorem forgetting_failure_upgraded (hup : Upgraded mc.state) (key : EntryKey) (transient : Bool)
    (lastError : Option String) : Forgetting mc (mc.handleSubscribeFailure env key transient lastError) (.key key) := by
  by_cases h : transient = true ∧ mc.subscribeAckRemaining env key = 0
  · obtain ⟨rfl, hlast⟩ := h
    obtain ⟨hindex, hstate⟩ := index_lastRetry hlast lastError
    exact .ended hup hstate hindex
  · obtain ⟨hindex, hstate⟩ := index_failure h lastError
    exact .kept hstate hindex

/-! ### State by state -/

theorem forgetting_handleIdle (hs : mc.state = .idle) : Forgetting mc (mc.handleIdle env e) .nothing := by
  refine .outside (by simp [hs, Upgraded]) ?_
  cases e with
  | callStartConnect | callForceReconnect =>
    unfold handleIdle
    dsimp only
    split <;> rfl
  | _ => rfl

theorem forgetting_handleConnecting (hs : mc.state = .connecting) : Forgetting mc (mc.handleConnecting env e) .nothing := by
  refine .outside (by simp [hs, Upgraded]) ?_
  cases e with
  | wireUpgradeFailed =>
    unfold handleConnecting
    dsimp only
    split_ifs
    · exact index_connectFailedOrEscalate ..
    · rfl
  | wireConnectError =>
    unfold handleConnecting
    dsimp only
    split_ifs
    · exact index_connectFailedOrEscalate ..
    · rfl
  | timerUpgradeTimeout => exact index_attemptFailedOrEscalate ..
  | callForceReconnect =>
    unfold handleConnecting
    dsimp only
    split_ifs <;> rfl
  | _ => rfl

theorem forgetting_handleAuthenticating (hs : mc.state = .authenticating) :
    Forgetting mc (mc.handleAuthenticating env e) (forgottenBy .authenticating e) := by
  have hup : Upgraded mc.state := by rw [hs]; trivial
  cases e with
  | wireAuthHandshakeOk => exact .kept (fun _ => trivial) rfl
  | wireOrderAuthOk => exact .kept (fun _ => trivial) rfl
  | wireAuthHandshakeFailed kind =>
    cases kind with
    | tokenStale =>
      unfold handleAuthenticating
      dsimp only
      split_ifs
      · exact .ended hup not_false rfl
      · exact .same rfl rfl
    | badCreds => exact .ended hup not_false rfl
    | permissionDenied => exact .ended hup not_false rfl
    | transient => exact .ended hup (down_attemptFailedOrEscalate rfl ..).not_upgraded (index_attemptFailedOrEscalate ..)
  | wireCloseReceived =>
    exact .ended hup (down_closedDuringHandshake rfl ..).not_upgraded (index_closedDuringHandshake ..)
  | wireAbnormalClose =>
    exact .ended hup (down_attemptFailedOrEscalate rfl ..).not_upgraded (index_attemptFailedOrEscalate ..)
  | timerStalenessElapsed =>
    exact .ended hup (down_attemptFailedOrEscalate rfl ..).not_upgraded (index_attemptFailedOrEscalate ..)
  | busTokenRefreshFailed =>
    unfold handleAuthenticating
    dsimp only
    split_ifs
    · exact .ended hup (down_attemptFailedOrEscalate rfl ..).not_upgraded (index_attemptFailedOrEscalate ..)
    · exact .ended hup not_false rfl
  | timerSubscribeAckTimeout channel pair => exact forgetting_failure_upgraded hup (channel, pair) true none
  | callClose => exact .ended hup not_false rfl
  | callForceReconnect => exact .ended hup not_false rfl
  | _ => exact .same rfl rfl

theorem forgetting_handleResubscribing (hs : mc.state = .resubscribing) :
    Forgetting mc (mc.handleResubscribing env e) (forgottenBy .resubscribing e) := by
  have hup : Upgraded mc.state := by rw [hs]; trivial
  cases e with
  | wireSubscribeAck channel pair last =>
    cases last with
    | true => exact .kept (fun _ => trivial) (index_disarmSubscribeAck mc _)
    | false => exact .kept id (index_disarmSubscribeAck mc _)
  | wireSubscribeFailed => exact forgetting_failure_upgraded hup _ _ _
  | timerSubscribeAckTimeout channel pair => exact forgetting_failure_upgraded hup (channel, pair) true none
  | wireCloseReceived =>
    exact .ended hup (down_closedDuringHandshake rfl ..).not_upgraded (index_closedDuringHandshake ..)
  | wireAbnormalClose =>
    exact .ended hup (down_attemptFailedOrEscalate rfl ..).not_upgraded (index_attemptFailedOrEscalate ..)
  | timerStalenessElapsed =>
    exact .ended hup (down_attemptFailedOrEscalate rfl ..).not_upgraded (index_attemptFailedOrEscalate ..)
  | callClose => exact .ended hup not_false rfl
  | callForceReconnect => exact .ended hup not_false rfl
  | _ => exact .same rfl rfl

theorem forgetting_handleOpen (hs : mc.state = .opened) : Forgetting mc (mc.handleOpen env e) (forgottenBy .opened e) := by
  have hup : Upgraded mc.state := by rw [hs]; trivial
  cases e with
  | wireSubscribeAck => exact .kept id (index_disarmSubscribeAck mc _)
  | wireSubscribeFailed => exact forgetting_failure_upgraded hup _ _ _
  | timerSubscribeAckTimeout channel pair => exact forgetting_failure_upgraded hup (channel, pair) true none
  | wireCloseReceived =>
    unfold handleOpen
    dsimp only
    split_ifs
    · exact .ended hup not_false rfl
    · exact .ended hup (down_droppedOrEscalate rfl _ _).not_upgraded (index_droppedOrEscalate ..)
  | wireAbnormalClose => exact .ended hup (down_droppedOrEscalate rfl _ _).not_upgraded (index_droppedOrEscalate ..)
  | timerStalenessElapsed => exact .ended hup (down_droppedOrEscalate rfl _ _).not_upgraded (index_droppedOrEscalate ..)
  | callClose => exact .ended hup not_false rfl
  | callForceReconnect => exact .ended hup not_false rfl
  | _ => exact .same rfl rfl

theorem forgetting_handleBackingOff (hs : mc.state = .backingOff) : Forgetting mc (mc.handleBackingOff env e) .nothing := by
  refine .outside (by simp [hs, Upgraded]) ?_
  cases e with
  | timerBackoffElapsed | timerRateBudgetWindowAdvanced =>
    unfold handleBackingOff
    dsimp only
    split <;> rfl
  | callForceReconnect =>
    unfold handleBackingOff
    dsimp only
    split
    · exact index_latchConnect ..
    · exact index_latchConnect ..
  | _ => rfl

theorem forgetting_handleClosing (hs : mc.state = .closing) : Forgetting mc (mc.handleClosing env e) .nothing := by
  refine .outside (by simp [hs, Upgraded]) ?_
  cases e with
  | wireCloseReceived | wireAbnormalClose | timerCloseTimeout => exact index_enterClosedOrReconnect ..
  | callClose | callForceReconnect =>
    unfold handleClosing
    dsimp only
    split <;> rfl
  | _ => rfl

theorem forgetting_handleFailed (hs : mc.state = .failed) : Forgetting mc (mc.handleFailed env e) .nothing := by
  refine .outside (by simp [hs, Upgraded]) ?_
  cases e with
  | callForceReconnect =>
    unfold handleFailed
    dsimp only
    split <;> rfl
  | _ => rfl

/-- **What an event does to the index.** -/
theorem forgetting_handleEvent (mc : ManagedConnection) (env : Env) (e : FsmEvent) :
    Forgetting mc (mc.handleEvent env e) (forgottenBy mc.state e) := by
  cases hs : mc.state <;> simp only [handleEvent, hs]
  case idle => exact forgetting_handleIdle hs
  case connecting => exact forgetting_handleConnecting hs
  case authenticating => exact forgetting_handleAuthenticating hs
  case resubscribing => exact forgetting_handleResubscribing hs
  case opened => exact forgetting_handleOpen hs
  case backingOff => exact forgetting_handleBackingOff hs
  case closing => exact forgetting_handleClosing hs
  case closed => exact .same rfl rfl
  case failed => exact forgetting_handleFailed hs

theorem forgetting_deliver (mc : ManagedConnection) (env : Env) (e : FsmEvent) :
    Forgetting mc (mc.deliver env e) (forgottenBy mc.state e) := by
  have hevent := forgetting_handleEvent (mc.popTimerForEvent e) env e
  rw [popTimerForEvent_state] at hevent
  cases hevent with
  | kept hstate hindex =>
    rw [popTimerForEvent_state] at hstate
    exact .kept hstate (hindex.trans (by rw [index_popTimerForEvent]))
  | ended hbefore hafter hindex =>
    rw [popTimerForEvent_state] at hbefore
    exact .ended hbefore hafter (hindex.trans (by rw [index_popTimerForEvent]))

/-! ## Runs -/

/-- One action on the connection. A frame is sent under an id drawn for it (`sendAndArm`), so the bookkeeping methods
are those other than the recording of an id. -/
inductive IndexLabel where
  | event (env : Env) (e : FsmEvent)
  | update (env : Env) (u : Update) (h : ∀ reqId key, u ≠ .recordSubscribeReqId reqId key)
  | request (env : Env) (r : RequestUpdate)
  | failure (env : Env) (key : EntryKey) (transient : Bool) (lastError : Option String)
  | teardown
  | send (env : Env) (socket : SocketId) (f : SubscribeFrame) (context : String)

/-- One step. -/
def indexStep (mc : ManagedConnection) : IndexLabel → ManagedConnection
  | .event env e => mc.deliver env e
  | .update env u _ => mc.applyUpdate env u
  | .request env r => mc.applyRequest env r
  | .failure env key transient lastError => mc.handleSubscribeFailure env key transient lastError
  | .teardown => mc.clearSubscribeAckState
  | .send env socket f context => mc.sendAndArm env socket f context

/-- The socket takes a frame for the key, under the id. -/
def Sends (mc : ManagedConnection) : IndexLabel → EntryKey → Nat → Prop
  | .send _ _ f _, key, reqId => f.sent = .ok () ∧ f.key = key ∧ mc.nextSubscribeReqId = reqId
  | _, _, _ => False

/-- The ids are drawn below the end of the counter. -/
def BelowMax (mc : ManagedConnection) (l : IndexLabel) : Prop := ∀ key reqId, mc.Sends l key reqId → reqId < u64Max

/-- What an action forgets of a connection that it does not take out of its session. -/
def forgotten (mc : ManagedConnection) : IndexLabel → Forgotten
  | .event _ e => forgottenBy mc.state e
  | .update _ (.disarmSubscribeAck key) _ => .key key
  | .update _ _ _ => .nothing
  | .request _ _ => .nothing
  | .failure env key transient _ => mc.forgottenByFailure env key transient
  | .teardown => .all
  | .send env _ f _ =>
    match f.sent with
    | .error .backpressure => mc.forgottenByFailure env f.key true
    | _ => .nothing

/-- The end of a session, by whatever event. -/
def EndsSession (mc : ManagedConnection) (l : IndexLabel) : Prop :=
  Upgraded mc.state ∧ ¬ Upgraded (mc.indexStep l).state

/-- The key's frame is answered, failed or disarmed, or all frames are torn down. -/
def Forgets (mc : ManagedConnection) (l : IndexLabel) (key : EntryKey) : Prop :=
  mc.EndsSession l ∨ mc.forgotten l = .all ∨ mc.forgotten l = .key key

/-- Whatever frame the key had, it is superseded or forgotten. -/
def Retires (mc : ManagedConnection) (l : IndexLabel) (key : EntryKey) : Prop :=
  (∃ reqId, mc.Sends l key reqId) ∨ mc.Forgets l key

/-- A frame the socket takes is recorded. -/
theorem index_sent {f : SubscribeFrame} (hsent : f.sent = .ok ()) (socket : SocketId) (context : String) :
    (mc.sendAndArm env socket f context).index = mc.index.draw.record mc.nextSubscribeReqId f.key := by
  simp only [sendAndArm, sendSubscribeFrame, hsent]
  exact index_recordSubscribeReqId (mc.takeSubscribeReqId.2.perform _) mc.nextSubscribeReqId f.key

/-- An update keeps the index, draws an id or disarms a key. -/
theorem forgetting_applyUpdate (u : Update) (h : ∀ reqId key, u ≠ .recordSubscribeReqId reqId key) :
    ∃ m, (m = mc ∨ m = mc.takeSubscribeReqId.2) ∧ Forgetting m (mc.applyUpdate env u) (mc.forgotten (.update env u h)) := by
  cases u with
  | recordSubscribeReqId reqId key => exact absurd rfl (h reqId key)
  | takeSubscribeReqId => exact ⟨_, .inr rfl, .same rfl rfl⟩
  | disarmSubscribeAck key => exact ⟨mc, .inl rfl, .kept id (index_disarmSubscribeAck mc key)⟩
  | deferOpenAuthSubscribe key params =>
    exact ⟨mc, .inl rfl, .same (state_deferOpenAuthSubscribe mc key params) (index_deferOpenAuthSubscribe mc key params)⟩
  | completeResubscribeIfEmpty =>
    refine ⟨mc, .inl rfl, .kept upgraded_completeResubscribeIfEmpty ?_⟩
    exact index_completeResubscribeIfEmpty mc env
  | _ => exact ⟨mc, .inl rfl, .same rfl rfl⟩

theorem forgetting_applyRequest (r : RequestUpdate) : Forgetting mc (mc.applyRequest env r) .nothing := by
  cases r <;> exact .same rfl rfl

/-- A frame the socket does not take: the id is drawn, and the failure handled. -/
theorem forgetting_unsent {f : SubscribeFrame} (hsent : f.sent ≠ .ok ()) (socket : SocketId) (context : String) :
    Forgetting mc.takeSubscribeReqId.2 (mc.sendAndArm env socket f context)
      (mc.forgotten (.send env socket f context)) := by
  simp only [forgotten, sendAndArm, sendSubscribeFrame]
  cases hf : f.sent with
  | ok => exact absurd hf hsent
  | error err =>
    cases err with
    | backpressure => exact forgetting_failure f.key true none
    | writerClosed =>
      have hevent := forgetting_handleEvent mc.takeSubscribeReqId.2 env
        (.wireAbnormalClose { kind := .abnormalClose context, transient := true })
      have hnothing : ∀ s, forgottenBy s (.wireAbnormalClose { kind := .abnormalClose context, transient := true }) =
          .nothing := by
        intro s
        cases s <;> rfl
      rwa [hnothing] at hevent

theorem sends_inj {l : IndexLabel} {key key' : EntryKey} {reqId reqId' : Nat} (h : mc.Sends l key reqId)
    (h' : mc.Sends l key' reqId') : key = key' ∧ reqId = reqId' := by
  cases l with
  | send => exact ⟨h.2.1.symm.trans h'.2.1, h.2.2.symm.trans h'.2.2⟩
  | _ => exact h.elim

/-- A frame the socket takes is the next to be recorded, and nothing is forgotten with it. -/
theorem not_forgets_of_sends {l : IndexLabel} {key : EntryKey} {reqId : Nat} (h : mc.Sends l key reqId) (key' : EntryKey) :
    ¬ mc.Forgets l key' := by
  cases l with
  | send env socket f context =>
    have hstate : (mc.sendAndArm env socket f context).state = mc.state := by
      simp only [sendAndArm, sendSubscribeFrame, h.1]
      rfl
    have hnothing : mc.forgotten (.send env socket f context) = .nothing := by
      simp only [forgotten, h.1]
    rintro (hends | hall | hkey)
    · exact hends.2 (hstate ▸ hends.1)
    · cases hnothing.symm.trans hall
    · cases hnothing.symm.trans hkey
  | _ => exact h.elim

/-- **What an action does to the index**: it records the frame that was sent, or forgets. -/
theorem indexStep_cases (mc : ManagedConnection) (l : IndexLabel) :
    (∃ key, mc.Sends l key mc.nextSubscribeReqId ∧
      (mc.indexStep l).index = mc.index.draw.record mc.nextSubscribeReqId key) ∨
    (∀ key reqId, ¬ mc.Sends l key reqId) ∧
      ∃ m, (m = mc ∨ m = mc.takeSubscribeReqId.2) ∧ Forgetting m (mc.indexStep l) (mc.forgotten l) := by
  cases l with
  | event env e => exact .inr ⟨fun _ _ => id, mc, .inl rfl, forgetting_deliver mc env e⟩
  | update env u h => exact .inr ⟨fun _ _ => id, forgetting_applyUpdate u h⟩
  | request env r => exact .inr ⟨fun _ _ => id, mc, .inl rfl, forgetting_applyRequest r⟩
  | failure env key transient lastError =>
    exact .inr ⟨fun _ _ => id, mc, .inl rfl, forgetting_failure key transient lastError⟩
  | teardown => exact .inr ⟨fun _ _ => id, mc, .inl rfl, .kept id rfl⟩
  | send env socket f context =>
    by_cases hsent : f.sent = .ok ()
    · exact .inl ⟨f.key, ⟨hsent, rfl, rfl⟩, index_sent hsent socket context⟩
    · exact .inr ⟨fun _ _ h => hsent h.1, _, .inr rfl, forgetting_unsent hsent socket context⟩

section step

variable {l : IndexLabel}

theorem coherent_indexStep (hc : mc.index.Coherent) (hl : mc.BelowMax l) : (mc.indexStep l).index.Coherent := by
  rcases indexStep_cases mc l with ⟨key, hsends, hindex⟩ | ⟨-, m, hm, hforgetting⟩
  · rw [hindex]
    exact hc.record (hl key _ hsends) key
  · have hdrawn : m.index.Coherent := by
      rcases hm with rfl | rfl
      · exact hc
      · exact hc.draw
    cases hforgetting with
    | kept _ hindex =>
      rw [hindex]
      exact hdrawn.drop _
    | ended _ _ hindex =>
      rw [hindex]
      exact hdrawn.drop .all

theorem next_le_indexStep (hc : mc.index.Coherent) : mc.index.next ≤ (mc.indexStep l).index.next := by
  have hdraw : mc.index.next ≤ mc.index.draw.next := by
    have hmax := hc.bounded
    show mc.index.next ≤ min (mc.index.next + 1) u64Max
    omega
  rcases indexStep_cases mc l with ⟨key, -, hindex⟩ | ⟨-, m, hm, hforgetting⟩
  · rw [hindex]
    exact hdraw
  · have hdrawn : mc.index.next ≤ m.index.next := by
      rcases hm with rfl | rfl
      · exact Nat.le_refl _
      · exact hdraw
    cases hforgetting with
    | kept _ hindex =>
      rw [hindex]
      cases mc.forgotten l <;> exact hdrawn
    | ended _ _ hindex =>
      rw [hindex]
      exact hdrawn

/-- **What an action does to the row of a key**: the id of the frame sent for it, or what it was, unless retired. -/
theorem recorded_indexStep (mc : ManagedConnection) (l : IndexLabel) (key : EntryKey) (reqId : Nat) :
    (mc.indexStep l).subscribeReqIdByKey.lookup key = some reqId ↔
      mc.Sends l key reqId ∨ mc.subscribeReqIdByKey.lookup key = some reqId ∧ ¬ mc.Retires l key := by
  show (mc.indexStep l).index.byKey.lookup key = some reqId ↔ _
  rcases indexStep_cases mc l with ⟨k, hsends, hindex⟩ | ⟨hno, m, hm, hforgetting⟩
  · rw [hindex]
    show (mc.subscribeReqIdByKey.insert k mc.nextSubscribeReqId).lookup key = some reqId ↔ _
    rw [HashMap.lookup_insert_ite]
    by_cases hk : key = k
    · subst hk
      rw [if_pos rfl]
      constructor
      · rintro ⟨⟩
        exact .inl hsends
      · rintro (hsends' | ⟨-, hnot⟩)
        · rw [(sends_inj hsends hsends').2]
        · exact absurd (.inl ⟨_, hsends⟩) hnot
    · rw [if_neg hk]
      have hkept : ¬ mc.Retires l key := by
        rintro (⟨_, hsends'⟩ | hforgets)
        · exact hk (sends_inj hsends' hsends).1
        · exact not_forgets_of_sends hsends key hforgets
      constructor
      · exact fun h => .inr ⟨h, hkept⟩
      · rintro (hsends' | ⟨h, -⟩)
        · exact absurd (sends_inj hsends' hsends).1 hk
        · exact h
  · have hrow : m.index.byKey = mc.subscribeReqIdByKey := by rcases hm with rfl | rfl <;> rfl
    have hstate : m.state = mc.state := by rcases hm with rfl | rfl <;> rfl
    have hretires : mc.Retires l key ↔ mc.Forgets l key := or_iff_right fun ⟨r, h⟩ => hno key r h
    rw [or_iff_right (hno key reqId), hretires]
    cases hforgetting with
    | kept hup hindex =>
      have hlives : ¬ mc.EndsSession l := fun hends => hends.2 (hup (hstate.symm ▸ hends.1))
      rw [hindex, SubscribeIndex.lookup_drop, hrow, Forgets, or_iff_right hlives]
    | ended hbefore hafter hindex =>
      rw [hindex]
      refine iff_of_false (fun h => ?_) fun h => h.2 (.inl ⟨hstate ▸ hbefore, hafter⟩)
      cases (AList.lookup_empty key).symm.trans h

/-- An id that resolves to no other key resolves to no other key later, and once the key is retired to none. -/
theorem resolves_indexStep (hc : mc.index.Coherent) (hl : mc.BelowMax l) {reqId : Nat} (hdrawn : reqId < mc.index.next)
    {key : EntryKey} (h : (mc.indexStep l).resolveSubscribeReqId reqId = some key) :
    mc.resolveSubscribeReqId reqId = some key ∧ ¬ mc.Retires l key := by
  have hrecorded := ((coherent_indexStep hc hl).inverse reqId key).1 h
  rcases (recorded_indexStep mc l key reqId).1 hrecorded with hsends | ⟨hrow, hkept⟩
  · have hnext : mc.nextSubscribeReqId = reqId := by
      cases l with
      | send => exact hsends.2.2
      | _ => exact hsends.elim
    exact absurd hnext (Nat.ne_of_gt hdrawn)
  · exact ⟨(hc.inverse reqId key).2 hrow, hkept⟩

end step

/-! ### The sends of the reactor are runs -/

theorem sendFrames_run (mc : ManagedConnection) (env : Env) (socket : SocketId) (context : String) (fs : List SubscribeFrame) :
    ∃ ls, StepSystem.exec indexStep mc ls = mc.sendFrames env socket context fs := by
  induction fs generalizing mc with
  | nil => exact ⟨[], rfl⟩
  | cons f fs ih =>
    refine StepSystem.exists_exec_cons (.send env socket f context) ?_
    show ∃ ls, StepSystem.exec indexStep (mc.sendAndArm env socket f context) ls = _
    simp only [sendFrames, sendAndArm]
    generalize mc.takeSubscribeReqId.2.sendSubscribeFrame env socket f mc.takeSubscribeReqId.1 context = out
    obtain ⟨outcome, m⟩ := out
    cases outcome with
    | sent => exact ih (m.armSubscribeAckTimerWithReqId env f.key mc.takeSubscribeReqId.1)
    | backpressured =>
      dsimp only
      split_ifs
      · exact ih m
      · exact ⟨[], rfl⟩
    | writerDead => exact ⟨[], rfl⟩

theorem replayFrames_run (mc : ManagedConnection) (env : Env) (socket : SocketId) (fs : List (SubscribeFrame × Bool)) :
    ∃ ls, StepSystem.exec indexStep mc ls = mc.replayFrames env socket fs := by
  induction fs generalizing mc with
  | nil => exact ⟨[], rfl⟩
  | cons row fs ih =>
    obtain ⟨f, resyncing⟩ := row
    refine StepSystem.exists_exec_cons
      (.send env socket f "outbound writer task terminated (resubscribe replay)") ?_
    show ∃ ls, StepSystem.exec indexStep
      (mc.sendAndArm env socket f "outbound writer task terminated (resubscribe replay)") ls = _
    simp only [replayFrames, sendAndArm]
    generalize mc.takeSubscribeReqId.2.sendSubscribeFrame env socket f mc.takeSubscribeReqId.1
      "outbound writer task terminated (resubscribe replay)" = out
    obtain ⟨outcome, m⟩ := out
    cases outcome with
    | sent =>
      cases resyncing with
      | true =>
        refine StepSystem.exists_exec_cons
          (.update env (.armBookReseedSnapshot f.key (ackDueAt env)) (by rintro _ _ ⟨⟩)) ?_
        exact ih ((m.armSubscribeAckTimerWithReqId env f.key mc.takeSubscribeReqId.1).armBookReseedSnapshot f.key
          (ackDueAt env))
      | false => exact ih (m.armSubscribeAckTimerWithReqId env f.key mc.takeSubscribeReqId.1)
    | backpressured =>
      dsimp only
      split_ifs
      · exact ih m
      · exact ⟨[], rfl⟩
    | writerDead => exact ⟨[], rfl⟩

/-! ### The index over a run -/

/-- The steps of a run draw their ids below the end of the counter. -/
abbrev DrawnBelowMax (url : WsUrl) (knobs : Knobs) (ls : List IndexLabel) : Prop :=
  StepSystem.Allowed indexStep BelowMax (new url knobs) ls

section run

variable {url : WsUrl} {knobs : Knobs} {ls : List IndexLabel}

theorem coherent_exec (hc : mc.index.Coherent) (hls : StepSystem.Allowed indexStep BelowMax mc ls) :
    (StepSystem.exec indexStep mc ls).index.Coherent := by
  induction ls generalizing mc with
  | nil => exact hc
  | cons l ls ih => exact ih (coherent_indexStep hc hls.1) hls.2

theorem next_le_exec (hc : mc.index.Coherent) (hls : StepSystem.Allowed indexStep BelowMax mc ls) :
    mc.index.next ≤ (StepSystem.exec indexStep mc ls).index.next := by
  induction ls generalizing mc with
  | nil => exact Nat.le_refl _
  | cons l ls ih => exact Nat.le_trans (next_le_indexStep hc) (ih (coherent_indexStep hc hls.1) hls.2)

/-- What an id still resolves to after a run, it resolved to before; nothing retired the key. -/
theorem resolves_exec (hc : mc.index.Coherent) (hls : StepSystem.Allowed indexStep BelowMax mc ls) {reqId : Nat}
    (hdrawn : reqId < mc.index.next) {key : EntryKey}
    (h : (StepSystem.exec indexStep mc ls).resolveSubscribeReqId reqId = some key) :
    mc.resolveSubscribeReqId reqId = some key := by
  induction ls generalizing mc with
  | nil => exact h
  | cons l ls ih =>
    obtain ⟨hl, hls⟩ := hls
    have hstep := ih (coherent_indexStep hc hl) hls (Nat.lt_of_lt_of_le hdrawn (next_le_indexStep hc)) h
    exact (resolves_indexStep hc hl hdrawn hstep).1

/-- The id of a frame, once drawn, resolves to the key of the frame if to any. -/
theorem resolves_sent (hc : mc.index.Coherent) {l : IndexLabel} (hl : mc.BelowMax l) {key k : EntryKey} {reqId : Nat}
    (hsends : mc.Sends l key reqId) : reqId < (mc.indexStep l).index.next ∧
      ((mc.indexStep l).resolveSubscribeReqId reqId = some k → k = key) := by
  have hcoherent := coherent_indexStep hc hl
  have hrow : (mc.indexStep l).subscribeReqIdByKey.lookup key = some reqId :=
    (recorded_indexStep mc l key reqId).2 (.inl hsends)
  refine ⟨hcoherent.drawn reqId key hrow, fun h => ?_⟩
  exact Option.some.inj (h.symm.trans ((hcoherent.inverse reqId key).2 hrow))

/-- The id of a frame that was retired resolves to no key again. -/
theorem resolves_retired (hc : mc.index.Coherent) {l l' : IndexLabel} {mid after : List IndexLabel}
    (hls : StepSystem.Allowed indexStep BelowMax mc (l :: (mid ++ l' :: after))) {key : EntryKey} {reqId : Nat}
    (hsends : mc.Sends l key reqId) (hretires : Retires (StepSystem.exec indexStep (mc.indexStep l) mid) l' key) :
    (StepSystem.exec indexStep mc (l :: (mid ++ l' :: after))).resolveSubscribeReqId reqId = none := by
  obtain ⟨hl, hrest⟩ := hls
  obtain ⟨hmid, hl', hafter⟩ := StepSystem.allowed_append.1 hrest
  have hsent := coherent_indexStep hc hl
  have hbefore := coherent_exec hsent hmid
  have hdrawn : reqId < (StepSystem.exec indexStep (mc.indexStep l) mid).index.next :=
    Nat.lt_of_lt_of_le (resolves_sent (k := key) hc hl hsends).1 (next_le_exec hsent hmid)
  rw [StepSystem.exec_cons, StepSystem.exec_append, StepSystem.exec_cons, Option.eq_none_iff_forall_not_mem]
  intro k hk
  -- Back from the end: what it resolves to now it resolved to when it was sent, and nothing retired that key.
  have hthen := resolves_exec (coherent_indexStep hbefore hl') hafter (Nat.lt_of_lt_of_le hdrawn (next_le_indexStep hbefore)) hk
  obtain ⟨hmid', hkept⟩ := resolves_indexStep hbefore hl' hdrawn hthen
  have hstart := resolves_exec hsent hmid (resolves_sent (k := key) hc hl hsends).1 hmid'
  rw [(resolves_sent hc hl hsends).2 hstart] at hkept
  exact hkept hretires

/-- **The subscribe `req_id` index is a bijection.** After any run an id resolves to a key exactly if the key's recorded
id is that one, so that no key has two; the id recorded for a key is that of the latest frame sent for it, unless it was
forgotten since; and the id of a frame that was superseded or forgotten resolves to no key. -/
theorem subscribeReqIds_bijective (h : DrawnBelowMax url knobs ls) :
    (∀ reqId key, (StepSystem.exec indexStep (new url knobs) ls).resolveSubscribeReqId reqId = some key ↔
      (StepSystem.exec indexStep (new url knobs) ls).subscribeReqIdByKey.lookup key = some reqId) ∧
    (∀ key reqId reqId', (StepSystem.exec indexStep (new url knobs) ls).resolveSubscribeReqId reqId = some key →
      (StepSystem.exec indexStep (new url knobs) ls).resolveSubscribeReqId reqId' = some key → reqId = reqId') ∧
    (∀ key reqId, (StepSystem.exec indexStep (new url knobs) ls).subscribeReqIdByKey.lookup key = some reqId ↔
      StepSystem.Since indexStep (Sends · · key reqId) (Retires · · key) (new url knobs) ls) ∧
    (∀ before l mid l' after key reqId, ls = before ++ l :: (mid ++ l' :: after) →
      Sends (StepSystem.exec indexStep (new url knobs) before) l key reqId →
      Retires (StepSystem.exec indexStep (new url knobs) (before ++ l :: mid)) l' key →
      (StepSystem.exec indexStep (new url knobs) ls).resolveSubscribeReqId reqId = none) := by
  have hnew := coherent_new url knobs
  have hinverse := (coherent_exec hnew h).inverse
  refine ⟨hinverse, fun key reqId reqId' h₁ h₂ => hinverse.inj h₁ h₂, fun key reqId => ?_, ?_⟩
  · refine StepSystem.iff_since (P := fun mc => mc.subscribeReqIdByKey.lookup key = some reqId)
      (J := fun mc => mc.index.Coherent) (fun _ _ hc hl => coherent_indexStep hc hl)
      (fun mc l _ _ => recorded_indexStep mc l key reqId) hnew ?_ h
    intro hnone
    cases (AList.lookup_empty key).symm.trans hnone
  · rintro before l mid l' after key reqId rfl hsends hretires
    obtain ⟨hbefore, hrest⟩ := StepSystem.allowed_append.1 h
    rw [StepSystem.exec_append, StepSystem.exec_cons] at hretires
    rw [StepSystem.exec_append]
    exact resolves_retired (coherent_exec hnew hbefore) hrest hsends hretires

end run

/-- The status subscription of a public connection. -/
def statusFrame : SubscribeFrame where
  key := (.status, none)
  params := .status
  sent := .ok ()

/-- It comes up and sends one frame twice, as after an ack timeout. -/
def resentRun : List IndexLabel :=
  [ .event orderEnv.toEnv (.callStartConnect 7),
    .event orderEnv.toEnv (.wireUpgradeOk (some 1)),
    .send orderEnv.toEnv 1 statusFrame "",
    .send orderEnv.toEnv 1 statusFrame "" ]

/-- A late ack of the first frame resolves to nothing. -/
theorem subscribeReqIds_bijective_resent :
    (StepSystem.exec indexStep (new .publicUrl orderEnv.knobs) resentRun).resolveSubscribeReqId 1 = none ∧
    (StepSystem.exec indexStep (new .publicUrl orderEnv.knobs) resentRun).resolveSubscribeReqId 2 = some statusFrame.key := by
  have hdrawn : DrawnBelowMax .publicUrl orderEnv.knobs resentRun := by
    refine ⟨fun _ _ h => h.elim, fun _ _ h => h.elim, ?_, ?_, trivial⟩
    · rintro key reqId ⟨-, -, rfl⟩
      decide
    · rintro key reqId ⟨-, -, rfl⟩
      decide
  obtain ⟨hbijective, -, -, hretired⟩ := subscribeReqIds_bijective hdrawn
  refine ⟨?_, (hbijective 2 statusFrame.key).2 (by decide)⟩
  exact hretired (resentRun.take 2) (.send orderEnv.toEnv 1 statusFrame "") [] (.send orderEnv.toEnv 1 statusFrame "") []
    statusFrame.key 1 rfl ⟨rfl, rfl, by decide⟩ (.inl ⟨2, rfl, rfl, by decide⟩)

end ManagedConnection

end KrakenSdk.Conn
