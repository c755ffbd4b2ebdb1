import KrakenSdk.Conn.Runs
/-!
# The lifecycle waiters of a connection

A `connect()`, `force_reconnect()` or `close()` call waits for an event stamped with its request id.
`WaiterBook` is what the FSM keeps for them: the five slots a waiter's id is held in and the ids
its terminal events have been stamped with so far.

* `settles_step`: one step of the FSM balances its waiters. An id it accepts is held or answered
  after it, and so is every id held before it, with two exceptions named by their own definitions:
  `uncohorted` (a `force_reconnect()` during a first bring-up, which the source holds nowhere) and
  `overwritten` (a connect waiter still held when a close ends into a latched `force_reconnect()`).
* `waiter_held_or_answered`: so in every run with distinct call ids, every accepted id apart from
  those two kinds is held in exactly one slot, or has been answered, and never both.
* `forceReconnect_uncohorted`: a run in which the first exception occurs.
-/
namespace KrakenSdk.Conn

/-- The call id an event answers a connect waiter with: `Open`, `Reopened` or `Failed`. -/
def Effect.connectStamp : Effect → Option Nat
  | .publish { requestId, payload := .connectionOpenEvent .., .. } => requestId
  | .publish { requestId, payload := .connectionReopenedEvent .., .. } => requestId
  | .publish { requestId, payload := .connectionFailedEvent .., .. } => requestId
  | _ => none

/-- The call id an event answers a close waiter with. -/
def Effect.closeStamp : Effect → Option Nat
  | .publish { requestId, payload := .connectionClosedEvent .., .. } => requestId
  | _ => none

/-! ## The book of waiters -/

/-- The slots of the waiters, and the ids answered so far. -/
structure WaiterBook where
  pendingConnect : Option Nat
  pendingClose : Option Nat
  pendingReconnect : Option Nat
  additionalCloses : List Nat
  additionalConnects : List Nat
  answeredConnects : List Nat
  answeredCloses : List Nat

namespace WaiterBook

/-- The ids held in the five slots. -/
def slots (b : WaiterBook) : List Nat :=
  b.pendingConnect.toList ++ b.pendingClose.toList ++ b.pendingReconnect.toList ++ b.additionalCloses ++
    b.additionalConnects

/-- The connect waiters: held or answered. -/
def connects (b : WaiterBook) : List Nat :=
  b.pendingConnect.toList ++ b.pendingReconnect.toList ++ b.additionalConnects ++ b.answeredConnects

/-- The close waiters: held or answered. -/
def closes (b : WaiterBook) : List Nat := b.pendingClose.toList ++ b.additionalCloses ++ b.answeredCloses

/-- Answer every connect waiter but the latched reconnect. -/
def answerConnects (b : WaiterBook) : WaiterBook :=
  { b with pendingConnect := none, additionalConnects := []
           answeredConnects := b.answeredConnects ++ (b.pendingConnect.toList ++ b.additionalConnects) }

/-- Answer every close waiter. -/
def answerCloses (b : WaiterBook) : WaiterBook :=
  { b with pendingClose := none, additionalCloses := []
           answeredCloses := b.answeredCloses ++ (b.pendingClose.toList ++ b.additionalCloses) }

/-- Nothing is latched for the end of a close: what holds outside `Closing`. -/
structure Unlatched (b : WaiterBook) : Prop where
  close : b.pendingClose = none
  closes : b.additionalCloses = []
  reconnect : b.pendingReconnect = none

/-- The slots a state may hold an id in. -/
def Fits (b : WaiterBook) (s : ConnectionState) : Prop :=
  (s ≠ .closing → b.Unlatched) ∧ (s = .idle ∨ s = .failed → b.pendingConnect = none)

/-- From `b` to `b'` the ids `conns` and `closes` were taken in, the ids `drops` were let go, and
every other id is where it was: held or answered. -/
structure Balanced (b b' : WaiterBook) (conns closes drops : List Nat) : Prop where
  connects : ∀ rid, b'.connects.count rid + drops.count rid = b.connects.count rid + conns.count rid
  closes : ∀ rid, b'.closes.count rid = b.closes.count rid + closes.count rid

theorem Balanced.refl (b : WaiterBook) : Balanced b b [] [] [] := ⟨fun _ => rfl, fun _ => rfl⟩

theorem balanced_answerConnects (b : WaiterBook) : Balanced b b.answerConnects [] [] [] := by
  refine ⟨fun rid => ?_, fun _ => rfl⟩
  simp only [connects, answerConnects, List.count_append, Option.toList_none, List.count_nil]
  omega

theorem balanced_answerCloses (b : WaiterBook) : Balanced b b.answerCloses [] [] [] := by
  refine ⟨fun _ => rfl, fun rid => ?_⟩
  simp only [closes, answerCloses, List.count_append, Option.toList_none, List.count_nil]
  omega

/-- A waiter takes the close latch. -/
theorem balanced_latchClose {b : WaiterBook} (h : b.pendingClose = none) (rid : Nat) :
    Balanced b { b with pendingClose := some rid } [] [rid] [] := by
  refine ⟨fun _ => rfl, fun r => ?_⟩
  simp only [closes, h, List.count_append, Option.toList_none, Option.toList_some, List.count_nil]
  omega

/-- A waiter takes the reconnect latch. -/
theorem balanced_latchReconnect {b : WaiterBook} (h : b.pendingReconnect = none) (rid : Nat) :
    Balanced b { b with pendingReconnect := some rid } [rid] [] [] := by
  refine ⟨fun r => ?_, fun _ => rfl⟩
  simp only [connects, h, List.count_append, Option.toList_none, Option.toList_some, List.count_nil]
  omega

/-- A waiter takes the connect latch. -/
theorem balanced_latchConnect {b : WaiterBook} (h : b.pendingConnect = none) (rid : Nat) :
    Balanced b { b with pendingConnect := some rid } [rid] [] [] := by
  refine ⟨fun r => ?_, fun _ => rfl⟩
  simp only [connects, h, List.count_append, Option.toList_none, Option.toList_some, List.count_nil]
  omega

/-- A waiter joins the cohort behind the connect latch. -/
theorem balanced_joinConnects (b : WaiterBook) (rid : Nat) :
    Balanced b { b with additionalConnects := b.additionalConnects ++ [rid] } [rid] [] [] := by
  refine ⟨fun r => ?_, fun _ => rfl⟩
  simp only [connects, List.count_append, List.count_nil]
  omega

/-- A waiter joins the cohort behind the close latch. -/
theorem balanced_joinCloses (b : WaiterBook) (rid : Nat) :
    Balanced b { b with additionalCloses := b.additionalCloses ++ [rid] } [] [rid] [] := by
  refine ⟨fun _ => rfl, fun r => ?_⟩
  simp only [closes, List.count_append]
  omega

/-- A waiter is answered at once. -/
theorem balanced_closeAtOnce (b : WaiterBook) (rid : Nat) :
    Balanced b { b with answeredCloses := b.answeredCloses ++ [rid] } [] [rid] [] := by
  refine ⟨fun _ => rfl, fun r => ?_⟩
  simp only [closes, List.count_append]
  omega

/-- A waiter is held nowhere. -/
theorem balanced_drop (b : WaiterBook) (rid : Nat) : Balanced b b [rid] [] [rid] := ⟨fun _ => rfl, fun _ => rfl⟩

/-- The latched reconnect becomes the connect waiter: the one that was held is let go. -/
theorem balanced_reconnect {b : WaiterBook} {rid : Nat} (h : b.pendingReconnect = some rid) :
    Balanced b { b.answerCloses with pendingReconnect := none, pendingConnect := some rid } [] []
      b.pendingConnect.toList := by
  constructor <;> intro r
  · simp only [connects, answerCloses, h, List.count_append, Option.toList_none, Option.toList_some, List.count_nil]
    omega
  · exact (balanced_answerCloses b).closes r

theorem Unlatched.fits {b : WaiterBook} {s : ConnectionState} (h : b.Unlatched) (hi : s ≠ .idle) (hf : s ≠ .failed) :
    b.Fits s := by
  refine ⟨fun _ => h, ?_⟩
  rintro (hs | hs) <;> contradiction

theorem fits_closing (b : WaiterBook) : b.Fits .closing := by
  refine ⟨fun h => absurd rfl h, ?_⟩
  rintro (hs | hs) <;> contradiction

theorem Unlatched.fits_answered {b : WaiterBook} {s : ConnectionState} (h : b.Unlatched) : b.answerConnects.Fits s :=
  ⟨fun _ => ⟨h.close, h.closes, h.reconnect⟩, fun _ => rfl⟩

theorem count_slots (b : WaiterBook) (rid : Nat) :
    b.slots.count rid + b.answeredConnects.count rid + b.answeredCloses.count rid =
      b.connects.count rid + b.closes.count rid := by
  simp only [slots, connects, closes, List.count_append]
  omega

end WaiterBook

namespace ManagedConnection

open WaiterBook StepSystem

/-- The book of a connection. -/
def book (mc : ManagedConnection) : WaiterBook where
  pendingConnect := mc.pendingConnectRequestId
  pendingClose := mc.pendingCloseRequestId
  pendingReconnect := mc.pendingReconnectRequestId
  additionalCloses := mc.additionalCloseRequestIds
  additionalConnects := mc.additionalConnectRequestIds
  answeredConnects := mc.bus.filterMap Effect.connectStamp
  answeredCloses := mc.bus.filterMap Effect.closeStamp

/-! ## What the helpers do to the book -/

section helpers

variable {mc : ManagedConnection} {env : Env}

attribute [local simp] emitLifecycle drainPending closeSocket forgetSubscribeReqIdForKey disarmSubscribeAck
  clearSubscribeAckState disarmStaleness exitAuthenticatingTeardown exitAuthenticatingToClosing
  exitResubscribingTeardown exitOpenTeardown armStaleness armUpgradeTimeout armCloseTimeout
  emitAttemptFailed attemptFailed emitWebsocketStale emitRateThrottled lifecycle enterConnecting
  Effect.connectStamp Effect.closeStamp

/-- Resolving requests answers no lifecycle waiter. -/
@[simp] theorem connectStamps_drain (m : PendingRequestMap) (cause : DrainCause) (now : MonotonicInstant) :
    (m.drain cause now).2.filterMap Effect.connectStamp = [] :=
  m.filterMap_drain (fun _ _ => rfl) (fun _ _ => rfl) cause

@[simp] theorem closeStamps_drain (m : PendingRequestMap) (cause : DrainCause) (now : MonotonicInstant) :
    (m.drain cause now).2.filterMap Effect.closeStamp = [] :=
  m.filterMap_drain (fun _ _ => rfl) (fun _ _ => rfl) cause

@[simp] theorem book_drainPending (cause : DrainCause) : (mc.drainPending env cause).book = mc.book := by
  simp [book]

@[simp] theorem book_closeSocket : mc.closeSocket.book = mc.book := by
  cases h : mc.socket <;> simp [book, h]

@[simp] theorem book_exitResubscribing : (mc.exitResubscribingTeardown env).book = mc.book := by
  simp [book]

@[simp] theorem book_exitAuthenticating : (mc.exitAuthenticatingTeardown env).book = mc.book := by
  simp [book]

@[simp] theorem book_exitOpen (cause : DrainCause) :
    ((mc.exitOpenTeardown env cause).clearSubscribeAckState).book = mc.book := by
  simp [book]

@[simp] theorem book_emitWebsocketStale : (mc.emitWebsocketStale env).book = mc.book := by
  simp [book]

@[simp] theorem book_attemptFailed (cls : TransientClass) (krakenError : Option String)
    (httpStatus closeCode : Option Nat) :
    (mc.attemptFailed env cls krakenError httpStatus closeCode).book = mc.book := by
  simp [book]

@[simp] theorem book_emitRateThrottled (rid : Option Nat) (t : ConnectionRateThrottled) :
    (mc.emitRateThrottled env rid t).book = mc.book := by
  simp [book]

@[simp] theorem book_enterConnecting (rid : Option Nat) : (mc.enterConnecting env rid).book = mc.book := by
  simp [book]

theorem book_emitConnectionFailed (lastError : String) (transient : Bool) (cls : Option NonTransientClass) :
    (mc.emitConnectionFailed env lastError transient cls).book = mc.book.answerConnects := by
  have hall : ∀ rids : List Nat, (if rids = [] then [lifecycle env none
        (.connectionFailedEvent mc.url mc.attemptCount lastError transient cls)]
      else rids.map fun rid => lifecycle env (some rid)
        (.connectionFailedEvent mc.url mc.attemptCount lastError transient cls)).filterMap Effect.connectStamp = rids := by
    intro rids
    split <;> simp_all [List.filterMap_map, Function.comp_def]
  have hnone : ∀ rids : List Nat, (if rids = [] then [lifecycle env none
        (.connectionFailedEvent mc.url mc.attemptCount lastError transient cls)]
      else rids.map fun rid => lifecycle env (some rid)
        (.connectionFailedEvent mc.url mc.attemptCount lastError transient cls)).filterMap Effect.closeStamp = [] := by
    intro rids
    split <;> simp [List.filterMap_map, Function.comp_def]
  simp only [emitConnectionFailed, book, answerConnects, List.filterMap_append, hall, hnone, List.append_nil]

theorem book_enterOpen : (mc.enterOpen env).book = mc.book.answerConnects := by
  have hconn : ∀ rid, Effect.connectStamp (mc.openOrReopened env mc.hasBeenOpen mc.attemptCount rid) = rid := by
    intro rid
    unfold openOrReopened
    cases mc.hasBeenOpen <;> rfl
  have hclose : ∀ rid, Effect.closeStamp (mc.openOrReopened env mc.hasBeenOpen mc.attemptCount rid) = none := by
    intro rid
    unfold openOrReopened
    cases mc.hasBeenOpen <;> rfl
  cases hp : mc.pendingConnectRequestId <;>
    simp [enterOpen, book, answerConnects, List.filterMap_map, hconn, hclose, hp, -Effect.connectStamp,
      -Effect.closeStamp]

/-! ## The tails -/

/-- From the book `b` to the state `m`, with what was taken in and let go. -/
def Settled (b : WaiterBook) (m : ManagedConnection) (conns closes drops : List Nat) : Prop :=
  Balanced b m.book conns closes drops ∧ m.book.Fits m.state

variable {b : WaiterBook}

theorem settled_of {b' : WaiterBook} {m : ManagedConnection} {conns closes drops : List Nat} (hb : m.book = b')
    (h : Balanced b b' conns closes drops) (hf : b'.Fits m.state) : Settled b m conns closes drops := by
  subst hb
  exact ⟨h, hf⟩

theorem settled_kept {m : ManagedConnection} (hb : m.book = b) (hf : b.Fits m.state) : Settled b m [] [] [] :=
  settled_of hb (.refl b) hf

theorem settled_answered {m : ManagedConnection} (hb : m.book = b.answerConnects) (hu : b.Unlatched) :
    Settled b m [] [] [] :=
  settled_of hb (balanced_answerConnects b) hu.fits_answered

theorem Settled.after {b' : WaiterBook} {m : ManagedConnection} {conns closes drops : List Nat}
    (h : Balanced b b' conns closes drops) (hm : Settled b' m [] [] []) : Settled b m conns closes drops := by
  obtain ⟨⟨hc, hx⟩, hf⟩ := hm
  refine ⟨⟨fun rid => ?_, fun rid => ?_⟩, hf⟩
  · have h1 := h.connects rid
    have h2 := hc rid
    simp only [List.count_nil] at h2
    omega
  · have h1 := h.closes rid
    have h2 := hx rid
    simp only [List.count_nil] at h2
    omega

theorem settled_escalate (hb : mc.book = b) (hu : b.Unlatched) : Settled b (mc.escalate env) [] [] [] := by
  refine settled_answered ?_ hu
  rw [← hb]
  exact book_emitConnectionFailed ..

theorem settled_attemptFailed (hb : mc.book = b) (hu : b.Unlatched) (cls : TransientClass)
    (krakenError : Option String) (httpStatus closeCode : Option Nat) :
    Settled b (mc.attemptFailed env cls krakenError httpStatus closeCode) [] [] [] := by
  refine settled_kept ?_ (hu.fits (by simp) (by simp))
  rw [book_attemptFailed, hb]

theorem settled_attemptFailedOrEscalate (hb : mc.book = b) (hu : b.Unlatched) (cls : TransientClass)
    (krakenError : Option String) (httpStatus closeCode : Option Nat) :
    Settled b (mc.attemptFailedOrEscalate env cls krakenError httpStatus closeCode) [] [] [] := by
  unfold attemptFailedOrEscalate
  split
  · exact settled_escalate hb hu
  · exact settled_attemptFailed hb hu ..

theorem settled_droppedOrEscalate (hb : mc.book = b) (hu : b.Unlatched) (closeCode : Option Nat)
    (reason : Option String) : Settled b (mc.droppedOrEscalate env closeCode reason) [] [] [] := by
  unfold droppedOrEscalate
  split
  · exact settled_escalate hb hu
  · refine settled_kept ?_ (hu.fits (by simp) (by simp))
    rw [← hb]
    simp [book]

theorem settled_failed (hb : mc.book = b) (hu : b.Unlatched) (lastError : String) (transient : Bool)
    (cls : Option NonTransientClass) : Settled b (mc.emitConnectionFailed env lastError transient cls) [] [] [] := by
  refine settled_answered ?_ hu
  rw [book_emitConnectionFailed, hb]

theorem settled_authFailed (hb : mc.book = b) (hu : b.Unlatched) (lastError : String) (cls : NonTransientClass)
    (krakenResponse : Option String) :
    Settled b (mc.emitAuthenticationFailed env lastError cls krakenResponse) [] [] [] := by
  refine settled_answered ?_ hu
  rw [← hb, ← @book_emitConnectionFailed mc env lastError false (some cls)]
  simp [emitAuthenticationFailed, book]

theorem settled_closedDuringHandshake (hb : mc.book = b) (hu : b.Unlatched) (code : Nat) (reason : Option String)
    (phase : String) : Settled b (mc.closedDuringHandshake env code reason phase) [] [] [] := by
  unfold closedDuringHandshake
  split
  · exact settled_failed (by exact hb) hu ..
  · exact settled_attemptFailedOrEscalate hb hu ..

theorem settled_enterOpen (hb : mc.book = b) (hu : b.Unlatched) : Settled b (mc.enterOpen env) [] [] [] := by
  refine settled_answered ?_ hu
  rw [book_enterOpen, hb]

theorem settled_completeResubscribeIfEmpty (hb : mc.book = b) (hf : b.Fits mc.state) :
    Settled b (mc.completeResubscribeIfEmpty env) [] [] [] := by
  unfold completeResubscribeIfEmpty
  split
  · rename_i hs
    exact settled_enterOpen hb (hf.1 (by simp [hs.1]))
  · exact settled_kept hb hf

theorem settled_handleSubscribeFailure (hb : mc.book = b) (hu : b.Unlatched) (hi : mc.state ≠ .idle)
    (hf : mc.state ≠ .failed) (key : EntryKey) (transient : Bool) (lastError : Option String) :
    Settled b (mc.handleSubscribeFailure env key transient lastError) [] [] [] := by
  unfold handleSubscribeFailure
  dsimp only
  split
  · unfold retrySubscribe
    dsimp only
    split_ifs
    · exact settled_kept (by exact hb) (hu.fits hi hf)
    · exact settled_droppedOrEscalate (by rw [← hb]; exact book_exitResubscribing) hu ..
    · exact settled_attemptFailed (by rw [← hb]; exact book_exitResubscribing) hu ..
  · refine settled_completeResubscribeIfEmpty ?_ (hu.fits hi hf)
    rw [← hb]
    simp [book, cancelEntryTimers]

theorem settled_reenterConnecting {rid : Nat} (hb : { mc.book with pendingConnect := some rid } = b)
    (hu : b.Unlatched) : Settled b (mc.reenterConnecting env rid) [] [] [] := by
  unfold reenterConnecting
  split
  · refine settled_kept ?_ (hu.fits (by simp) (by simp))
    rw [← hb, book_emitRateThrottled]
    rfl
  · refine settled_kept ?_ (hu.fits (by simp) (by simp))
    rw [← hb, book_enterConnecting]
    rfl

/-- The end of a close: its waiters are answered; a latched reconnect takes the connect latch. -/
theorem settled_enterClosedOrReconnect (reason : ClosedReason) (ack : AckSource) :
    Settled mc.book (mc.enterClosedOrReconnect env reason ack) [] []
      (if mc.pendingReconnectRequestId.isSome then mc.pendingConnectRequestId.toList else []) := by
  have hx : ∀ (rids : List Nat) (text : Option String), (rids.map fun rid => lifecycle env (some rid)
      (.connectionClosedEvent mc.url env.now reason ack text)).filterMap Effect.closeStamp = rids := by
    intro rids text
    simp [List.filterMap_map, Function.comp_def]
  have hc : ∀ (rids : List Nat) (text : Option String), (rids.map fun rid => lifecycle env (some rid)
      (.connectionClosedEvent mc.url env.now reason ack text)).filterMap Effect.connectStamp = [] := by
    intro rids text
    simp [List.filterMap_map, Function.comp_def]
  unfold enterClosedOrReconnect
  cases hr : mc.pendingReconnectRequestId with
  | none =>
    refine settled_of ?_ (balanced_answerCloses mc.book) ?_
    · simp [book, answerCloses, hx, hc, hr, -lifecycle]
    · refine Unlatched.fits ⟨rfl, rfl, hr⟩ (by simp) (by simp)
  | some rid =>
    refine Settled.after (balanced_reconnect (b := mc.book) hr) ?_
    refine settled_reenterConnecting ?_ ⟨rfl, rfl, rfl⟩
    simp [book, answerCloses, hx, hc, -lifecycle]

/-! ## One lemma per source state -/

/-- The connect call the state `s` accepts: its event matches an arm that does not ignore it. -/
def acceptedConnects (s : ConnectionState) (e : FsmEvent) : List Nat :=
  match s, e with
  | .idle, .callStartConnect rid => [rid]
  | .closed, _ => []
  | _, .callForceReconnect rid => [rid]
  | _, _ => []

/-- The close call the state `s` accepts. -/
def acceptedCloses (s : ConnectionState) (e : FsmEvent) : List Nat :=
  match s, e with
  | .closed, _ => []
  | _, .callClose rid => [rid]
  | _, _ => []

/-- The `force_reconnect()` during a first bring-up: "First bring-up (never opened) is NOT cohorted"
(handle_event.rs:243). -/
def uncohorted (mc : ManagedConnection) (s : ConnectionState) (e : FsmEvent) : List Nat :=
  match s, e with
  | .connecting, .callForceReconnect rid => if mc.hasBeenOpen then [] else [rid]
  | _, _ => []

/-- The connect waiter `reenter_connecting` finds held when a close ends into a latched reconnect. -/
def overwritten (mc : ManagedConnection) (s : ConnectionState) (e : FsmEvent) : List Nat :=
  match s, e with
  | .closing, .wireCloseReceived .. | .closing, .wireAbnormalClose _ | .closing, .timerCloseTimeout =>
    if mc.pendingReconnectRequestId.isSome then mc.pendingConnectRequestId.toList else []
  | _, _ => []

/-- One event delivered to `mc` in the state `s` settles its waiters. -/
def Settles (mc : ManagedConnection) (s : ConnectionState) (e : FsmEvent) (m : ManagedConnection) : Prop :=
  Settled mc.book m (acceptedConnects s e) (acceptedCloses s e) (mc.uncohorted s e ++ mc.overwritten s e)

variable (env) (e : FsmEvent)

theorem settles_handleIdle (hs : mc.state = .idle) (hf : mc.book.Fits .idle) : mc.Settles .idle e (mc.handleIdle env e) := by
  have hp : mc.book.pendingConnect = none := hf.2 (.inl rfl)
  have hu : mc.book.Unlatched := hf.1 (by simp)
  have hu' : ∀ rid : Nat, Unlatched { mc.book with pendingConnect := some rid } := fun _ => ⟨hu.1, hu.2, hu.3⟩
  cases e <;>
    simp only [handleIdle, Settles, acceptedConnects, acceptedCloses, uncohorted, overwritten, List.append_nil]
  case callStartConnect | callForceReconnect =>
    split
    · refine settled_of ?_ (balanced_latchConnect hp _) ((hu' _).fits (by simp) (by simp))
      rw [book_emitRateThrottled]
      rfl
    · refine settled_of ?_ (balanced_latchConnect hp _) ((hu' _).fits (by simp) (by simp))
      rw [book_enterConnecting]
      rfl
  case callClose rid =>
    refine settled_of ?_ (balanced_closeAtOnce mc.book rid) (Unlatched.fits ⟨hu.1, hu.2, hu.3⟩ (by simp) (by simp))
    simp [book]
  all_goals exact settled_kept rfl (by rwa [hs])

theorem settles_handleConnecting (hs : mc.state = .connecting) (hf : mc.book.Fits .connecting) :
    mc.Settles .connecting e (mc.handleConnecting env e) := by
  have hu : mc.book.Unlatched := hf.1 (by simp)
  have kept : ∀ {m : ManagedConnection}, m.book = mc.book → m.state ≠ .idle → m.state ≠ .failed →
      Settled mc.book m [] [] [] := fun hb hi hn => settled_kept hb (hu.fits hi hn)
  cases e <;>
    simp only [handleConnecting, Settles, acceptedConnects, acceptedCloses, uncohorted, overwritten, List.append_nil]
  case wireUpgradeOk => cases hurl : mc.url <;> exact kept rfl (by simp) (by simp)
  case wireUpgradeFailed | wireConnectError =>
    split
    · unfold connectFailedOrEscalate
      split
      · exact settled_escalate rfl hu
      · exact settled_attemptFailed (by rfl) hu ..
    · exact settled_failed (by rfl) hu ..
  case timerUpgradeTimeout => exact settled_attemptFailedOrEscalate (by rfl) hu ..
  case callClose rid => exact settled_of rfl (balanced_latchClose hu.close rid) (fits_closing _)
  case callForceReconnect rid =>
    split
    · exact settled_of rfl (balanced_joinConnects mc.book rid)
        (Unlatched.fits ⟨hu.1, hu.2, hu.3⟩ (by simp [hs]) (by simp [hs]))
    · exact settled_of rfl (balanced_drop mc.book rid) (by rwa [hs])
  all_goals exact kept rfl (by simp [hs]) (by simp [hs])

theorem settles_handleAuthenticating (hs : mc.state = .authenticating) (hf : mc.book.Fits .authenticating) :
    mc.Settles .authenticating e (mc.handleAuthenticating env e) := by
  have hu : mc.book.Unlatched := hf.1 (by simp)
  have kept : ∀ {m : ManagedConnection}, m.book = mc.book → m.state ≠ .idle → m.state ≠ .failed →
      Settled mc.book m [] [] [] := fun hb hi hn => settled_kept hb (hu.fits hi hn)
  cases e
  case wireAuthHandshakeFailed kind =>
    cases kind <;>
      simp only [handleAuthenticating, Settles, acceptedConnects, acceptedCloses, uncohorted, overwritten,
        List.append_nil]
    case tokenStale =>
      split
      · exact settled_authFailed (by exact book_exitAuthenticating) hu ..
      · exact kept rfl (by simp [hs]) (by simp [hs])
    case transient => exact settled_attemptFailedOrEscalate book_exitAuthenticating hu ..
    all_goals exact settled_authFailed (by exact book_exitAuthenticating) hu ..
  all_goals
    simp only [handleAuthenticating, Settles, acceptedConnects, acceptedCloses, uncohorted, overwritten, List.append_nil]
  case wireCloseReceived => exact settled_closedDuringHandshake book_exitAuthenticating hu ..
  case wireAbnormalClose => exact settled_attemptFailedOrEscalate book_exitAuthenticating hu ..
  case timerStalenessElapsed => exact settled_attemptFailedOrEscalate (by rw [book_exitAuthenticating, book_emitWebsocketStale]) hu ..
  case busTokenRefreshFailed =>
    split
    · exact settled_attemptFailedOrEscalate book_exitAuthenticating hu ..
    · exact settled_authFailed (by exact book_exitAuthenticating) hu ..
  case timerSubscribeAckTimeout => exact settled_handleSubscribeFailure rfl hu (by simp [hs]) (by simp [hs]) ..
  case wireOrderAuthOk => exact settled_enterOpen (by rfl) hu
  case callClose rid => exact settled_of rfl (balanced_latchClose hu.close rid) (fits_closing _)
  case callForceReconnect rid => exact settled_of rfl (balanced_latchReconnect hu.reconnect rid) (fits_closing _)
  case wireAuthHandshakeOk => exact kept rfl (by simp) (by simp)
  all_goals exact kept rfl (by simp [hs]) (by simp [hs])

theorem settles_handleResubscribing (hs : mc.state = .resubscribing) (hf : mc.book.Fits .resubscribing) :
    mc.Settles .resubscribing e (mc.handleResubscribing env e) := by
  have hu : mc.book.Unlatched := hf.1 (by simp)
  have kept : ∀ {m : ManagedConnection}, m.book = mc.book → m.state ≠ .idle → m.state ≠ .failed →
      Settled mc.book m [] [] [] := fun hb hi hn => settled_kept hb (hu.fits hi hn)
  cases e
  case wireSubscribeAck channel pair last =>
    cases last <;>
      simp only [handleResubscribing, Settles, acceptedConnects, acceptedCloses, uncohorted, overwritten,
        List.append_nil]
    · exact kept rfl (by simp [hs]) (by simp [hs])
    · exact settled_enterOpen (by rfl) hu
  all_goals
    simp only [handleResubscribing, Settles, acceptedConnects, acceptedCloses, uncohorted, overwritten, List.append_nil]
  case wireCloseReceived => exact settled_closedDuringHandshake book_exitResubscribing hu ..
  case wireAbnormalClose => exact settled_attemptFailedOrEscalate book_exitResubscribing hu ..
  case timerStalenessElapsed => exact settled_attemptFailedOrEscalate (by rw [book_exitResubscribing, book_emitWebsocketStale]) hu ..
  case timerSubscribeAckTimeout | wireSubscribeFailed =>
    exact settled_handleSubscribeFailure rfl hu (by simp [hs]) (by simp [hs]) ..
  case callClose rid => exact settled_of rfl (balanced_latchClose hu.close rid) (fits_closing _)
  case callForceReconnect rid =>
    refine settled_of ?_ (balanced_latchReconnect hu.reconnect rid) (fits_closing _)
    rw [book_closeSocket]
    rfl
  all_goals exact kept rfl (by simp [hs]) (by simp [hs])

theorem settles_handleOpen (hs : mc.state = .opened) (hf : mc.book.Fits .opened) :
    mc.Settles .opened e (mc.handleOpen env e) := by
  have hu : mc.book.Unlatched := hf.1 (by simp)
  have kept : ∀ {m : ManagedConnection}, m.book = mc.book → m.state ≠ .idle → m.state ≠ .failed →
      Settled mc.book m [] [] [] := fun hb hi hn => settled_kept hb (hu.fits hi hn)
  cases e <;>
    simp only [handleOpen, Settles, acceptedConnects, acceptedCloses, uncohorted, overwritten, List.append_nil]
  case wireCloseReceived =>
    split
    · exact settled_failed (by exact @book_exitOpen mc env _) hu ..
    · exact settled_droppedOrEscalate (book_exitOpen _) hu ..
  case wireAbnormalClose => exact settled_droppedOrEscalate (book_exitOpen _) hu ..
  case timerStalenessElapsed => exact settled_droppedOrEscalate (by rw [book_exitOpen, book_emitWebsocketStale]) hu ..
  case timerSubscribeAckTimeout | wireSubscribeFailed =>
    exact settled_handleSubscribeFailure rfl hu (by simp [hs]) (by simp [hs]) ..
  case callClose rid =>
    refine settled_of ?_ (balanced_latchClose hu.close rid) (fits_closing _)
    rw [book_closeSocket]
    simp [book]
  case callForceReconnect rid =>
    refine settled_of ?_ (balanced_latchReconnect hu.reconnect rid) (fits_closing _)
    rw [book_closeSocket]
    simp [book]
  all_goals exact kept rfl (by simp [hs]) (by simp [hs])

theorem settles_handleBackingOff (hs : mc.state = .backingOff) (hf : mc.book.Fits .backingOff) :
    mc.Settles .backingOff e (mc.handleBackingOff env e) := by
  have hu : mc.book.Unlatched := hf.1 (by simp)
  cases e <;>
    simp only [handleBackingOff, Settles, acceptedConnects, acceptedCloses, uncohorted, overwritten, List.append_nil]
  case timerBackoffElapsed | timerRateBudgetWindowAdvanced =>
    split
    · refine settled_kept ?_ (hu.fits (by simp [emitRateThrottled, hs]) (by simp [emitRateThrottled, hs]))
      rw [book_emitRateThrottled]
      rfl
    · refine settled_kept ?_ (hu.fits (by simp) (by simp))
      rw [book_enterConnecting]
      rfl
  case callForceReconnect rid =>
    cases hp : mc.pendingConnectRequestId <;> cases env.tryConsume <;> simp only [latchConnect, hp]
    · refine settled_of ?_ (balanced_latchConnect hp rid) (Unlatched.fits ⟨hu.1, hu.2, hu.3⟩ (by simp [hs]) (by simp [hs]))
      rw [book_emitRateThrottled]
      rfl
    · refine settled_of ?_ (balanced_latchConnect hp rid) (Unlatched.fits ⟨hu.1, hu.2, hu.3⟩ (by simp) (by simp))
      rw [book_enterConnecting]
      rfl
    · refine settled_of ?_ (balanced_joinConnects mc.book rid)
        (Unlatched.fits ⟨hu.1, hu.2, hu.3⟩ (by simp [hs]) (by simp [hs]))
      rw [book_emitRateThrottled]
      simp only [book, hp]
    · refine settled_of ?_ (balanced_joinConnects mc.book rid) (Unlatched.fits ⟨hu.1, hu.2, hu.3⟩ (by simp) (by simp))
      rw [book_enterConnecting]
      simp only [book, hp]
  case callClose rid =>
    refine settled_of ?_ (balanced_closeAtOnce mc.book rid) (Unlatched.fits ⟨hu.1, hu.2, hu.3⟩ (by simp) (by simp))
    simp [book]
  all_goals exact settled_kept rfl (by rwa [hs])

theorem settles_handleClosing (hs : mc.state = .closing) : mc.Settles .closing e (mc.handleClosing env e) := by
  have hf : ∀ b : WaiterBook, b.Fits mc.state := fun b => hs ▸ fits_closing b
  cases e <;>
    simp only [handleClosing, Settles, acceptedConnects, acceptedCloses, uncohorted, overwritten, List.nil_append]
  case wireCloseReceived | wireAbnormalClose | timerCloseTimeout => exact settled_enterClosedOrReconnect ..
  case callClose rid =>
    cases hp : mc.pendingCloseRequestId
    · exact settled_of rfl (balanced_latchClose hp rid) (hf _)
    · refine settled_of ?_ (balanced_joinCloses mc.book rid) (hf _)
      simp only [book, hp]
  case callForceReconnect rid =>
    cases hp : mc.pendingReconnectRequestId
    · exact settled_of rfl (balanced_latchReconnect hp rid) (hf _)
    · refine settled_of ?_ (balanced_joinConnects mc.book rid) (hf _)
      simp only [book, hp]
  all_goals exact settled_kept rfl (hf _)

theorem settles_handleFailed (hs : mc.state = .failed) (hf : mc.book.Fits .failed) :
    mc.Settles .failed e (mc.handleFailed env e) := by
  have hp : mc.book.pendingConnect = none := hf.2 (.inr rfl)
  have hu : mc.book.Unlatched := hf.1 (by simp)
  have hu' : ∀ rid : Nat, Unlatched { mc.book with pendingConnect := some rid } := fun _ => ⟨hu.1, hu.2, hu.3⟩
  cases e <;>
    simp only [handleFailed, Settles, acceptedConnects, acceptedCloses, uncohorted, overwritten, List.append_nil]
  case callForceReconnect =>
    split
    · refine settled_of ?_ (balanced_latchConnect hp _) ((hu' _).fits (by simp) (by simp))
      rw [book_emitRateThrottled]
      rfl
    · refine settled_of ?_ (balanced_latchConnect hp _) ((hu' _).fits (by simp) (by simp))
      rw [book_enterConnecting]
      rfl
  case callClose rid =>
    refine settled_of ?_ (balanced_closeAtOnce mc.book rid) (Unlatched.fits ⟨hu.1, hu.2, hu.3⟩ (by simp) (by simp))
    simp [book]
  all_goals exact settled_kept rfl (by rwa [hs])

end helpers

/-! ## Every step -/

section step

variable {mc : ManagedConnection}

theorem book_pop (e : FsmEvent) : (mc.popTimerForEvent e).book = mc.book := by
  cases e <;> rfl

theorem settles_pop {s : ConnectionState} {e : FsmEvent} {m : ManagedConnection}
    (h : (mc.popTimerForEvent e).Settles s e m) : mc.Settles s e m := by
  cases e <;> exact h

/-- **One event** settles the waiters of the state it is delivered in. -/
theorem settles_deliver (env : Env) (e : FsmEvent) (hf : mc.book.Fits mc.state) :
    mc.Settles mc.state e (mc.deliver env e) := by
  have hs' : (mc.popTimerForEvent e).state = mc.state := popTimerForEvent_state mc e
  rw [← book_pop e] at hf
  apply deliver_cases <;> intro hs <;> rw [hs] at hf hs' ⊢ <;> apply settles_pop
  case idle => exact settles_handleIdle env e hs' hf
  case connecting => exact settles_handleConnecting env e hs' hf
  case authenticating => exact settles_handleAuthenticating env e hs' hf
  case resubscribing => exact settles_handleResubscribing env e hs' hf
  case opened => exact settles_handleOpen env e hs' hf
  case backingOff => exact settles_handleBackingOff env e hs' hf
  case closing => exact settles_handleClosing env e hs'
  case closed => exact settled_kept rfl (by rwa [hs'])
  case failed => exact settles_handleFailed env e hs' hf

theorem settled_applyUpdate (env : Env) (u : Update) (hf : mc.book.Fits mc.state) :
    Settled mc.book (mc.applyUpdate env u) [] [] [] := by
  cases u <;> simp only [applyUpdate]
  case completeResubscribeIfEmpty => exact settled_completeResubscribeIfEmpty rfl hf
  case deferOpenAuthSubscribe =>
    unfold deferOpenAuthSubscribe
    split <;> exact settled_kept rfl hf
  all_goals exact settled_kept rfl hf

theorem settled_applyRequest (env : Env) (r : RequestUpdate) (hf : mc.book.Fits mc.state) :
    Settled mc.book (mc.applyRequest env r) [] [] [] := by
  cases r <;> simp only [applyRequest]
  case recordPendingRequest p => exact settled_kept rfl hf
  case resolvePendingRequest resp =>
    refine settled_kept ?_ hf
    simp only [resolvePendingRequest, PendingRequestMap.resolve, book, List.filterMap_append]
    split <;> simp [Effect.connectStamp, Effect.closeStamp]
  case failPendingRequest reqId err =>
    refine settled_kept ?_ hf
    simp only [failPendingRequest, PendingRequestMap.failOne, book, List.filterMap_append]
    split <;> simp [Effect.connectStamp, Effect.closeStamp]
  case drainOneRetryable reqId =>
    refine settled_kept ?_ hf
    simp only [drainOneRetryable, PendingRequestMap.drainOneRetryable, book, List.filterMap_append]
    split <;> simp [Effect.connectStamp, Effect.closeStamp, PendingRequestMap.requestFailed]

/-- A list of ids an event concerns; a bookkeeping call concerns none. -/
def onEvent (f : ManagedConnection → FsmEvent → List Nat) (mc : ManagedConnection) (l : Label) : List Nat :=
  match l.act with
  | .event e => f mc e
  | .update _ | .request _ => []

/-- What a step lets go: the two exceptions. -/
def letGo (mc : ManagedConnection) (e : FsmEvent) : List Nat := mc.uncohorted mc.state e ++ mc.overwritten mc.state e

/-- **One step** settles its waiters. -/
theorem settled_step (l : Label) (hf : mc.book.Fits mc.state) :
    Settled mc.book (mc.step l) (onEvent (fun mc e => acceptedConnects mc.state e) mc l)
      (onEvent (fun mc e => acceptedCloses mc.state e) mc l) (onEvent letGo mc l) := by
  unfold step onEvent
  cases l.act with
  | event e => exact settles_deliver l.env e hf
  | update u => exact settled_applyUpdate l.env u hf
  | request r => exact settled_applyRequest l.env r hf

end step

/-! ## Every run -/

/-- The ids of the connect calls a run accepted. -/
def connectsAccepted (url : WsUrl) (knobs : Knobs) (ls : List Label) : List Nat :=
  along step (onEvent fun mc e => acceptedConnects mc.state e) (new url knobs) ls

/-- The ids of the close calls a run accepted. -/
def closesAccepted (url : WsUrl) (knobs : Knobs) (ls : List Label) : List Nat :=
  along step (onEvent fun mc e => acceptedCloses mc.state e) (new url knobs) ls

/-- The ids a run let go. -/
def idsLetGo (url : WsUrl) (knobs : Knobs) (ls : List Label) : List Nat :=
  along step (onEvent letGo) (new url knobs) ls

/-- The id of a call. -/
def callId : Act → List Nat
  | .event (.callStartConnect rid) | .event (.callForceReconnect rid) | .event (.callClose rid) => [rid]
  | _ => []

/-- The ids of the calls in a list of labels. -/
def callIds (ls : List Label) : List Nat := ls.flatMap fun l => callId l.act

theorem fits_new (url : WsUrl) (knobs : Knobs) : (new url knobs).book.Fits (new url knobs).state :=
  ⟨fun _ => ⟨rfl, rfl, rfl⟩, fun _ => rfl⟩

theorem fits_run (url : WsUrl) (knobs : Knobs) (ls : List Label) :
    (run url knobs ls).book.Fits (run url knobs ls).state :=
  run_invariant (P := fun mc => mc.book.Fits mc.state) (fits_new url knobs) (fun _ l h => (settled_step l h).2) ls

theorem fits_step (mc : ManagedConnection) (l : Label) (h : mc.book.Fits mc.state) :
    (mc.step l).book.Fits (mc.step l).state :=
  (settled_step l h).2

/-- **Connect waiters are conserved.** -/
theorem connects_conserved (url : WsUrl) (knobs : Knobs) (ls : List Label) (rid : Nat) :
    (run url knobs ls).book.connects.count rid + (idsLetGo url knobs ls).count rid =
      (connectsAccepted url knobs ls).count rid := by
  have h := conserved (J := fun mc _ => mc.book.Fits mc.state) (fun mc => mc.book.connects) _ _
    (fun mc l _ => fits_step mc l) (fun _ l _ h => (settled_step l h).1.connects) ls (fits_new url knobs) rid
  simpa [connectsAccepted, idsLetGo, new, book, connects, run] using h

/-- **Close waiters are conserved.** -/
theorem closes_conserved (url : WsUrl) (knobs : Knobs) (ls : List Label) (rid : Nat) :
    (run url knobs ls).book.closes.count rid = (closesAccepted url knobs ls).count rid := by
  have h := conserved (J := fun mc _ => mc.book.Fits mc.state) (fun mc => mc.book.closes) _ (fun _ _ => [])
    (fun mc l _ => fits_step mc l) (fun _ l _ h => (settled_step l h).1.closes) ls (fits_new url knobs) rid
  simpa [closesAccepted, new, book, closes, run] using h

/-- An accepted id is the id of a call. -/
theorem count_accepted_le (mc : ManagedConnection) (ls : List Label) (rid : Nat) :
    (along step (onEvent fun mc e => acceptedConnects mc.state e) mc ls).count rid +
      (along step (onEvent fun mc e => acceptedCloses mc.state e) mc ls).count rid ≤
        (callIds ls).count rid := by
  have hone : ∀ (s : ConnectionState) (e : FsmEvent),
      (acceptedConnects s e).count rid + (acceptedCloses s e).count rid ≤ (callId (.event e)).count rid := by
    intro s e
    cases s <;> cases e <;> simp [acceptedConnects, acceptedCloses, callId]
  induction ls generalizing mc with
  | nil => simp [StepSystem.along]
  | cons l ls ih =>
    have h1 := ih (mc.step l)
    have h2 : (onEvent (fun mc e => acceptedConnects mc.state e) mc l).count rid +
        (onEvent (fun mc e => acceptedCloses mc.state e) mc l).count rid ≤ (callId l.act).count rid := by
      unfold onEvent
      cases l.act with
      | event e => exact hone mc.state e
      | update u | request r => simp
    simp only [StepSystem.along, callIds, List.flatMap_cons, List.count_append] at h1 ⊢
    omega

/-- **No waiter is stranded**: in a run whose call ids are distinct, an accepted connect id that no
step let go and an accepted close id are each held in one slot or answered. -/
theorem waiter_held_or_answered (url : WsUrl) (knobs : Knobs) (ls : List Label) (hd : (callIds ls).Nodup) (rid : Nat) :
    (rid ∈ connectsAccepted url knobs ls → rid ∉ idsLetGo url knobs ls →
      HeldOrGiven (run url knobs ls).book.slots (run url knobs ls).book.answeredConnects rid) ∧
    (rid ∈ closesAccepted url knobs ls →
      HeldOrGiven (run url knobs ls).book.slots (run url knobs ls).book.answeredCloses rid) := by
  have hle := count_accepted_le (new url knobs) ls rid
  have hone := List.nodup_iff_count_le_one.1 hd rid
  have hc := connects_conserved url knobs ls rid
  have hx := closes_conserved url knobs ls rid
  have hslots := count_slots (run url knobs ls).book rid
  have hconn : (run url knobs ls).book.answeredConnects.count rid ≤ (run url knobs ls).book.connects.count rid := by
    simp only [connects, List.count_append]
    omega
  have hclose : (run url knobs ls).book.answeredCloses.count rid ≤ (run url knobs ls).book.closes.count rid := by
    simp only [closes, List.count_append]
    omega
  simp only [connectsAccepted, closesAccepted] at hc hx hle ⊢
  constructor
  · intro hmem hkept
    have h1 := List.count_pos_iff.2 hmem
    have h2 := List.count_eq_zero.2 hkept
    apply heldOrGiven_of_count
    omega
  · intro hmem
    have h1 := List.count_pos_iff.2 hmem
    have h2 : (idsLetGo url knobs ls).count rid = 0 := by omega
    apply heldOrGiven_of_count
    omega

/-! ## A run with an id the FSM holds nowhere -/

/-- A `connect()`, and a `force_reconnect()` before it has ever been open. -/
def firstBringUp (env : Env) : List Label :=
  [⟨env, .event (.callStartConnect 1)⟩, ⟨env, .event (.callForceReconnect 2)⟩, ⟨env, .event (.callClose 3)⟩]

/-- An environment whose rate budget grants every attempt. -/
def grantingEnv : Env where
  now := 0
  knobs := { stalenessWindowMs := 30000, upgradeTimeout := fromMillis 10000, closeTimeout := fromMillis 5000
             reconnectAttempts := none, maxAuthHandshakeFailures := 3, subscribeAckAttempts := 3
             subscribeAckTimeoutMs := 5000 }
  tryConsume := .ok ()
  windowSeconds := 600
  nextBackoff := fun _ => fromMillis 500
  openSocket := 1

theorem waiter_held_or_answered_firstBringUp :
    HeldOrGiven (run .publicUrl grantingEnv.knobs (firstBringUp grantingEnv)).book.slots
        (run .publicUrl grantingEnv.knobs (firstBringUp grantingEnv)).book.answeredConnects 1 ∧
      HeldOrGiven (run .publicUrl grantingEnv.knobs (firstBringUp grantingEnv)).book.slots
        (run .publicUrl grantingEnv.knobs (firstBringUp grantingEnv)).book.answeredCloses 3 :=
  ⟨(waiter_held_or_answered .publicUrl grantingEnv.knobs (firstBringUp grantingEnv) (by decide) 1).1 (by decide)
      (by decide),
    (waiter_held_or_answered .publicUrl grantingEnv.knobs (firstBringUp grantingEnv) (by decide) 3).2 (by decide)⟩

/-- The `force_reconnect()` is accepted, and its id is in no slot and on no event. -/
theorem forceReconnect_uncohorted :
    ¬ ∀ (url : WsUrl) (knobs : Knobs) (ls : List Label), (callIds ls).Nodup → ∀ rid ∈ connectsAccepted url knobs ls,
      (run url knobs ls).book.slots.count rid = 1 ∨ rid ∈ (run url knobs ls).book.answeredConnects := by
  intro h
  have h2 := h .publicUrl grantingEnv.knobs (firstBringUp grantingEnv) (by decide) 2 (by decide)
  exact absurd h2 (by decide)

end ManagedConnection

end KrakenSdk.Conn
