import KrakenSdk.Conn.Types
import KrakenSdk.Lib.HashMap
import Mathlib.Data.List.Sort
/-!
# What the FSM is built from (managed_connection/inner.rs, event_bus/events.rs)

The lifecycle events, the pending-request map, the staleness watchdog and the timer set. `Effect`
is one externally visible action of the reactor; a connection keeps its effects in order, so that
"before" in a statement is a position in a list.

| here | source |
| --- | --- |
| `EventPayload`, `EventEnvelope` | `dispatch/event_bus/events.rs` (the payloads the FSM publishes) |
| `Effect.resolve` | `PendingRequest.tx.send` |
| `Effect.requestSent`, `Effect.subscribeSent` | `WsSocket::send_frame` returning `Ok` |
| `PendingRequestMap.*` | `inner.rs:68-147` |
| `StalenessMonitor.*` | `inner.rs:175-230` |
| `TimerSet` | `inner.rs:273-298` |
-/
namespace KrakenSdk.Conn

/-- `ClosedReason` (events.rs:798). -/
inductive ClosedReason where
  | clientInitiated | forced
  deriving DecidableEq, Repr

/-- `AckSource` (events.rs:806). -/
inductive AckSource where
  | server | socketDropped | closeTimeout | neverOpened
  deriving DecidableEq, Repr

/-- `NonTransientClass` (events.rs:823). -/
inductive NonTransientClass where
  | badCreds | permissionDenied | clientError | retryCapExhausted
  deriving DecidableEq, Repr

/-- `TransientClass` (events.rs:838). -/
inductive TransientClass where
  | httpTransient | connectError | upgradeTimeout | authHandshakeTransient | closedDuringHandshake
  | subscribeBudgetExhausted | tokenRefreshTransient
  deriving DecidableEq, Repr

/-- `WsFailReason` (events.rs:1041). -/
inductive WsFailReason where
  | connectionLost | clientClosed
  deriving DecidableEq, Repr

/-- The `EventPayload` variants a connection publishes (events.rs:157-1035). -/
inductive EventPayload where
  | connectionConnectingEvent (url : WsUrl) (attemptCount : Nat)
  | connectionOpenEvent (url : WsUrl) (openedAt : MonotonicInstant) (serverConnectionId : Option String)
  | connectionClosedEvent (url : WsUrl) (closedAt : MonotonicInstant) (reason : ClosedReason) (ack : AckSource)
      (serverConnectionId : Option String)
  | connectionReopenedEvent (url : WsUrl) (reopenedAt : MonotonicInstant) (attemptCount : Nat)
  | connectionFailedEvent (url : WsUrl) (attemptCount : Nat) (lastError : String) (transient : Bool)
      (nonTransientClass : Option NonTransientClass)
  | connectionDroppedEvent (url : WsUrl) (droppedAt : MonotonicInstant) (closeCode : Option Nat)
      (reason : Option String)
  | connectionRateThrottledEvent (url : WsUrl) (attemptsUsed windowSeconds windowRemainingAttempts : Nat)
      (throttleUntil : MonotonicInstant)
  | connectionAttemptFailedEvent (url : WsUrl) (attempt : Nat) (transientClass : TransientClass)
      (krakenError : Option String) (httpStatus closeCode : Option Nat) (backoffMs : Nat)
      (failedAt : MonotonicInstant)
  | websocketStaleEvent (url : WsUrl) (lastInboundAt : MonotonicInstant) (configuredWindowMs : Nat)
  | authenticationFailedEvent (url : WsUrl) (nonTransientClass : NonTransientClass) (krakenResponse : Option String)
  | subscriptionTerminatedEvent (channel : ChannelName) (pair : Option Symbol) (cause : TerminationCause)
      (lastError : Option String) (terminatedAt : MonotonicInstant)
  | wsRequestFailedEvent (reqId : Nat) (op : WsOp) (reason : WsFailReason)
  deriving DecidableEq, Repr

/-- `EventEnvelope` (events.rs:1053); `event_type` is the payload's constructor. -/
structure EventEnvelope where
  eventVersion : Nat
  timestampMonotonic : MonotonicInstant
  requestId : Option Nat
  payload : EventPayload
  deriving DecidableEq, Repr

/-- The identity of a socket the factory opened (`WsSocket::connection_id`). -/
abbrev SocketId := Nat

/-- A call into the auth stack. -/
inductive AuthStackCall where
  | invalidateCachedToken | forceRefresh
  deriving DecidableEq, Repr

/-- One externally visible action, in the order the reactor performs them. -/
inductive Effect where
  /-- `bus.publish`. -/
  | publish (e : EventEnvelope)
  /-- `tx.send` on the oneshot of the request recorded under `reqId`. -/
  | resolve (reqId : Nat) (r : Except ConnectionError WsResponse)
  /-- `socket.close(code)`. -/
  | closeSocket (socket : SocketId) (code : Nat)
  /-- `socket.send_frame` of a request took the frame. -/
  | requestSent (socket : SocketId) (frame : Json)
  /-- `socket.send_frame` of a subscribe took the frame. -/
  | subscribeSent (socket : SocketId) (key : EntryKey) (params : SubscribeParams) (reqId : Nat)
  /-- A call into the auth stack. -/
  | authStack (call : AuthStackCall)

/-! ## `PendingRequestMap` -/

/-- `PendingRequest` (inner.rs:31-41); the oneshot `tx` is named by `reqId` in `Effect.resolve`. -/
structure PendingRequest where
  reqId : Nat
  op : WsOp
  sentAt : MonotonicInstant
  deriving DecidableEq, Repr

/-- `DrainCause` (inner.rs:46-53). -/
inductive DrainCause where
  | requestInFlightWhenDropped | clientClosed
  deriving DecidableEq, Repr

/-- `DrainCause::resolve` (inner.rs:56). -/
def DrainCause.resolve : DrainCause → ConnectionError × WsFailReason
  | .requestInFlightWhenDropped => (.requestInFlightWhenDropped, .connectionLost)
  | .clientClosed => (.clientClosed, .clientClosed)

/-- `PendingRequestMap` (inner.rs:73). -/
abbrev PendingRequestMap := HashMap Nat PendingRequest

namespace PendingRequestMap

/-- `record` (inner.rs:78). -/
def record (m : PendingRequestMap) (p : PendingRequest) : PendingRequestMap := m.insert p.reqId p

/-- `resolve` (inner.rs:88): `Ok(resp)` to the request's caller, if it is still recorded. -/
def resolve (m : PendingRequestMap) (resp : WsResponse) : PendingRequestMap × List Effect :=
  match m.lookup resp.reqId with
  | some _ => (m.erase resp.reqId, [.resolve resp.reqId (.ok resp)])
  | none => (m, [])

/-- `fail_one` (inner.rs:124). -/
def failOne (m : PendingRequestMap) (reqId : Nat) (err : ConnectionError) : PendingRequestMap × List Effect :=
  match m.lookup reqId with
  | some _ => (m.erase reqId, [.resolve reqId (.error err)])
  | none => (m, [])

/-- The `WsRequestFailedEvent` of one drained request. -/
def requestFailed (now : MonotonicInstant) (p : PendingRequest) (reason : WsFailReason) : Effect :=
  .publish { eventVersion := 1, timestampMonotonic := now, requestId := none
             payload := .wsRequestFailedEvent p.reqId p.op reason }

/-- The pending requests in drain order: by `req_id` (inner.rs:103). -/
def drainOrder (m : PendingRequestMap) : List PendingRequest :=
  (HashMap.values m).insertionSort (·.reqId ≤ ·.reqId)

/-- `drain` (inner.rs:96): the future first, then its bus event, for every pending request. -/
def drain (m : PendingRequestMap) (cause : DrainCause) (now : MonotonicInstant) : PendingRequestMap × List Effect :=
  (∅, (drainOrder m).flatMap fun p =>
    [.resolve p.reqId (.error cause.resolve.1), requestFailed now p cause.resolve.2])

/-- `drain_one_retryable` (inner.rs:132). -/
def drainOneRetryable (m : PendingRequestMap) (reqId : Nat) (now : MonotonicInstant) :
    PendingRequestMap × List Effect :=
  match m.lookup reqId with
  | some p => (m.erase reqId,
      [.resolve p.reqId (.error .requestInFlightWhenDropped), requestFailed now p .connectionLost])
  | none => (m, [])

@[simp] theorem drain_fst (m : PendingRequestMap) (cause : DrainCause) (now : MonotonicInstant) :
    (drain m cause now).1 = ∅ := rfl

theorem mem_drainOrder (m : PendingRequestMap) (p : PendingRequest) :
    p ∈ drainOrder m ↔ p ∈ HashMap.values m := by
  simp [drainOrder]

/-- An observation of the effects that sees neither a resolution nor its event sees nothing of a drain. -/
theorem filterMap_drain {α : Type*} {f : Effect → Option α} {now : MonotonicInstant}
    (hr : ∀ reqId r, f (.resolve reqId r) = none) (hf : ∀ p reason, f (requestFailed now p reason) = none)
    (m : PendingRequestMap) (cause : DrainCause) : (drain m cause now).2.filterMap f = [] := by
  rw [List.filterMap_eq_nil_iff]
  intro x hx
  obtain ⟨p, -, hx⟩ := List.mem_flatMap.1 hx
  simp only [List.mem_cons, List.not_mem_nil, or_false] at hx
  rcases hx with rfl | rfl
  · exact hr ..
  · exact hf ..

end PendingRequestMap

/-! ## `StalenessMonitor` -/

/-- `StalenessMonitor` (inner.rs:177-183). -/
structure StalenessMonitor where
  windowMs : Nat
  lastInboundAt : Option MonotonicInstant
  armed : Bool
  deriving DecidableEq, Repr

namespace StalenessMonitor

/-- `new` (inner.rs:186). -/
def new (windowMs : Nat) : StalenessMonitor := { windowMs, lastInboundAt := none, armed := false }

/-- `arm` (inner.rs:194). -/
def arm (m : StalenessMonitor) (now : MonotonicInstant) : StalenessMonitor :=
  { m with armed := true, lastInboundAt := some now }

/-- `disarm` (inner.rs:199). -/
def disarm (m : StalenessMonitor) : StalenessMonitor := { m with armed := false, lastInboundAt := none }

/-- `note_inbound` (inner.rs:204). -/
def noteInbound (m : StalenessMonitor) (at' : MonotonicInstant) : StalenessMonitor :=
  if m.armed then { m with lastInboundAt := some at' } else m

/-- `deadline` (inner.rs:220). -/
def deadline (m : StalenessMonitor) : Option MonotonicInstant :=
  if m.armed then m.lastInboundAt.map (· + fromMillis m.windowMs) else none

@[simp] theorem deadline_arm (m : StalenessMonitor) (now : MonotonicInstant) :
    (m.arm now).deadline = some (now + fromMillis m.windowMs) := rfl

@[simp] theorem deadline_disarm (m : StalenessMonitor) : m.disarm.deadline = none := rfl

@[simp] theorem deadline_noteInbound_isSome (m : StalenessMonitor) (at' : MonotonicInstant) :
    (m.noteInbound at').deadline.isSome = m.armed := by
  cases h : m.armed <;> simp [noteInbound, deadline, h]

end StalenessMonitor

/-! ## `TimerSet` -/

/-- `TimerSet` (inner.rs:274-298); a field is `none` when not armed. -/
structure TimerSet where
  backoffDueAt : Option MonotonicInstant
  upgradeTimeoutDueAt : Option MonotonicInstant
  stalenessDueAt : Option MonotonicInstant
  closeTimeoutDueAt : Option MonotonicInstant
  rateBudgetWindowAdvancedAt : Option MonotonicInstant
  perEntrySubscribeAckTimeouts : HashMap EntryKey MonotonicInstant
  perEntrySubscribeResendDue : HashMap EntryKey MonotonicInstant
  perEntryBookReseedSnapshot : HashMap EntryKey MonotonicInstant
  tokenRefreshDueAt : Option MonotonicInstant

/-- `TimerSet::default`: nothing armed. -/
def TimerSet.empty : TimerSet :=
  { backoffDueAt := none, upgradeTimeoutDueAt := none, stalenessDueAt := none, closeTimeoutDueAt := none
    rateBudgetWindowAdvancedAt := none, perEntrySubscribeAckTimeouts := ∅, perEntrySubscribeResendDue := ∅
    perEntryBookReseedSnapshot := ∅, tokenRefreshDueAt := none }

end KrakenSdk.Conn
