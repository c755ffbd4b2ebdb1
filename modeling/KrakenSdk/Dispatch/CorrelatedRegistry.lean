import Mathlib.Logic.Function.Basic
import KrakenSdk.Lib.StepSystem
/-!
# Correlated awaits (api/await_handle.rs, dispatch/event_bus/mod.rs:49-107, 452-534, 824-1040)

A lifecycle call hands out a `RequestHandle`; awaiting it registers one or two one-shot waiters on
the bus, which share one sender, and the completion event or the death of a loop fires them. Each
locked section, each flag access and each firing of one waiter is one step here, so any number of
awaits, deliveries and deaths can interleave at them.

| here | source |
| --- | --- |
| `CorrelatedRegistry.*` | `CorrelatedRegistry`, and the locked sections of its users |
| `Await`, `awaitStep` | `arm_correlated`, `resolve_armed`, `unarm_correlated` |
| `Call`, `callStep` | `deliver_correlated`, `relatch_correlated`, `on_loop_death` |

Timestamps and the event version are left out: a correlated waiter takes every version.
-/
namespace KrakenSdk.Dispatch

open StepSystem

/-- The event types an await is keyed by (events.rs), and the others by their number. -/
inductive EventType where
  | connectionOpenEvent | connectionClosedEvent | connectionReopenedEvent | connectionFailedEvent
  | subscriptionTerminatedEvent | clientReady | clientFailed | clientClosedEvent | loopFailedEvent
  | other (code : Nat)
  deriving DecidableEq, Repr

/-- `ExpectedCompletionEvent` (types/handles.rs:43-70). -/
inductive ExpectedCompletionEvent where
  | connectionOpen | connectionClosed | connectionReopened | connectionFailed
  | orderAdded | orderEdited | orderCancelled | subscribeAcknowledged | subscribeFailed
  | subscriptionTerminated | clientReady | clientClosed
  deriving DecidableEq, Repr

/-- `to_event_type` (handles.rs:74-90). -/
def ExpectedCompletionEvent.toEventType : ExpectedCompletionEvent → EventType
  | .connectionOpen => .connectionOpenEvent
  | .connectionClosed => .connectionClosedEvent
  | .connectionReopened => .connectionReopenedEvent
  | .connectionFailed => .connectionFailedEvent
  | .orderAdded | .orderEdited | .orderCancelled => .clientFailed
  | .subscribeAcknowledged | .subscribeFailed | .subscriptionTerminated => .subscriptionTerminatedEvent
  | .clientReady => .clientReady
  | .clientClosed => .clientClosedEvent

/-- `failure_event_type` (handles.rs:94-99). -/
def ExpectedCompletionEvent.failureEventType : ExpectedCompletionEvent → Option EventType
  | .clientReady => some .clientFailed
  | _ => none

/-- `RequestHandle` (handles.rs:32). -/
structure RequestHandle where
  id : Nat
  expectedCompletion : ExpectedCompletionEvent
  deriving DecidableEq, Repr

/-- The type one arm of an await is registered under: `none` is an arm it does not have. -/
def RequestHandle.armType (h : RequestHandle) (failureArm : Bool) : Option EventType :=
  if failureArm then h.expectedCompletion.failureEventType else some h.expectedCompletion.toEventType

/-- `ReactorName` (events.rs:911). -/
inductive ReactorName where
  | io | dispatch
  deriving DecidableEq, Repr

/-- `LoopFailureCause` (events.rs:921). -/
inductive LoopFailureCause where
  | panic | unhandledError | cancelled
  deriving DecidableEq, Repr

/-- `ReactorState` (event_bus/mod.rs:111). -/
inductive ReactorState where
  | notStarted | running | stopped
  | failed (cause : LoopFailureCause)
  deriving DecidableEq, Repr

/-- The payloads a death produces; any other by its number. -/
inductive CompletionPayload where
  /-- `ClientFailed` with `ClientFailureCause::LoopFailed`. -/
  | clientFailedLoopFailed
  | loopFailedEvent (loopName : ReactorName) (cause : LoopFailureCause)
  | other (code : Nat)
  deriving DecidableEq, Repr

/-- `EventEnvelope` (events.rs:1053). -/
structure CompletionEnvelope where
  eventType : EventType
  requestId : Option Nat
  payload : CompletionPayload
  deriving DecidableEq, Repr

/-- What a waiter is registered under: an event type and a request id. -/
abbrev CorrelationKey := EventType × Nat

/-- The key an envelope is looked up by; a broadcast event has none. -/
def CompletionEnvelope.key (e : CompletionEnvelope) : Option CorrelationKey := e.requestId.map (e.eventType, ·)

/-- One registered arm: the await it belongs to, and which of its two arms it is. -/
structure Waiter where
  await : Nat
  failureArm : Bool
  deriving DecidableEq, Repr

/-- `CorrelatedRegistry` (event_bus/mod.rs:54-70). -/
structure CorrelatedRegistry where
  live : List (CorrelationKey × Waiter)
  missed : List (CorrelationKey × CompletionEnvelope)
  missedCap : Nat
  deathCommitted : Bool
  deathPurged : Bool

namespace CorrelatedRegistry

/-- `CorrelatedRegistry::new` (mod.rs:73). -/
def new (missedCap : Nat) : CorrelatedRegistry :=
  { live := [], missed := [], missedCap, deathCommitted := false, deathPurged := false }

/-- `latch_missed` (mod.rs:84-99). -/
def latchMissed (r : CorrelatedRegistry) (key : CorrelationKey) (event : CompletionEnvelope) : CorrelatedRegistry :=
  { r with missed := (if r.missedCap ≤ r.missed.length then r.missed.tail else r.missed) ++ [(key, event)] }

/-- `take_missed` (mod.rs:103-106). -/
def takeMissed (r : CorrelatedRegistry) (key : CorrelationKey) : CorrelatedRegistry × Option CompletionEnvelope :=
  match r.missed.find? (·.1 = key) with
  | some (_, event) => ({ r with missed := r.missed.eraseP (·.1 = key) }, some event)
  | none => (r, none)

/-- The locked section of `subscribe_correlated` (mod.rs:468-481): the miss it consumed, if any. -/
def subscribeCorrelated (r : CorrelatedRegistry) (key : CorrelationKey) (w : Waiter) :
    CorrelatedRegistry × Option CompletionEnvelope :=
  match r.takeMissed key with
  | (r', some event) => (r', some event)
  | (r', none) => ({ r' with live := r'.live ++ [(key, w)] }, none)

/-- The correlated half of `unsubscribe` (mod.rs:501-513). -/
def unsubscribe (r : CorrelatedRegistry) (w : Waiter) : CorrelatedRegistry :=
  { r with live := r.live.filter (·.2 ≠ w) }

/-- The waiters of the key, taken out of the map; without one the event is latched. -/
def removeOrLatch (r : CorrelatedRegistry) (key : CorrelationKey) (event : CompletionEnvelope) :
    CorrelatedRegistry × List Waiter :=
  match (r.live.filter (·.1 = key)).map (·.2) with
  | [] => (r.latchMissed key event, [])
  | records => ({ r with live := r.live.filter (·.1 ≠ key) }, records)

/-- The locked section of `deliver_correlated` (mod.rs:949-981). -/
def deliverCorrelated (r : CorrelatedRegistry) (key : CorrelationKey) (event : CompletionEnvelope) :
    CorrelatedRegistry × List Waiter :=
  if r.deathCommitted ∧ event.eventType ≠ .clientFailed ∧ event.eventType ≠ .loopFailedEvent then (r, [])
  else r.removeOrLatch key event

/-- The locked section of `relatch_correlated` (mod.rs:1002-1020). -/
def relatchCorrelated (r : CorrelatedRegistry) (key : CorrelationKey) (event : CompletionEnvelope) :
    CorrelatedRegistry × List Waiter :=
  if r.deathPurged then (r, []) else r.removeOrLatch key event

/-- The commit of a death (mod.rs:846-856). -/
def commitDeath (r : CorrelatedRegistry) (shuttingDown : Bool) : CorrelatedRegistry :=
  if shuttingDown then { r with deathCommitted := true }
  else { r with deathCommitted := true, missed := [], deathPurged := true }

/-- The drain of a death (mod.rs:914-917): every live waiter, in whatever order the map gives. -/
def drainLive (r : CorrelatedRegistry) : CorrelatedRegistry × List (CorrelationKey × Waiter) :=
  ({ r with live := [] }, r.live)

end CorrelatedRegistry

/-! ## The parties -/

/-- What an await got: an envelope through its receiver, or its own `AwaitError::LoopDead`. -/
inductive AwaitOutcome where
  | envelope (event : CompletionEnvelope)
  | loopDead
  deriving DecidableEq, Repr

/-- Where an await stands. `arm` is about to register one of its arms, `fire` has consumed a miss for
it, `relatching` waits for the call that hands a declined miss back; `armed` is before the check of
`resolve_armed`, `claim` after it read the flag as set, `waiting` in `rx.await`. -/
inductive AwaitPhase where
  | arm (failureArm : Bool)
  | fire (failureArm : Bool) (event : CompletionEnvelope)
  | relatching (failureArm : Bool) (call : Nat)
  | armed | claim | waiting
  | unsubscribe (failureArm : Bool)
  | drop | dropped
  deriving DecidableEq, Repr

/-- One await: `tx` is whether the cell still holds the sender. `outcomes` lists what its receiver was
sent and what it claimed for itself. -/
structure Await where
  phase : AwaitPhase
  tx : Bool
  rxDropped : Bool
  cancelled : Bool
  outcomes : List AwaitOutcome
  deriving DecidableEq, Repr

namespace Await

/-- An await whose `arm_correlated` has not run. -/
def new : Await := { phase := .arm false, tx := true, rxDropped := false, cancelled := false, outcomes := [] }

/-- The handler of an arm, whichever it is (await_handle.rs:40-48): the sender is taken and sends. -/
def offer (a : Await) (event : CompletionEnvelope) : Await :=
  if a.tx then
    { a with tx := false, outcomes := if a.rxDropped then a.outcomes else a.outcomes ++ [.envelope event] }
  else a

/-- Whether that handler accepts. -/
def accepts (a : Await) : Bool := a.tx && !a.rxDropped

end Await

/-- A run of `on_loop_death`: `shuttingDown` is what it read of the flag. -/
structure Death where
  loopName : ReactorName
  cause : LoopFailureCause
  shuttingDown : Bool
  deriving DecidableEq, Repr

/-- The envelope a drained waiter is fired with (mod.rs:926-939). -/
def Death.terminal (d : Death) (key : CorrelationKey) : CompletionEnvelope :=
  match key.1 with
  | .clientReady | .clientFailed =>
    { eventType := .clientFailed, requestId := some key.2, payload := .clientFailedLoopFailed }
  | _ => { eventType := .loopFailedEvent, requestId := some key.2, payload := .loopFailedEvent d.loopName d.cause }

/-- The steps of `on_loop_death` up to its drain (mod.rs:827-887). -/
inductive DeathStep where
  | readShuttingDown | readState | storeIntendedStop | commit | storeObserved | swapLoopFailed | markState | drain
  deriving DecidableEq, Repr

/-- A call on the bus, between two of its steps. -/
inductive Call where
  | idle
  | deliver (event : CompletionEnvelope)
  | relatch (event : CompletionEnvelope)
  | firing (event : CompletionEnvelope) (left : List Waiter) (accepted : Bool)
  | death (d : Death) (next : DeathStep)
  | draining (d : Death) (left : List (CorrelationKey × Waiter))
  | returned
  /-- `on_loop_death` has returned, and not from an intended stop. -/
  | deathReturned
  deriving DecidableEq, Repr

/-- The registry, the flags and the parties. -/
structure BusSystem where
  reg : CorrelatedRegistry
  loopDeathObserved : Bool
  loopFailed : Bool
  shuttingDown : Bool
  dispatchReactorState : ReactorState
  awaits : Nat → Await
  calls : Nat → Call
  /-- Some death has drained the live waiters. -/
  drained : Bool

/-- One step of one party. -/
inductive BusAct where
  | startDeliver (call : Nat) (event : CompletionEnvelope)
  | startRelatch (call : Nat) (event : CompletionEnvelope)
  | startDeath (call : Nat) (loopName : ReactorName) (cause : LoopFailureCause)
  /-- The next step of a call; a drain fires the waiter at `choice`. -/
  | call (call : Nat) (choice : Nat)
  /-- The next step of an await; `relatch` is the call a declined miss is handed back by. -/
  | await (await : Nat) (relatch : Nat)
  | cancel (await : Nat)
  | beginShutdown
  | setDispatchState (state : ReactorState)

namespace BusSystem

/-- A fresh bus. -/
def new (missedCap : Nat) : BusSystem :=
  { reg := .new missedCap, loopDeathObserved := false, loopFailed := false, shuttingDown := false
    dispatchReactorState := .notStarted, awaits := fun _ => .new, calls := fun _ => .idle, drained := false }

/-- Change one await. -/
def updateAwait (s : BusSystem) (a : Nat) (f : Await → Await) : BusSystem :=
  { s with awaits := Function.update s.awaits a (f (s.awaits a)) }

def setPhase (s : BusSystem) (a : Nat) (phase : AwaitPhase) : BusSystem := s.updateAwait a ({ · with phase })

def setCall (s : BusSystem) (c : Nat) (call : Call) : BusSystem :=
  { s with calls := Function.update s.calls c call }

/-- `fire_correlated` (mod.rs:1034-1070), and the same handler called by a drain. -/
def fireCorrelated (s : BusSystem) (w : Waiter) (event : CompletionEnvelope) : BusSystem :=
  s.updateAwait w.await (·.offer event)

/-- What is left of a call once its locked section has removed these waiters. -/
def fireAll (event : CompletionEnvelope) : List Waiter → Call
  | [] => .returned
  | w :: left => .firing event (w :: left) false

def afterLock (s : BusSystem) (c : Nat) (event : CompletionEnvelope)
    (locked : CorrelatedRegistry × List Waiter) : BusSystem :=
  { s with reg := locked.1 }.setCall c (fireAll event locked.2)

/-- `on_loop_death`, step by step. -/
def deathStep (s : BusSystem) (c : Nat) (d : Death) : DeathStep → BusSystem
  | .readShuttingDown =>
    s.setCall c (.death { d with shuttingDown := s.shuttingDown }
      (if s.shuttingDown = false ∧ d.loopName = .dispatch then .readState else .commit))
  | .readState =>
    s.setCall c (.death d (if s.dispatchReactorState = .stopped then .storeIntendedStop else .commit))
  | .storeIntendedStop => { s with loopDeathObserved := true }.setCall c .returned
  | .commit => { s with reg := s.reg.commitDeath d.shuttingDown }.setCall c (.death d .storeObserved)
  | .storeObserved =>
    { s with loopDeathObserved := true }.setCall c (.death d (if d.shuttingDown then .drain else .swapLoopFailed))
  | .swapLoopFailed =>
    if s.loopFailed then s.setCall c .deathReturned
    else { s with loopFailed := true }.setCall c (.death d (if d.loopName = ReactorName.dispatch then .markState else .drain))
  | .markState => { s with dispatchReactorState := .failed d.cause }.setCall c (.death d .drain)
  | .drain => { s with reg := s.reg.drainLive.1, drained := true }.setCall c (.draining d s.reg.drainLive.2)

/-- The next step of a call. -/
def callStep (s : BusSystem) (c choice : Nat) : BusSystem :=
  match s.calls c with
  | .deliver event =>
    match event.key with
    | none => s.setCall c .returned
    | some key => s.afterLock c event (s.reg.deliverCorrelated key event)
  | .relatch event =>
    match event.key with
    | none => s.setCall c .returned
    | some key => s.afterLock c event (s.reg.relatchCorrelated key event)
  | .firing event [] accepted => s.setCall c (if accepted then .returned else .relatch event)
  | .firing event (w :: left) accepted =>
    (s.fireCorrelated w event).setCall c (.firing event left (accepted || (s.awaits w.await).accepts))
  | .death d next => s.deathStep c d next
  | .draining _ [] => s.setCall c .deathReturned
  | .draining d (kw :: left) =>
    match (kw :: left)[choice]? with
    | some (key, w) => (s.fireCorrelated w (d.terminal key)).setCall c (.draining d ((kw :: left).erase (key, w)))
    | none => s
  | .idle | .returned | .deathReturned => s

/-- What an arm is followed by. -/
def afterArm : Bool → AwaitPhase
  | false => .arm true
  | true => .armed

variable (handle : Nat → RequestHandle)

/-- `arm_correlated` for one arm (await_handle.rs:49-56): an arm the handle does not have is skipped. -/
def armStep (s : BusSystem) (a : Nat) (failureArm : Bool) : BusSystem :=
  match (handle a).armType failureArm with
  | none => s.setPhase a (afterArm failureArm)
  | some eventType =>
    let (reg, miss) := s.reg.subscribeCorrelated (eventType, (handle a).id) { await := a, failureArm }
    match miss with
    | some event => { s with reg }.setPhase a (.fire failureArm event)
    | none => { s with reg }.setPhase a (afterArm failureArm)

/-- The next step of an await. -/
def awaitStep (s : BusSystem) (a relatch : Nat) : BusSystem :=
  match (s.awaits a).phase with
  | .arm failureArm => s.armStep handle a failureArm
  | .fire failureArm event =>
    if (s.awaits a).accepts then (s.updateAwait a (·.offer event)).setPhase a (afterArm failureArm)
    else if s.calls relatch = .idle then
      ((s.updateAwait a (·.offer event)).setCall relatch (.relatch event)).setPhase a (.relatching failureArm relatch)
    else s
  | .relatching failureArm c => if s.calls c = .returned then s.setPhase a (afterArm failureArm) else s
  | .armed => s.setPhase a (if s.loopDeathObserved then .claim else .waiting)
  | .claim =>
    if (s.awaits a).tx then
      s.updateAwait a fun w => { w with phase := .unsubscribe false, tx := false, outcomes := w.outcomes ++ [.loopDead] }
    else s.setPhase a .waiting
  -- The cell keeps the sender alive as long as the await, so `rx.await` ends with an envelope only.
  | .waiting => if (s.awaits a).outcomes = [] then s else s.setPhase a (.unsubscribe false)
  | .unsubscribe false => { s with reg := s.reg.unsubscribe ⟨a, false⟩ }.setPhase a (.unsubscribe true)
  | .unsubscribe true => { s with reg := s.reg.unsubscribe ⟨a, true⟩ }.setPhase a .drop
  | .drop => s.updateAwait a fun w => { w with phase := .dropped, rxDropped := true }
  | .dropped => s

/-- One step. A future is dropped where it is suspended: before its first poll, or in `rx.await`. -/
def step (s : BusSystem) : BusAct → BusSystem
  | .startDeliver c event => if s.calls c = .idle then s.setCall c (.deliver event) else s
  | .startRelatch c event => if s.calls c = .idle then s.setCall c (.relatch event) else s
  | .startDeath c loopName cause =>
    if s.calls c = .idle then s.setCall c (.death { loopName, cause, shuttingDown := false } .readShuttingDown) else s
  | .call c choice => s.callStep c choice
  | .await a relatch => s.awaitStep handle a relatch
  | .cancel a =>
    if (s.awaits a).phase = .armed ∨ (s.awaits a).phase = .waiting then
      s.updateAwait a fun w => { w with phase := .unsubscribe false, cancelled := true }
    else s
  | .beginShutdown => { s with shuttingDown := true }
  | .setDispatchState state => { s with dispatchReactorState := state }

/-- The state after a list of steps. -/
def run (missedCap : Nat) (acts : List BusAct) : BusSystem := exec (step handle) (new missedCap) acts

end BusSystem

end KrakenSdk.Dispatch
