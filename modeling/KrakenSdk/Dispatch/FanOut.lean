import Mathlib.Data.Nat.ModEq
import KrakenSdk.Dispatch.CorrelatedRegistry
import KrakenSdk.Dispatch.DropOldestRing
/-!
# The event bus and its dispatch loop (dispatch/event_bus/mod.rs:336-514, 1126-1480)

Publishers push onto the `io_to_dispatch` ring and account for what they evict; callers subscribe and
unsubscribe; one loop dequeues, snapshots the subscribers of the event's type and calls them. Each
locked section, each atomic access and each callback is one step, so any number of publishers,
subscribers and callbacks that use the bus themselves can interleave at them.

| here | source |
| --- | --- |
| `FanOut` | `DispatchEventBus`, with the ring of `DropOldestRing` |
| `PushCall`, `advance` | `publish`, `publish_data`, `record_io_to_dispatch_drop`, the `emit_*` |
| `LoopPhase`, `loopStep` | `dispatch_reactor_loop`, `dispatch_data_delivery` |
| `Allocated`, `insert` | `subscribe` |

A push into the ring, its `notify_one` and the counting of what it evicted are three steps. What
`deliver_correlated` does with the waiters is `CorrelatedAwait`; here it is the panics it reports.
-/
namespace KrakenSdk.Dispatch

open StepSystem

/-! ## Events -/

/-- The types the bus itself emits (events.rs:14), and the others by the type they are awaited under. -/
inductive PublishedType where
  | queueFullWarning | slowCallbackWarning | queueDepthSample | callbackLatency | handlerPanicWarning
  | lifecycle (eventType : EventType)
  deriving DecidableEq, Repr

/-- `is_observability_event` (mod.rs:1126). -/
def isObservabilityEvent : PublishedType → Bool
  | .queueFullWarning | .lifecycle .loopFailedEvent | .slowCallbackWarning | .handlerPanicWarning
  | .queueDepthSample | .callbackLatency => true
  | .lifecycle _ => false

/-- `CallbackSource` (events.rs:860). -/
inductive CallbackSource where
  | event (eventType : PublishedType)
  | dataChannel (channel : Nat)
  deriving DecidableEq, Repr

/-- The payloads the bus makes; any other by its number. -/
inductive BusPayload where
  | queueFullWarning (droppedCount capacity : Nat)
  | queueDepthSample (depth capacity sampledAtMonotonic : Nat)
  | callbackLatency (callbackEventType : CallbackSource) (handlerId : Option Nat) (latencyUs : Nat)
  | slowCallbackWarning (slowEventType : CallbackSource) (latencyUs thresholdMs : Nat)
  | handlerPanicWarning (source : CallbackSource) (handlerId : Nat) (panicMessage : String)
  | other (code : Nat)
  deriving DecidableEq, Repr

/-- `downgrade_to` (events.rs:699). -/
def BusPayload.downgradeTo (targetVersion : Nat) : BusPayload → BusPayload
  | .callbackLatency source handlerId latencyUs =>
    if targetVersion ≤ 1 then .callbackLatency source none latencyUs else .callbackLatency source handlerId latencyUs
  | payload => payload

/-- `EventEnvelope` (events.rs:1053). -/
structure BusEnvelope where
  eventType : PublishedType
  eventVersion : Nat
  timestampMonotonic : Nat
  requestId : Option Nat
  payload : BusPayload
  deriving DecidableEq, Repr

/-- What a subscriber of `maxVersion` is handed (mod.rs:1331-1338). -/
def BusEnvelope.toDeliver (e : BusEnvelope) (maxVersion : Nat) : BusEnvelope :=
  if maxVersion < e.eventVersion then { e with payload := e.payload.downgradeTo maxVersion, eventVersion := maxVersion }
  else e

/-- `DispatchItem` (mod.rs:120): an event, or a decoded data callback by its number and its routing. -/
inductive DispatchItem where
  | event (e : BusEnvelope)
  | data (delivery channel handlerId : Nat)
  deriving DecidableEq, Repr

/-- The event of an item. -/
def DispatchItem.event? : DispatchItem → Option BusEnvelope
  | .event e => some e
  | .data .. => none

/-! ## The parties -/

/-- Where a push into the ring stands. `warns` is a push of `publish` or `publish_data`, which goes on
to `record_io_to_dispatch_drop`; the others only count what they evict. -/
inductive PushPhase where
  | toNotify (ticket : Nat) (dropped warns : Bool)
  | toCount (warns : Bool)
  | toClock (total : Nat)
  | toDebounce (total now : Nat)
  | toWarn (total now : Nat)
  deriving DecidableEq, Repr

/-- A push under way; `byLoop` is one the dispatch loop waits for. -/
structure PushCall where
  byLoop : Bool
  phase : PushPhase
  deriving DecidableEq, Repr

/-- The push evicted an item and has not counted it. -/
def PushCall.uncounted (c : PushCall) : Bool :=
  match c.phase with
  | .toNotify _ dropped _ => dropped
  | .toCount _ => true
  | _ => false

/-- A `subscribe` that has its id and has not inserted its record. -/
structure Allocated where
  handle : Nat
  eventType : PublishedType
  maxVersion : Nat
  deriving DecidableEq, Repr

/-- A `SubscriberRecord` in the table, with the number of its registration. `since` is how many events
had been looked up when it came in, `pushedBefore` how many items had been pushed. -/
structure SubscriberRecord extends Allocated where
  serial : Nat
  since : Nat
  pushedBefore : Nat
  deriving DecidableEq, Repr

/-- One call of a long-lived subscriber: the registration, the envelope and the push it came from. -/
structure Delivery where
  serial : Nat
  envelope : BusEnvelope
  ticket : Nat
  deriving DecidableEq, Repr

/-- Where the dispatch loop stands. Every phase past `dequeued` is entered with the sample taken. -/
inductive LoopPhase where
  | recv
  | dequeued (item : DispatchItem) (ticket : Nat)
  | sampled (item : DispatchItem) (ticket : Nat)
  | hasSubs (e : BusEnvelope) (ticket : Nat)
  | snapshot (e : BusEnvelope) (ticket : Nat)
  | invoke (e : BusEnvelope) (ticket : Nat) (handlers : List SubscriberRecord)
  | calling (e : BusEnvelope) (ticket : Nat) (cb : SubscriberRecord) (handlers : List SubscriberRecord)
  | callingData (channel handlerId : Nat)
  /-- The loop is gone; the item it held when the bus went with it. -/
  | ended (lost : Option (DispatchItem × Nat))
  deriving DecidableEq, Repr

/-- The bus. `fanned` is the events whose subscribers were looked up, `issued` every registration made,
`delivered` and `dataRuns` the callbacks run, `emitted` what the loop pushed about callbacks, `samples`
how many depth samples it took, `warned` the warnings let through the debounce. -/
structure FanOut where
  ring : RingSystem DispatchItem
  subscribers : PublishedType → List SubscriberRecord
  nextSubscriberId : Nat
  droppedCount : Nat
  lastWarningAt : Option Nat
  intervalMs : Nat
  calls : List PushCall
  allocated : List Allocated
  loop : LoopPhase
  dequeuesSinceSample : Nat
  /-- The envelopes the loop is about to push. -/
  emits : List BusEnvelope
  fanned : List (BusEnvelope × Nat)
  issued : List SubscriberRecord
  delivered : List Delivery
  dataRuns : List Nat
  correlatedPanics : Nat
  emitted : List BusEnvelope
  samples : Nat
  warned : List (Nat × Nat)

/-- What the loop does next, with what the clock and the callback answer. -/
inductive LoopAct where
  /-- `weak_bus.upgrade()` and the depth sample (mod.rs:1236-1267). -/
  | upgrade (alive : Bool) (elapsedMs now : Nat)
  /-- The match on the item (mod.rs:1269-1280): for an event, the waiters that panicked under
  `deliver_correlated`, with the clock at each report. -/
  | matchItem (panics : List (Nat × String × Nat))
  | hasSubs
  | snapshot
  | invoke
  | returned (elapsedUs thresholdMs latencyAt slowAt : Nat)
  | panicked (panicMessage : String) (now : Nat)

/-- One step of one party. -/
inductive FanOutAct where
  | publish (item : DispatchItem)
  | advance (call : PushCall) (now : Nat)
  | nextId (eventType : PublishedType) (maxVersion : Nat)
  | insert (record : Allocated)
  | unsubscribe (handle : Nat)
  | closeStore
  | closeNotify
  | recvPop
  | recvCheck
  | recvWait
  | abort
  | emit
  | loop (a : LoopAct)

namespace FanOut

/-- `DispatchEventBus::new` (mod.rs:290). -/
def new (capacity intervalMs : Nat) : FanOut :=
  { ring := .new capacity, subscribers := fun _ => [], nextSubscriberId := 1, droppedCount := 0, lastWarningAt := none
    intervalMs, calls := [], allocated := [], loop := .recv, dequeuesSinceSample := 0, emits := [], fanned := []
    issued := [], delivered := [], dataRuns := [], correlatedPanics := 0, emitted := [], samples := 0, warned := [] }

/-! ## Pushing -/

/-- The locked section of a push, and the call that goes on from it. -/
def push (s : FanOut) (item : DispatchItem) (byLoop warns : Bool) : FanOut :=
  let dropped := decide (s.ring.ring.capacity ≤ s.ring.ring.inner.length)
  { s with ring := s.ring.step (.push item), calls := ⟨byLoop, .toNotify s.ring.pushed.length dropped warns⟩ :: s.calls }

/-- The debounce gate (mod.rs:378-392): `None`, or an interval has passed. -/
def elapsedOk (s : FanOut) (now : Nat) : Bool :=
  match s.lastWarningAt with
  | none => true
  | some prev => decide (s.intervalMs ≤ now - prev)

/-- The `QueueFullWarning` (mod.rs:397-407). -/
def queueFullWarning (s : FanOut) (total now : Nat) : BusEnvelope :=
  { eventType := .queueFullWarning, eventVersion := 1, timestampMonotonic := now, requestId := none
    payload := .queueFullWarning total s.ring.ring.capacity }

/-- The next step of a push under way. -/
def advancePhase (s : FanOut) (byLoop : Bool) (now : Nat) : PushPhase → FanOut
  | .toNotify ticket dropped warns =>
    let s := { s with ring := s.ring.step (.pushNotify ticket) }
    if dropped then { s with calls := ⟨byLoop, .toCount warns⟩ :: s.calls } else s
  | .toCount warns =>
    let total := (s.droppedCount + 1) % 2 ^ 64
    let s := { s with droppedCount := total }
    if warns then { s with calls := ⟨byLoop, .toClock total⟩ :: s.calls } else s
  | .toClock total => { s with calls := ⟨byLoop, .toDebounce total now⟩ :: s.calls }
  | .toDebounce total at_ =>
    if s.elapsedOk at_ then
      { s with lastWarningAt := some at_, warned := s.warned ++ [(at_, total)]
               calls := ⟨byLoop, .toWarn total at_⟩ :: s.calls }
    else s
  | .toWarn total at_ => s.push (.event (s.queueFullWarning total at_)) byLoop false

/-- A step of `call`, if it is under way. -/
def advance (s : FanOut) (call : PushCall) (now : Nat) : FanOut :=
  if call ∈ s.calls then advancePhase { s with calls := s.calls.erase call } call.byLoop now call.phase else s

/-! ## Subscribing -/

/-- How many events count as looked up before a registration made now: the one between its two reads
of the table is still to come for it. -/
def sinceNow (s : FanOut) : Nat :=
  match s.loop with
  | .snapshot .. => s.fanned.length - 1
  | _ => s.fanned.length

/-- The write-locked section of `subscribe` (mod.rs:432-437). -/
def insert (s : FanOut) (a : Allocated) : FanOut :=
  let r : SubscriberRecord :=
    { toAllocated := a, serial := s.issued.length, since := s.sinceNow, pushedBefore := s.ring.pushed.length }
  { s with allocated := s.allocated.erase a, issued := s.issued ++ [r]
           subscribers := Function.update s.subscribers a.eventType (s.subscribers a.eventType ++ [r]) }

/-- `unsubscribe` (mod.rs:490-500). -/
def unsubscribe (s : FanOut) (handle : Nat) : FanOut :=
  { s with subscribers := fun t => (s.subscribers t).filter (·.handle ≠ handle) }

/-! ## The loop -/

/-- `emit_callback_latency` (mod.rs:1160). -/
def callbackLatency (source : CallbackSource) (handlerId elapsedUs now : Nat) : BusEnvelope :=
  { eventType := .callbackLatency, eventVersion := 2, timestampMonotonic := now, requestId := none
    payload := .callbackLatency source (some handlerId) elapsedUs }

/-- `emit_slow_callback_warning` (mod.rs:1182). -/
def slowCallbackWarning (source : CallbackSource) (elapsedUs thresholdMs now : Nat) : BusEnvelope :=
  { eventType := .slowCallbackWarning, eventVersion := 1, timestampMonotonic := now, requestId := none
    payload := .slowCallbackWarning source elapsedUs thresholdMs }

/-- `emit_handler_panic_warning` (mod.rs:1204). -/
def handlerPanicWarning (source : CallbackSource) (handlerId : Nat) (panicMessage : String) (now : Nat) : BusEnvelope :=
  { eventType := .handlerPanicWarning, eventVersion := 1, timestampMonotonic := now, requestId := none
    payload := .handlerPanicWarning source handlerId panicMessage }

/-- The depth sample (mod.rs:1248-1260). -/
def queueDepthSample (s : FanOut) (now : Nat) : BusEnvelope :=
  { eventType := .queueDepthSample, eventVersion := 1, timestampMonotonic := now, requestId := none
    payload := .queueDepthSample s.ring.ring.inner.length s.ring.ring.capacity now }

/-- `DEQUEUE_SAMPLE_THRESHOLD` (mod.rs:1230). -/
def dequeueSampleThreshold : Nat := 1000

/-- What a callback that returned is reported by: its latency if `latency`, and that it was slow. -/
def returnReports (source : CallbackSource) (handlerId : Nat) (latency slow : Bool)
    (elapsedUs thresholdMs latencyAt slowAt : Nat) : List BusEnvelope :=
  (if latency then [callbackLatency source handlerId elapsedUs latencyAt] else []) ++
    if slow && decide (thresholdMs * 1000 ≤ elapsedUs) then [slowCallbackWarning source elapsedUs thresholdMs slowAt]
    else []

/-- The loop, where it is not waiting for a push of its own. -/
def loopStep (s : FanOut) : LoopAct → FanOut
  | .upgrade alive elapsedMs now =>
    match s.loop with
    | .dequeued item ticket =>
      if alive then
        let dequeues := s.dequeuesSinceSample + 1
        if dequeueSampleThreshold ≤ dequeues ∨ s.intervalMs ≤ elapsedMs then
          { s with loop := .sampled item ticket, dequeuesSinceSample := 0, emits := [s.queueDepthSample now]
                   samples := s.samples + 1 }
        else { s with loop := .sampled item ticket, dequeuesSinceSample := dequeues }
      else { s with loop := .ended (some (item, ticket)) }
    | _ => s
  | .matchItem panics =>
    match s.loop with
    | .sampled (.data delivery channel handlerId) _ =>
      { s with loop := .callingData channel handlerId, dataRuns := s.dataRuns ++ [delivery] }
    | .sampled (.event e) ticket =>
      if e.requestId.isSome ∧ isObservabilityEvent e.eventType = false then
        { s with loop := .hasSubs e ticket, correlatedPanics := s.correlatedPanics + panics.length
                 emits := panics.map fun p => handlerPanicWarning (.event e.eventType) p.1 p.2.1 p.2.2 }
      else { s with loop := .hasSubs e ticket }
    | _ => s
  | .hasSubs =>
    match s.loop with
    | .hasSubs e ticket =>
      { s with fanned := s.fanned ++ [(e, ticket)]
               loop := if s.subscribers e.eventType = [] then .recv else .snapshot e ticket }
    | _ => s
  | .snapshot =>
    match s.loop with
    | .snapshot e ticket => { s with loop := .invoke e ticket (s.subscribers e.eventType) }
    | _ => s
  | .invoke =>
    match s.loop with
    | .invoke _ _ [] => { s with loop := .recv }
    | .invoke e ticket (cb :: handlers) =>
      { s with loop := .calling e ticket cb handlers
               delivered := s.delivered ++ [⟨cb.serial, e.toDeliver cb.maxVersion, ticket⟩] }
    | _ => s
  | .returned elapsedUs thresholdMs latencyAt slowAt =>
    match s.loop with
    | .calling e ticket cb handlers =>
      let reports := isObservabilityEvent e.eventType = false
      { s with loop := .invoke e ticket handlers
               emits := returnReports (.event e.eventType) cb.handle reports reports elapsedUs thresholdMs latencyAt slowAt }
    | .callingData channel handlerId =>
      { s with loop := .recv
               emits := returnReports (.dataChannel channel) handlerId (s.subscribers .callbackLatency ≠ []) true elapsedUs
                 thresholdMs latencyAt slowAt }
    | _ => s
  | .panicked panicMessage now =>
    match s.loop with
    | .calling e ticket cb handlers =>
      { s with loop := .invoke e ticket handlers
               emits := if isObservabilityEvent e.eventType then []
                 else [handlerPanicWarning (.event e.eventType) cb.handle panicMessage now] }
    | .callingData channel handlerId =>
      { s with loop := .recv, emits := [handlerPanicWarning (.dataChannel channel) handlerId panicMessage now] }
    | _ => s

/-- The loop is not inside a push of its own. -/
def loopIdle (s : FanOut) : Bool := s.calls.all (·.byLoop = false)

/-- A step of `recv`: what it pops is in the loop's hand, and its `None` ends the loop. -/
def recvStep (s : FanOut) (a : RingAct DispatchItem) : FanOut :=
  let ring := s.ring.step a
  { s with ring
           loop := match ring.received.drop s.ring.received.length with
             | (item, ticket) :: _ => .dequeued item ticket
             | [] => if ring.recv = .returnedNone then .ended none else .recv }

/-- One step. -/
def step (s : FanOut) : FanOutAct → FanOut
  | .publish item => s.push item false true
  | .advance call now => s.advance call now
  | .nextId eventType maxVersion =>
    { s with allocated := ⟨s.nextSubscriberId, eventType, maxVersion⟩ :: s.allocated
             nextSubscriberId := (s.nextSubscriberId + 1) % 2 ^ 64 }
  | .insert record => if record ∈ s.allocated then s.insert record else s
  | .unsubscribe handle => s.unsubscribe handle
  | .closeStore => { s with ring := s.ring.step .closeStore }
  | .closeNotify => { s with ring := s.ring.step .closeNotify }
  | .recvPop => if s.loop = .recv ∧ s.emits = [] ∧ s.loopIdle then s.recvStep .recvPop else s
  | .recvCheck => if s.loop = .recv ∧ s.emits = [] ∧ s.loopIdle then s.recvStep .recvCheck else s
  | .recvWait => if s.loop = .recv ∧ s.emits = [] ∧ s.loopIdle then s.recvStep .recvWait else s
  | .abort => if s.loop = .recv ∧ (s.ring.recv = .parked ∨ s.ring.recv = .woken) then { s with loop := .ended none } else s
  | .emit =>
    match s.emits with
    | [] => s
    | e :: rest =>
      if s.loopIdle then { s with emits := rest, emitted := s.emitted ++ [e] }.push (.event e) true false else s
  | .loop a => if s.emits = [] ∧ s.loopIdle then s.loopStep a else s

/-- The state after a list of steps. -/
def run (capacity intervalMs : Nat) (acts : List FanOutAct) : FanOut := exec step (new capacity intervalMs) acts

/-! ## The bus drives the ring through the ring's own steps -/

/-- What the steps of the publishers and of the `Notify` leave alone, and that they only push. -/
structure Frame (s s' : FanOut) : Prop where
  subscribers : s'.subscribers = s.subscribers
  loop : s'.loop = s.loop
  fanned : s'.fanned = s.fanned
  issued : s'.issued = s.issued
  delivered : s'.delivered = s.delivered
  dataRuns : s'.dataRuns = s.dataRuns
  received : s'.ring.received = s.ring.received
  pushed : s.ring.pushed <+: s'.ring.pushed
  ringOk : s.ring.RingOk → s'.ring.RingOk

theorem received_notifyOne (r : RingSystem DispatchItem) : r.notifyOne.received = r.received := by
  unfold RingSystem.notifyOne
  split <;> rfl

theorem pushed_notifyOne (r : RingSystem DispatchItem) : r.notifyOne.pushed = r.pushed := by
  unfold RingSystem.notifyOne
  split <;> rfl

theorem evicted_notifyOne (r : RingSystem DispatchItem) : r.notifyOne.evicted = r.evicted := by
  unfold RingSystem.notifyOne
  split <;> rfl

theorem ring_notifyOne (r : RingSystem DispatchItem) :
    r.notifyOne.ring.inner = r.ring.inner ∧ r.notifyOne.ring.capacity = r.ring.capacity := by
  unfold RingSystem.notifyOne
  split <;> exact ⟨rfl, rfl⟩

theorem pushed_ringStep (r : RingSystem DispatchItem) (a : RingAct DispatchItem) : r.pushed <+: (r.step a).pushed := by
  cases a with
  | push item => exact List.prefix_append _ _
  | pushNotify ticket =>
    by_cases h : ticket ∈ r.toNotify <;> simp [RingSystem.step, h, pushed_notifyOne]
  | closeStore => by_cases h : r.close = .notCalled <;> simp [RingSystem.step, h]
  | closeNotify => by_cases h : r.close = .stored <;> simp [RingSystem.step, h, pushed_notifyOne]
  | recvPop =>
    simp only [RingSystem.step, RingSystem.popStep]
    split <;> [split; skip] <;> exact List.prefix_refl _
  | recvCheck => by_cases h : r.recv = .check <;> simp [RingSystem.step, h]
  | recvWait =>
    simp only [RingSystem.step]
    split <;> [split; skip; skip] <;> exact List.prefix_refl _

/-- Only a pop receives. -/
theorem received_ringStep (r : RingSystem DispatchItem) {a : RingAct DispatchItem} (ha : a ≠ .recvPop) :
    (r.step a).received = r.received := by
  cases a with
  | push item => rfl
  | pushNotify ticket =>
    by_cases h : ticket ∈ r.toNotify <;> simp [RingSystem.step, h, received_notifyOne]
  | closeStore => by_cases h : r.close = .notCalled <;> simp [RingSystem.step, h]
  | closeNotify => by_cases h : r.close = .stored <;> simp [RingSystem.step, h, received_notifyOne]
  | recvPop => exact absurd rfl ha
  | recvCheck => by_cases h : r.recv = .check <;> simp [RingSystem.step, h]
  | recvWait =>
    simp only [RingSystem.step]
    split <;> [split; skip; skip] <;> rfl

/-- A step that only takes the ring one step of its own. -/
theorem Frame.ofRing {s s' : FanOut} {a : RingAct DispatchItem} (ha : a ≠ .recvPop) (hring : s'.ring = s.ring.step a)
    (h1 : s'.subscribers = s.subscribers) (h2 : s'.loop = s.loop) (h3 : s'.fanned = s.fanned)
    (h4 : s'.issued = s.issued) (h5 : s'.delivered = s.delivered) (h6 : s'.dataRuns = s.dataRuns) : Frame s s' := by
  refine ⟨h1, h2, h3, h4, h5, h6, ?_, ?_, fun h => ?_⟩
  · rw [hring, received_ringStep _ ha]
  · rw [hring]
    exact pushed_ringStep _ a
  · rw [hring]
    exact RingSystem.ringOk_step h a

/-- A step that leaves the ring alone too. -/
theorem Frame.ofCalls {s s' : FanOut} (hring : s'.ring = s.ring) (h1 : s'.subscribers = s.subscribers)
    (h2 : s'.loop = s.loop) (h3 : s'.fanned = s.fanned) (h4 : s'.issued = s.issued) (h5 : s'.delivered = s.delivered)
    (h6 : s'.dataRuns = s.dataRuns) : Frame s s' :=
  ⟨h1, h2, h3, h4, h5, h6, by rw [hring], by rw [hring], fun h => by rwa [hring]⟩

theorem frame_push (s : FanOut) (item : DispatchItem) (byLoop warns : Bool) : Frame s (s.push item byLoop warns) :=
  .ofRing (a := .push item) (by simp) rfl rfl rfl rfl rfl rfl rfl

theorem frame_advance (s : FanOut) (call : PushCall) (now : Nat) : Frame s (s.advance call now) := by
  unfold advance
  split
  · obtain ⟨byLoop, phase⟩ := call
    cases phase with
    | toNotify ticket dropped warns =>
      refine .ofRing (a := .pushNotify ticket) (by simp) ?_ ?_ ?_ ?_ ?_ ?_ ?_ <;>
        (simp only [advancePhase]; split <;> rfl)
    | toCount warns =>
      refine .ofCalls ?_ ?_ ?_ ?_ ?_ ?_ ?_ <;> (simp only [advancePhase]; split <;> rfl)
    | toClock total => exact .ofCalls rfl rfl rfl rfl rfl rfl rfl
    | toDebounce total at_ =>
      refine .ofCalls ?_ ?_ ?_ ?_ ?_ ?_ ?_ <;> (simp only [advancePhase]; split <;> rfl)
    | toWarn total at_ =>
      exact .ofRing (a := .push (.event (s.queueFullWarning total at_))) (by simp) rfl rfl rfl rfl rfl rfl rfl
  · exact .ofCalls rfl rfl rfl rfl rfl rfl rfl

theorem frame_closeStore (s : FanOut) : Frame s (s.step .closeStore) :=
  .ofRing (a := .closeStore) (by simp) rfl rfl rfl rfl rfl rfl rfl

theorem frame_closeNotify (s : FanOut) : Frame s (s.step .closeNotify) :=
  .ofRing (a := .closeNotify) (by simp) rfl rfl rfl rfl rfl rfl rfl

theorem frame_emit (s : FanOut) : Frame s (s.step .emit) := by
  simp only [step]
  split
  · exact .ofCalls rfl rfl rfl rfl rfl rfl rfl
  next e rest _ =>
    split
    · exact .ofRing (a := .push (.event e)) (by simp) rfl rfl rfl rfl rfl rfl rfl
    · exact .ofCalls rfl rfl rfl rfl rfl rfl rfl

/-- A step of `recv` leaves the loop with an item, waiting or ended. -/
theorem loop_recvStep (s : FanOut) (a : RingAct DispatchItem) :
    (∃ item ticket, (s.recvStep a).loop = .dequeued item ticket ∧ s.ring.received.length < (s.recvStep a).ring.received.length) ∨
      (s.recvStep a).loop = .recv ∨ (s.recvStep a).loop = .ended none := by
  cases hd : (s.ring.step a).received.drop s.ring.received.length with
  | cons row rest =>
    have hlen := congrArg List.length hd
    simp only [List.length_drop, List.length_cons] at hlen
    refine .inl ⟨row.1, row.2, by simp [recvStep, hd], ?_⟩
    show s.ring.received.length < (s.ring.step a).received.length
    omega
  | nil => by_cases hn : (s.ring.step a).recv = .returnedNone <;> simp [recvStep, hd, hn]

end FanOut

end KrakenSdk.Dispatch
