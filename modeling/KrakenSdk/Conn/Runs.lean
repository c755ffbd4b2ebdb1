import KrakenSdk.Conn.HandleEvent
import KrakenSdk.Lib.StepSystem
/-!
# Runs of one connection

The reactor owns the connection and does three kinds of thing to it: it delivers an FSM event, after
clearing the timer the event is the firing of (`io_reactor/timer.rs:62`), and between events it
calls the bookkeeping methods (`Update`) and those of the pending requests (`RequestUpdate`). A
`Label` is one such action with the environment it reads, so a run is any list of labels: any
events in any order, any clock, any knobs, any answer of the connect-rate budget.
-/
namespace KrakenSdk.Conn

/-- The bookkeeping methods the reactor calls outside `handle_event`. -/
inductive Update where
  | noteInboundActivity
  | armSubscribeAck (key : EntryKey) (dueAt : MonotonicInstant)
  | disarmSubscribeAck (key : EntryKey)
  | armBookReseedSnapshot (key : EntryKey) (dueAt : MonotonicInstant)
  | disarmBookReseedSnapshot (key : EntryKey)
  | takeSubscribeReqId
  | recordSubscribeReqId (reqId : Nat) (key : EntryKey)
  | setAwaitingTokenRefresh (v : Bool)
  | deferOpenAuthSubscribe (key : EntryKey) (params : SubscribeParams)
  | removeDeferredOpenAuthSubscribe (key : EntryKey)
  | drainDeferredOpenAuthSubscribes
  | setTokenRefreshDue (due : Option MonotonicInstant)
  | completeResubscribeIfEmpty

/-- The methods of the pending-request map. -/
inductive RequestUpdate where
  | recordPendingRequest (p : PendingRequest)
  | resolvePendingRequest (resp : WsResponse)
  | failPendingRequest (reqId : Nat) (err : ConnectionError)
  | drainOneRetryable (reqId : Nat)

/-- One action of the reactor on the connection. -/
inductive Act where
  | event (e : FsmEvent)
  | update (u : Update)
  | request (r : RequestUpdate)

/-- An action and the environment it reads. -/
structure Label where
  env : Env
  act : Act

namespace ManagedConnection

/-- Apply one bookkeeping method. -/
def applyUpdate (mc : ManagedConnection) (env : Env) : Update → ManagedConnection
  | .noteInboundActivity => mc.noteInboundActivity env
  | .armSubscribeAck key dueAt => mc.armSubscribeAck env key dueAt
  | .disarmSubscribeAck key => mc.disarmSubscribeAck key
  | .armBookReseedSnapshot key dueAt => mc.armBookReseedSnapshot key dueAt
  | .disarmBookReseedSnapshot key => mc.disarmBookReseedSnapshot key
  | .takeSubscribeReqId => mc.takeSubscribeReqId.2
  | .recordSubscribeReqId reqId key => mc.recordSubscribeReqId reqId key
  | .setAwaitingTokenRefresh v => mc.setAwaitingTokenRefresh v
  | .deferOpenAuthSubscribe key params => mc.deferOpenAuthSubscribe key params
  | .removeDeferredOpenAuthSubscribe key => mc.removeDeferredOpenAuthSubscribe key
  | .drainDeferredOpenAuthSubscribes => mc.drainDeferredOpenAuthSubscribes.2
  | .setTokenRefreshDue due => mc.setTokenRefreshDue due
  | .completeResubscribeIfEmpty => mc.completeResubscribeIfEmpty env

/-- Apply one method of the pending-request map. -/
def applyRequest (mc : ManagedConnection) (env : Env) : RequestUpdate → ManagedConnection
  | .recordPendingRequest p => mc.recordPendingRequest p
  | .resolvePendingRequest resp => mc.resolvePendingRequest resp
  | .failPendingRequest reqId err => mc.failPendingRequest reqId err
  | .drainOneRetryable reqId => mc.drainOneRetryable env reqId

/-- Deliver an event: pop its timer, then run the FSM. -/
def deliver (mc : ManagedConnection) (env : Env) (e : FsmEvent) : ManagedConnection :=
  (mc.popTimerForEvent e).handleEvent env e

/-- One step of a run. -/
def step (mc : ManagedConnection) (l : Label) : ManagedConnection :=
  match l.act with
  | .event e => mc.deliver l.env e
  | .update u => mc.applyUpdate l.env u
  | .request r => mc.applyRequest l.env r

/-- The state of a fresh connection after a list of labels: a run. -/
def run (url : WsUrl) (knobs : Knobs) (ls : List Label) : ManagedConnection :=
  StepSystem.exec step (new url knobs) ls

/-- Every step of the run over `ls` satisfies `ok` in the state it is taken in. -/
abbrev AllowedRun (ok : ManagedConnection → Label → Prop) (url : WsUrl) (knobs : Knobs) (ls : List Label) : Prop :=
  StepSystem.Allowed step ok (new url knobs) ls

@[simp] theorem popTimerForEvent_state (mc : ManagedConnection) (e : FsmEvent) :
    (mc.popTimerForEvent e).state = mc.state := by
  cases e <;> rfl

/-- The case split of `handle_event`: one premise per source state. -/
theorem deliver_cases {P : ManagedConnection → Prop} {mc : ManagedConnection} {env : Env} {e : FsmEvent}
    (idle : mc.state = .idle → P ((mc.popTimerForEvent e).handleIdle env e))
    (connecting : mc.state = .connecting → P ((mc.popTimerForEvent e).handleConnecting env e))
    (authenticating : mc.state = .authenticating → P ((mc.popTimerForEvent e).handleAuthenticating env e))
    (resubscribing : mc.state = .resubscribing → P ((mc.popTimerForEvent e).handleResubscribing env e))
    (opened : mc.state = .opened → P ((mc.popTimerForEvent e).handleOpen env e))
    (backingOff : mc.state = .backingOff → P ((mc.popTimerForEvent e).handleBackingOff env e))
    (closing : mc.state = .closing → P ((mc.popTimerForEvent e).handleClosing env e))
    (closed : mc.state = .closed → P (mc.popTimerForEvent e))
    (failed : mc.state = .failed → P ((mc.popTimerForEvent e).handleFailed env e)) : P (mc.deliver env e) := by
  cases hs : mc.state <;> simp only [deliver, handleEvent, popTimerForEvent_state, hs] <;> solve_by_elim

/-- What a step keeps: the bookkeeping methods and the delivered events keep it. -/
theorem step_keeps {P : ManagedConnection → Prop} {mc : ManagedConnection} (l : Label)
    (hupd : ∀ u, P (mc.applyUpdate l.env u)) (hreq : ∀ r, P (mc.applyRequest l.env r))
    (hev : ∀ e, l.act = .event e → P (mc.deliver l.env e)) : P (mc.step l) := by
  unfold step
  cases h : l.act with
  | event e => exact hev e h
  | update u => exact hupd u
  | request r => exact hreq r

/-- **The invariant rule of unrestricted runs.** -/
theorem run_invariant {P : ManagedConnection → Prop} {url : WsUrl} {knobs : Knobs} (h0 : P (new url knobs))
    (hstep : ∀ mc l, P mc → P (mc.step l)) (ls : List Label) : P (run url knobs ls) :=
  (StepSystem.reach_anyStep (new url knobs) ls).invariant h0 fun s l h _ => hstep s l h

/-- **The invariant rule of restricted runs.** -/
theorem allowedRun_invariant {P : ManagedConnection → Prop} {ok : ManagedConnection → Label → Prop} {url : WsUrl}
    {knobs : Knobs} {ls : List Label} (h : AllowedRun ok url knobs ls) (h0 : P (new url knobs))
    (hstep : ∀ mc l, P mc → ok mc l → P (mc.step l)) : P (run url knobs ls) :=
  (StepSystem.Reach.exec h).invariant h0 hstep

end ManagedConnection

end KrakenSdk.Conn
