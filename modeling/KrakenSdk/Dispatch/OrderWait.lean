import KrakenSdk.Conn.StateEvents
import Mathlib.Logic.Function.Basic
/-!
# An order that waits for its connection (api/ws_surface/connect.rs, io_reactor/send_ready.rs)

`ensure_sendable` reads the mirror of the connection, subscribes to what the connection announces,
reads the mirror again and waits. Meanwhile the reactor steps its connections, each step publishing
on the ring before the mirror is written, and the dispatch task fans the envelopes of the ring out, one
by one. One order is followed here; any other shows as the `StartConnect` it posts.

| here | source |
| --- | --- |
| `orderStep` | `ensure_sendable`, `await_open_by_url` (connect.rs:35-182) |
| `connStep`, `writeMirror` | a reactor call on a connection, `write_mirror` |
| `storeSendReady`, `publishSendReady` | `store_send_ready`, the rest of `refresh_send_ready` |
| `dispatchStep` | the fan-out of the dispatch task (event_bus/mod.rs:1294-1330) |

The ring does not overflow and the 30 s backstop never fires: an order it would end is one that waits
for ever. What the flag recomputation reads of the registry and of the token comes with its step.
-/
namespace KrakenSdk.Dispatch

open KrakenSdk.Conn StepSystem

/-! ## What is published and heard -/

/-- What an order subscribes to, in its order (connect.rs:93-152). -/
inductive Topic where
  | connectionOpen | connectionFailed | connectionClosed | connectionSendReady
  deriving DecidableEq, Repr

/-- The result of the wait. -/
inductive OrderAnswer where
  | ok | notOpen
  deriving DecidableEq, Repr

/-- What the callback of a subscription sends. -/
def Topic.answer : Topic → OrderAnswer
  | .connectionOpen | .connectionSendReady => .ok
  | .connectionFailed | .connectionClosed => .notOpen

/-- An envelope on the ring: a lifecycle event, or `ConnectionSendReadyEvent`. -/
inductive BusItem where
  | lifecycle (e : EventEnvelope)
  | sendReady (url : WsUrl)

/-- The topic of an announced state; nobody subscribes to a reopening. -/
def newsTopic : StateNews → Option Topic
  | .opened => some .connectionOpen
  | .reopened => none
  | .failed => some .connectionFailed
  | .closed => some .connectionClosed

/-- The subscription of an order for `url` whose callback takes an envelope. -/
def BusItem.topic (url : WsUrl) : BusItem → Option Topic
  | .lifecycle e =>
    match e.payload.news with
    | some (u, n) => if u = url then newsTopic n else none
    | none => none
  | .sendReady u => if u = url then some .connectionSendReady else none

/-- The envelopes among some effects. -/
def envelopes (effects : List Effect) : List BusItem :=
  effects.filterMap fun
    | .publish e => some (.lifecycle e)
    | _ => none

/-! ## The order -/

/-- Where an order stands. `subscribe` lists what is still to subscribe to; `checkFlag` has read
`Authenticating` and is about to read the flag; `refused` returned an error before it waited. -/
inductive OrderPhase where
  | enter | readHint | snapshot
  | subscribe (left : List Topic)
  | recheck | checkFlag | waiting
  | returned (answer : OrderAnswer)
  | refused | notNeeded
  deriving DecidableEq, Repr

/-- One order. `oneshot` is what its callbacks sent; `sawOk` and `sawErr` remember what the connection
was since the snapshot: open or send-ready, and failed or closing or closed. -/
structure OrderWait where
  phase : OrderPhase
  acceptAuthenticating : Bool
  subscribed : List Topic
  oneshot : Option OrderAnswer
  sawOk : Bool
  sawErr : Bool

namespace OrderWait

def new : OrderWait :=
  { phase := .enter, acceptAuthenticating := false, subscribed := [], oneshot := none, sawOk := false, sawErr := false }

/-- What the order subscribes to. -/
def topics (acceptAuthenticating : Bool) : List Topic :=
  [.connectionOpen, .connectionFailed, .connectionClosed] ++
    if acceptAuthenticating then [.connectionSendReady] else []

/-- The snapshot is taken and the order has not returned at once. -/
def watching (o : OrderWait) : Bool :=
  match o.phase with
  | .subscribe _ | .recheck | .checkFlag | .waiting | .returned _ => true
  | _ => false

/-- The answer it has: returned, or about to be received. -/
def answer (o : OrderWait) : Option OrderAnswer :=
  match o.phase with
  | .returned answer => some answer
  | .waiting => o.oneshot
  | _ => none

/-- A callback runs: the sender is taken once. -/
def hear (o : OrderWait) (topic : Topic) : OrderWait :=
  if topic ∈ o.subscribed then { o with oneshot := o.oneshot.or (some topic.answer) } else o

end OrderWait

/-- `ensure_sendable` at its snapshot (connect.rs:57-76). `queued` is whether the post of the connect fits. -/
def snapshotPhase (acceptAuthenticating queued : Bool) : ConnectionState → OrderPhase
  | .opened => .notNeeded
  | .idle => if queued then .subscribe (OrderWait.topics acceptAuthenticating) else .refused
  | .connecting | .authenticating | .resubscribing => .subscribe (OrderWait.topics acceptAuthenticating)
  | .backingOff | .failed | .closing | .closed => .refused

/-- The re-check of `await_open_by_url` (connect.rs:155-174). -/
def recheckPhase (acceptAuthenticating : Bool) : ConnectionState → OrderPhase
  | .opened => .returned .ok
  | .authenticating => if acceptAuthenticating then .checkFlag else .waiting
  | .failed | .closing | .closed => .returned .notOpen
  | .idle | .connecting | .resubscribing | .backingOff => .waiting

/-! ## The system -/

/-- The connections, what the reactor shows of them, the ring and one order for `url`. -/
structure OrderSystem where
  conns : WsUrl → ManagedConnection
  mirrors : WsUrl → ConnectionState
  authHasSubscriptions : Bool
  authSendReady : Bool
  /-- `refresh_send_ready` has stored `true` and not published yet. -/
  publishDue : Bool
  ring : List BusItem
  url : WsUrl
  order : OrderWait
  /-- The last store of the flag was `true`, and the auth connection has stayed in `Authenticating`. -/
  sendReady : Bool

/-- A call of the reactor on a connection. -/
inductive ReactorCall where
  | act (l : Label)
  /-- The writer refused a subscribe frame (subscribe_send.rs:166). -/
  | subscribeFailure (env : Env) (key : EntryKey)

/-- What the call does. -/
def ReactorCall.apply (mc : ManagedConnection) : ReactorCall → ManagedConnection
  | .act l => mc.step l
  | .subscribeFailure env key => mc.handleSubscribeFailure env key true none

/-- One step of one party. -/
inductive OrderAct where
  | conn (url : WsUrl) (call : ReactorCall)
  | writeMirror (url : WsUrl)
  | storeHint (authHasSubscriptions : Bool)
  /-- `refresh_send_ready`, or `store_send_ready` where it does not `emit`. -/
  | storeSendReady (url : WsUrl) (hasUrlEntry tokenValid emit : Bool)
  | publishSendReady
  | dispatch
  /-- The next step of the order. -/
  | order (started queued : Bool)

namespace OrderSystem

/-- Before the first step. -/
def new (knobs : Knobs) (url : WsUrl) : OrderSystem :=
  { conns := fun u => .new u knobs, mirrors := fun _ => .idle, authHasSubscriptions := false, authSendReady := false
    publishDue := false, ring := [], url, order := .new, sendReady := false }

/-- A reactor call: what it publishes is on the ring, its mirror is not written yet. -/
def connStep (s : OrderSystem) (url : WsUrl) (call : ReactorCall) : OrderSystem :=
  let mc := call.apply (s.conns url)
  { s with
    conns := Function.update s.conns url mc
    ring := s.ring ++ envelopes (mc.bus.drop (s.conns url).bus.length)
    sendReady := s.sendReady && (url ≠ .authUrl || mc.state = .authenticating) }

/-- `store_send_ready` (send_ready.rs:41-55). The reactor has always written the mirror of
`Authenticating` when it recomputes the flag. -/
def storeSendReady (s : OrderSystem) (url : WsUrl) (hasUrlEntry tokenValid emit : Bool) : OrderSystem :=
  let ready := url = .authUrl && (s.conns url).state = .authenticating && !hasUrlEntry && tokenValid
  if ready && s.mirrors .authUrl ≠ .authenticating then s
  else { s with authSendReady := ready, sendReady := ready, publishDue := ready && emit }

/-- One envelope is fanned out to the subscriptions of this moment. -/
def dispatchStep (s : OrderSystem) : OrderSystem :=
  match s.ring with
  | [] => s
  | item :: ring =>
    match item.topic s.url with
    | some topic => { s with ring, order := s.order.hear topic }
    | none => { s with ring }

/-- The next step of the order. -/
def orderStep (s : OrderSystem) (started queued : Bool) : OrderSystem :=
  let o := s.order
  match o.phase with
  | .enter => { s with order := { o with phase := if started then .readHint else .refused } }
  | .readHint => { s with order := { o with phase := .snapshot, acceptAuthenticating := !s.authHasSubscriptions } }
  | .snapshot => { s with order := { o with phase := snapshotPhase o.acceptAuthenticating queued (s.mirrors s.url) } }
  | .subscribe (topic :: left) =>
    { s with order := { o with phase := .subscribe left, subscribed := topic :: o.subscribed } }
  | .subscribe [] => { s with order := { o with phase := .recheck } }
  | .recheck => { s with order := { o with phase := recheckPhase o.acceptAuthenticating (s.mirrors s.url) } }
  | .checkFlag => { s with order := { o with phase := if s.authSendReady then .returned .ok else .waiting } }
  | .waiting =>
    match o.oneshot with
    | some answer => { s with order := { o with phase := .returned answer } }
    | none => s
  | .returned _ | .refused | .notNeeded => s

/-- One step of one party; the reactor does nothing between a store of the flag and its event. -/
def act (s : OrderSystem) : OrderAct → OrderSystem
  | .conn url call => if s.publishDue then s else s.connStep url call
  | .writeMirror url =>
    if s.publishDue then s else { s with mirrors := Function.update s.mirrors url (s.conns url).state }
  | .storeHint authHasSubscriptions => if s.publishDue then s else { s with authHasSubscriptions }
  | .storeSendReady url hasUrlEntry tokenValid emit =>
    if s.publishDue then s else s.storeSendReady url hasUrlEntry tokenValid emit
  | .publishSendReady =>
    if s.publishDue then { s with ring := s.ring ++ [.sendReady .authUrl], publishDue := false } else s
  | .dispatch => s.dispatchStep
  | .order started queued => s.orderStep started queued

/-- The connection can take an order now. -/
def okNow (s : OrderSystem) : Bool := (s.conns s.url).state = .opened || s.sendReady

/-- It can not, and does not try to. -/
def errNow (s : OrderSystem) : Bool :=
  match (s.conns s.url).state with
  | .failed | .closing | .closed => true
  | _ => false

/-- What an order past its snapshot remembers of the connection. -/
def observe (s : OrderSystem) : OrderSystem :=
  { s with order := { s.order with
      sawOk := s.order.sawOk || s.order.watching && s.okNow
      sawErr := s.order.sawErr || s.order.watching && s.errNow } }

/-- One step. -/
def step (s : OrderSystem) (a : OrderAct) : OrderSystem := (s.act a).observe

/-- The state after a list of steps. -/
def run (knobs : Knobs) (url : WsUrl) (acts : List OrderAct) : OrderSystem := exec step (new knobs url) acts

end OrderSystem

end KrakenSdk.Dispatch
