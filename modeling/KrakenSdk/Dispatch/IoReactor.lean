import KrakenSdk.Conn.SubscribeSend
import KrakenSdk.Dispatch.FrameRouting
import Mathlib.Logic.Function.Basic
/-!
# The I/O reactor (dispatch/io_reactor)

One task owns both connections, the socket map `read_frame_from_any` races over, the registry and the
receiving end of the upgrade channel, and serves one arm of its `select!` at a time. A `Label` is one arm,
or one `try_send` of an upgrade bridge, with everything it reads; a run is any list of labels.

`sockets` is a copy of the connections' own sockets. Most arms end by projecting the one onto the other
(`project`); registrations, text frames and upgrade outcomes do not, or only when the connection holds none.

Left out: what the reactor publishes by itself, raw unsubscribe frames, the caller's mirrors and the
send-ready flag. A socket's bridge is not tracked: any socket may report at any time.
-/
namespace KrakenSdk.Dispatch

open KrakenSdk.Conn

/-! ## The state -/

/-- `CallerEvent` (types/connection.rs). -/
inductive CallerEvent where
  | startConnect (requestId : Nat)
  | close (requestId : Nat)
  | forceReconnect (requestId : Nat)

/-- The event `handle_inbound` delivers (inbound_dispatch.rs:46-56). -/
def CallerEvent.toFsmEvent : CallerEvent → FsmEvent
  | .startConnect requestId => .callStartConnect requestId
  | .close requestId => .callClose requestId
  | .forceReconnect requestId => .callForceReconnect requestId

/-- `UpgradeOutcome` (mod.rs:66). -/
inductive UpgradeOutcome where
  | ok (url : WsUrl) (connectionId : SocketId)
  | failed (url : WsUrl) (kind : TransportErrorKind) (transient : Bool)
  deriving DecidableEq, Repr

/-- The connection an outcome is for. -/
def UpgradeOutcome.url : UpgradeOutcome → WsUrl
  | .ok url _ => url
  | .failed url _ _ => url

/-- `upgrade_failure_event` (mod.rs:78). -/
def upgradeFailureEvent (kind : TransportErrorKind) (transient : Bool) : FsmEvent :=
  match kind with
  | .httpUpgradeRejected status => .wireUpgradeFailed status
  | kind => .wireConnectError kind transient

/-- An outcome in the channel with the socket that produced it; the code carries the id of a success only. -/
structure QueuedOutcome where
  producer : SocketId
  outcome : UpgradeOutcome
  own : ∀ url connectionId, outcome = .ok url connectionId → producer = connectionId

/-- The capacity of the upgrade channel (mod.rs:138). -/
def upgradeChannelCapacity : Nat := 64

/-- `CachedToken`, as far as the reactor reads it. -/
structure CachedToken where
  value : String
  expired : Bool
  refreshDueAt : MonotonicInstant

/-- What an arm reads besides the reactor. -/
structure ArmEnv extends Env where
  /-- `auth_stack.cached_token()`. -/
  cachedToken : Option CachedToken
  /-- The socket's answer to the subscribe frame of a key. -/
  sendFrame : EntryKey → Except SendFrameError Unit
  /-- The socket's answer to a request frame. -/
  requestSend : Except SendFrameError Unit
  /-- `connect_id_allocator.fetch_add(1)`. -/
  connectRequestId : Nat
  router : Router Unit

/-- The state of the reactor task. -/
structure IoReactor where
  conns : WsUrl → ManagedConnection
  sockets : WsUrl → Option SocketId
  registry : SubscriptionRegistry
  /-- The upgrade channel, the next outcome first. -/
  upgradeRx : List QueuedOutcome
  /-- The success bridges whose first `try_send` found the channel full. -/
  fallbacks : List (WsUrl × SocketId)

/-- One entry of a `RegisterBatch`. -/
structure Registration where
  channel : ChannelName
  pair : Option Symbol
  params : SubscribeParams

/-- An arm of the `select!`, or a `try_send` of a bridge. -/
inductive Arm where
  | reportOk (url : WsUrl) (connectionId : SocketId)
  | reportFallback
  | reportFailed (url : WsUrl) (connectionId : SocketId) (kind : TransportErrorKind) (transient : Bool)
  | callerEvent (url : WsUrl) (event : CallerEvent)
  | registerBatch (url : WsUrl) (entries : List Registration) (refId : Option HandlerId)
  | deregister (channel : ChannelName) (pair : Option Symbol)
  | deregisterAll (channel : Option ChannelName)
  | guardDrop (handlerId : HandlerId) (channel : ChannelName) (symbols : List Symbol)
  | wsRequestFrame (f : ManagedConnection.WsRequestFrame)
  | abandonWsRequest (reqId : Nat)
  | takeOutcome
  | refreshed (requestId : Nat) (result : Except AuthError Unit)
  | textFrame (url : WsUrl) (json : Json)
  | otherFrame (url : WsUrl)
  | closeFrame (url : WsUrl) (code : Nat) (reason : String)
  | recvError (url : WsUrl) (error : TransportError)
  | timer (url : WsUrl) (event : FsmEvent)

/-- An arm and what it reads. -/
structure ArmLabel where
  env : ArmEnv
  arm : Arm

namespace IoReactor

/-- The reactor as it starts (mod.rs:102-170). -/
def init (knobs : Knobs) : IoReactor where
  conns := fun url => .new url knobs
  sockets := fun _ => none
  registry := .new
  upgradeRx := []
  fallbacks := []

/-! ## Reading and writing one connection -/

/-- `conns.get_mut(&url)`. -/
def updateConn (s : IoReactor) (url : WsUrl) (f : ManagedConnection → ManagedConnection) : IoReactor :=
  { s with conns := Function.update s.conns url (f (s.conns url)) }

/-- `project_socket_and_wire_bridge` (socket_lifecycle.rs:94). -/
def project (s : IoReactor) (url : WsUrl) : IoReactor :=
  { s with sockets := Function.update s.sockets url (s.conns url).socket }

/-- `if mc.socket().is_none() { sockets.remove(&url) }`. -/
def dropDeadSocket (s : IoReactor) (url : WsUrl) : IoReactor :=
  if (s.conns url).socket = none then { s with sockets := Function.update s.sockets url none } else s

section read

variable (s : IoReactor) (url : WsUrl) (f : ManagedConnection → ManagedConnection) {u : WsUrl}

@[simp] theorem conns_updateConn : (s.updateConn url f).conns url = f (s.conns url) := by simp [updateConn]

theorem conns_updateConn_of_ne (h : u ≠ url) : (s.updateConn url f).conns u = s.conns u := by simp [updateConn, h]

@[simp] theorem sockets_updateConn : (s.updateConn url f).sockets = s.sockets := rfl

@[simp] theorem conns_project : (s.project url).conns = s.conns := rfl

@[simp] theorem sockets_project : (s.project url).sockets url = (s.conns url).socket := by simp [project]

theorem sockets_project_of_ne (h : u ≠ url) : (s.project url).sockets u = s.sockets u := by simp [project, h]

@[simp] theorem conns_dropDeadSocket : (s.dropDeadSocket url).conns = s.conns := by
  unfold dropDeadSocket
  split_ifs <;> rfl

end read

/-- The subscribe frame of a registry entry. -/
def frame (env : ArmEnv) (e : SubscriptionEntry) : SubscribeFrame where
  key := e.key
  params := e.params
  sent := env.sendFrame e.key

/-- `registry.params_for(..)` and the frame composed from it. -/
def frameFor (s : IoReactor) (env : ArmEnv) (key : EntryKey) : Option SubscribeFrame :=
  (s.registry.paramsFor key).map fun params => { key, params, sent := env.sendFrame key }

/-- What the functions of the signed sends read. -/
def reactorEnv (s : IoReactor) (env : ArmEnv) (url : WsUrl) : ReactorEnv where
  toEnv := env.toEnv
  token := (env.cachedToken.filter fun t => !t.expired).map (·.value)
  socketOf := s.sockets url
  entries := (s.registry.entriesForResubscribeSorted url).map (frame env)
  requestSend := env.requestSend

/-! ## The upgrade bridges (socket_lifecycle.rs:32-90) -/

/-- A `try_send` into the upgrade channel. -/
def trySend (s : IoReactor) (q : QueuedOutcome) : Bool × IoReactor :=
  if s.upgradeRx.length < upgradeChannelCapacity then (true, { s with upgradeRx := s.upgradeRx ++ [q] }) else (false, s)

/-- The success bridge: a full channel leaves the fallback to do. -/
def reportOk (s : IoReactor) (url : WsUrl) (connectionId : SocketId) : IoReactor :=
  match s.trySend ⟨connectionId, .ok url connectionId, fun _ _ h => (UpgradeOutcome.ok.inj h).2⟩ with
  | (true, s) => s
  | (false, s) => { s with fallbacks := s.fallbacks ++ [(url, connectionId)] }

/-- The fallback of the success bridge: a synthetic transient failure. -/
def reportFallback (s : IoReactor) : IoReactor :=
  match s.fallbacks with
  | [] => s
  | (url, connectionId) :: rest =>
    ({ s with fallbacks := rest }.trySend
      ⟨connectionId, .failed url (.abnormalClose "upgrade-bridge channel full") true, nofun⟩).2

/-- The failure bridge: a full channel loses the outcome. -/
def reportFailed (s : IoReactor) (url : WsUrl) (connectionId : SocketId) (kind : TransportErrorKind)
    (transient : Bool) : IoReactor :=
  (s.trySend ⟨connectionId, .failed url kind transient, nofun⟩).2

/-! ## The caller arm (inbound_dispatch.rs, subscribe_send.rs:549-641) -/

/-- `CallerInbound::FsmEvent`; `ClientClose` is one `close` for each connection. -/
def callerEvent (s : IoReactor) (env : ArmEnv) (url : WsUrl) (event : CallerEvent) : IoReactor :=
  (s.updateConn url (·.handleEvent env.toEnv event.toFsmEvent)).project url

/-- The auto-connect of `register_one_and_emit`. -/
def startIfIdle (s : IoReactor) (env : ArmEnv) (url : WsUrl) : IoReactor :=
  if (s.conns url).state = .idle then
    (s.updateConn url (·.handleEvent env.toEnv (.callStartConnect env.connectRequestId))).project url
  else s

/-- The wire subscribe of a 0→1 edge. -/
def subscribeFirst (s : IoReactor) (env : ArmEnv) (url : WsUrl) (f : SubscribeFrame) : IoReactor :=
  match url with
  | .authUrl =>
    let mc := s.conns .authUrl
    if mc.state = .opened ∨ mc.state = .resubscribing ∨ mc.authenticatingNothingInFlight then
      s.updateConn .authUrl (·.sendSingleSignedSubscribe (s.reactorEnv env .authUrl) f)
    else s
  | .publicUrl => s.updateConn .publicUrl (·.sendSingleSubscribe env.toEnv (s.sockets .publicUrl) f)

/-- `register_one_and_emit` (subscribe_send.rs:549). -/
def registerOneAndEmit (s : IoReactor) (env : ArmEnv) (url : WsUrl) (refId : Option HandlerId) (reg : Registration) :
    IoReactor :=
  let entry := SubscriptionEntry.new url reg.channel reg.pair reg.params
  let (registry, count) := s.registry.register entry env.now refId.isSome
  let registry := match refId with
    | some id => registry.recordGuardRef id entry.key
    | none => registry
  let s := { s with registry }.startIfIdle env url
  if count = 1 then s.subscribeFirst env url (frame env entry) else s

/-- `RegistryMutationOp::RegisterBatch`: a teardown inside the batch drops the stale socket. -/
def registerBatch (s : IoReactor) (env : ArmEnv) (url : WsUrl) (refId : Option HandlerId) (regs : List Registration) :
    IoReactor :=
  regs.foldl (fun s reg => (s.registerOneAndEmit env url refId reg).dropDeadSocket url) s

/-- `channel_ws_url` (socket_lifecycle.rs:122). -/
def channelWsUrl : ChannelName → WsUrl
  | .executions | .balances => .authUrl
  | _ => .publicUrl

/-- `teardown_released_key` (inbound_dispatch.rs:329), without its unsubscribe frame and event. -/
def teardownReleasedKey (s : IoReactor) (key : EntryKey) : IoReactor :=
  s.updateConn (channelWsUrl key.1) fun mc =>
    ((mc.disarmSubscribeAck key).disarmBookReseedSnapshot key).removeDeferredOpenAuthSubscribe key

/-- `deregister_one` (inbound_dispatch.rs:282). -/
def deregisterOne (s : IoReactor) (env : ArmEnv) (channel : ChannelName) (pair : Option Symbol) : IoReactor :=
  let key := (channel.wireChannel, pair)
  let params := s.registry.paramsFor key
  let (registry, remaining) := s.registry.release key
  let s := { s with registry }
  if remaining ≠ 0 ∨ params = none then s
  else (s.teardownReleasedKey key).updateConn (channelWsUrl key.1) (·.completeResubscribeIfEmpty env.toEnv)

/-- `RegistryMutationOp::DeregisterAll`. -/
def deregisterAll (s : IoReactor) (env : ArmEnv) (channel : Option ChannelName) : IoReactor :=
  let (registry, removed) := s.registry.deregisterAll (channel.map ChannelName.wireChannel)
  let s := removed.foldl (fun s e => s.teardownReleasedKey e.1.key) { s with registry }
  let complete := fun (s : IoReactor) url =>
    if removed.any fun e => channelWsUrl e.1.channel = url then
      s.updateConn url (·.completeResubscribeIfEmpty env.toEnv)
    else s
  complete (complete s .publicUrl) .authUrl

/-- One target of `SubscriptionGuardDrop`, and whether it was torn down. -/
def dropGuardRef (handlerId : HandlerId) (acc : IoReactor × Bool) (key : EntryKey) : IoReactor × Bool :=
  let (s, anyTerminated) := acc
  let params := s.registry.paramsFor key
  let (registry, remaining) := s.registry.releaseGuardRef handlerId key
  let s := { s with registry }
  if params.isSome ∧ remaining = 0 then (s.teardownReleasedKey key, true) else (s, anyTerminated)

/-- `CallerInbound::SubscriptionGuardDrop`: no symbol means the channel-wide entry. -/
def guardDrop (s : IoReactor) (env : ArmEnv) (handlerId : HandlerId) (channel : ChannelName) (symbols : List Symbol) :
    IoReactor :=
  let wire := channel.wireChannel
  let targets := if symbols = [] then [(wire, none)] else symbols.map fun sym => (wire, some sym)
  let (s, anyTerminated) := targets.foldl (dropGuardRef handlerId) (s, false)
  if anyTerminated then s.updateConn (channelWsUrl wire) (·.completeResubscribeIfEmpty env.toEnv) else s

/-! ## The upgrade arm (mod.rs:254-373) -/

/-- `upgrade_ok_is_live` (mod.rs:94). -/
def upgradeOkIsLive (s : IoReactor) (url : WsUrl) (connectionId : SocketId) : Bool := s.sockets url = some connectionId

/-- The replay of a reconnect: every live entry, then `Open` if nothing was sent. -/
def replay (s : IoReactor) (env : ArmEnv) (url : WsUrl) : IoReactor :=
  let frames := (s.registry.entriesForResubscribeSorted url).map fun e =>
    (frame env e, e.channel = .book && s.registry.isBookResyncing e.channel e.pair)
  let socketOf := s.sockets url
  let send := fun (mc : ManagedConnection) => match socketOf with
    | none => mc
    | some socket => mc.replayFrames env.toEnv socket frames
  (s.updateConn url fun mc => (send mc).completeResubscribeIfEmpty env.toEnv).project url

/-- A success that passes the guard. -/
def upgradeOk (s : IoReactor) (env : ArmEnv) (url : WsUrl) (connectionId : SocketId) : IoReactor :=
  let s := s.updateConn url (·.handleEvent env.toEnv (.wireUpgradeOk (some connectionId)))
  let s := if (s.conns url).state = .resubscribing ∧ (s.conns url).hasBeenOpen then s.replay env url else s
  if (s.conns url).state = .authenticating then
    s.updateConn url (·.sendFirstSignedSubscribe (s.reactorEnv env url))
  else s

/-- A failure: no guard. -/
def upgradeFailed (s : IoReactor) (env : ArmEnv) (url : WsUrl) (kind : TransportErrorKind) (transient : Bool) :
    IoReactor :=
  (s.updateConn url (·.handleEvent env.toEnv (upgradeFailureEvent kind transient))).dropDeadSocket url

/-- The arm of one outcome. -/
def upgradeArm (s : IoReactor) (env : ArmEnv) : UpgradeOutcome → IoReactor
  | .ok url connectionId => if s.upgradeOkIsLive url connectionId then s.upgradeOk env url connectionId else s
  | .failed url kind transient => s.upgradeFailed env url kind transient

/-- `Some(outcome) = upgrade_rx.recv()`. -/
def takeOutcome (s : IoReactor) (env : ArmEnv) : IoReactor :=
  match s.upgradeRx with
  | [] => s
  | q :: rest => { s with upgradeRx := rest }.upgradeArm env q.outcome

/-! ## The refresh arm (mod.rs:375-457) -/

/-- The states whose deferred subscribes a refresh re-issues. -/
def drainable (mc : ManagedConnection) : Bool := mc.state = .opened || mc.state = .resubscribing

/-- The loop over the deferred subscribes: removed, terminated and in-flight keys are skipped. -/
def sendDeferred (s : IoReactor) (env : ArmEnv) :
    List (ChannelName × Option Symbol × SubscribeParams) → ManagedConnection → ManagedConnection
  | [], mc => mc
  | (channel, pair, params) :: ds, mc =>
    let key := (channel, pair)
    if s.registry.paramsFor key = none ∨ s.registry.isTerminated key ∨ mc.isSubscribeAckArmed key then
      s.sendDeferred env ds mc
    else
      let mc := mc.sendSingleSignedSubscribe (s.reactorEnv env .authUrl) { key, params, sent := env.sendFrame key }
      if drainable mc then s.sendDeferred env ds mc else mc

/-- The FSM part: a proactive tick (request 0) is delivered in the drainable states only. -/
def deliverRefresh (s : IoReactor) (env : ArmEnv) (requestId : Nat) (result : Except AuthError Unit)
    (mc : ManagedConnection) : ManagedConnection :=
  if requestId ≠ 0 ∨ drainable mc then
    match result with
    | .ok () =>
      let mc := mc.handleEvent env.toEnv (.busTokenRefreshed requestId)
      if mc.authenticatingNothingInFlight then mc.sendFirstSignedSubscribe (s.reactorEnv env .authUrl) else mc
    | .error e => mc.handleEvent env.toEnv (.busTokenRefreshFailed requestId e)
  else mc

/-- Whether a refresh landed. -/
def refreshLanded : Except AuthError Unit → Bool
  | .ok () => true
  | .error _ => false

/-- `Some(outcome) = refresh_rx.recv()`. -/
def refreshed (s : IoReactor) (env : ArmEnv) (requestId : Nat) (result : Except AuthError Unit) : IoReactor :=
  let s := s.updateConn .authUrl (s.deliverRefresh env requestId result)
  let mc := s.conns .authUrl
  let s :=
    if refreshLanded result ∧ drainable mc ∧ ¬ mc.awaitingTokenRefresh then
      s.updateConn .authUrl fun mc =>
        let (deferred, mc) := mc.drainDeferredOpenAuthSubscribes
        s.sendDeferred env deferred mc
    else s
  let s :=
    if refreshLanded result ∨ env.cachedToken.isNone then
      s.updateConn .authUrl (·.setTokenRefreshDue (env.cachedToken.map (·.refreshDueAt)))
    else s
  s.project .authUrl

/-! ## The frame arm (frame_routing.rs) -/

/-- `classify_auth_handshake_error` (frame_routing.rs:321). -/
def classifyAuthHandshakeError (err : String) : AuthErrorKind := (classifyAuthClass err).getD .transient

/-- `is_kraken_rate_limit` (error.rs:426). -/
def isKrakenRateLimit (msg : String) : Bool :=
  strContains msg "Rate limit" || strContains msg "Throttled" || strContains msg "Too many requests"

/-- A field of a subscribe ack: under `result`, else at the top. -/
def ackField (json : Json) (name : String) : Option Json :=
  ((json.get? "result").bind (·.get? name)) <|> json.get? name

/-- The key an ack is for: the echoed channel, else the one its `req_id` was sent for. -/
def ackKey (mc : ManagedConnection) (json : Json) : Option EntryKey :=
  match ((ackField json "channel").bind Json.asStr?).bind fromWireStr with
  | some channel =>
    some (channel, ((ackField json "symbol").bind Json.asStr?).bind fun s => (Types.Symbol.new s).toOption)
  | none => ((json.get? "req_id").bind Json.asU64?).bind mc.resolveSubscribeReqId

/-- An ack while `Authenticating` is that of the first signed subscribe. -/
def handshakeAck (s : IoReactor) (env : ArmEnv) (url : WsUrl) (key : EntryKey) (success : Bool)
    (error : Option String) : IoReactor :=
  if success then
    let s := s.updateConn url fun mc => (mc.handleEvent env.toEnv .wireAuthHandshakeOk).disarmSubscribeAck key
    let s := { s with registry := s.registry.noteAcked key }
    let s := s.updateConn url (·.removeDeferredOpenAuthSubscribe key)
    if (s.conns url).state = .resubscribing then
      s.updateConn url fun mc =>
        (mc.sendRemainingSignedSubscribes (s.reactorEnv env url) (some key)).completeResubscribeIfEmpty env.toEnv
    else s
  else
    let kind := classifyAuthHandshakeError (error.getD "auth handshake rejected")
    s.updateConn url fun mc =>
      let mc := (mc.handleEvent env.toEnv (.wireAuthHandshakeFailed kind)).disarmSubscribeAck key
      if mc.state = .authenticating ∧ mc.awaitingTokenRefresh then mc.perform [.authStack .forceRefresh] else mc

/-- An ack no timer waits for: a success still ends the retries of its key. -/
def lateAck (s : IoReactor) (env : ArmEnv) (url : WsUrl) (key : EntryKey) (success : Bool) : IoReactor :=
  if success then
    s.updateConn url fun mc =>
      ((mc.disarmSubscribeAck key).removeDeferredOpenAuthSubscribe key).completeResubscribeIfEmpty env.toEnv
  else s

/-- An ack its timer waits for. Kraken answers a `status` subscribe with a "Symbol(s) not found" reject. -/
def armedAck (s : IoReactor) (env : ArmEnv) (url : WsUrl) (key : EntryKey) (success : Bool) (error : Option String) :
    IoReactor :=
  let quirk := key.1 = .status && !success && error.any fun e => strContains e "Symbol(s) not found"
  if success || quirk then
    let last : Bool := (s.conns url).pendingSubscribeAckCount ≤ 1
    { s with registry := s.registry.noteAcked key }.updateConn url fun mc =>
      (mc.removeDeferredOpenAuthSubscribe key).handleEvent env.toEnv (.wireSubscribeAck key.1 key.2 last)
  else
    let errMsg := error.getD "subscribe rejected"
    let transient := isKrakenRateLimit errMsg
    let s :=
      if transient then s
      else
        { s with registry := s.registry.noteTerminated key .nonTransientWireRejection (some errMsg)
        }.updateConn url (·.disarmBookReseedSnapshot key)
    s.updateConn url (·.handleEvent env.toEnv (.wireSubscribeFailed key.1 key.2 ⟨errMsg, transient⟩))

/-- `handle_sub_ack` (frame_routing.rs:435): whether the frame was consumed. -/
def handleSubAck (s : IoReactor) (env : ArmEnv) (url : WsUrl) (json : Json) : Bool × IoReactor :=
  match (json.get? "method").bind Json.asStr? with
  | some "unsubscribe" => (true, s)
  | some "subscribe" =>
    let success := ((json.get? "success").bind Json.asBool?).getD false
    let error := (json.get? "error").bind Json.asStr?
    match ackKey (s.conns url) json with
    | none => (true, s)
    | some key =>
      if (s.conns url).state = .authenticating then (true, s.handshakeAck env url key success error)
      else if !(s.conns url).isSubscribeAckArmed key then (true, s.lateAck env url key success)
      else (true, s.armedAck env url key success error)
  | _ => (false, s)

/-- `recover_book_gap` (frame_routing.rs:874): the book is dropped first. -/
def recoverBookGap (env : ArmEnv) (url : WsUrl) (s : IoReactor) (symbol : Symbol) : IoReactor :=
  let s := { s with registry := s.registry.beginBookResync .book symbol }
  match s.frameFor env (.book, some symbol) with
  | none => s
  | some f => s.updateConn url (·.sendBookReseed env.toEnv (s.sockets url) f)

/-- `handle_request_response` where it applies (frame_routing.rs:161). -/
def requestResponse (s : IoReactor) (env : ArmEnv) (url : WsUrl) (json : Json) : Bool × IoReactor :=
  match url with
  | .publicUrl => (false, s)
  | .authUrl =>
    let (consumed, mc) := (s.conns .authUrl).handleRequestResponse (s.reactorEnv env .authUrl) json
    (consumed, s.updateConn .authUrl fun _ => mc)

/-- A text frame (frame_routing.rs:44-104): a request response, a subscribe ack, or data. -/
def textFrame (s : IoReactor) (env : ArmEnv) (url : WsUrl) (json : Json) : IoReactor :=
  let s := s.updateConn url (·.noteInboundActivity env.toEnv)
  match s.requestResponse env url json with
  | (true, s) => s
  | (false, s) =>
    match s.handleSubAck env url json with
    | (true, s) => s
    | (false, s) =>
      let (registry, _, gaps) := env.router.routeTextFrame s.registry json
      gaps.foldl (recoverBookGap env url) { s with registry }

/-- `drive_wire_close` (frame_routing.rs:290): the dead socket goes first, and only another one comes back. -/
def driveWireClose (s : IoReactor) (env : ArmEnv) (url : WsUrl) (event : FsmEvent) : IoReactor :=
  let dead := s.sockets url
  let s := { s with sockets := Function.update s.sockets url none }.updateConn url (·.handleEvent env.toEnv event)
  if (s.conns url).socket ≠ dead then s.project url else s

/-- `read_frame_from_any` reads a socket of the map, or waits. -/
def whenMapped (s : IoReactor) (url : WsUrl) (next : IoReactor) : IoReactor :=
  if (s.sockets url).isSome then next else s

/-! ## The timer arm (mod.rs:478-574) -/

/-- The timer an event is the firing of is armed. -/
def timerArmed (mc : ManagedConnection) : FsmEvent → Bool
  | .timerBackoffElapsed => mc.timers.backoffDueAt.isSome
  | .timerUpgradeTimeout => mc.timers.upgradeTimeoutDueAt.isSome
  | .timerStalenessElapsed => mc.timers.stalenessDueAt.isSome
  | .timerCloseTimeout => mc.timers.closeTimeoutDueAt.isSome
  | .timerRateBudgetWindowAdvanced => mc.timers.rateBudgetWindowAdvancedAt.isSome
  | .timerTokenRefreshDue => mc.timers.tokenRefreshDueAt.isSome
  | .timerSubscribeAckTimeout channel pair => (mc.timers.perEntrySubscribeAckTimeouts.lookup (channel, pair)).isSome
  | .timerSubscribeResendDue channel pair => (mc.timers.perEntrySubscribeResendDue.lookup (channel, pair)).isSome
  | .timerBookReseedSnapshot channel pair => (mc.timers.perEntryBookReseedSnapshot.lookup (channel, pair)).isSome
  | _ => false

/-- `handle_book_reseed_timeout` (frame_routing.rs:937). -/
def handleBookReseedTimeout (s : IoReactor) (env : ArmEnv) (url : WsUrl) : Option Symbol → IoReactor
  | none => s
  | some symbol =>
    let (registry, outcome) := s.registry.noteReseedTimeout .book symbol
    let s := { s with registry }
    match outcome, s.frameFor env (.book, some symbol) with
    | .retry, some f => s.updateConn url (·.sendBookReseed env.toEnv (s.sockets url) f)
    | _, _ => s

/-- The proactive refresh is re-armed off the clock (token_lifecycle.rs:18). -/
def rearmProactiveRefresh (env : ArmEnv) (mc : ManagedConnection) : ManagedConnection :=
  if mc.state = .closed ∨ mc.state = .failed then mc
  else mc.setTokenRefreshDue (some (env.now + fromMillis (450 * 1000)))

/-- `(url, fsm_event) = next_timer_arm(..)`: the timer is popped first. -/
def timer (s : IoReactor) (env : ArmEnv) (url : WsUrl) (event : FsmEvent) : IoReactor :=
  if timerArmed (s.conns url) event then
    let s := s.updateConn url (·.popTimerForEvent event)
    match event with
    | .timerSubscribeResendDue channel pair =>
      (s.updateConn url
        (·.handleSubscribeResend (s.reactorEnv env url) url (s.frameFor env (channel, pair)))).project url
    | .timerBookReseedSnapshot _ pair => (s.handleBookReseedTimeout env url pair).project url
    | .timerTokenRefreshDue => s.updateConn url (rearmProactiveRefresh env)
    | event => (s.updateConn url (·.handleEvent env.toEnv event)).project url
  else s

/-! ## Runs -/

/-- One step. -/
def step (s : IoReactor) (l : ArmLabel) : IoReactor :=
  match l.arm with
  | .reportOk url connectionId => s.reportOk url connectionId
  | .reportFallback => s.reportFallback
  | .reportFailed url connectionId kind transient => s.reportFailed url connectionId kind transient
  | .callerEvent url event => s.callerEvent l.env url event
  | .registerBatch url entries refId => s.registerBatch l.env url refId entries
  | .deregister channel pair => s.deregisterOne l.env channel pair
  | .deregisterAll channel => s.deregisterAll l.env channel
  | .guardDrop handlerId channel symbols => s.guardDrop l.env handlerId channel symbols
  | .wsRequestFrame f => s.updateConn .authUrl (·.handleWsRequestFrame (s.reactorEnv l.env .authUrl) f)
  | .abandonWsRequest reqId => s.updateConn .authUrl (·.abandonWsRequest reqId)
  | .takeOutcome => s.takeOutcome l.env
  | .refreshed requestId result => s.refreshed l.env requestId result
  | .textFrame url json => s.whenMapped url (s.textFrame l.env url json)
  | .otherFrame url => s.whenMapped url (s.updateConn url (·.noteInboundActivity l.env.toEnv))
  | .closeFrame url code reason => s.whenMapped url (s.driveWireClose l.env url (.wireCloseReceived code (some reason)))
  | .recvError url error => s.whenMapped url (s.driveWireClose l.env url (.wireAbnormalClose error))
  | .timer url event => s.timer l.env url event

/-- The reactor after a list of labels. -/
def run (knobs : Knobs) (ls : List ArmLabel) : IoReactor := StepSystem.exec step (init knobs) ls

end IoReactor

end KrakenSdk.Dispatch
