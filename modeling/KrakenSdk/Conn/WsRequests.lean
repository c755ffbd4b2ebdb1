import KrakenSdk.Conn.Runs
/-!
# WS requests on the auth connection (io_reactor/inbound_dispatch.rs, frame_routing.rs, subscribe_send.rs)

The reactor functions that record, answer and fail the order requests of the auth connection, and
the subscribe sends they run into. What they read besides the connection is the `ReactorEnv` of the
step: the auth stack's cached token, the registry's entries for the auth URL and the socket with its
answers to `send_frame`.
-/
namespace KrakenSdk.Conn

/-! ## Classifying an order ack -/

/-- `classify_auth_class` (frame_routing.rs:327): token-stale first, `EAPI:Permission` before the
permission family. -/
def classifyAuthClass (err : String) : Option AuthErrorKind :=
  if strContains err "EAPI:Invalid token" || strContains err "ESession:Invalid session" ||
      (strContains err "token" && (strContains err "stale" || strContains err "expired" || strContains err "expir" ||
        strContains err "Invalid" || strContains err "invalid")) then
    some .tokenStale
  else if strContains err "EAPI:Permission denied" then some .badCreds
  else if strContains err "Permission denied" || strContains err "permission denied" ||
      strContains err "EGeneral:Permission" then
    some .permissionDenied
  else if strContains err "EAPI:Invalid" || strContains err "EAuth:" || strContains err "EAPI:Bad" ||
      strContains err "Invalid key" || strContains err "Invalid signature" then
    some .badCreds
  else none

/-- `OrderAckAuth` (frame_routing.rs:364): whether the token was accepted. -/
inductive OrderAckAuth where
  | authenticated
  | authFailed (kind : AuthErrorKind)
  deriving DecidableEq, Repr

/-- `classify_order_ack_auth` (frame_routing.rs:373): the default is `Authenticated`. -/
def classifyOrderAckAuth (success : Bool) (err : Option String) : OrderAckAuth :=
  if success then .authenticated
  else match err.bind classifyAuthClass with
    | some kind => .authFailed kind
    | none => .authenticated

/-! ## What a reactor step reads -/

/-- `SendFrameError` (transport/mod.rs). -/
inductive SendFrameError where
  | backpressure | writerClosed
  deriving DecidableEq, Repr

/-- One composed subscribe frame and the socket's answer to it. -/
structure SubscribeFrame where
  key : EntryKey
  params : SubscribeParams
  sent : Except SendFrameError Unit

/-- What one step of the reactor reads about the auth connection. -/
structure ReactorEnv extends Env where
  /-- `auth_stack.cached_token()`, unexpired. -/
  token : Option String
  /-- `sockets.get(&Auth)`. -/
  socketOf : Option SocketId
  /-- The live registry entries of the auth URL, in replay order, with the answers of `send_frame`. -/
  entries : List SubscribeFrame
  /-- The socket's answer to `send_frame` of a request. -/
  requestSend : Except SendFrameError Unit

/-- `registry.has_url_entry(Auth)`. -/
def ReactorEnv.hasUrlEntry (r : ReactorEnv) : Bool := !r.entries.isEmpty

namespace ManagedConnection

/-- Append effects to the bus. -/
def perform (mc : ManagedConnection) (xs : List Effect) : ManagedConnection := { mc with bus := mc.bus ++ xs }

/-! ## Subscribe sends -/

/-- `SendOutcome` (subscribe_send.rs:64). -/
inductive SendOutcome where
  | sent | backpressured | writerDead
  deriving DecidableEq, Repr

/-- `drive_writer_closed_abnormal` (subscribe_send.rs:48). -/
def driveWriterClosedAbnormal (mc : ManagedConnection) (env : Env) (context : String) : ManagedConnection :=
  mc.handleEvent env (.wireAbnormalClose { kind := .abnormalClose context, transient := true })

/-- `send_subscribe_frame` (subscribe_send.rs:143). -/
def sendSubscribeFrame (mc : ManagedConnection) (env : Env) (socket : SocketId) (f : SubscribeFrame) (reqId : Nat)
    (context : String) : SendOutcome × ManagedConnection :=
  match f.sent with
  | .ok () => (.sent, mc.perform [.subscribeSent socket f.key f.params reqId])
  | .error .backpressure => (.backpressured, mc.handleSubscribeFailure env f.key true none)
  | .error .writerClosed => (.writerDead, mc.driveWriterClosedAbnormal env context)

/-- `arm_subscribe_ack_timer_with_req_id` (subscribe_send.rs:23). -/
def armSubscribeAckTimerWithReqId (mc : ManagedConnection) (env : Env) (key : EntryKey) (reqId : Nat) :
    ManagedConnection :=
  (mc.recordSubscribeReqId reqId key).armSubscribeAck env key (env.now + fromMillis env.knobs.subscribeAckTimeoutMs)

/-- The loop of `send_remaining_signed_subscribes`: it ends when the writer is dead, and when
backpressure tore `Resubscribing` down. -/
def sendFrames (mc : ManagedConnection) (env : Env) (socket : SocketId) (context : String) :
    List SubscribeFrame → ManagedConnection
  | [] => mc
  | f :: fs =>
    let (reqId, mc) := mc.takeSubscribeReqId
    match mc.sendSubscribeFrame env socket f reqId context with
    | (.sent, mc) => (mc.armSubscribeAckTimerWithReqId env f.key reqId).sendFrames env socket context fs
    | (.backpressured, mc) => if mc.state = .resubscribing then mc.sendFrames env socket context fs else mc
    | (.writerDead, mc) => mc

/-- `force_refresh`, once per wait for a token. -/
def refreshOnce (mc : ManagedConnection) : ManagedConnection :=
  if mc.awaitingTokenRefresh then mc else (mc.setAwaitingTokenRefresh true).perform [.authStack .forceRefresh]

/-- `send_remaining_signed_subscribes` (subscribe_send.rs:357-418): without a token every frame is
deferred to the refresh. -/
def sendRemainingSignedSubscribes (mc : ManagedConnection) (r : ReactorEnv) (alreadySent : Option EntryKey) :
    ManagedConnection :=
  let frames := r.entries.filter fun f => !decide (some f.key = alreadySent)
  match r.token with
  | none => (frames.foldl (fun mc f => mc.deferOpenAuthSubscribe f.key f.params) mc).refreshOnce
  | some _ =>
    match r.socketOf with
    | none => mc
    | some socket =>
      mc.sendFrames r.toEnv socket "outbound writer task terminated (remaining signed subscribes)" frames

/-! ## Requests -/

/-- `CallerInbound::WsRequestFrame`. -/
structure WsRequestFrame where
  reqId : Nat
  method : String
  op : WsOp
  params : Json

/-- `completion.send(Err(not_open))` of a request that is not recorded. -/
def rejectNotOpen (mc : ManagedConnection) (reqId : Nat) : ManagedConnection :=
  mc.perform [.resolve reqId (.error .notOpen)]

/-- The state gate of `handle_ws_request_frame`: `Open`, or the bare order that is the auth probe. -/
def admitsRequest (mc : ManagedConnection) (r : ReactorEnv) (op : WsOp) : Bool :=
  match mc.state with
  | .opened => true
  | .authenticating => !r.hasUrlEntry && op.isOrderMethod
  | _ => false

/-- The request frame with the token in its params. -/
def WsRequestFrame.composed (f : WsRequestFrame) (token : String) : Json :=
  .obj [("method", .str f.method), ("params", f.params.insert "token" (.str token)),
    ("req_id", .num (toString f.reqId))]

/-- `handle_ws_request_frame` (inbound_dispatch.rs:356-461): the pending is recorded before the send. -/
def handleWsRequestFrame (mc : ManagedConnection) (r : ReactorEnv) (f : WsRequestFrame) : ManagedConnection :=
  if !mc.admitsRequest r f.op then mc.rejectNotOpen f.reqId
  else
    match r.token with
    | none =>
      -- Orders are never re-sent: this one is rejected, the refresh is for the next.
      (((mc.perform [.authStack .invalidateCachedToken]).setAwaitingTokenRefresh true).perform
        [.authStack .forceRefresh]).rejectNotOpen f.reqId
    | some token =>
      let mc := mc.recordPendingRequest { reqId := f.reqId, op := f.op, sentAt := r.now }
      match r.socketOf, r.requestSend with
      | some socket, .ok () => mc.perform [.requestSent socket (f.composed token)]
      | _, _ => mc.failPendingRequest f.reqId .notOpen

/-- `CallerInbound::AbandonWsRequest` (inbound_dispatch.rs:248). -/
def abandonWsRequest (mc : ManagedConnection) (reqId : Nat) : ManagedConnection :=
  mc.failPendingRequest reqId .responseTimeout

/-- The probe branch of `handle_request_response`: an order ack mid-`Authenticating` drives the FSM. -/
def driveAuthProbe (mc : ManagedConnection) (r : ReactorEnv) (reqId : Nat) : OrderAckAuth → ManagedConnection
  | .authenticated =>
    if r.hasUrlEntry then
      let mc := mc.handleEvent r.toEnv .wireAuthHandshakeOk
      if mc.state = .resubscribing then
        (mc.sendRemainingSignedSubscribes r none).completeResubscribeIfEmpty r.toEnv
      else mc
    else mc.handleEvent r.toEnv .wireOrderAuthOk
  | .authFailed kind =>
    let mc := mc.handleEvent r.toEnv (.wireAuthHandshakeFailed kind)
    if kind = .tokenStale then mc.drainOneRetryable r.toEnv reqId else mc

/-- The token-stale branch in `Open`: the order is drained, never re-sent. -/
def recoverTokenStale (mc : ManagedConnection) (r : ReactorEnv) (reqId : Nat) : ManagedConnection :=
  ((((mc.handleEvent r.toEnv .wireOrderAckTokenStale).perform [.authStack .invalidateCachedToken]
    ).setAwaitingTokenRefresh true).perform [.authStack .forceRefresh]).drainOneRetryable r.toEnv reqId

/-- `handle_request_response` (frame_routing.rs:149-285) from the decoded response on. -/
def routeResponse (mc : ManagedConnection) (r : ReactorEnv) (resp : WsResponse) : ManagedConnection :=
  let orderAckAuth := classifyOrderAckAuth resp.success resp.error
  let mc := if mc.state = .authenticating then mc.driveAuthProbe r resp.reqId orderAckAuth else mc
  let mc :=
    if mc.state = .opened ∧ orderAckAuth = .authFailed .tokenStale then mc.recoverTokenStale r resp.reqId else mc
  if mc.pendingRequestsContains resp.reqId then mc.resolvePendingRequest resp else mc

/-- The decoding head of `handle_request_response`: `none` is a frame it does not consume, `some none`
one it consumes without a response. -/
def decodeResponse (json : Json) : Option (Option WsResponse) :=
  match ((json.get? "method").bind Json.asStr?).bind WsOp.fromMethod with
  | none => none
  | some _ =>
    match (json.get? "req_id").bind Json.asU64? with
    | none => some none
    | some reqId => some <| some {
        reqId
        success := ((json.get? "success").bind Json.asBool?).getD false
        result := (json.get? "result").getD .null
        error := (json.get? "error").bind Json.asStr? }

/-- `handle_request_response` (frame_routing.rs:149-285): whether the frame was consumed. -/
def handleRequestResponse (mc : ManagedConnection) (r : ReactorEnv) (json : Json) : Bool × ManagedConnection :=
  match decodeResponse json with
  | none => (false, mc)
  | some none => (true, mc)
  | some (some resp) => (true, mc.routeResponse r resp)

end ManagedConnection

end KrakenSdk.Conn
