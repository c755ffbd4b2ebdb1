import KrakenSdk.Conn.WsRequests
/-!
# Subscribe sends (io_reactor/subscribe_send.rs:215-545)

The paths by which a subscribe frame reaches a socket besides the signed batch of a handshake. Each
takes a request id and sends (`sendAndArm`); what differs is the socket and token checks before it. None
of them looks at the state of the connection: what a dead writer does to it is `handle_event`'s answer to
`WireAbnormalClose` in whatever state the send finds.
-/
namespace KrakenSdk.Conn.ManagedConnection

/-- The tail of the single sends: the ack timer is armed only for a frame the socket took. -/
def sendAndArm (mc : ManagedConnection) (env : Env) (socket : SocketId) (f : SubscribeFrame) (context : String) :
    ManagedConnection :=
  let (reqId, mc) := mc.takeSubscribeReqId
  match mc.sendSubscribeFrame env socket f reqId context with
  | (.sent, mc) => mc.armSubscribeAckTimerWithReqId env f.key reqId
  | (.backpressured, mc) => mc
  | (.writerDead, mc) => mc

/-- `send_single_subscribe` (subscribe_send.rs:424): the public subscribe of a 0→1 edge. -/
def sendSingleSubscribe (mc : ManagedConnection) (env : Env) (socketOf : Option SocketId) (f : SubscribeFrame) :
    ManagedConnection :=
  match socketOf with
  | none => mc
  | some socket => mc.sendAndArm env socket f "outbound writer task terminated (Register public subscribe)"

/-- `send_single_signed_subscribe` (subscribe_send.rs:476): without a token it is deferred to the refresh. -/
def sendSingleSignedSubscribe (mc : ManagedConnection) (r : ReactorEnv) (f : SubscribeFrame) : ManagedConnection :=
  match r.token, r.socketOf with
  | none, _ => (mc.deferOpenAuthSubscribe f.key f.params).refreshOnce
  | some _, none => mc
  | some _, some socket =>
    mc.sendAndArm r.toEnv socket f "outbound writer task terminated (Register-while-Open auth subscribe)"

/-- `send_first_signed_subscribe` (subscribe_send.rs:295): the first entry in replay order is the probe. -/
def sendFirstSignedSubscribe (mc : ManagedConnection) (r : ReactorEnv) : ManagedConnection :=
  match r.token, r.socketOf, r.entries with
  | none, _, _ => (mc.setAwaitingTokenRefresh true).perform [.authStack .forceRefresh]
  | some _, none, _ => mc
  | some _, some _, [] => mc
  | some _, some socket, f :: _ =>
    mc.sendAndArm r.toEnv socket f "outbound writer task terminated (first signed subscribe)"

/-- `handle_subscribe_resend` (subscribe_send.rs:216): `f` is the entry, if it is still registered. -/
def handleSubscribeResend (mc : ManagedConnection) (r : ReactorEnv) (url : WsUrl) (f : Option SubscribeFrame) :
    ManagedConnection :=
  match f with
  | none => mc
  | some f =>
    if url = .authUrl ∧ r.token = none then
      ((mc.deferOpenAuthSubscribe f.key f.params).completeResubscribeIfEmpty r.toEnv).refreshOnce
    else
      match r.socketOf with
      | none => mc
      | some socket =>
        mc.sendAndArm r.toEnv socket f "outbound writer task terminated (discovered on subscribe resend)"

/-- When a frame's liveness timers are due. -/
def ackDueAt (env : Env) : MonotonicInstant := env.now + fromMillis env.knobs.subscribeAckTimeoutMs

/-- `send_book_reseed` (frame_routing.rs:896): the snapshot timer is armed whatever the send did. -/
def sendBookReseed (mc : ManagedConnection) (env : Env) (socketOf : Option SocketId) (f : SubscribeFrame) :
    ManagedConnection :=
  (mc.sendSingleSubscribe env socketOf f).armBookReseedSnapshot f.key (ackDueAt env)

/-- The replay loop of a reconnect (mod.rs:285-336): a book still resyncing has its snapshot timer re-armed. -/
def replayFrames (mc : ManagedConnection) (env : Env) (socket : SocketId) :
    List (SubscribeFrame × Bool) → ManagedConnection
  | [] => mc
  | (f, resyncing) :: fs =>
    let (reqId, mc) := mc.takeSubscribeReqId
    match mc.sendSubscribeFrame env socket f reqId "outbound writer task terminated (resubscribe replay)" with
    | (.sent, mc) =>
      let mc := mc.armSubscribeAckTimerWithReqId env f.key reqId
      let mc := if resyncing then mc.armBookReseedSnapshot f.key (ackDueAt env) else mc
      mc.replayFrames env socket fs
    | (.backpressured, mc) => if mc.state = .resubscribing then mc.replayFrames env socket fs else mc
    | (.writerDead, mc) => mc

end KrakenSdk.Conn.ManagedConnection
