import KrakenSdk.Conn.WsRequests
import KrakenSdk.Lib.Mpsc
import KrakenSdk.Lib.PercentCoding
import KrakenSdk.Lib.StepSystem
/-!
# A websocket (transport/ws.rs)

A socket is three tasks and two channels. The opener connects and starts a reader and a writer; the reader hands what
the stream yields to the inbox, and the writer puts what is in the outbox on the wire. The reactor owns the socket:
it sends, receives, asks for a close and drops it. A run is any order of the steps of all of them; what the peer and
the network do is in the steps of the opener, of the reader and of the writer.

| here | source |
| --- | --- |
| `WsSocket.connected`, `connectFailed`, `openerStep` | the opener (`open_and_spawn`, `:61`) |
| `WsSocket.readNext`, `readerStep` | `reader_loop` (`:247`) |
| `WsSocket.writerTake`, `writerSent` | `writer_loop` (`:341`) |
| `sendFrame`, `closeSocket`, `recvFrame`, `dropSocket` | the methods and `Drop` (`:202`-`:245`) |

`received_in_order`: what is received is what was read, in order, and nothing follows an error. `written_in_order`:
what is written is what was accepted, in order, up to the first close. `upgrade_reported_once`: one event about the
upgrade, and after a failure neither task is there.
-/
namespace KrakenSdk.Transport

open KrakenSdk.Conn (TransportError TransportErrorKind SendFrameError httpUpgradeStatusTransient)
open PercentCoding (bytes)
open StepSystem

/-! ## Frames and messages -/

/-- `WsOpcode` (transport/mod.rs:138). -/
inductive WsOpcode where
  | continuation | text | binary | close | ping | pong
  deriving DecidableEq, Repr

/-- `WsFrame` (transport/mod.rs:130). -/
structure WsFrame where
  opcode : WsOpcode
  payload : List UInt8
  deriving DecidableEq, Repr

/-- A message of the websocket library; `frame` is its raw frame, which it never yields while reading. -/
inductive Message where
  | text (s : String)
  | binary (b : List UInt8)
  | ping (b : List UInt8)
  | pong (b : List UInt8)
  | close (frame : Option (Nat × String))
  | frame
  deriving DecidableEq, Repr

/-- The errors of the websocket library, as far as they are told apart. -/
inductive LibraryError where
  | connectionClosed | alreadyClosed
  | timedOut | connectionRefused | connectionReset
  | otherIo (text : String)
  | tls
  | http (status : Nat)
  | url (text : String)
  | httpFormat (text : String)
  | other (text : String)
  deriving DecidableEq, Repr

/-- `classify_tungstenite_error` (ws.rs:380). -/
def classifyTungsteniteError : LibraryError → TransportError
  | .connectionClosed | .alreadyClosed => ⟨.abnormalClose "connection closed", true⟩
  | .timedOut => ⟨.tcpConnectTimeout, true⟩
  | .connectionRefused => ⟨.tcpRefused, true⟩
  | .connectionReset => ⟨.socketReset, true⟩
  | .otherIo text => ⟨.abnormalClose ("io: " ++ text), true⟩
  | .tls => ⟨.tlsHandshakeFailure, true⟩
  | .http status => ⟨.httpUpgradeRejected status, httpUpgradeStatusTransient status⟩
  | .url text | .httpFormat text | .other text => ⟨.other text, false⟩

/-- `WsOutbound` (ws.rs:45). -/
inductive WsOutbound where
  | frame (f : WsFrame)
  | close (code : Nat)
  deriving DecidableEq, Repr

/-- The message of a frame (ws.rs:348-357); `none` is a frame that is skipped. -/
def toMessage (f : WsFrame) : Option Message :=
  match f.opcode with
  | .text => (String.fromUTF8? f.payload.toByteArray).map .text
  | .binary => some (.binary f.payload)
  | .ping => some (.ping f.payload)
  | .pong => some (.pong f.payload)
  | .close => some (.close none)
  | .continuation => none

/-- What `stream.next()` yields: a message, an error, or the end. -/
inductive StreamItem where
  | message (m : Message)
  | error (e : LibraryError)
  | ended
  deriving DecidableEq, Repr

/-- What the inbox carries. -/
abbrev Inbound := Except TransportError WsFrame

/-- What the reader hands to the inbox for an item (ws.rs:263-337); a raw frame is passed over. -/
def toInbound : StreamItem → Option Inbound
  | .message (.text s) => some (.ok ⟨.text, bytes s⟩)
  | .message (.binary b) => some (.ok ⟨.binary, b⟩)
  | .message (.ping b) => some (.ok ⟨.ping, b⟩)
  | .message (.pong b) => some (.ok ⟨.pong, b⟩)
  | .message (.close (some (code, reason))) => some (.error ⟨.closeFrame code reason, false⟩)
  | .message (.close none) => some (.error ⟨.closeFrame 1006 "", false⟩)
  | .message .frame => none
  | .error e => some (.error (classifyTungsteniteError e))
  | .ended => some (.error ⟨.abnormalClose "stream ended without close frame", false⟩)

/-- The `WsClosed` event of an item, its code and reason; the end of the stream has none. -/
def closedEvent : StreamItem → Option (Nat × String)
  | .message (.close (some (code, reason))) => some (code, reason)
  | .message (.close none) => some (1006, "")
  | .error e => some (1006, (classifyTungsteniteError e).kind.debug)
  | _ => none

/-- What the socket publishes. -/
inductive SocketEvent where
  | wsUpgradeOk
  | wsUpgradeFailed (error : TransportError)
  | wsClosed (code : Nat) (reason : String)
  deriving DecidableEq, Repr

/-! ## The socket -/

/-- How far the opener is. -/
inductive OpenerPhase where
  | connecting
  /-- The tasks are spawned, `WsUpgradeOk` is not published. -/
  | spawned
  /-- The attempt failed and the socket is there, `WsUpgradeFailed` is not published. -/
  | failed (error : TransportError)
  | ended

/-- How far the reader is. -/
inductive ReaderPhase where
  | unspawned
  | reading
  /-- `inbox_tx.send(..)` of what an item came to; `last` if the reader ends after it, with the event it publishes. -/
  | handing (payload : Inbound) (last : Option (Option (Nat × String)))
  /-- The error is handed over, `WsClosed` is not published. -/
  | closing (code : Nat) (reason : String)
  | ended

/-- How far the writer is. -/
inductive WriterPhase where
  | unspawned
  | waiting
  /-- `sink.send(..)` of a message, the last one if it is a requested close. -/
  | writing (m : Message) (last : Bool)
  | ended

/-- `TokioTungsteniteWsSocket` (ws.rs:53) with its tasks, what they read and wrote, and what they published. -/
structure WsSocket where
  opener : OpenerPhase
  reader : ReaderPhase
  writer : WriterPhase
  outbox : Mpsc WsOutbound
  inbox : Mpsc Inbound
  /-- The items the reader took from the stream. -/
  read : List StreamItem
  /-- The messages the sink took. -/
  written : List Message
  published : List SocketEvent

namespace WsSocket

/-- `DEFAULT_OUTBOUND_CAPACITY` and `DEFAULT_INBOUND_CAPACITY` (ws.rs:50). -/
def defaultCapacity : Nat := 256

/-- `open_and_spawn` (ws.rs:65): it returns with the opener under way. -/
def openAndSpawn : WsSocket where
  opener := .connecting
  reader := .unspawned
  writer := .unspawned
  outbox := .new defaultCapacity
  inbox := .new defaultCapacity
  read := []
  written := []
  published := []

variable (s : WsSocket)

/-- The socket is not dropped: the inbox has its receiver. -/
def held : Bool := s.inbox.receiver

/-! ### The opener -/

/-- The connect future is ready, or the drop of the socket ends the wait for it (ws.rs:93-168). A socket that was
dropped gets neither tasks nor an event, and with the opener the outbox loses its receiver. -/
def connectResult (r : Except LibraryError Unit) : WsSocket :=
  match s.opener with
  | .connecting =>
    if !s.held then { s with opener := .ended, outbox := s.outbox.close }
    else match r with
      | .ok () => { s with opener := .spawned, reader := .reading, writer := .waiting }
      | .error e => { s with opener := .failed (classifyTungsteniteError e) }
  | _ => s

/-- The opener publishes what came of it and ends; after a failure the outbox loses its receiver with it. -/
def openerPublish : WsSocket :=
  match s.opener with
  | .spawned => { s with opener := .ended, published := s.published ++ [.wsUpgradeOk] }
  | .failed error =>
    { s with opener := .ended, published := s.published ++ [.wsUpgradeFailed error], outbox := s.outbox.close }
  | _ => s

/-! ### The reader -/

/-- The reader takes the next item (ws.rs:258-337). -/
def readNext (item : StreamItem) : WsSocket :=
  match s.reader with
  | .reading =>
    let s := { s with read := s.read ++ [item] }
    match toInbound item with
    | none => s
    | some (.ok f) => { s with reader := .handing (.ok f) none }
    | some (.error e) => { s with reader := .handing (.error e) (some (closedEvent item)) }
  | _ => s

/-- The reader finds the socket dropped (ws.rs:259). -/
def readerStop : WsSocket :=
  match s.reader with
  | .reading => if s.held then s else { s with reader := .ended }
  | _ => s

/-- `inbox_tx.send(payload).await`: it waits while the inbox is full and fails once the socket is dropped. -/
def readerHand : WsSocket :=
  match s.reader with
  | .handing payload last =>
    match s.inbox.trySend payload, last with
    | .ok inbox, none => { s with inbox, reader := .reading }
    | .ok inbox, some event => afterError { s with inbox } event
    | .error .closed, none => { s with reader := .ended }
    | .error .closed, some event => afterError s event
    | .error .full, _ => s
  | _ => s
where
  /-- What is done after an error is handed over, or not. -/
  afterError (s : WsSocket) : Option (Nat × String) → WsSocket
    | some (code, reason) => { s with reader := .closing code reason }
    | none => { s with reader := .ended }

/-- The reader publishes `WsClosed` and ends. -/
def readerPublish : WsSocket :=
  match s.reader with
  | .closing code reason => { s with reader := .ended, published := s.published ++ [.wsClosed code reason] }
  | _ => s

/-! ### The writer -/

/-- `outbox_rx.recv()`: the next message, or a frame that is skipped (ws.rs:345-372). -/
def writerTake : WsSocket :=
  match s.writer with
  | .waiting =>
    match s.outbox.recv with
    -- The sender goes with the socket, and the loop with what it left.
    | none => if s.held then s else { s with writer := .ended, outbox := s.outbox.close }
    | some (.frame f, outbox) =>
      match toMessage f with
      | none => { s with outbox }
      | some m => { s with outbox, writer := .writing m false }
    | some (.close code, outbox) => { s with outbox, writer := .writing (.close (some (code, ""))) true }
  | _ => s

/-- The sink takes the message, or fails: then, and after a close, the writer ends and its receiver with it. -/
def writerSent (ok : Bool) : WsSocket :=
  match s.writer with
  | .writing m last =>
    let s := if ok then { s with written := s.written ++ [m] } else s
    if ok && !last then { s with writer := .waiting }
    else { s with writer := .ended, outbox := s.outbox.close }
  | _ => s

/-! ### The owner -/

/-- `send_frame` (ws.rs:202). -/
def sendFrame (f : WsFrame) : Except SendFrameError Unit × WsSocket :=
  match s.outbox.trySend (.frame f) with
  | .ok outbox => (.ok (), { s with outbox })
  | .error .full => (.error .backpressure, s)
  | .error .closed => (.error .writerClosed, s)

/-- `close` (ws.rs:226): an outbox that is full or closed is let be. -/
def closeSocket (code : Nat) : WsSocket :=
  match s.outbox.trySend (.close code) with
  | .ok outbox => { s with outbox }
  | .error _ => s

/-- The inbox has no sender left: the reader ended, or was never spawned and the opener ended. -/
def inboxDone : Bool :=
  match s.reader, s.opener with
  | .ended, _ => true
  | .closing _ _, _ => false
  | .unspawned, .ended => true
  | _, _ => false

/-- `recv_frame` (ws.rs:211); `none` while it waits. -/
def recvFrame : Option Inbound × WsSocket :=
  match s.inbox.recv with
  | some (r, inbox) => (some r, { s with inbox })
  | none =>
    if s.inboxDone then (some (.error ⟨.abnormalClose "reader task terminated", false⟩), s)
    else (none, s)

/-- `Drop` (ws.rs:231): both tasks are aborted where they are, and the receiver of the inbox goes. An opener that is
still connecting, or between its spawn and its event, goes on. -/
def dropSocket (abortReader abortWriter : Bool) : WsSocket :=
  let s := { s with inbox := s.inbox.close }
  let s := if abortReader then { s with reader := abortedReader s.reader } else s
  if abortWriter then abortWriterTask s else s
where
  abortedReader : ReaderPhase → ReaderPhase
    | .unspawned => .unspawned
    | _ => .ended
  abortWriterTask (s : WsSocket) : WsSocket :=
    match s.writer with
    | .unspawned => s
    | _ => { s with writer := .ended, outbox := s.outbox.close }

/-- A step of any of them. Where the owner takes a step after the drop, the runs are more than the code has. -/
inductive Act where
  | connectResult (r : Except LibraryError Unit)
  | openerPublish
  | readNext (item : StreamItem)
  | readerStop
  | readerHand
  | readerPublish
  | writerTake
  | writerSent (ok : Bool)
  | sendFrame (f : WsFrame)
  | close (code : Nat)
  | recvFrame
  /-- The drop; a task whose handle is not stored yet is not aborted by it. -/
  | drop (abortReader abortWriter : Bool)

def step (s : WsSocket) : Act → WsSocket
  | .connectResult r => s.connectResult r
  | .openerPublish => s.openerPublish
  | .readNext item => s.readNext item
  | .readerStop => s.readerStop
  | .readerHand => s.readerHand
  | .readerPublish => s.readerPublish
  | .writerTake => s.writerTake
  | .writerSent ok => s.writerSent ok
  | .sendFrame f => (s.sendFrame f).2
  | .close code => s.closeSocket code
  | .recvFrame => s.recvFrame.2
  | .drop abortReader abortWriter => s.dropSocket abortReader abortWriter

/-- The socket after a list of steps. -/
def run (acts : List Act) : WsSocket := exec step openAndSpawn acts

/-! ## The inbound side -/

/-- What the items read come to. -/
def deliveries (items : List StreamItem) : List Inbound := items.filterMap toInbound

def isClosed : SocketEvent → Bool
  | .wsClosed _ _ => true
  | _ => false

def isUpgrade : SocketEvent → Bool
  | .wsClosed _ _ => false
  | _ => true

/-- No error but at the end. -/
def Framed (l : List Inbound) : Prop := ∀ r ∈ l.dropLast, r.isOk = true

/-- The inbound side at each phase of the reader. -/
def InboundOk (s : WsSocket) : Prop :=
  match s.reader with
  | .unspawned => s.read = [] ∧ s.inbox.pushed = [] ∧ s.published.filter isClosed = []
  | .reading =>
    s.inbox.pushed = deliveries s.read ∧ (∀ r ∈ deliveries s.read, r.isOk = true) ∧ s.published.filter isClosed = []
  | .handing payload last =>
    s.inbox.pushed ++ [payload] = deliveries s.read ∧ (∀ r ∈ s.inbox.pushed, r.isOk = true) ∧
      (last = none ↔ payload.isOk = true) ∧ (∀ event, last = some event → s.read.getLast?.map closedEvent = some event) ∧
      s.published.filter isClosed = []
  | .closing code reason =>
    s.inbox.pushed <+: deliveries s.read ∧ Framed (deliveries s.read) ∧
      s.read.getLast?.map closedEvent = some (some (code, reason)) ∧ s.published.filter isClosed = [] ∧
      (s.held = true → s.inbox.pushed = deliveries s.read)
  | .ended =>
    s.inbox.pushed <+: deliveries s.read ∧ Framed (deliveries s.read) ∧
      (s.held = true → s.inbox.pushed = deliveries s.read) ∧
      (s.published.filter isClosed = [] ∨ ∃ code reason, s.published.filter isClosed = [.wsClosed code reason] ∧
        s.read.getLast?.map closedEvent = some (some (code, reason)))

theorem framed_of_forall {l : List Inbound} (h : ∀ r ∈ l, r.isOk = true) : Framed l :=
  fun r hr => h r (List.mem_of_mem_dropLast hr)

theorem framed_concat {l : List Inbound} {r : Inbound} (h : ∀ r ∈ l, r.isOk = true) : Framed (l ++ [r]) := by
  intro r' hr'
  rw [List.dropLast_concat] at hr'
  exact h r' hr'

variable {s : WsSocket}

theorem InboundOk.pushed_isPrefix (h : s.InboundOk) : s.inbox.pushed <+: deliveries s.read := by
  unfold InboundOk at h
  split at h
  · rw [h.2.1]
    exact List.nil_prefix
  · rw [h.1]
  · exact ⟨_, h.1⟩
  · exact h.1
  · exact h.1

theorem InboundOk.framed (h : s.InboundOk) : Framed (deliveries s.read) := by
  unfold InboundOk at h
  split at h
  · simp [Framed, deliveries, h.1]
  · exact framed_of_forall h.2.1
  · rw [← h.1]
    exact framed_concat h.2.1
  · exact h.2.1
  · exact h.2.1

/-- A step that leaves the reader, its channel, its items and its events alone. -/
theorem InboundOk.congr {s' : WsSocket} (h : s.InboundOk) (hreader : s'.reader = s.reader)
    (hpushed : s'.inbox.pushed = s.inbox.pushed) (hread : s'.read = s.read)
    (hpublished : s'.published.filter isClosed = s.published.filter isClosed)
    (hheld : s'.held = true → s.held = true) : s'.InboundOk := by
  unfold InboundOk at h ⊢
  rw [hreader, hpushed, hread, hpublished]
  split
  · next hphase => simpa only [hphase] using h
  · next hphase => simpa only [hphase] using h
  · next hphase => simpa only [hphase] using h
  · next hphase =>
    simp only [hphase] at h
    obtain ⟨hp, hf, hlast, hclosed, hwhole⟩ := h
    exact ⟨hp, hf, hlast, hclosed, fun hs => hwhole (hheld hs)⟩
  · next hphase =>
    simp only [hphase] at h
    obtain ⟨hp, hf, hwhole, hclosed⟩ := h
    exact ⟨hp, hf, fun hs => hwhole (hheld hs), hclosed⟩

/-- The reader of a socket that was dropped may end at any point. -/
theorem InboundOk.ended {s' : WsSocket} (h : s.InboundOk) (hreader : s'.reader = .ended)
    (hpushed : s'.inbox.pushed = s.inbox.pushed) (hread : s'.read = s.read)
    (hpublished : s'.published = s.published) (hheld : s'.held = false) : s'.InboundOk := by
  have hp := h.pushed_isPrefix
  have hf := h.framed
  have hclosed : s.published.filter isClosed = [] ∨ ∃ code reason, s.published.filter isClosed = [.wsClosed code reason] ∧
      s.read.getLast?.map closedEvent = some (some (code, reason)) := by
    unfold InboundOk at h
    split at h
    · exact .inl h.2.2
    · exact .inl h.2.2
    · exact .inl h.2.2.2.2
    · exact .inl h.2.2.2.1
    · exact h.2.2.2
  unfold InboundOk
  rw [hreader, hpushed, hread, hpublished, hheld]
  exact ⟨hp, hf, nofun, hclosed⟩

theorem deliveries_concat (items : List StreamItem) (item : StreamItem) :
    deliveries (items ++ [item]) = deliveries items ++ (toInbound item).toList := by
  unfold deliveries
  rw [List.filterMap_append]
  cases h : toInbound item <;> simp [h]

theorem inboundOk_readNext (h : s.InboundOk) (item : StreamItem) : (s.readNext item).InboundOk := by
  unfold readNext
  split
  · next hreader =>
    simp only [InboundOk, hreader] at h
    obtain ⟨hpushed, hok, hclosed⟩ := h
    have hdeliveries := deliveries_concat s.read item
    cases hitem : toInbound item with
    | none =>
      rw [hitem, Option.toList_none, List.append_nil] at hdeliveries
      simp only [InboundOk, hreader, hdeliveries]
      exact ⟨hpushed, hok, hclosed⟩
    | some r =>
      rw [hitem, Option.toList_some] at hdeliveries
      have hlast : (s.read ++ [item]).getLast?.map closedEvent = some (closedEvent item) := by
        rw [List.getLast?_concat, Option.map_some]
      cases r with
      | ok f =>
        simp only [InboundOk, hdeliveries, hpushed]
        exact ⟨trivial, hok, by simp [Except.isOk, Except.toBool], by simp, hclosed⟩
      | error e =>
        simp only [InboundOk, hdeliveries, hpushed]
        refine ⟨trivial, hok, by simp [Except.isOk, Except.toBool], fun event hevent => ?_, hclosed⟩
        rw [hlast]
        exact hevent
  · exact h

theorem inboundOk_readerStop (h : s.InboundOk) : s.readerStop.InboundOk := by
  unfold readerStop
  split
  · split_ifs with hheld
    · exact h
    · exact h.ended rfl rfl rfl rfl (Bool.eq_false_iff.2 hheld)
  · exact h

/-- The error is handed over, or there is nobody to hand it to. -/
theorem inboundOk_afterError {event : Option (Nat × String)} (hp : s.inbox.pushed <+: deliveries s.read)
    (hf : Framed (deliveries s.read)) (hlast : s.read.getLast?.map closedEvent = some event)
    (hclosed : s.published.filter isClosed = []) (hwhole : s.held = true → s.inbox.pushed = deliveries s.read) :
    (readerHand.afterError s event).InboundOk := by
  unfold readerHand.afterError
  split
  · exact ⟨hp, hf, hlast, hclosed, hwhole⟩
  · exact ⟨hp, hf, hwhole, .inl hclosed⟩

theorem inboundOk_readerHand (h : s.InboundOk) : s.readerHand.InboundOk := by
  unfold readerHand
  split
  · next payload last hreader =>
    have hp := h.pushed_isPrefix
    have hf := h.framed
    simp only [InboundOk, hreader] at h
    obtain ⟨hpushed, hok, hlast, hevent, hclosed⟩ := h
    split
    · next inbox hsend =>
      obtain ⟨hnew, -⟩ := Mpsc.trySend_ok hsend
      have hframe : payload.isOk = true := hlast.1 rfl
      refine ⟨hnew.trans hpushed, ?_, hclosed⟩
      rw [← hpushed]
      intro r hr
      rcases List.mem_append.1 hr with hr | hr
      · exact hok r hr
      · rw [List.mem_singleton.1 hr]
        exact hframe
    · next inbox event hsend =>
      obtain ⟨hnew, -⟩ := Mpsc.trySend_ok hsend
      have hwhole : inbox.pushed = deliveries s.read := hnew.trans hpushed
      exact inboundOk_afterError (hwhole ▸ List.prefix_rfl) hf (hevent _ rfl) hclosed fun _ => hwhole
    · next hsend =>
      have hheld : s.held = false := (Mpsc.trySend_error hsend).1.1 rfl
      exact ⟨hp, hf, fun hs => absurd (hheld.symm.trans hs) Bool.false_ne_true, .inl hclosed⟩
    · next event hsend =>
      have hheld : s.held = false := (Mpsc.trySend_error hsend).1.1 rfl
      exact inboundOk_afterError hp hf (hevent _ rfl) hclosed (by simp [hheld])
    · next hreader' =>
      simp only [InboundOk, hreader]
      exact ⟨hpushed, hok, hlast, hevent, hclosed⟩
  · exact h

theorem inboundOk_readerPublish (h : s.InboundOk) : s.readerPublish.InboundOk := by
  unfold readerPublish
  split
  · next code reason hreader =>
    simp only [InboundOk, hreader] at h
    obtain ⟨hp, hf, hlast, hclosed, hwhole⟩ := h
    refine ⟨hp, hf, hwhole, .inr ⟨code, reason, ?_, hlast⟩⟩
    rw [List.filter_append, hclosed]
    rfl
  · exact h

/-- The reader of a socket that was dropped. -/
theorem inboundOk_dropSocket (h : s.InboundOk) (abortReader abortWriter : Bool) :
    (s.dropSocket abortReader abortWriter).InboundOk := by
  have hclose : ({ s with inbox := s.inbox.close } : WsSocket).InboundOk := h.congr rfl rfl rfl rfl nofun
  have habort : ({ s with inbox := s.inbox.close, reader := dropSocket.abortedReader s.reader } : WsSocket).InboundOk := by
    unfold dropSocket.abortedReader
    split
    · next hreader => exact h.congr hreader.symm rfl rfl rfl nofun
    · exact h.ended rfl rfl rfl rfl rfl
  have hwriter : ∀ {t : WsSocket}, t.InboundOk → (dropSocket.abortWriterTask t).InboundOk := by
    intro t ht
    unfold dropSocket.abortWriterTask
    split
    · exact ht
    · exact ht.congr rfl rfl rfl rfl id
  unfold dropSocket
  cases abortReader <;> cases abortWriter
  · exact hclose
  · exact hwriter hclose
  · exact habort
  · exact hwriter habort

/-! ## The outbound side -/

def isCloseRequest : WsOutbound → Bool
  | .close _ => true
  | .frame _ => false

/-- What the writer writes of what it is given: nothing after a close. -/
def writable : List WsOutbound → List Message
  | [] => []
  | .close code :: _ => [.close (some (code, ""))]
  | .frame f :: rest => (toMessage f).toList ++ writable rest

theorem writable_append {l : List WsOutbound} (h : l.any isCloseRequest = false) (l' : List WsOutbound) :
    writable (l ++ l') = writable l ++ writable l' := by
  induction l with
  | nil => rfl
  | cons o l ih =>
    rw [List.any_cons, Bool.or_eq_false_iff] at h
    cases o with
    | close code => simp [isCloseRequest] at h
    | frame f => rw [List.cons_append, writable, writable, ih h.2, List.append_assoc]

theorem writable_isPrefix {l l' : List WsOutbound} (h : l <+: l') : writable l <+: writable l' := by
  obtain ⟨rest, rfl⟩ := h
  induction l with
  | nil => exact List.nil_prefix
  | cons o l ih =>
    cases o with
    | close code => exact List.prefix_rfl
    | frame f => exact List.prefix_append_right_inj _ |>.2 ih

/-- The outbound side at each phase of the writer. -/
def OutboundOk (s : WsSocket) : Prop :=
  match s.writer with
  | .unspawned => s.outbox.taken = [] ∧ s.written = []
  | .waiting => s.outbox.taken.any isCloseRequest = false ∧ s.written = writable s.outbox.taken ∧ s.outbox.receiver = true
  | .writing m last =>
    s.written ++ [m] = writable s.outbox.taken ∧ s.outbox.receiver = true ∧
      (last = false → s.outbox.taken.any isCloseRequest = false)
  | .ended => s.written <+: writable s.outbox.taken ∧ s.outbox.receiver = false

theorem OutboundOk.written_isPrefix (h : s.OutboundOk) : s.written <+: writable s.outbox.taken := by
  unfold OutboundOk at h
  split at h
  · rw [h.2]
    exact List.nil_prefix
  · rw [h.2.1]
  · exact ⟨_, h.1⟩
  · exact h.1

theorem OutboundOk.congr {s' : WsSocket} (h : s.OutboundOk) (hwriter : s'.writer = s.writer)
    (htaken : s'.outbox.taken = s.outbox.taken) (hwritten : s'.written = s.written)
    (hreceiver : s.writer ≠ .unspawned → s'.outbox.receiver = s.outbox.receiver) : s'.OutboundOk := by
  unfold OutboundOk at h ⊢
  rw [hwriter, htaken, hwritten]
  split
  · next hphase => simpa only [hphase] using h
  · next hphase =>
    rw [hreceiver (by simp [hphase])]
    simpa only [hphase] using h
  · next hphase =>
    rw [hreceiver (by simp [hphase])]
    simpa only [hphase] using h
  · next hphase =>
    rw [hreceiver (by simp [hphase])]
    simpa only [hphase] using h

theorem OutboundOk.ended {s' : WsSocket} (h : s.OutboundOk) (hwriter : s'.writer = .ended)
    (htaken : s'.outbox.taken = s.outbox.taken) (hwritten : s'.written = s.written)
    (hreceiver : s'.outbox.receiver = false) : s'.OutboundOk := by
  have hp := h.written_isPrefix
  unfold OutboundOk
  rw [hwriter, htaken, hwritten]
  exact ⟨hp, hreceiver⟩

theorem outboundOk_writerTake (h : s.OutboundOk) : s.writerTake.OutboundOk := by
  unfold writerTake
  split
  · next hwriter =>
    split
    · split_ifs
      · exact h
      · exact h.ended rfl rfl rfl rfl
    · next f outbox hrecv =>
      simp only [OutboundOk, hwriter] at h
      obtain ⟨hclose, hwritten, hreceiver⟩ := h
      obtain ⟨-, -, htaken, hrec, -⟩ := Mpsc.recv_some hrecv
      have hnone : outbox.taken.any isCloseRequest = false := by simp [htaken, hclose, isCloseRequest]
      have hwritable : writable outbox.taken = s.written ++ (toMessage f).toList := by
        rw [htaken, writable_append hclose, ← hwritten]
        simp [writable]
      split
      · next hm =>
        rw [hm, Option.toList_none, List.append_nil] at hwritable
        simp only [OutboundOk, hwriter]
        exact ⟨hnone, hwritable.symm, hrec.trans hreceiver⟩
      · next m hm =>
        rw [hm] at hwritable
        exact ⟨hwritable.symm, hrec.trans hreceiver, fun _ => hnone⟩
    · next code outbox hrecv =>
      simp only [OutboundOk, hwriter] at h
      obtain ⟨hclose, hwritten, hreceiver⟩ := h
      obtain ⟨-, -, htaken, hrec, -⟩ := Mpsc.recv_some hrecv
      refine ⟨?_, hrec.trans hreceiver, by simp⟩
      rw [htaken, writable_append hclose, ← hwritten]
      rfl
  · exact h

theorem outboundOk_writerSent (h : s.OutboundOk) (ok : Bool) : (s.writerSent ok).OutboundOk := by
  unfold writerSent
  split
  · next m last hwriter =>
    have hp := h.written_isPrefix
    simp only [OutboundOk, hwriter] at h
    obtain ⟨hwritten, hreceiver, hlast⟩ := h
    cases ok with
    | false => exact ⟨hp, rfl⟩
    | true =>
      cases last with
      | false => exact ⟨hlast rfl, hwritten, hreceiver⟩
      | true =>
        refine ⟨?_, rfl⟩
        show s.written ++ [m] <+: writable s.outbox.taken
        rw [hwritten]
  · exact h

theorem outboundOk_dropSocket (h : s.OutboundOk) (abortReader abortWriter : Bool) :
    (s.dropSocket abortReader abortWriter).OutboundOk := by
  have hwriter : ∀ {t : WsSocket}, t.OutboundOk → (dropSocket.abortWriterTask t).OutboundOk := by
    intro t ht
    unfold dropSocket.abortWriterTask
    split
    · exact ht
    · exact ht.ended rfl rfl rfl rfl
  have hclosed : ∀ reader, ({ s with inbox := s.inbox.close, reader } : WsSocket).OutboundOk :=
    fun _ => h.congr rfl rfl rfl fun _ => rfl
  unfold dropSocket
  cases abortReader <;> cases abortWriter
  · exact hclosed _
  · exact hwriter (hclosed _)
  · exact hclosed _
  · exact hwriter (hclosed _)

/-! ## The opener -/

/-- What is reported about the upgrade. -/
def upgrades (s : WsSocket) : List SocketEvent := s.published.filter isUpgrade

/-- An opener that ended: it spawned the tasks and said so, or it spawned none and the outbox went with it. -/
def Settled (s : WsSocket) : Prop :=
  (s.reader ≠ .unspawned ∧ s.writer ≠ .unspawned ∧ s.upgrades = [.wsUpgradeOk]) ∨
    (s.reader = .unspawned ∧ s.writer = .unspawned ∧ s.outbox.receiver = false ∧
      ((s.held = false ∧ s.upgrades = []) ∨ ∃ e, s.upgrades = [.wsUpgradeFailed e]))

/-- The opener at each of its phases. -/
def OpenerOk (s : WsSocket) : Prop :=
  match s.opener with
  | .connecting | .failed _ =>
    s.reader = .unspawned ∧ s.writer = .unspawned ∧ s.outbox.receiver = true ∧ s.upgrades = []
  | .spawned => s.reader ≠ .unspawned ∧ s.writer ≠ .unspawned ∧ s.upgrades = []
  | .ended => s.Settled

/-- A step of the tasks or of the owner: no task comes to be, and what is gone stays gone. -/
theorem OpenerOk.congr {s' : WsSocket} (h : s.OpenerOk) (hopener : s'.opener = s.opener)
    (hreader : s'.reader = .unspawned ↔ s.reader = .unspawned)
    (hwriter : s'.writer = .unspawned ↔ s.writer = .unspawned)
    (houtbox : s.writer = .unspawned → s'.outbox.receiver = s.outbox.receiver)
    (hheld : s.held = false → s'.held = false) (hupgrades : s'.upgrades = s.upgrades) : s'.OpenerOk := by
  unfold OpenerOk Settled at h ⊢
  simp only [hopener, hupgrades, ne_eq, hreader, hwriter]
  split
  · next hphase =>
    simp only [hphase] at h
    exact ⟨h.1, h.2.1, (houtbox h.2.1).trans h.2.2.1, h.2.2.2⟩
  · next hphase =>
    simp only [hphase] at h
    exact ⟨h.1, h.2.1, (houtbox h.2.1).trans h.2.2.1, h.2.2.2⟩
  · next hphase => simpa only [hphase] using h
  · next hphase =>
    simp only [hphase] at h
    rcases h with hspawned | ⟨hr, hw, hout, hdropped | hfailed⟩
    · exact .inl hspawned
    · exact .inr ⟨hr, hw, (houtbox hw).trans hout, .inl ⟨hheld hdropped.1, hdropped.2⟩⟩
    · exact .inr ⟨hr, hw, (houtbox hw).trans hout, .inr hfailed⟩

theorem openerOk_connectResult (h : s.OpenerOk) (r : Except LibraryError Unit) : (s.connectResult r).OpenerOk := by
  unfold connectResult
  split
  · next hopener =>
    simp only [OpenerOk, hopener] at h
    obtain ⟨hreader, hwriter, houtbox, hupgrades⟩ := h
    split_ifs with hheld
    · have hdropped : s.held = false := by simpa using hheld
      exact .inr ⟨hreader, hwriter, rfl, .inl ⟨hdropped, hupgrades⟩⟩
    · cases r with
      | ok _ => exact ⟨by simp, by simp, hupgrades⟩
      | error e => exact ⟨hreader, hwriter, houtbox, hupgrades⟩
  · exact h

theorem openerOk_openerPublish (h : s.OpenerOk) : s.openerPublish.OpenerOk := by
  unfold openerPublish
  split
  · next hopener =>
    simp only [OpenerOk, hopener] at h
    obtain ⟨hreader, hwriter, hupgrades⟩ := h
    refine .inl ⟨hreader, hwriter, ?_⟩
    unfold upgrades at hupgrades ⊢
    rw [List.filter_append, hupgrades]
    rfl
  · next error hopener =>
    simp only [OpenerOk, hopener] at h
    obtain ⟨hreader, hwriter, -, hupgrades⟩ := h
    refine .inr ⟨hreader, hwriter, rfl, .inr ⟨error, ?_⟩⟩
    unfold upgrades at hupgrades ⊢
    rw [List.filter_append, hupgrades]
    rfl
  · exact h

/-! ## Every step -/

/-- What holds of a socket at any time. -/
structure Inv (s : WsSocket) : Prop where
  inbound : s.InboundOk
  outbound : s.OutboundOk
  opener : s.OpenerOk
  inboxCapacity : s.inbox.capacity = defaultCapacity
  outboxCapacity : s.outbox.capacity = defaultCapacity

theorem inv_openAndSpawn : openAndSpawn.Inv where
  inbound := ⟨rfl, rfl, rfl⟩
  outbound := ⟨rfl, rfl⟩
  opener := ⟨rfl, rfl, rfl, rfl⟩
  inboxCapacity := rfl
  outboxCapacity := rfl

theorem openerOk_readNext (h : s.OpenerOk) (item : StreamItem) : (s.readNext item).OpenerOk := by
  unfold readNext
  split
  · next hreader =>
    split
    · exact h.congr rfl .rfl .rfl (fun _ => rfl) id rfl
    · exact h.congr rfl (by simp [hreader]) .rfl (fun _ => rfl) id rfl
    · exact h.congr rfl (by simp [hreader]) .rfl (fun _ => rfl) id rfl
  · exact h

theorem openerOk_readerStop (h : s.OpenerOk) : s.readerStop.OpenerOk := by
  unfold readerStop
  split
  · next hreader =>
    split_ifs
    · exact h
    · exact h.congr rfl (by simp [hreader]) .rfl (fun _ => rfl) id rfl
  · exact h

theorem openerOk_readerHand (h : s.OpenerOk) : s.readerHand.OpenerOk := by
  unfold readerHand
  split
  · next payload last hreader =>
    have hafter : ∀ {t : WsSocket} event, t.opener = s.opener → t.writer = s.writer → t.outbox = s.outbox →
        t.held = s.held → t.published = s.published → (readerHand.afterError t event).OpenerOk := by
      intro t event hopener hwriter houtbox hheld hpublished
      unfold readerHand.afterError
      split
      · exact h.congr hopener (by simp [hreader]) (by rw [← hwriter]) (fun _ => congrArg _ houtbox) hheld.trans
          (congrArg (List.filter isUpgrade) hpublished)
      · exact h.congr hopener (by simp [hreader]) (by rw [← hwriter]) (fun _ => congrArg _ houtbox) hheld.trans
          (congrArg (List.filter isUpgrade) hpublished)
    split
    · next inbox hsend =>
      obtain ⟨-, -, -, hreceiver, -⟩ := Mpsc.trySend_ok hsend
      exact h.congr rfl (by simp [hreader]) .rfl (fun _ => rfl) hreceiver.trans rfl
    · next inbox event hsend =>
      obtain ⟨-, -, -, hreceiver, -⟩ := Mpsc.trySend_ok hsend
      exact hafter event rfl rfl rfl hreceiver rfl
    · exact h.congr rfl (by simp [hreader]) .rfl (fun _ => rfl) id rfl
    · exact hafter _ rfl rfl rfl rfl rfl
    · exact h
  · exact h

theorem openerOk_readerPublish (h : s.OpenerOk) : s.readerPublish.OpenerOk := by
  unfold readerPublish
  split
  · next code reason hreader =>
    refine h.congr rfl (by simp [hreader]) .rfl (fun _ => rfl) id ?_
    unfold upgrades
    rw [List.filter_append]
    exact List.append_nil _
  · exact h

theorem openerOk_writerTake (h : s.OpenerOk) : s.writerTake.OpenerOk := by
  unfold writerTake
  split
  · next hwriter =>
    have hspawned : s.writer ≠ .unspawned := by simp [hwriter]
    split
    · split_ifs
      · exact h
      · exact h.congr rfl .rfl (by simp [hwriter]) (fun hw => absurd hw hspawned) id rfl
    · split
      · exact h.congr rfl .rfl .rfl (fun hw => absurd hw hspawned) id rfl
      · exact h.congr rfl .rfl (by simp [hwriter]) (fun hw => absurd hw hspawned) id rfl
    · exact h.congr rfl .rfl (by simp [hwriter]) (fun hw => absurd hw hspawned) id rfl
  · exact h

theorem openerOk_writerSent (h : s.OpenerOk) (ok : Bool) : (s.writerSent ok).OpenerOk := by
  unfold writerSent
  split
  · next m last hwriter =>
    have hspawned : s.writer ≠ .unspawned := by simp [hwriter]
    cases ok <;> cases last <;>
      exact h.congr rfl .rfl (by simp [hwriter]) (fun hw => absurd hw hspawned) id rfl
  · exact h

theorem openerOk_dropSocket (h : s.OpenerOk) (abortReader abortWriter : Bool) :
    (s.dropSocket abortReader abortWriter).OpenerOk := by
  have hclosed : ∀ {reader}, (reader = .unspawned ↔ s.reader = .unspawned) →
      ({ s with inbox := s.inbox.close, reader } : WsSocket).OpenerOk := fun hreader =>
    h.congr rfl hreader .rfl (fun _ => rfl) (fun _ => rfl) rfl
  have haborted : dropSocket.abortedReader s.reader = .unspawned ↔ s.reader = .unspawned := by
    unfold dropSocket.abortedReader
    split
    · next hreader => simp [hreader]
    · next hreader => simpa using hreader
  have hwriter : ∀ {t : WsSocket}, t.OpenerOk → (dropSocket.abortWriterTask t).OpenerOk := by
    intro t ht
    unfold dropSocket.abortWriterTask
    split
    · exact ht
    · next hphase =>
      have hspawned : t.writer ≠ .unspawned := hphase
      exact ht.congr rfl .rfl (by simp [hspawned]) (fun hw => absurd hw hspawned) id rfl
  unfold dropSocket
  cases abortReader <;> cases abortWriter
  · exact hclosed .rfl
  · exact hwriter (hclosed .rfl)
  · exact hclosed haborted
  · exact hwriter (hclosed haborted)

/-- A step of the owner: the tasks and what they published stay, and no channel loses its receiver. -/
structure OwnerStep (s s' : WsSocket) : Prop where
  opener : s'.opener = s.opener
  reader : s'.reader = s.reader
  writer : s'.writer = s.writer
  read : s'.read = s.read
  written : s'.written = s.written
  published : s'.published = s.published
  pushedInbox : s'.inbox.pushed = s.inbox.pushed
  takenOutbox : s'.outbox.taken = s.outbox.taken
  receiverInbox : s'.inbox.receiver = s.inbox.receiver
  receiverOutbox : s'.outbox.receiver = s.outbox.receiver
  capacityInbox : s'.inbox.capacity = s.inbox.capacity
  capacityOutbox : s'.outbox.capacity = s.outbox.capacity

theorem OwnerStep.refl (s : WsSocket) : OwnerStep s s := ⟨rfl, rfl, rfl, rfl, rfl, rfl, rfl, rfl, rfl, rfl, rfl, rfl⟩

theorem ownerStep_outbox {o : WsOutbound} {outbox : Mpsc WsOutbound} (h : s.outbox.trySend o = .ok outbox) :
    OwnerStep s { s with outbox } := by
  obtain ⟨-, -, htaken, hreceiver, hcapacity, -⟩ := Mpsc.trySend_ok h
  exact ⟨rfl, rfl, rfl, rfl, rfl, rfl, rfl, htaken, rfl, hreceiver, rfl, hcapacity⟩

theorem ownerStep_sendFrame (s : WsSocket) (f : WsFrame) : OwnerStep s (s.sendFrame f).2 := by
  unfold sendFrame
  split
  · next hsend => exact ownerStep_outbox hsend
  · exact .refl s
  · exact .refl s

theorem ownerStep_closeSocket (s : WsSocket) (code : Nat) : OwnerStep s (s.closeSocket code) := by
  unfold closeSocket
  split
  · next hsend => exact ownerStep_outbox hsend
  · exact .refl s

theorem ownerStep_recvFrame (s : WsSocket) : OwnerStep s s.recvFrame.2 := by
  unfold recvFrame
  split
  · next hrecv =>
    obtain ⟨hpushed, -, -, hreceiver, hcapacity⟩ := Mpsc.recv_some hrecv
    exact ⟨rfl, rfl, rfl, rfl, rfl, rfl, hpushed, rfl, hreceiver, rfl, hcapacity, rfl⟩
  · split_ifs
    · exact .refl s
    · exact .refl s

theorem OwnerStep.inv {s' : WsSocket} (hs : OwnerStep s s') (h : s.Inv) : s'.Inv where
  inbound := h.inbound.congr hs.reader hs.pushedInbox hs.read (congrArg _ hs.published) hs.receiverInbox.symm.trans
  outbound := h.outbound.congr hs.writer hs.takenOutbox hs.written fun _ => hs.receiverOutbox
  opener := h.opener.congr hs.opener (by rw [hs.reader]) (by rw [hs.writer]) (fun _ => hs.receiverOutbox)
    hs.receiverInbox.trans (congrArg (List.filter isUpgrade) hs.published)
  inboxCapacity := hs.capacityInbox.trans h.inboxCapacity
  outboxCapacity := hs.capacityOutbox.trans h.outboxCapacity

/-! ### The tasks -/

theorem inv_connectResult (h : s.Inv) (r : Except LibraryError Unit) : (s.connectResult r).Inv := by
  have hopener := openerOk_connectResult h.opener r
  revert hopener
  unfold connectResult
  split
  · next hphase =>
    have hconnecting := h.opener
    simp only [OpenerOk, hphase] at hconnecting
    obtain ⟨hreader, hwriter, houtbox, -⟩ := hconnecting
    have hin := h.inbound
    have hout := h.outbound
    simp only [InboundOk, hreader] at hin
    simp only [OutboundOk, hwriter] at hout
    obtain ⟨hread, hpushed, hclosed⟩ := hin
    obtain ⟨htaken, hwritten⟩ := hout
    split_ifs
    · intro hopener
      have houtbound : ({ s with opener := .ended, outbox := s.outbox.close } : WsSocket).OutboundOk :=
        h.outbound.congr rfl rfl rfl fun hspawned => absurd hwriter hspawned
      exact ⟨h.inbound, houtbound, hopener, h.inboxCapacity, h.outboxCapacity⟩
    · cases r with
      | ok _ =>
        intro hopener
        refine ⟨⟨?_, ?_, hclosed⟩, ⟨?_, ?_, houtbox⟩, hopener, h.inboxCapacity, h.outboxCapacity⟩
        · simp [hpushed, hread, deliveries]
        · simp [hread, deliveries]
        · simp [htaken]
        · simp [hwritten, htaken, writable]
      | error e =>
        intro hopener
        exact ⟨h.inbound, h.outbound, hopener, h.inboxCapacity, h.outboxCapacity⟩
  · exact fun _ => h

theorem inv_openerPublish (h : s.Inv) : s.openerPublish.Inv := by
  have hopener := openerOk_openerPublish h.opener
  have hnotClosed : ∀ event, isClosed event = false →
      (s.published ++ [event]).filter isClosed = s.published.filter isClosed := by
    intro event hevent
    simp [hevent]
  revert hopener
  unfold openerPublish
  split
  · intro hopener
    exact ⟨h.inbound.congr rfl rfl rfl (hnotClosed _ rfl) id, h.outbound, hopener, h.inboxCapacity, h.outboxCapacity⟩
  · next error hphase =>
    have hfailed := h.opener
    simp only [OpenerOk, hphase] at hfailed
    intro hopener
    exact ⟨h.inbound.congr rfl rfl rfl (hnotClosed _ rfl) id,
      h.outbound.congr rfl rfl rfl fun hspawned => absurd hfailed.2.1 hspawned, hopener, h.inboxCapacity,
      h.outboxCapacity⟩
  · exact fun _ => h

/-- A step of the reader leaves the outbound side and the channels' sizes. -/
structure ReaderStep (s s' : WsSocket) : Prop where
  opener : s'.opener = s.opener
  writer : s'.writer = s.writer
  outbox : s'.outbox = s.outbox
  written : s'.written = s.written
  capacityInbox : s'.inbox.capacity = s.inbox.capacity

theorem ReaderStep.inv {s' : WsSocket} (hs : ReaderStep s s') (hin : s'.InboundOk) (hopener : s'.OpenerOk)
    (h : s.Inv) : s'.Inv where
  inbound := hin
  outbound := h.outbound.congr hs.writer (congrArg _ hs.outbox) hs.written fun _ => congrArg _ hs.outbox
  opener := hopener
  inboxCapacity := hs.capacityInbox.trans h.inboxCapacity
  outboxCapacity := (congrArg _ hs.outbox).trans h.outboxCapacity

theorem readerStep_readNext (s : WsSocket) (item : StreamItem) : ReaderStep s (s.readNext item) := by
  unfold readNext
  split
  · split <;> exact ⟨rfl, rfl, rfl, rfl, rfl⟩
  · exact ⟨rfl, rfl, rfl, rfl, rfl⟩

theorem readerStep_readerStop (s : WsSocket) : ReaderStep s s.readerStop := by
  unfold readerStop
  split
  · split_ifs <;> exact ⟨rfl, rfl, rfl, rfl, rfl⟩
  · exact ⟨rfl, rfl, rfl, rfl, rfl⟩

theorem readerStep_afterError {t : WsSocket} (h : ReaderStep s t) (event : Option (Nat × String)) :
    ReaderStep s (readerHand.afterError t event) := by
  unfold readerHand.afterError
  split <;> exact ⟨h.opener, h.writer, h.outbox, h.written, h.capacityInbox⟩

theorem readerStep_readerHand (s : WsSocket) : ReaderStep s s.readerHand := by
  unfold readerHand
  split
  · next payload last hreader =>
    split
    · next inbox hsend =>
      obtain ⟨-, -, -, -, hcapacity, -⟩ := Mpsc.trySend_ok hsend
      exact ⟨rfl, rfl, rfl, rfl, hcapacity⟩
    · next inbox event hsend =>
      obtain ⟨-, -, -, -, hcapacity, -⟩ := Mpsc.trySend_ok hsend
      exact readerStep_afterError (s := s) (t := { s with inbox }) ⟨rfl, rfl, rfl, rfl, hcapacity⟩ event
    · exact ⟨rfl, rfl, rfl, rfl, rfl⟩
    · exact readerStep_afterError ⟨rfl, rfl, rfl, rfl, rfl⟩ _
    · exact ⟨rfl, rfl, rfl, rfl, rfl⟩
  · exact ⟨rfl, rfl, rfl, rfl, rfl⟩

theorem readerStep_readerPublish (s : WsSocket) : ReaderStep s s.readerPublish := by
  unfold readerPublish
  split <;> exact ⟨rfl, rfl, rfl, rfl, rfl⟩

/-- A step of the writer leaves the inbound side and the channels' sizes. -/
structure WriterStep (s s' : WsSocket) : Prop where
  reader : s'.reader = s.reader
  read : s'.read = s.read
  inbox : s'.inbox = s.inbox
  published : s'.published = s.published
  capacityOutbox : s'.outbox.capacity = s.outbox.capacity

theorem WriterStep.inv {s' : WsSocket} (hs : WriterStep s s') (hout : s'.OutboundOk) (hopener : s'.OpenerOk)
    (h : s.Inv) : s'.Inv where
  inbound := h.inbound.congr hs.reader (congrArg _ hs.inbox) hs.read (congrArg _ hs.published)
    fun hheld => (congrArg _ hs.inbox).symm.trans hheld
  outbound := hout
  opener := hopener
  inboxCapacity := (congrArg _ hs.inbox).trans h.inboxCapacity
  outboxCapacity := hs.capacityOutbox.trans h.outboxCapacity

theorem writerStep_writerTake (s : WsSocket) : WriterStep s s.writerTake := by
  unfold writerTake
  split
  · split
    · split_ifs <;> exact ⟨rfl, rfl, rfl, rfl, rfl⟩
    · next hrecv =>
      obtain ⟨-, -, -, -, hcapacity⟩ := Mpsc.recv_some hrecv
      split <;> exact ⟨rfl, rfl, rfl, rfl, hcapacity⟩
    · next hrecv =>
      obtain ⟨-, -, -, -, hcapacity⟩ := Mpsc.recv_some hrecv
      exact ⟨rfl, rfl, rfl, rfl, hcapacity⟩
  · exact ⟨rfl, rfl, rfl, rfl, rfl⟩

theorem writerStep_writerSent (s : WsSocket) (ok : Bool) : WriterStep s (s.writerSent ok) := by
  unfold writerSent
  split
  · next last _ => cases ok <;> cases last <;> exact ⟨rfl, rfl, rfl, rfl, rfl⟩
  · exact ⟨rfl, rfl, rfl, rfl, rfl⟩

theorem capacity_abortWriterTask (s : WsSocket) :
    (dropSocket.abortWriterTask s).inbox.capacity = s.inbox.capacity ∧
      (dropSocket.abortWriterTask s).outbox.capacity = s.outbox.capacity := by
  unfold dropSocket.abortWriterTask
  split <;> exact ⟨rfl, rfl⟩

theorem inv_dropSocket (h : s.Inv) (abortReader abortWriter : Bool) : (s.dropSocket abortReader abortWriter).Inv where
  inbound := inboundOk_dropSocket h.inbound abortReader abortWriter
  outbound := outboundOk_dropSocket h.outbound abortReader abortWriter
  opener := openerOk_dropSocket h.opener abortReader abortWriter
  inboxCapacity := by
    cases abortReader <;> cases abortWriter <;> simp [dropSocket, capacity_abortWriterTask, h.inboxCapacity]
  outboxCapacity := by
    cases abortReader <;> cases abortWriter <;> simp [dropSocket, capacity_abortWriterTask, h.outboxCapacity]

/-- **Every step keeps the invariant.** -/
theorem inv_step (s : WsSocket) (act : Act) (h : s.Inv) : (step s act).Inv := by
  cases act with
  | connectResult r => exact inv_connectResult h r
  | openerPublish => exact inv_openerPublish h
  | readNext item =>
    exact (readerStep_readNext s item).inv (inboundOk_readNext h.inbound item) (openerOk_readNext h.opener item) h
  | readerStop => exact (readerStep_readerStop s).inv (inboundOk_readerStop h.inbound) (openerOk_readerStop h.opener) h
  | readerHand => exact (readerStep_readerHand s).inv (inboundOk_readerHand h.inbound) (openerOk_readerHand h.opener) h
  | readerPublish =>
    exact (readerStep_readerPublish s).inv (inboundOk_readerPublish h.inbound) (openerOk_readerPublish h.opener) h
  | writerTake =>
    exact (writerStep_writerTake s).inv (outboundOk_writerTake h.outbound) (openerOk_writerTake h.opener) h
  | writerSent ok =>
    exact (writerStep_writerSent s ok).inv (outboundOk_writerSent h.outbound ok) (openerOk_writerSent h.opener ok) h
  | sendFrame f => exact (ownerStep_sendFrame s f).inv h
  | close code => exact (ownerStep_closeSocket s code).inv h
  | recvFrame => exact (ownerStep_recvFrame s).inv h
  | drop abortReader abortWriter => exact inv_dropSocket h abortReader abortWriter

theorem inv_run (acts : List Act) : (run acts).Inv :=
  (Reach.exec (allowed_anyStep openAndSpawn acts)).invariant inv_openAndSpawn fun s act h _ => inv_step s act h

/-! ## What the owner receives -/

/-- What the reader has in hand. -/
def inHand : ReaderPhase → List Inbound
  | .handing payload _ => [payload]
  | _ => []

/-- As long as the socket is held, what was read is received, queued or in hand. -/
theorem InboundOk.whole (h : s.InboundOk) (hheld : s.held = true) :
    s.inbox.taken ++ s.inbox.queue ++ inHand s.reader = deliveries s.read := by
  have haccount : s.inbox.taken ++ s.inbox.queue = s.inbox.pushed := by
    rw [s.inbox.account, s.inbox.whole hheld, List.append_nil]
  rw [haccount]
  unfold InboundOk at h
  split at h
  · next hreader => simp [hreader, inHand, h.1, h.2.1, deliveries]
  · next hreader => simp [hreader, inHand, h.1]
  · next hreader => simp [hreader, inHand, h.1]
  · next hreader => simp [hreader, inHand, h.2.2.2.2 hheld]
  · next hreader => simp [hreader, inHand, h.2.2.1 hheld]

theorem mem_dropLast_of_isPrefix {α : Type*} {l l' : List α} {a : α} (hl : l <+: l') (ha : a ∈ l.dropLast) :
    a ∈ l'.dropLast := by
  obtain ⟨rest, rfl⟩ := hl
  cases rest with
  | nil => rwa [List.append_nil]
  | cons b rest =>
    rw [List.dropLast_append_of_ne_nil (by simp)]
    exact List.mem_append_left _ (List.mem_of_mem_dropLast ha)

theorem Framed.of_isPrefix {l l' : List Inbound} (h : Framed l') (hl : l <+: l') : Framed l :=
  fun r hr => h r (mem_dropLast_of_isPrefix hl hr)

/-- An error is the end of what it is in. -/
theorem Framed.eq_nil_of_error {l rest : List Inbound} {e : TransportError} (h : Framed (l ++ rest))
    (he : .error e ∈ l) : rest = [] := by
  cases rest with
  | nil => rfl
  | cons a rest =>
    have hmem : Except.error e ∈ (l ++ a :: rest).dropLast := by
      rw [List.dropLast_append_of_ne_nil (by simp)]
      exact List.mem_append_left _ he
    have := h _ hmem
    simp [Except.isOk, Except.toBool] at this

/-- **Frames arrive in order.** Whatever the order of the steps of the opener, the reader, the writer and the owner:
what was received is a first part of what the items read come to; as long as the socket is held the rest is queued
or in hand, so none is lost, repeated or overtaken; no more than 256 are queued; an error is the last thing received,
and after it `recv_frame` has but the one that says that the reader ended. -/
theorem received_in_order (acts : List Act) :
    let s := run acts
    s.inbox.taken <+: deliveries s.read ∧
      (s.held = true → s.inbox.taken ++ s.inbox.queue ++ inHand s.reader = deliveries s.read) ∧
      s.inbox.queue.length ≤ defaultCapacity ∧ (∀ r ∈ s.inbox.taken.dropLast, r.isOk = true) ∧
      ∀ e, .error e ∈ s.inbox.taken →
        s.recvFrame = (none, s) ∨
          s.recvFrame = (some (.error ⟨.abnormalClose "reader task terminated", false⟩), s) := by
  intro s
  have h := inv_run acts
  have hframed := h.inbound.framed.of_isPrefix h.inbound.pushed_isPrefix
  refine ⟨s.inbox.taken_isPrefix.trans h.inbound.pushed_isPrefix, h.inbound.whole, ?_, hframed.of_isPrefix s.inbox.taken_isPrefix, ?_⟩
  · rw [← h.inboxCapacity]
    exact s.inbox.room
  · intro e he
    have hpushed : s.inbox.pushed = s.inbox.taken ++ (s.inbox.lost ++ s.inbox.queue) := by
      rw [s.inbox.account, List.append_assoc]
    have hrest : s.inbox.lost ++ s.inbox.queue = [] := by
      refine Framed.eq_nil_of_error ?_ he
      rw [← hpushed]
      exact hframed
    have hempty : s.inbox.recv = none := Mpsc.recv_eq_none.2 (List.append_eq_nil_iff.1 hrest).2
    unfold recvFrame
    rw [hempty]
    dsimp only
    split_ifs
    · exact .inr rfl
    · exact .inl rfl

/-! ## What the writer writes -/

/-- Nothing follows a requested close. -/
theorem writable_close_last (l : List WsOutbound) (frame : Nat × String) :
    Message.close (some frame) ∉ (writable l).dropLast := by
  induction l with
  | nil => simp [writable]
  | cons o l ih =>
    cases o with
    | close code => simp [writable]
    | frame f =>
      have hframe : toMessage f ≠ some (.close (some frame)) := by
        unfold toMessage
        split <;> simp
      cases hm : toMessage f with
      | none => simpa [writable, hm] using ih
      | some m =>
        rw [writable, hm, Option.toList_some, List.singleton_append]
        intro hmem
        cases hw : writable l with
        | nil => simp [hw] at hmem
        | cons m' rest =>
          rw [hw, List.dropLast_cons_cons, ← hw] at hmem
          rcases List.mem_cons.1 hmem with heq | hmem
          · exact hframe (hm.trans (congrArg some heq.symm))
          · exact ih hmem

/-- The writer is gone: what was written is all that ever will be. -/
def Silent (s : WsSocket) : Prop :=
  s.outbox.receiver = false ∧ (s.writer = .ended ∨ (s.writer = .unspawned ∧ s.opener = .ended))

theorem Inv.silent (h : s.Inv) (hreceiver : s.outbox.receiver = false) : s.Silent := by
  refine ⟨hreceiver, ?_⟩
  have hout := h.outbound
  unfold OutboundOk at hout
  split at hout
  · next hwriter =>
    refine .inr ⟨hwriter, ?_⟩
    have hopener := h.opener
    unfold OpenerOk at hopener
    split at hopener
    · exact absurd (hreceiver.symm.trans hopener.2.2.1) Bool.false_ne_true
    · exact absurd (hreceiver.symm.trans hopener.2.2.1) Bool.false_ne_true
    · exact absurd hwriter hopener.2.1
    · next hphase => exact hphase
  · exact absurd (hreceiver.symm.trans hout.2.2) Bool.false_ne_true
  · exact absurd (hreceiver.symm.trans hout.2.1) Bool.false_ne_true
  · next hwriter => exact .inl hwriter

theorem ReaderStep.silent {s' : WsSocket} (hs : ReaderStep s s') (h : s.Silent) :
    s'.Silent ∧ s'.written = s.written := by
  unfold Silent at h ⊢
  rw [hs.outbox, hs.writer, hs.opener]
  exact ⟨h, hs.written⟩

theorem OwnerStep.silent {s' : WsSocket} (hs : OwnerStep s s') (h : s.Silent) :
    s'.Silent ∧ s'.written = s.written := by
  unfold Silent at h ⊢
  rw [hs.receiverOutbox, hs.writer, hs.opener]
  exact ⟨h, hs.written⟩

theorem Silent.writerTake (h : s.Silent) : s.writerTake = s := by
  unfold WsSocket.writerTake
  rcases h.2 with hwriter | ⟨hwriter, -⟩ <;> rw [hwriter]

theorem Silent.writerSent (h : s.Silent) (ok : Bool) : s.writerSent ok = s := by
  unfold WsSocket.writerSent
  rcases h.2 with hwriter | ⟨hwriter, -⟩ <;> rw [hwriter]

theorem Silent.connectResult (h : s.Silent) (hs : s.Inv) (r : Except LibraryError Unit) : s.connectResult r = s := by
  unfold WsSocket.connectResult
  split
  · next hphase =>
    have hopener := hs.opener
    simp only [OpenerOk, hphase] at hopener
    exact absurd (h.1.symm.trans hopener.2.2.1) Bool.false_ne_true
  · rfl

theorem Silent.openerPublish (h : s.Silent) : s.openerPublish.Silent ∧ s.openerPublish.written = s.written := by
  obtain ⟨hreceiver, hwriter⟩ := h
  unfold WsSocket.openerPublish
  split
  · exact ⟨⟨hreceiver, hwriter.imp_right fun hw => ⟨hw.1, rfl⟩⟩, rfl⟩
  · exact ⟨⟨rfl, hwriter.imp_right fun hw => ⟨hw.1, rfl⟩⟩, rfl⟩
  · exact ⟨⟨hreceiver, hwriter⟩, rfl⟩

theorem Silent.dropSocket (h : s.Silent) (abortReader abortWriter : Bool) :
    (s.dropSocket abortReader abortWriter).Silent ∧ (s.dropSocket abortReader abortWriter).written = s.written := by
  have hclosed : ∀ reader, ({ s with inbox := s.inbox.close, reader } : WsSocket).Silent := fun _ => h
  have hwriter : ∀ {t : WsSocket}, t.Silent →
      (dropSocket.abortWriterTask t).Silent ∧ (dropSocket.abortWriterTask t).written = t.written := by
    intro t ht
    unfold dropSocket.abortWriterTask
    split
    · exact ⟨ht, rfl⟩
    · exact ⟨⟨rfl, .inl rfl⟩, rfl⟩
  unfold WsSocket.dropSocket
  cases abortReader <;> cases abortWriter
  · exact ⟨hclosed _, rfl⟩
  · exact hwriter (hclosed _)
  · exact ⟨hclosed _, rfl⟩
  · exact hwriter (hclosed _)

/-- Whatever is done then, the wire stays as it is. -/
theorem Silent.step (h : s.Silent) (hs : s.Inv) (act : Act) :
    (step s act).Silent ∧ (WsSocket.step s act).written = s.written := by
  cases act with
  | connectResult r =>
    rw [WsSocket.step, h.connectResult hs]
    exact ⟨h, rfl⟩
  | openerPublish => exact h.openerPublish
  | readNext item => exact (readerStep_readNext s item).silent h
  | readerStop => exact (readerStep_readerStop s).silent h
  | readerHand => exact (readerStep_readerHand s).silent h
  | readerPublish => exact (readerStep_readerPublish s).silent h
  | writerTake =>
    rw [WsSocket.step, h.writerTake]
    exact ⟨h, rfl⟩
  | writerSent ok =>
    rw [WsSocket.step, h.writerSent]
    exact ⟨h, rfl⟩
  | sendFrame f => exact (ownerStep_sendFrame s f).silent h
  | close code => exact (ownerStep_closeSocket s code).silent h
  | recvFrame => exact (ownerStep_recvFrame s).silent h
  | drop abortReader abortWriter => exact h.dropSocket abortReader abortWriter

theorem Silent.exec (h : s.Silent) (hs : s.Inv) (acts : List Act) :
    (exec WsSocket.step s acts).Silent ∧ (exec WsSocket.step s acts).written = s.written := by
  induction acts generalizing s with
  | nil => exact ⟨h, rfl⟩
  | cons act acts ih =>
    obtain ⟨hsilent, hwritten⟩ := h.step hs act
    obtain ⟨hlast, hall⟩ := ih hsilent (inv_step s act hs)
    exact ⟨hlast, hall.trans hwritten⟩

/-- What a send of a frame comes to. -/
theorem sendFrame_fst (s : WsSocket) (f : WsFrame) :
    ((s.sendFrame f).1 = .ok () ↔ s.outbox.receiver = true ∧ s.outbox.queue.length < s.outbox.capacity) ∧
      ((s.sendFrame f).1 = .error .backpressure ↔
        s.outbox.receiver = true ∧ s.outbox.queue.length = s.outbox.capacity) ∧
      ((s.sendFrame f).1 = .error .writerClosed ↔ s.outbox.receiver = false) := by
  have hroom := s.outbox.room
  unfold sendFrame Mpsc.trySend
  by_cases hreceiver : s.outbox.receiver = false
  · simp [hreceiver]
  · by_cases hfree : s.outbox.queue.length < s.outbox.capacity
    · have hnotFull : s.outbox.queue.length ≠ s.outbox.capacity := by omega
      simp [hreceiver, hfree, hnotFull]
    · have hfull : s.outbox.queue.length = s.outbox.capacity := by omega
      simp [hreceiver, hfull]

/-- **What is accepted is written, in order.** Whatever the order of the steps: what is on the wire is a first part
of what the frames accepted come to, up to the first close that was asked for, and nothing follows that; while the
writer waits it has written all it took. A frame is refused for backpressure exactly if the writer is there and 256
are queued, and for a closed writer exactly if the writer is gone: then every later frame is refused so too, and
nothing more is written. -/
theorem written_in_order (acts : List Act) :
    let s := run acts
    s.written <+: writable s.outbox.pushed ∧ (∀ frame, Message.close (some frame) ∉ s.written.dropLast) ∧
      (s.writer = .waiting → s.written = writable s.outbox.taken) ∧
      ∀ f, ((s.sendFrame f).1 = .ok () ↔ s.outbox.receiver = true ∧ s.outbox.queue.length < 256) ∧
        ((s.sendFrame f).1 = .error .backpressure ↔ s.outbox.receiver = true ∧ s.outbox.queue.length = 256) ∧
        ((s.sendFrame f).1 = .error .writerClosed → ∀ acts' f',
          (run (acts ++ acts')).written = s.written ∧
            ((run (acts ++ acts')).sendFrame f').1 = .error .writerClosed) := by
  intro s
  have h := inv_run acts
  have hcapacity : s.outbox.capacity = 256 := h.outboxCapacity
  have hinitial := h.outbound.written_isPrefix.trans (writable_isPrefix s.outbox.taken_isPrefix)
  refine ⟨hinitial, ?_, ?_, ?_⟩
  · intro frame hmem
    exact writable_close_last s.outbox.pushed frame (mem_dropLast_of_isPrefix hinitial hmem)
  · intro hwriter
    have hout := h.outbound
    unfold OutboundOk at hout
    change s.writer = _ at hwriter
    rw [hwriter] at hout
    exact hout.2.1
  · intro f
    obtain ⟨hok, hfull, hclosed⟩ := s.sendFrame_fst f
    rw [hcapacity] at hok hfull
    refine ⟨hok, hfull, ?_⟩
    intro hrefused acts' f'
    obtain ⟨hsilent, hwritten⟩ := (h.silent (hclosed.1 hrefused)).exec h acts'
    rw [run, exec_append]
    exact ⟨hwritten, (sendFrame_fst _ f').2.2.2 hsilent.1⟩

/-! ## What is reported -/

theorem OpenerOk.upgrades_length (h : s.OpenerOk) : s.upgrades.length ≤ 1 := by
  unfold OpenerOk at h
  split at h
  · simp [h.2.2.2]
  · simp [h.2.2.2]
  · simp [h.2.2]
  · rcases h with hspawned | ⟨-, -, -, hdropped | ⟨e, hfailed⟩⟩
    · simp [hspawned.2.2]
    · simp [hdropped.2]
    · simp [hfailed]

/-- A failure is published by an opener that ended without a task. -/
theorem OpenerOk.of_failed {e : TransportError} (h : s.OpenerOk) (he : .wsUpgradeFailed e ∈ s.published) :
    s.opener = .ended ∧ s.reader = .unspawned ∧ s.writer = .unspawned ∧ s.outbox.receiver = false := by
  have hmem : SocketEvent.wsUpgradeFailed e ∈ s.upgrades := List.mem_filter.2 ⟨he, rfl⟩
  unfold OpenerOk at h
  split at h
  · simp [h.2.2.2] at hmem
  · simp [h.2.2.2] at hmem
  · simp [h.2.2] at hmem
  · next hphase =>
    rcases h with hspawned | ⟨hreader, hwriter, hreceiver, -⟩
    · simp [hspawned.2.2] at hmem
    · exact ⟨hphase, hreader, hwriter, hreceiver⟩

theorem InboundOk.closed_length (h : s.InboundOk) : (s.published.filter isClosed).length ≤ 1 := by
  unfold InboundOk at h
  split at h
  · simp [h.2.2]
  · simp [h.2.2]
  · simp [h.2.2.2.2]
  · simp [h.2.2.2.1]
  · rcases h.2.2.2 with hnone | ⟨code, reason, hone, -⟩
    · simp [hnone]
    · simp [hone]

/-- `WsClosed` is published by a reader that ended. -/
theorem InboundOk.of_closed {code : Nat} {reason : String} (h : s.InboundOk)
    (hclosed : .wsClosed code reason ∈ s.published) :
    s.reader = .ended ∧ s.read.getLast?.map closedEvent = some (some (code, reason)) := by
  have hmem : SocketEvent.wsClosed code reason ∈ s.published.filter isClosed := List.mem_filter.2 ⟨hclosed, rfl⟩
  unfold InboundOk at h
  split at h
  · simp [h.2.2] at hmem
  · simp [h.2.2] at hmem
  · simp [h.2.2.2.2] at hmem
  · simp [h.2.2.2.1] at hmem
  · next hreader =>
    rcases h.2.2.2 with hnone | ⟨code', reason', hone, hlast⟩
    · simp [hnone] at hmem
    · rw [hone, List.mem_singleton] at hmem
      cases hmem
      exact ⟨hreader, hlast⟩

end WsSocket

end KrakenSdk.Transport
