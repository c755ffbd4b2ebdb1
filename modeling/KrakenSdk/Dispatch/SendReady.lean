import KrakenSdk.Conn.Handshake
import KrakenSdk.Conn.LivenessEpoch
import KrakenSdk.Dispatch.ArmRegistry
/-!
# The bare-order send-ready flag (io_reactor/send_ready.rs)

`auth_send_ready` caches a predicate over the auth connection, the registry and the token. It is stored again by
the arms `storesFor` names, and at the top of the loop whenever the liveness epoch of the registry has moved. A
`true` is stale once the connection leaves `Authenticating` by an arm that stores nothing: `UnseenExit`.

`sendReady_fresh` says that nothing else makes it stale; `closeFrame_stale` is a run that does.
-/
namespace KrakenSdk.Dispatch

open KrakenSdk.Conn KrakenSdk.Conn.ManagedConnection KrakenSdk.Conn.SubscriptionRegistry

/-- What `run` keeps besides the reactor's state (mod.rs:169). -/
structure ReactorLoop where
  reactor : IoReactor
  authSendReady : Bool
  lastLivenessEpoch : Nat

/-- One iteration: its arm, and the cached token when the next one starts. -/
structure LoopLabel where
  arm : ArmLabel
  tokenAtTop : Option CachedToken
  /-- The entries of a `RegisterBatch` are a `Vec`. -/
  batchFits : ∀ url entries refId, arm.arm = .registerBatch url entries refId → entries.length < 2 ^ 64

namespace IoReactor

variable {s : IoReactor} {env : ArmEnv} {url : WsUrl}

/-! ## The stores -/

/-- The predicate of `store_send_ready` (send_ready.rs:48). -/
def sendReady (s : IoReactor) (url : WsUrl) (token : Option CachedToken) : Bool :=
  url = .authUrl && (s.conns url).state = .authenticating && !s.registry.hasUrlEntry .authUrl &&
    token.any fun t => !t.expired

/-- `send_first_signed_subscribe` stores when it has a token and a socket, and no entry to send. -/
def firstSignedStores (s : IoReactor) (env : ArmEnv) (url : WsUrl) : Bool :=
  let r := s.reactorEnv env url
  r.token.isSome && r.socketOf.isSome && r.entries.isEmpty

/-- A success that passes the guard and lands in `Authenticating` ends in `send_first_signed_subscribe`. -/
def upgradeStores (s : IoReactor) (env : ArmEnv) : UpgradeOutcome → Option WsUrl
  | .ok url connectionId =>
    let s' := s.updateConn url (·.handleEvent env.toEnv (.wireUpgradeOk (some connectionId)))
    if s.upgradeOkIsLive url connectionId ∧ (s'.conns url).state = .authenticating ∧ s'.firstSignedStores env url then
      some url
    else none
  | .failed _ _ _ => none

/-- The two stores of a text frame: after the order ack of a probe, and after a subscribe ack, in `Authenticating`. -/
def frameStores (s : IoReactor) (url : WsUrl) (json : Json) : Bool :=
  (s.conns url).state = .authenticating &&
    match if url = .authUrl then decodeResponse json else none with
    | some resp => resp.isSome
    | none => (json.get? "method").bind Json.asStr? = some "subscribe" && (ackKey (s.conns url) json).isSome

/-- The connection of the arm's last store. What the arm does after it changes neither the state, nor the
registry, nor the token the predicate reads in `Authenticating`. -/
def storesFor (s : IoReactor) (l : ArmLabel) : Option WsUrl :=
  match l.arm with
  | .registerBatch .authUrl (_ :: _) _ => some .authUrl
  | .takeOutcome => s.upgradeRx.head?.bind fun q => s.upgradeStores l.env q.outcome
  | .refreshed _ _ => some .authUrl
  | .textFrame url json => if (s.sockets url).isSome ∧ s.frameStores url json then some url else none
  | _ => none

end IoReactor

namespace ReactorLoop

/-- The loop as it starts. -/
def init (knobs : Knobs) : ReactorLoop where
  reactor := .init knobs
  authSendReady := false
  lastLivenessEpoch := 0

/-- The liveness-epoch sync at the top of the loop (mod.rs:180). -/
def epochSync (s : ReactorLoop) (token : Option CachedToken) : ReactorLoop :=
  if s.reactor.registry.livenessEpoch ≠ s.lastLivenessEpoch then
    { s with lastLivenessEpoch := s.reactor.registry.livenessEpoch
             authSendReady := s.reactor.sendReady .authUrl token }
  else s

/-- One arm, up to the sync of the next iteration. -/
def step (s : ReactorLoop) (l : LoopLabel) : ReactorLoop :=
  let reactor := s.reactor.step l.arm
  let authSendReady := match s.reactor.storesFor l.arm with
    | some url => reactor.sendReady url l.arm.env.cachedToken
    | none => s.authSendReady
  { s with reactor, authSendReady }.epochSync l.tokenAtTop

/-- The loop after a list of iterations. -/
def run (knobs : Knobs) (ls : List LoopLabel) : ReactorLoop := StepSystem.exec step (init knobs) ls

/-- A set flag is true of the connection and of the registry. -/
def Fresh (s : ReactorLoop) : Prop :=
  s.authSendReady = true →
    (s.reactor.conns .authUrl).state = .authenticating ∧ ∀ key, ¬ s.reactor.registry.Live .authUrl key

end ReactorLoop

/-! ## The exits no store follows -/

namespace IoReactor

variable {s : IoReactor} {env : ArmEnv} {url : WsUrl}

/-- A book reseed sent on the auth connection ends `Authenticating`. -/
def ReseedEnds (s : IoReactor) (env : ArmEnv) (symbol : Symbol) : Prop :=
  (s.sockets .authUrl).isSome = true ∧
    ∃ f, s.frameFor env (.book, some symbol) = some f ∧ (s.conns .authUrl).SendEnds env.toEnv f

/-- A data frame is routed: then its gaps are recovered. -/
def routed (s : IoReactor) (env : ArmEnv) (url : WsUrl) (json : Json) : IoReactor :=
  { s.updateConn url (·.noteInboundActivity env.toEnv) with registry := (env.router.routeTextFrame s.registry json).1 }

/-- One of the reseeds of a frame's gaps does. -/
def GapsEnd (env : ArmEnv) : IoReactor → List Symbol → Prop
  | _, [] => False
  | s, symbol :: gaps => s.ReseedEnds env symbol ∨ GapsEnd env (recoverBookGap env .authUrl s symbol) gaps

/-- The resend of a subscribe does. -/
def ResendEnds (s : IoReactor) (env : ArmEnv) (key : EntryKey) : Prop :=
  (s.sockets .authUrl).isSome = true ∧ (s.reactorEnv env .authUrl).token.isSome = true ∧
    ∃ f, s.frameFor env key = some f ∧ (s.conns .authUrl).SendEnds env.toEnv f

/-- The firing of an armed timer of the auth connection ends `Authenticating`. -/
def TimerEnds (s : IoReactor) (env : ArmEnv) : FsmEvent → Prop
  | .timerStalenessElapsed => True
  | .timerSubscribeAckTimeout channel pair => (s.conns .authUrl).subscribeAckRemaining env.toEnv (channel, pair) = 0
  | .timerSubscribeResendDue channel pair => s.ResendEnds env (channel, pair)
  | .timerBookReseedSnapshot _ (some symbol) =>
    (s.registry.noteReseedTimeout .book symbol).2 = .retry ∧ s.ReseedEnds env symbol
  | _ => False

/-- The arm takes the auth connection out of `Authenticating` and stores nothing. -/
def UnseenExit (s : IoReactor) (l : ArmLabel) : Prop :=
  match l.arm with
  | .callerEvent .authUrl (.close _) => True
  | .callerEvent .authUrl (.forceReconnect _) => True
  | .closeFrame .authUrl _ _ => (s.sockets .authUrl).isSome = true
  | .recvError .authUrl _ => (s.sockets .authUrl).isSome = true
  | .textFrame .authUrl json => (s.sockets .authUrl).isSome = true ∧ s.IsData l.env .authUrl json = true ∧
      (s.routed l.env .authUrl json).GapsEnd l.env (l.env.router.routeTextFrame s.registry json).2.2
  | .timer .authUrl event => timerArmed (s.conns .authUrl) event = true ∧ s.TimerEnds l.env event
  | _ => False

/-! ## An arm that stores nothing and is no such exit stays in `Authenticating` -/

/-- The auth connection is in `Authenticating`. -/
def InHandshake (s : IoReactor) : Prop := (s.conns .authUrl).state = .authenticating

theorem InHandshake.update (h : s.InHandshake) {f : ManagedConnection → ManagedConnection}
    (hf : url = .authUrl → (f (s.conns .authUrl)).state = .authenticating) : (s.updateConn url f).InHandshake := by
  unfold InHandshake
  cases url with
  | publicUrl =>
    rw [conns_updateConn_of_ne _ _ _ (by decide)]
    exact h
  | authUrl =>
    rw [conns_updateConn]
    exact hf rfl

theorem inHandshake_of_conns {s' : IoReactor} (h : s.InHandshake) (hc : s'.conns = s.conns) : s'.InHandshake := by
  unfold InHandshake
  rw [hc]
  exact h

theorem InHandshake.trySend (h : s.InHandshake) (q : QueuedOutcome) : (s.trySend q).2.InHandshake := by
  unfold IoReactor.trySend
  split_ifs <;> exact h

theorem inHandshake_teardown (h : s.InHandshake) (key : EntryKey) : (s.teardownReleasedKey key).InHandshake :=
  h.update fun _ => h

theorem inHandshake_complete (h : s.InHandshake) : (s.updateConn url (·.completeResubscribeIfEmpty env.toEnv)).InHandshake :=
  h.update fun _ => state_completeResubscribe h

theorem inHandshake_deregisterOne (h : s.InHandshake) (channel : ChannelName) (pair : Option Symbol) :
    (s.deregisterOne env channel pair).InHandshake := by
  unfold deregisterOne
  dsimp only
  split_ifs
  · exact h
  · exact inHandshake_complete (inHandshake_teardown (inHandshake_of_conns h rfl) _)

theorem inHandshake_deregisterAll (h : s.InHandshake) (channel : Option ChannelName) :
    (s.deregisterAll env channel).InHandshake := by
  have htear : ∀ (removed : List (SubscriptionEntry × RemovedEntryKind)) (s : IoReactor), s.InHandshake →
      (removed.foldl (fun s e => s.teardownReleasedKey e.1.key) s).InHandshake := by
    intro removed
    induction removed with
    | nil => exact fun s h => h
    | cons e removed ih => exact fun s h => ih _ (inHandshake_teardown h _)
  have hcomplete : ∀ (p : Prop) [Decidable p] (s : IoReactor) (url : WsUrl), s.InHandshake →
      (if p then s.updateConn url (·.completeResubscribeIfEmpty env.toEnv) else s).InHandshake := by
    intro p _ s url h
    split_ifs
    · exact inHandshake_complete h
    · exact h
  unfold deregisterAll
  dsimp only
  exact hcomplete _ _ _ (hcomplete _ _ _ (htear _ _ (inHandshake_of_conns h rfl)))

theorem inHandshake_guardDrop (h : s.InHandshake) (handlerId : HandlerId) (channel : ChannelName) (symbols : List Symbol) :
    (s.guardDrop env handlerId channel symbols).InHandshake := by
  have hone : ∀ (acc : IoReactor × Bool) key, acc.1.InHandshake → (dropGuardRef handlerId acc key).1.InHandshake := by
    rintro ⟨s, any⟩ key h
    unfold dropGuardRef
    dsimp only
    split_ifs
    · exact inHandshake_teardown (inHandshake_of_conns h rfl) _
    · exact inHandshake_of_conns h rfl
  have hall : ∀ (targets : List EntryKey) (acc : IoReactor × Bool), acc.1.InHandshake →
      (targets.foldl (dropGuardRef handlerId) acc).1.InHandshake := by
    intro targets
    induction targets with
    | nil => exact fun acc h => h
    | cons key targets ih => exact fun acc h => ih _ (hone acc key h)
  unfold guardDrop
  dsimp only
  split_ifs
  · exact inHandshake_complete (hall _ (s, false) h)
  · exact hall _ (s, false) h
  · exact inHandshake_complete (hall _ (s, false) h)
  · exact hall _ (s, false) h

/-- The public connection is another one. -/
theorem InHandshake.updatePublic (h : s.InHandshake) (f : ManagedConnection → ManagedConnection) :
    (s.updateConn .publicUrl f).InHandshake := h.update fun hu => by cases hu

theorem inHandshake_registerPublic (h : s.InHandshake) (refId : Option HandlerId) (regs : List Registration) :
    (s.registerBatch env .publicUrl refId regs).InHandshake := by
  have hstart : ∀ s : IoReactor, s.InHandshake → (s.startIfIdle env .publicUrl).InHandshake := by
    intro s h
    unfold startIfIdle
    split_ifs
    · exact inHandshake_of_conns (h.updatePublic (·.handleEvent env.toEnv (.callStartConnect env.connectRequestId))) rfl
    · exact h
  have hsub : ∀ (s : IoReactor) f, s.InHandshake → (s.subscribeFirst env .publicUrl f).InHandshake :=
    fun s f h => h.updatePublic (·.sendSingleSubscribe env.toEnv (s.sockets .publicUrl) f)
  have hone : ∀ (s : IoReactor) reg, s.InHandshake →
      ((s.registerOneAndEmit env .publicUrl refId reg).dropDeadSocket .publicUrl).InHandshake := by
    intro s reg h
    apply inHandshake_of_conns _ (conns_dropDeadSocket _ _)
    rw [registerOneAndEmit_eq]
    split_ifs
    · exact hsub _ _ (hstart _ (inHandshake_of_conns h rfl))
    · exact hstart _ (inHandshake_of_conns h rfl)
  unfold registerBatch
  induction regs generalizing s with
  | nil => exact h
  | cons reg regs ih => exact ih (hone s reg h)

/-- A success finds the handshake already going on: with nothing registered it sends nothing. -/
theorem inHandshake_upgradeOk (h : s.InHandshake) (hempty : s.registry.entriesForResubscribeSorted .authUrl = [])
    (connectionId : SocketId) : (s.upgradeOk env url connectionId).InHandshake := by
  have hevent : (s.updateConn url (·.handleEvent env.toEnv (.wireUpgradeOk (some connectionId)))).InHandshake :=
    h.update fun _ => state_handleEvent h trivial
  unfold upgradeOk
  dsimp only
  generalize ht : s.updateConn url (·.handleEvent env.toEnv (.wireUpgradeOk (some connectionId))) = t at hevent ⊢
  have hreg : t.registry = s.registry := by rw [← ht]; rfl
  cases url with
  | publicUrl =>
    have hreplay : (t.replay env .publicUrl).InHandshake := by
      unfold replay
      refine inHandshake_of_conns ?_ (conns_project _ _)
      exact hevent.updatePublic _
    split_ifs
    · exact hreplay.updatePublic _
    · exact hreplay
    · exact hevent.updatePublic _
    · exact hevent
  | authUrl =>
    have hauth : (t.conns .authUrl).state = .authenticating := hevent
    have hno : ¬ ((t.conns .authUrl).state = .resubscribing ∧ (t.conns .authUrl).hasBeenOpen = true) := by simp [hauth]
    rw [if_neg hno, if_pos hauth]
    refine hevent.update fun _ => ?_
    rw [state_sendFirstSignedSubscribe]
    · exact hauth
    · simp only [reactorEnv, hreg, hempty, List.map_nil]

theorem inHandshake_takeOutcome (h : s.InHandshake) (hempty : s.registry.entriesForResubscribeSorted .authUrl = []) :
    (s.takeOutcome env).InHandshake := by
  unfold takeOutcome
  split
  · exact h
  · rename_i q rest hq
    have hrest : ({ s with upgradeRx := rest } : IoReactor).InHandshake := h
    cases q.outcome with
    | failed url kind transient =>
      apply inHandshake_of_conns _ (conns_dropDeadSocket _ _)
      refine hrest.update fun hu => ?_
      cases kind <;> exact state_handleEvent h trivial
    | ok url connectionId =>
      simp only [upgradeArm]
      split_ifs
      · exact inHandshake_upgradeOk hrest hempty connectionId
      · exact hrest

/-! ### Text frames -/

theorem requestResponse_unconsumed {json : Json} (h : (s.requestResponse env url json).1 = false) :
    (s.requestResponse env url json).2 = s := by
  cases url with
  | publicUrl => rfl
  | authUrl =>
    unfold requestResponse handleRequestResponse at h ⊢
    cases hd : decodeResponse json with
    | some resp => cases resp <;> simp [hd] at h
    | none => simp [updateConn]

/-- What a text frame runs into, in turn. -/
theorem textFrame_eq (s : IoReactor) (env : ArmEnv) (url : WsUrl) (json : Json) :
    s.textFrame env url json =
      let t := s.updateConn url (·.noteInboundActivity env.toEnv)
      if (t.requestResponse env url json).1 then (t.requestResponse env url json).2
      else if (t.handleSubAck env url json).1 then (t.handleSubAck env url json).2
      else (env.router.routeTextFrame s.registry json).2.2.foldl (recoverBookGap env url) (s.routed env url json) := by
  have hreq := @requestResponse_unconsumed (s.updateConn url (·.noteInboundActivity env.toEnv)) env url json
  have hack := @handleSubAck_unconsumed (s.updateConn url (·.noteInboundActivity env.toEnv)) env url json
  unfold textFrame routed
  dsimp only
  generalize ht : s.updateConn url (·.noteInboundActivity env.toEnv) = t at hreq hack ⊢
  have hreg : t.registry = s.registry := by rw [← ht]; rfl
  generalize t.requestResponse env url json = req at hreq ⊢
  obtain ⟨consumed, u⟩ := req
  cases consumed with
  | true => rfl
  | false =>
    obtain rfl : u = t := hreq rfl
    dsimp only
    generalize u.handleSubAck env url json = ack at hack ⊢
    obtain ⟨consumed, v⟩ := ack
    cases consumed with
    | true => rfl
    | false =>
      obtain rfl : v = u := hack rfl
      simp [hreg]

theorem inHandshake_handleSubAckPublic (h : s.InHandshake) (json : Json) :
    (s.handleSubAck env .publicUrl json).2.InHandshake := by
  have hreg : ∀ (s : IoReactor) registry, s.InHandshake → ({ s with registry } : IoReactor).InHandshake := fun _ _ h => h
  have hupd : ∀ (s : IoReactor) f, s.InHandshake → (s.updateConn .publicUrl f).InHandshake := fun _ f h => h.updatePublic f
  have hshake : ∀ key success error, (s.handshakeAck env .publicUrl key success error).InHandshake := by
    intro key success error
    unfold handshakeAck
    dsimp only
    split_ifs
    · exact hupd _ _ (hupd _ _ (hreg _ _ (hupd _ _ h)))
    · exact hupd _ _ (hreg _ _ (hupd _ _ h))
    · exact hupd _ _ h
  have hlate : ∀ key success, (s.lateAck env .publicUrl key success).InHandshake := by
    intro key success
    unfold lateAck
    split_ifs
    · exact hupd _ _ h
    · exact h
  have harmed : ∀ key success error, (s.armedAck env .publicUrl key success error).InHandshake := by
    intro key success error
    unfold armedAck
    dsimp only
    split_ifs
    · exact hupd _ _ (hreg _ _ h)
    · exact hupd _ _ h
    · exact hupd _ _ (hupd _ _ (hreg _ _ h))
  unfold handleSubAck
  split
  · exact h
  · dsimp only
    split
    · exact h
    · split_ifs
      · exact hshake _ _ _
      · exact hlate _ _
      · exact harmed _ _ _
  · exact h

/-- In `Authenticating` a subscribe ack either ends in a store or finds no key. -/
theorem inHandshake_handleSubAck (h : s.InHandshake) {json : Json}
    (hno : ¬ ((json.get? "method").bind Json.asStr? = some "subscribe" ∧ (ackKey (s.conns .authUrl) json).isSome = true)) :
    (s.handleSubAck env .authUrl json).2.InHandshake := by
  unfold handleSubAck
  split
  · exact h
  · rename_i hmethod
    dsimp only
    split
    · exact h
    · rename_i key hkey
      exact absurd ⟨hmethod, by rw [hkey]; rfl⟩ hno
  · exact h

theorem paramsFor_rebuild {r : SubscriptionRegistry} {key : EntryKey} {f : SubscriptionEntry → SubscriptionEntry}
    (hf : ∀ e, (f e).params = e.params) (key' : EntryKey) : (r.entryMut key f).paramsFor key' = r.paramsFor key' := by
  unfold paramsFor
  rw [entry_entryMut]
  split_ifs with hk
  · rw [hk, Option.map_map]
    exact congrArg (fun g => (r.entry key).map g) (funext hf)
  · rfl

theorem paramsFor_beginBookResync (r : SubscriptionRegistry) (symbol : Symbol) (key : EntryKey) :
    (r.beginBookResync .book symbol).paramsFor key = r.paramsFor key := by
  unfold beginBookResync
  apply paramsFor_rebuild
  exact fun e => rfl

theorem paramsFor_noteReseedTimeout (r : SubscriptionRegistry) (symbol : Symbol) (key : EntryKey) :
    (r.noteReseedTimeout .book symbol).1.paramsFor key = r.paramsFor key := by
  unfold noteReseedTimeout
  split
  · rfl
  · split_ifs
    · rfl
    · split
      · rfl
      · split_ifs
        · rfl
        · apply paramsFor_rebuild
          exact fun e => rfl
        · apply paramsFor_rebuild
          exact fun e => rfl

theorem inHandshake_sendBookReseed (h : s.InHandshake) {f : SubscribeFrame}
    (hf : (s.sockets .authUrl).isSome = true → ¬ (s.conns .authUrl).SendEnds env.toEnv f) :
    (s.updateConn .authUrl (·.sendBookReseed env.toEnv (s.sockets .authUrl) f)).InHandshake :=
  h.update fun _ => state_sendSingleSubscribe h hf

theorem inHandshake_recoverBookGap (h : s.InHandshake) {symbol : Symbol} (hno : ¬ s.ReseedEnds env symbol) :
    (recoverBookGap env .authUrl s symbol).InHandshake := by
  have hframe : ({ s with registry := s.registry.beginBookResync .book symbol } : IoReactor).frameFor env
      (.book, some symbol) = s.frameFor env (.book, some symbol) := by
    unfold frameFor
    rw [paramsFor_beginBookResync]
  unfold recoverBookGap
  dsimp only
  rw [hframe]
  cases hf : s.frameFor env (.book, some symbol) with
  | none => exact h
  | some f =>
    have hsend : (s.sockets .authUrl).isSome = true → ¬ (s.conns .authUrl).SendEnds env.toEnv f :=
      fun hsock hends => hno ⟨hsock, f, hf, hends⟩
    exact inHandshake_of_conns (inHandshake_sendBookReseed h hsend) rfl

theorem inHandshake_recoverBookGaps (gaps : List Symbol) (h : s.InHandshake) (hno : ¬ s.GapsEnd env gaps) :
    (gaps.foldl (recoverBookGap env .authUrl) s).InHandshake := by
  induction gaps generalizing s with
  | nil => exact h
  | cons symbol gaps ih =>
    obtain ⟨hfirst, hrest⟩ := not_or.1 hno
    exact ih (inHandshake_recoverBookGap h hfirst) hrest

theorem inHandshake_textFramePublic (h : s.InHandshake) (json : Json) : (s.textFrame env .publicUrl json).InHandshake := by
  have hgap : ∀ (gaps : List Symbol) (s : IoReactor), s.InHandshake →
      (gaps.foldl (recoverBookGap env .publicUrl) s).InHandshake := by
    intro gaps
    induction gaps with
    | nil => exact fun s h => h
    | cons symbol gaps ih =>
      intro s h
      apply ih
      have hresync : ({ s with registry := s.registry.beginBookResync .book symbol } : IoReactor).InHandshake := h
      unfold recoverBookGap
      dsimp only
      split
      · exact hresync
      · exact hresync.updatePublic _
  have hnote := h.updatePublic (·.noteInboundActivity env.toEnv)
  rw [textFrame_eq]
  dsimp only
  split_ifs with hreq hack
  · cases hreq
  · exact inHandshake_handleSubAckPublic hnote json
  · exact hgap _ _ hnote

theorem inHandshake_textFrame (h : s.InHandshake) {json : Json} (hstores : s.frameStores .authUrl json = false)
    (hgaps : s.IsData env .authUrl json = true →
      ¬ (s.routed env .authUrl json).GapsEnd env (env.router.routeTextFrame s.registry json).2.2) :
    (s.textFrame env .authUrl json).InHandshake := by
  have hauth : (s.conns .authUrl).state = .authenticating := h
  have hnote : (s.updateConn .authUrl (·.noteInboundActivity env.toEnv)).InHandshake := h.update fun _ => h
  simp only [frameStores, hauth, decide_true, Bool.true_and, if_true] at hstores
  rw [textFrame_eq]
  dsimp only
  split_ifs with hreq hack
  · unfold requestResponse handleRequestResponse
    dsimp only
    cases hd : decodeResponse json with
    | none => exact hnote.update fun _ => hnote
    | some resp =>
      cases resp with
      | none => exact hnote.update fun _ => hnote
      | some resp => simp [hd] at hstores
  · have hd : decodeResponse json = none := by
      unfold requestResponse handleRequestResponse at hreq
      cases hd : decodeResponse json with
      | none => rfl
      | some resp => cases resp <;> simp [hd] at hreq
    apply inHandshake_handleSubAck hnote
    rintro ⟨hmethod, hkey⟩
    rw [conns_updateConn] at hkey
    simp only [hd, hmethod, decide_true, Bool.true_and] at hstores
    exact absurd (show (ackKey (s.conns .authUrl) json).isSome = true from hkey) (by simp [hstores])
  · have hrouted : (s.routed env .authUrl json).InHandshake := hnote
    apply inHandshake_recoverBookGaps _ hrouted
    apply hgaps
    unfold IsData
    dsimp only
    rw [requestResponse_unconsumed (by simpa using hreq)]
    simp [hreq, hack]

/-! ### Timers -/

theorem inHandshake_handleBookReseedTimeout (h : s.InHandshake) {pair : Option Symbol}
    (hno : ∀ symbol, pair = some symbol → (s.registry.noteReseedTimeout .book symbol).2 = .retry →
      ¬ s.ReseedEnds env symbol) : (s.handleBookReseedTimeout env .authUrl pair).InHandshake := by
  unfold handleBookReseedTimeout
  cases pair with
  | none => exact h
  | some symbol =>
    have hreg : ({ s with registry := (s.registry.noteReseedTimeout .book symbol).1 } : IoReactor).InHandshake := h
    have hframe : ({ s with registry := (s.registry.noteReseedTimeout .book symbol).1 } : IoReactor).frameFor env
        (.book, some symbol) = s.frameFor env (.book, some symbol) := by
      unfold frameFor
      rw [paramsFor_noteReseedTimeout]
    dsimp only
    split
    · rename_i f hretry hf
      rw [hframe] at hf
      exact inHandshake_sendBookReseed hreg fun hsock hends => hno symbol rfl hretry ⟨hsock, f, hf, hends⟩
    · exact hreg

theorem inHandshake_timerPublic (h : s.InHandshake) (event : FsmEvent) : (s.timer env .publicUrl event).InHandshake := by
  have hupd : ∀ (s : IoReactor) f, s.InHandshake → (s.updateConn .publicUrl f).InHandshake := fun _ f h => h.updatePublic f
  have hproj : ∀ s : IoReactor, s.InHandshake → (s.project .publicUrl).InHandshake :=
    fun s h => inHandshake_of_conns h (conns_project _ _)
  have hreseed : ∀ (s : IoReactor) pair, s.InHandshake → (s.handleBookReseedTimeout env .publicUrl pair).InHandshake := by
    intro s pair h
    unfold handleBookReseedTimeout
    cases pair with
    | none => exact h
    | some symbol =>
      have hreg : ({ s with registry := (s.registry.noteReseedTimeout .book symbol).1 } : IoReactor).InHandshake := h
      dsimp only
      split
      · exact hreg.updatePublic _
      · exact hreg
  unfold timer
  split_ifs
  · have hpop := hupd s (·.popTimerForEvent event) h
    dsimp only
    split
    · exact hproj _ (hupd _ _ hpop)
    · exact hproj _ (hreseed _ _ hpop)
    · exact hupd _ _ hpop
    · exact hproj _ (hupd _ _ hpop)
  · exact h

theorem state_rearmProactiveRefresh (mc : ManagedConnection) : (rearmProactiveRefresh env mc).state = mc.state := by
  unfold rearmProactiveRefresh
  split_ifs <;> rfl

theorem inHandshake_timer (h : s.InHandshake) {event : FsmEvent}
    (hno : timerArmed (s.conns .authUrl) event = true → ¬ s.TimerEnds env event) :
    (s.timer env .authUrl event).InHandshake := by
  have hproj : ∀ s : IoReactor, s.InHandshake → (s.project .authUrl).InHandshake :=
    fun s h => inHandshake_of_conns h (conns_project _ _)
  unfold timer
  split_ifs with harmed
  · have hends := hno harmed
    have hpop : (s.updateConn .authUrl (·.popTimerForEvent event)).InHandshake :=
      h.update fun _ => (popTimerForEvent_state _ _).trans h
    have hauth : ((s.conns .authUrl).popTimerForEvent event).state = .authenticating := (popTimerForEvent_state _ _).trans h
    have hevent : ((s.conns .authUrl).popTimerForEvent event |>.handleEvent env.toEnv event).state = .authenticating →
        (((s.updateConn .authUrl (·.popTimerForEvent event)).updateConn .authUrl
          (·.handleEvent env.toEnv event)).project .authUrl).InHandshake := by
      intro he
      refine hproj _ (hpop.update fun _ => ?_)
      rw [conns_updateConn]
      exact he
    cases event with
    | timerSubscribeResendDue channel pair =>
      refine hproj _ (hpop.update fun _ => ?_)
      rw [conns_updateConn]
      exact state_handleSubscribeResend hauth fun f hf hsock htoken hends' => hends ⟨hsock, htoken rfl, f, hf, hends'⟩
    | timerBookReseedSnapshot channel pair =>
      refine hproj _ (inHandshake_handleBookReseedTimeout hpop ?_)
      rintro symbol rfl hretry ⟨hsock, f, hf, hends'⟩
      rw [conns_updateConn] at hends'
      exact hends ⟨hretry, hsock, f, hf, hends'⟩
    | timerTokenRefreshDue =>
      refine hpop.update fun _ => ?_
      rw [conns_updateConn, state_rearmProactiveRefresh]
      exact hauth
    | timerStalenessElapsed => exact absurd trivial hends
    | timerSubscribeAckTimeout channel pair => exact hevent (state_handleEvent hauth hends)
    | timerBackoffElapsed | timerUpgradeTimeout | timerCloseTimeout | timerRateBudgetWindowAdvanced =>
      exact hevent (state_handleEvent hauth trivial)
    | _ => cases harmed
  · exact h

/-! ### Any arm -/

theorem inHandshake_whenMapped (h : s.InHandshake) {next : IoReactor}
    (hnext : (s.sockets url).isSome = true → next.InHandshake) : (s.whenMapped url next).InHandshake := by
  unfold whenMapped
  split_ifs with hsock
  · exact hnext hsock
  · exact h

theorem inHandshake_driveWireClosePublic (h : s.InHandshake) (event : FsmEvent) :
    (s.driveWireClose env .publicUrl event).InHandshake := by
  have hclosed : ({ s with sockets := Function.update s.sockets .publicUrl none } : IoReactor).InHandshake := h
  have hevent := hclosed.updatePublic (·.handleEvent env.toEnv event)
  unfold driveWireClose
  dsimp only
  split_ifs
  · exact inHandshake_of_conns hevent (conns_project _ _)
  · exact hevent

theorem inHandshake_step (h : s.InHandshake) (hempty : s.registry.entriesForResubscribeSorted .authUrl = [])
    {l : ArmLabel} (hstores : s.storesFor l = none) (hno : ¬ s.UnseenExit l) : (s.step l).InHandshake := by
  obtain ⟨env, arm⟩ := l
  cases arm with
  | reportOk url connectionId =>
    have hq := h.trySend ⟨connectionId, .ok url connectionId, fun _ _ h => (UpgradeOutcome.ok.inj h).2⟩
    simp only [step, reportOk]
    split <;> rename_i t ht <;> rw [ht] at hq <;> exact hq
  | reportFallback =>
    simp only [step, reportFallback]
    split
    · exact h
    · rename_i rest _
      have hrest : ({ s with fallbacks := rest } : IoReactor).InHandshake := h
      exact hrest.trySend _
  | reportFailed url connectionId kind transient => exact h.trySend _
  | callerEvent url event =>
    apply inHandshake_of_conns _ (conns_project _ _)
    refine h.update fun hu => ?_
    subst hu
    cases event with
    | startConnect requestId => exact state_handleEvent h trivial
    | close requestId => exact absurd trivial hno
    | forceReconnect requestId => exact absurd trivial hno
  | registerBatch url regs refId =>
    cases url with
    | publicUrl => exact inHandshake_registerPublic h refId regs
    | authUrl =>
      cases regs with
      | nil => exact h
      | cons reg regs => cases hstores
  | deregister channel pair => exact inHandshake_deregisterOne h channel pair
  | deregisterAll channel => exact inHandshake_deregisterAll h channel
  | guardDrop handlerId channel symbols => exact inHandshake_guardDrop h handlerId channel symbols
  | wsRequestFrame f =>
    have hframe := state_handleWsRequestFrame (s.conns .authUrl) (s.reactorEnv env .authUrl) f
    exact InHandshake.update (f := (·.handleWsRequestFrame (s.reactorEnv env .authUrl) f)) h fun _ => hframe.trans h
  | abandonWsRequest reqId => exact InHandshake.update (s := s) (f := (·.abandonWsRequest reqId)) h fun _ => h
  | takeOutcome => exact inHandshake_takeOutcome h hempty
  | refreshed requestId result => cases hstores
  | textFrame url json =>
    refine inHandshake_whenMapped h fun hsock => ?_
    cases url with
    | publicUrl => exact inHandshake_textFramePublic h json
    | authUrl =>
      have hframe : s.frameStores .authUrl json = false := by
        by_contra hstore
        simp [storesFor, hsock, hstore] at hstores
      exact inHandshake_textFrame h hframe fun hdata hgaps => hno ⟨hsock, hdata, hgaps⟩
  | otherFrame url => exact inHandshake_whenMapped h fun _ => h.update fun _ => h
  | closeFrame url code reason =>
    refine inHandshake_whenMapped h fun hsock => ?_
    cases url with
    | publicUrl => exact inHandshake_driveWireClosePublic h _
    | authUrl => exact absurd hsock hno
  | recvError url error =>
    refine inHandshake_whenMapped h fun hsock => ?_
    cases url with
    | publicUrl => exact inHandshake_driveWireClosePublic h _
    | authUrl => exact absurd hsock hno
  | timer url event =>
    cases url with
    | publicUrl => exact inHandshake_timerPublic h event
    | authUrl => exact inHandshake_timer h fun harmed hends => hno ⟨harmed, hends⟩

/-! ## No live entry comes without a new epoch -/

theorem entriesForResubscribeSorted_nil {r : SubscriptionRegistry} {url : WsUrl} (h : ∀ key, ¬ r.Live url key) :
    r.entriesForResubscribeSorted url = [] := by
  rw [List.eq_nil_iff_forall_not_mem]
  intro e he
  obtain ⟨hmem, hlive⟩ := List.mem_filter.1 (mem_sortByOrderKey.1 he)
  obtain ⟨key, hkey⟩ := (mem_allEntries r e).1 hmem
  obtain ⟨hu, htomb⟩ := of_decide_eq_true hlive
  exact h key ⟨e, hkey, hu, by simpa using htomb⟩

theorem livenessEpoch_registryAfter (r : SubscriptionRegistry) (refId : Option HandlerId) (reg : Registration) :
    (registryAfter r env url refId reg).livenessEpoch = inc64 r.livenessEpoch := by
  have hreg := livenessEpoch_register r (.new url reg.channel reg.pair reg.params) env.now refId.isSome
  unfold registryAfter
  cases refId with
  | none => exact hreg
  | some id =>
    dsimp only [recordGuardRef]
    split <;> exact hreg

/-- A batch moves the epoch: it is shorter than one turn of the counter. -/
theorem livenessEpoch_registerBatch (r : SubscriptionRegistry) (refId : Option HandlerId) {regs : List Registration}
    (hne : regs ≠ []) : (regs.foldl (fun r reg => registryAfter r env url refId reg) r).livenessEpoch =
      (r.livenessEpoch + regs.length) % 2 ^ 64 := by
  induction regs generalizing r with
  | nil => exact absurd rfl hne
  | cons reg regs ih =>
    rw [List.foldl_cons]
    by_cases hnil : regs = []
    · rw [hnil, List.foldl_nil, livenessEpoch_registryAfter]
      rfl
    · rw [ih _ hnil, livenessEpoch_registryAfter, inc64, Nat.mod_add_mod, List.length_cons]
      congr 1
      omega

theorem epoch_ne {n epoch : Nat} (hpos : 0 < n) (hlt : n < 2 ^ 64) : (epoch + n) % 2 ^ 64 ≠ epoch := by
  omega

/-- Without a live entry of the auth connection before, there is none after, or the epoch has moved. -/
theorem noLive_step (hno : ∀ key, ¬ s.registry.Live .authUrl key) {l : LoopLabel}
    (hepoch : (s.step l.arm).registry.livenessEpoch = s.registry.livenessEpoch) (key : EntryKey) :
    ¬ (s.step l.arm).registry.Live .authUrl key := by
  obtain ⟨⟨env, arm⟩, token, hfits⟩ := l
  by_cases hbatch : ∃ url regs refId, arm = .registerBatch url regs refId
  · obtain ⟨url, regs, refId, rfl⟩ := hbatch
    have hlt := hfits url regs refId rfl
    simp only [step] at hepoch ⊢
    rw [registry_registerBatch] at hepoch ⊢
    by_cases hnil : regs = []
    · rw [hnil]
      exact hno key
    · rw [livenessEpoch_registerBatch _ _ hnil] at hepoch
      exact absurd hepoch (epoch_ne (List.length_pos_iff.2 hnil) hlt)
  · intro hl
    refine hno key (hl.of_shrinks (shrinks_step s ?_))
    rintro url regs refId rfl
    exact hbatch ⟨url, regs, refId, rfl⟩

end IoReactor

/-! ## Runs -/

namespace ReactorLoop

variable {s : ReactorLoop}

theorem fresh_of_sendReady {url : WsUrl} {token : Option CachedToken} (h : s.authSendReady = s.reactor.sendReady url token) :
    s.Fresh := by
  intro hset
  rw [h] at hset
  simp only [IoReactor.sendReady, Bool.and_eq_true, decide_eq_true_eq, Bool.not_eq_true'] at hset
  obtain ⟨⟨⟨rfl, hauth⟩, hno⟩, -⟩ := hset
  refine ⟨hauth, fun key hlive => ?_⟩
  rw [(SubscriptionRegistry.hasUrlEntry_iff _ _).2 ⟨key, hlive⟩] at hno
  cases hno

/-- The flag is fresh and the epoch synced. -/
structure Synced (s : ReactorLoop) : Prop where
  fresh : s.Fresh
  epoch : s.lastLivenessEpoch = s.reactor.registry.livenessEpoch

theorem synced_init (knobs : Knobs) : (init knobs).Synced := ⟨(fun h => by cases h), rfl⟩

theorem synced_epochSync {token : Option CachedToken}
    (h : s.reactor.registry.livenessEpoch = s.lastLivenessEpoch → s.Fresh) : (s.epochSync token).Synced := by
  unfold epochSync
  split_ifs with hepoch
  · exact ⟨fresh_of_sendReady rfl, rfl⟩
  · have hsame := not_not.1 hepoch
    exact ⟨h hsame, hsame.symm⟩

/-- A set flag meets no exit that stores nothing. -/
def ExitsSeen (s : ReactorLoop) (l : LoopLabel) : Prop := s.authSendReady = true → ¬ s.reactor.UnseenExit l.arm

theorem synced_step (l : LoopLabel) (h : s.Synced) (hok : s.ExitsSeen l) : (s.step l).Synced := by
  unfold step
  dsimp only
  refine synced_epochSync fun hepoch => ?_
  cases hstores : s.reactor.storesFor l.arm with
  | some url => exact fresh_of_sendReady rfl
  | none =>
    intro hset
    have hflag : s.authSendReady = true := hset
    obtain ⟨hauth, hno⟩ := h.fresh hflag
    have hlive := IoReactor.noLive_step hno (hepoch.trans h.epoch)
    exact ⟨IoReactor.inHandshake_step hauth (IoReactor.entriesForResubscribeSorted_nil hno) hstores (hok hflag), hlive⟩

/-- **The send-ready flag is stale only after an exit no store follows.** -/
theorem sendReady_fresh (knobs : Knobs) (ls : List LoopLabel) (hok : StepSystem.Allowed step ExitsSeen (init knobs) ls) :
    (run knobs ls).Fresh :=
  ((StepSystem.Reach.exec hok).invariant (synced_init knobs) fun _ l h hl => synced_step l h hl).fresh

/-! ## A handshake with nothing registered, and the close of its socket -/

/-- A token is cached at every step. -/
def tokenEnv : ArmEnv := { IoReactor.bringUpEnv 1 with cachedToken := some { value := "token", expired := false, refreshDueAt := 0 } }

def iteration (arm : Arm) (h : ∀ url entries refId, arm ≠ .registerBatch url entries refId) : LoopLabel where
  arm := ⟨tokenEnv, arm⟩
  tokenAtTop := tokenEnv.cachedToken
  batchFits := fun url entries refId he => absurd he (h url entries refId)

/-- The upgrade of the auth connection succeeds: the flag is set. -/
def bareBringUp : List LoopLabel :=
  [iteration (.callerEvent .authUrl (.startConnect 1)) (by simp), iteration (.reportOk .authUrl 1) (by simp),
    iteration .takeOutcome (by simp)]

/-- A request leaves the flag set, and fresh. -/
theorem sendReady_fresh_bareBringUp :
    (run tokenEnv.knobs (bareBringUp ++ [iteration (.abandonWsRequest 7) (by simp)])).authSendReady = true ∧
      (run tokenEnv.knobs (bareBringUp ++ [iteration (.abandonWsRequest 7) (by simp)])).Fresh := by
  refine ⟨by decide +kernel, sendReady_fresh _ _ ⟨?_, ?_, ?_, ?_, trivial⟩⟩
  · exact fun _ hexit => hexit
  · exact fun _ hexit => hexit
  · exact fun _ hexit => hexit
  · exact fun _ hexit => hexit

/-- The server closes the socket: the connection backs off, and the flag stays. -/
theorem closeFrame_stale : ¬ ∀ (knobs : Knobs) (ls : List LoopLabel), (run knobs ls).Fresh := by
  intro h
  have hset : (run tokenEnv.knobs (bareBringUp ++ [iteration (.closeFrame .authUrl 1001 "") (by simp)])).authSendReady = true := by
    decide +kernel
  have hauth := (h _ _ hset).1
  have hbacking : ((run tokenEnv.knobs (bareBringUp ++ [iteration (.closeFrame .authUrl 1001 "") (by simp)])).reactor.conns
      .authUrl).state = .backingOff := by decide +kernel
  rw [hbacking] at hauth
  cases hauth

end ReactorLoop

end KrakenSdk.Dispatch
