import KrakenSdk.Conn.Sockets
import KrakenSdk.Dispatch.IoReactor
/-!
# Whose attempt an upgrade outcome ends (dispatch/io_reactor/mod.rs:64-373)

A success names its socket and is dropped unless the socket map still holds it; a failure names none and is
delivered to whatever attempt is under way. `ownOutcomes_iff`: every outcome a run takes leaves the
connection alone unless its producer is the current socket, exactly when the run takes no failure while
`Connecting` on another socket. It is about the runs that meet `WriterLive`: a registration or a reseed that
finds the writer dead while the connection closes for a `force_reconnect()` opens the next socket behind the
map's back, and then the map answers for the old one (`deadWriter_readmitsSuccess`).
-/
namespace KrakenSdk.Dispatch.IoReactor

open KrakenSdk.Conn KrakenSdk.Conn.ManagedConnection

variable {s s' : IoReactor} {env : ArmEnv} {url : WsUrl}

/-! ## The socket map -/

/-- The map holds a connection's own socket, or one it has already dropped. -/
structure Synced (s : IoReactor) : Prop where
  socketOk : ∀ url, (s.conns url).SocketOk
  mapped : ∀ url c, s.sockets url = some c → (s.conns url).socket = some c ∨ (s.conns url).socket = none

/-- From `s` to `s'` one connection is operated on, and the map stays. -/
structure Touches (opens : Prop) (url : WsUrl) (s s' : IoReactor) : Prop where
  conn : KeepsSocket opens (s.conns url) (s'.conns url)
  others : ∀ u, u ≠ url → s'.conns u = s.conns u
  sockets : s'.sockets = s.sockets

theorem touches_updateConn {opens : Prop} {f : ManagedConnection → ManagedConnection}
    (h : KeepsSocket opens (s.conns url) (f (s.conns url))) : Touches opens url s (s.updateConn url f) where
  conn := by simpa using h
  others := fun _ hu => conns_updateConn_of_ne s url f hu
  sockets := rfl

theorem Touches.same {opens : Prop} (hc : s'.conns = s.conns) (hs : s'.sockets = s.sockets) :
    Touches opens url s s' where
  conn := by rw [hc]; exact .refl _
  others := fun u _ => by rw [hc]
  sockets := hs

theorem touches_setRegistry {opens : Prop} (registry : SubscriptionRegistry) : Touches opens url s { s with registry } :=
  .same rfl rfl

theorem Touches.trans {opens : Prop} {s'' : IoReactor} (h : Touches opens url s s') (h' : Touches opens url s' s'') :
    Touches opens url s s'' where
  conn := h.conn.trans h'.conn
  others := fun u hu => (h'.others u hu).trans (h.others u hu)
  sockets := h'.sockets.trans h.sockets

theorem Synced.touched (h : s.Synced) (ht : Touches False url s s') : s'.Synced := by
  constructor
  · intro u
    by_cases hu : u = url
    · subst hu
      exact ht.conn.socketOk (h.socketOk u)
    · rw [ht.others u hu]
      exact h.socketOk u
  · intro u c hc
    rw [ht.sockets] at hc
    by_cases hu : u = url
    · subst hu
      rcases ht.conn.socket with hk | ⟨hk, -⟩ | ⟨hf, -⟩
      · rw [hk]
        exact h.mapped u c hc
      · exact .inr hk
      · exact hf.elim
    · rw [ht.others u hu]
      exact h.mapped u c hc

/-- After a projection it does not matter what was opened. -/
theorem Synced.projected {opens : Prop} (h : s.Synced) (ht : Touches opens url s s') : (s'.project url).Synced := by
  constructor
  · intro u
    by_cases hu : u = url
    · subst hu
      exact ht.conn.socketOk (h.socketOk u)
    · rw [conns_project, ht.others u hu]
      exact h.socketOk u
  · intro u c hc
    by_cases hu : u = url
    · subst hu
      exact .inl (by simpa using hc)
    · rw [sockets_project_of_ne _ _ hu, ht.sockets] at hc
      rw [conns_project, ht.others u hu]
      exact h.mapped u c hc

/-- Nor does it where the map holds nothing. -/
theorem Synced.unmapped {opens : Prop} (h : s.Synced) (ht : Touches opens url s s') (hn : s.sockets url = none) :
    s'.Synced := by
  constructor
  · exact (h.projected ht).socketOk
  · intro u c hc
    rw [ht.sockets] at hc
    by_cases hu : u = url
    · subst hu
      rw [hn] at hc
      cases hc
    · rw [ht.others u hu]
      exact h.mapped u c hc

theorem synced_dropDeadSocket (h : s.Synced) : (s.dropDeadSocket url).Synced := by
  unfold dropDeadSocket
  split_ifs with hn
  · refine ⟨h.socketOk, fun u c hc => ?_⟩
    by_cases hu : u = url
    · subst hu
      simp at hc
    · simp only [Function.update_of_ne hu] at hc
      exact h.mapped u c hc
  · exact h

theorem synced_of_eq (h : s.Synced) (hc : s'.conns = s.conns) (hs : s'.sockets = s.sockets) : s'.Synced :=
  h.touched (.same hc hs : Touches False .publicUrl s s')

theorem synced_setRegistry (h : s.Synced) (registry : SubscriptionRegistry) : ({ s with registry } : IoReactor).Synced :=
  synced_of_eq h rfl rfl

theorem synced_updateConn {f : ManagedConnection → ManagedConnection} (h : s.Synced)
    (hk : KeepsSocket False (s.conns url) (f (s.conns url))) : (s.updateConn url f).Synced :=
  h.touched (touches_updateConn hk)

/-! ## What each arm does to the map -/

/-- No send of the arm finds the writer dead where that would reopen the connection. -/
def WriterAlive (env : ArmEnv) (url : WsUrl) (s : IoReactor) : Prop :=
  (s.conns url).Reopens env.toEnv → ∀ key, env.sendFrame key ≠ .error .writerClosed

theorem WriterAlive.touched (h : s.WriterAlive env url) (ht : Touches False url s s') : s'.WriterAlive env url :=
  fun hr => h (ht.conn.reopens hr)

theorem touches_event (event : FsmEvent) :
    Touches True url s (s.updateConn url (·.handleEvent env.toEnv event)) :=
  touches_updateConn (keepsSocket_handleEvent (fun _ => trivial) fun _ _ => trivial)

theorem synced_callerEvent (h : s.Synced) (event : CallerEvent) : (s.callerEvent env url event).Synced :=
  h.projected (touches_event _)

/-! ### Registrations -/

theorem startIfIdle_keeps (h : s.Synced) (hw : s.WriterAlive env url) :
    (s.startIfIdle env url).Synced ∧ (s.startIfIdle env url).WriterAlive env url := by
  unfold startIfIdle
  split_ifs with hs
  · refine ⟨h.projected (touches_event _), fun hr => ?_⟩
    -- An idle connection does not come to `Closing` by being started.
    have hc : ((s.conns url).handleEvent env.toEnv (.callStartConnect env.connectRequestId)).state ≠ .closing := by
      simp only [handleEvent, hs, handleIdle]
      split <;> simp [emitRateThrottled, emitLifecycle, enterConnecting, armUpgradeTimeout]
    exact absurd (by simpa using hr.1) hc
  · exact ⟨h, hw⟩

theorem touches_subscribeFirst {f : SubscribeFrame} (hw : s.WriterAlive env url) (hf : f.sent = env.sendFrame f.key) :
    Touches False url s (s.subscribeFirst env url f) := by
  have ho : (s.conns url).Reopens env.toEnv → f.sent = .error .writerClosed → False := by
    intro hr hsent
    exact hw hr f.key (hf ▸ hsent)
  unfold subscribeFirst
  split
  · dsimp only
    split_ifs
    · exact touches_updateConn (keepsSocket_sendSingleSignedSubscribe _ ho)
    · exact .same rfl rfl
  · exact touches_updateConn (keepsSocket_sendSingleSubscribe _ ho)

theorem registerOneAndEmit_keeps (h : s.Synced) (hw : s.WriterAlive env url) (refId : Option HandlerId)
    (reg : Registration) :
    (s.registerOneAndEmit env url refId reg).Synced ∧ (s.registerOneAndEmit env url refId reg).WriterAlive env url := by
  have hkeep := fun registry =>
    startIfIdle_keeps (synced_setRegistry h registry) (show WriterAlive env url { s with registry := registry } from hw)
  have hsend := fun registry => touches_subscribeFirst (hkeep registry).2
    (f := frame env (.new url reg.channel reg.pair reg.params)) rfl
  unfold registerOneAndEmit
  dsimp only
  split_ifs
  · exact ⟨(hkeep _).1.touched (hsend _), (hkeep _).2.touched (hsend _)⟩
  · exact hkeep _

theorem synced_registerBatch (h : s.Synced) (hw : s.WriterAlive env url) (refId : Option HandlerId)
    (regs : List Registration) : (s.registerBatch env url refId regs).Synced := by
  unfold registerBatch
  induction regs generalizing s with
  | nil => exact h
  | cons reg regs ih =>
    obtain ⟨h', hw'⟩ := registerOneAndEmit_keeps h hw refId reg
    exact ih (synced_dropDeadSocket h') fun hr => hw' (by simpa using hr)

/-! ### Deregistrations -/

theorem synced_teardownReleasedKey (h : s.Synced) (key : EntryKey) : (s.teardownReleasedKey key).Synced :=
  synced_updateConn h (.same rfl rfl rfl)

theorem synced_complete (h : s.Synced) : (s.updateConn url (·.completeResubscribeIfEmpty env.toEnv)).Synced :=
  synced_updateConn h keepsSocket_completeResubscribeIfEmpty

theorem synced_deregisterOne (h : s.Synced) (channel : ChannelName) (pair : Option Symbol) :
    (s.deregisterOne env channel pair).Synced := by
  unfold deregisterOne
  dsimp only
  split_ifs
  · exact synced_setRegistry h _
  · exact synced_complete (synced_teardownReleasedKey (synced_setRegistry h _) _)

theorem synced_deregisterAll (h : s.Synced) (channel : Option ChannelName) : (s.deregisterAll env channel).Synced := by
  unfold deregisterAll
  dsimp only
  generalize (s.registry.deregisterAll (channel.map ChannelName.wireChannel)).2 = removed
  have hfold : ∀ (es : List (SubscriptionEntry × RemovedEntryKind)) {t : IoReactor}, t.Synced →
      (es.foldl (fun t e => t.teardownReleasedKey e.1.key) t).Synced := by
    intro es
    induction es with
    | nil => exact fun ht => ht
    | cons e es ih => exact fun ht => ih (synced_teardownReleasedKey ht _)
  have hs := hfold removed (synced_setRegistry h (s.registry.deregisterAll (channel.map ChannelName.wireChannel)).1)
  split_ifs
  · exact synced_complete (synced_complete hs)
  · exact synced_complete hs
  · exact synced_complete hs
  · exact hs

theorem synced_guardDrop (h : s.Synced) (handlerId : HandlerId) (channel : ChannelName) (symbols : List Symbol) :
    (s.guardDrop env handlerId channel symbols).Synced := by
  have hone : ∀ {acc : IoReactor × Bool} (key : EntryKey), acc.1.Synced → (dropGuardRef handlerId acc key).1.Synced := by
    intro acc key hacc
    unfold dropGuardRef
    dsimp only
    split_ifs
    · exact synced_teardownReleasedKey (synced_setRegistry hacc _) _
    · exact synced_setRegistry hacc _
  have hfold : ∀ (keys : List EntryKey) {acc : IoReactor × Bool}, acc.1.Synced →
      (keys.foldl (dropGuardRef handlerId) acc).1.Synced := by
    intro keys
    induction keys with
    | nil => exact fun hacc => hacc
    | cons key keys ih => exact fun hacc => ih (hone key hacc)
  unfold guardDrop
  dsimp only
  split_ifs
  · exact synced_complete (hfold _ h)
  · exact hfold _ h
  · exact synced_complete (hfold _ h)
  · exact hfold _ h

/-! ### Upgrade outcomes -/

theorem touches_upgradeEvent {opens : Prop} (kind : TransportErrorKind) (transient : Bool) :
    Touches opens url s (s.updateConn url (·.handleEvent env.toEnv (upgradeFailureEvent kind transient))) := by
  refine touches_updateConn (keepsSocket_passive ?_ fun error => ?_) <;> unfold upgradeFailureEvent <;> split
  · trivial
  · trivial
  · simp
  · simp

theorem synced_replay (h : s.Synced) (hs : (s.conns url).state = .resubscribing) : (s.replay env url).Synced := by
  have hr : ¬ (s.conns url).Reopens env.toEnv := fun hr => by simpa [hs] using hr.1
  unfold replay
  refine h.projected (show Touches False url s _ from
    touches_updateConn (.trans ?_ keepsSocket_completeResubscribeIfEmpty))
  split
  · exact .refl _
  · exact keepsSocket_replayFrames _ _ hr

theorem synced_upgradeOk (h : s.Synced) (connectionId : SocketId) : (s.upgradeOk env url connectionId).Synced := by
  have h1 : (s.updateConn url (·.handleEvent env.toEnv (.wireUpgradeOk (some connectionId)))).Synced :=
    synced_updateConn h (keepsSocket_passive trivial fun _ => by simp)
  have hfirst : ∀ {t : IoReactor}, t.Synced → (if (t.conns url).state = .authenticating then
      t.updateConn url (·.sendFirstSignedSubscribe (t.reactorEnv env url)) else t).Synced := by
    intro t ht
    split_ifs with hs
    · refine synced_updateConn ht (keepsSocket_sendFirstSignedSubscribe _ fun hr => ?_)
      have hc : (t.conns url).state = .closing := hr.1
      simp [hs] at hc
    · exact ht
  unfold upgradeOk
  dsimp only
  refine hfirst ?_
  split_ifs with hs
  · exact synced_replay h1 hs.1
  · exact h1

theorem synced_upgradeArm (h : s.Synced) (o : UpgradeOutcome) : (s.upgradeArm env o).Synced := by
  cases o with
  | ok url connectionId =>
    simp only [upgradeArm]
    split_ifs
    · exact synced_upgradeOk h connectionId
    · exact h
  | failed url kind transient => exact synced_dropDeadSocket (h.touched (touches_upgradeEvent kind transient))

theorem synced_takeOutcome (h : s.Synced) : (s.takeOutcome env).Synced := by
  unfold takeOutcome
  split
  · exact h
  · rename_i rest _
    exact synced_upgradeArm (s := { s with upgradeRx := rest }) (synced_of_eq h rfl rfl) _

/-! ### Refreshes -/

theorem keepsSocket_sendDeferred (ds : List (ChannelName × Option Symbol × SubscribeParams)) (mc : ManagedConnection) :
    KeepsSocket True mc (s.sendDeferred env ds mc) := by
  induction ds generalizing mc with
  | nil => exact .refl mc
  | cons d ds ih =>
    obtain ⟨channel, pair, params⟩ := d
    simp only [sendDeferred]
    have hsend : KeepsSocket True mc (mc.sendSingleSignedSubscribe (s.reactorEnv env .authUrl)
        { key := (channel, pair), params, sent := env.sendFrame (channel, pair) }) :=
      keepsSocket_sendSingleSignedSubscribe _ fun _ _ => trivial
    split_ifs
    · exact ih mc
    · exact hsend.trans (ih _)
    · exact hsend

theorem keepsSocket_deliverRefresh (requestId : Nat) (result : Except AuthError Unit) (mc : ManagedConnection) :
    KeepsSocket True mc (s.deliverRefresh env requestId result mc) := by
  unfold deliverRefresh
  split_ifs
  · cases result with
    | error e => exact keepsSocket_passive trivial fun _ => by simp
    | ok u =>
      have hok : KeepsSocket True mc (mc.handleEvent env.toEnv (.busTokenRefreshed requestId)) :=
        keepsSocket_passive trivial fun _ => by simp
      dsimp only
      split_ifs
      · exact hok.trans (keepsSocket_sendFirstSignedSubscribe _ fun _ _ _ _ => trivial)
      · exact hok
  · exact .refl mc

theorem synced_refreshed (h : s.Synced) (requestId : Nat) (result : Except AuthError Unit) :
    (s.refreshed env requestId result).Synced := by
  have h1 : Touches True .authUrl s (s.updateConn .authUrl (s.deliverRefresh env requestId result)) :=
    touches_updateConn (keepsSocket_deliverRefresh _ _ _)
  have hdrain : ∀ t : IoReactor, Touches True .authUrl t (t.updateConn .authUrl fun mc =>
      t.sendDeferred env mc.drainDeferredOpenAuthSubscribes.1 mc.drainDeferredOpenAuthSubscribes.2) := fun t =>
    touches_updateConn (.trans (m := (t.conns .authUrl).drainDeferredOpenAuthSubscribes.2) (.same rfl rfl rfl)
      (keepsSocket_sendDeferred _ _))
  have harm : ∀ t : IoReactor, Touches True .authUrl t
      (t.updateConn .authUrl (·.setTokenRefreshDue (env.cachedToken.map (·.refreshDueAt)))) := fun t =>
    touches_updateConn (.same rfl rfl rfl)
  unfold refreshed
  dsimp only
  refine h.projected (show Touches True .authUrl s _ from ?_)
  split_ifs
  · exact (h1.trans (hdrain _)).trans (harm _)
  · exact h1.trans (harm _)
  · exact h1.trans (hdrain _)
  · exact h1

/-! ### Frames -/

theorem touches_handshakeAck {opens : Prop} (key : EntryKey) (success : Bool) (error : Option String) :
    Touches opens url s (s.handshakeAck env url key success error) := by
  unfold handshakeAck
  split_ifs
  · dsimp only
    have hev : KeepsSocket opens (s.conns url) ((s.conns url).handleEvent env.toEnv .wireAuthHandshakeOk) :=
      keepsSocket_passive trivial fun _ => by simp
    have hok : Touches opens url s (s.updateConn url fun mc =>
        (mc.handleEvent env.toEnv .wireAuthHandshakeOk).disarmSubscribeAck key) :=
      touches_updateConn (hev.trans (.same rfl rfl rfl))
    generalize s.updateConn url (fun mc =>
      (mc.handleEvent env.toEnv .wireAuthHandshakeOk).disarmSubscribeAck key) = t at hok ⊢
    have hack : Touches opens url t
        ({ t with registry := t.registry.noteAcked key }.updateConn url (·.removeDeferredOpenAuthSubscribe key)) :=
      (touches_setRegistry (t.registry.noteAcked key)).trans (touches_updateConn (.same rfl rfl rfl))
    split_ifs with hs
    · refine (hok.trans hack).trans (touches_updateConn (.trans ?_ keepsSocket_completeResubscribeIfEmpty))
      exact keepsSocket_sendRemainingSignedSubscribes _ _ (by rw [hs]; simp)
    · exact hok.trans hack
  · refine touches_updateConn ?_
    dsimp only
    generalize classifyAuthHandshakeError _ = kind
    have hev : KeepsSocket opens (s.conns url) ((s.conns url).handleEvent env.toEnv (.wireAuthHandshakeFailed kind)) :=
      keepsSocket_passive trivial fun _ => by simp
    split_ifs <;> exact hev.trans (.same rfl rfl rfl)

theorem touches_lateAck {opens : Prop} (key : EntryKey) (success : Bool) :
    Touches opens url s (s.lateAck env url key success) := by
  unfold lateAck
  split_ifs
  · refine touches_updateConn (.trans ?_ keepsSocket_completeResubscribeIfEmpty)
    exact .same rfl rfl rfl
  · exact .same rfl rfl

theorem touches_passive {opens : Prop} {e : FsmEvent} (hq : Passive e) (hne : ∀ error, e ≠ .wireAbnormalClose error) :
    Touches opens url s (s.updateConn url (·.handleEvent env.toEnv e)) :=
  touches_updateConn (keepsSocket_passive hq hne)

theorem touches_armedAck {opens : Prop} (key : EntryKey) (success : Bool) (error : Option String) :
    Touches opens url s (s.armedAck env url key success error) := by
  unfold armedAck
  dsimp only
  split_ifs
  · refine (touches_setRegistry (s.registry.noteAcked key)).trans (touches_updateConn ?_)
    refine .trans (m := (s.conns url).removeDeferredOpenAuthSubscribe key) (.same rfl rfl rfl) ?_
    exact keepsSocket_passive trivial fun _ => by simp
  · exact touches_passive trivial fun _ => by simp
  · generalize s.registry.noteTerminated _ _ _ = registry
    have hdisarm : Touches opens url s ({ s with registry }.updateConn url (·.disarmBookReseedSnapshot key)) :=
      (touches_setRegistry registry).trans (touches_updateConn (.same rfl rfl rfl))
    exact hdisarm.trans (touches_passive trivial fun _ => by simp)

theorem touches_handleSubAck {opens : Prop} (json : Json) : Touches opens url s (s.handleSubAck env url json).2 := by
  unfold handleSubAck
  split
  · exact .same rfl rfl
  · dsimp only
    split
    · exact .same rfl rfl
    · split_ifs
      · exact touches_handshakeAck _ _ _
      · exact touches_lateAck _ _
      · exact touches_armedAck _ _ _
  · exact .same rfl rfl

theorem touches_requestResponse {opens : Prop} (json : Json) : Touches opens url s (s.requestResponse env url json).2 := by
  unfold requestResponse
  split
  · exact .same rfl rfl
  · show Touches opens .authUrl s (s.updateConn .authUrl fun _ =>
      ((s.conns .authUrl).handleRequestResponse (s.reactorEnv env .authUrl) json).2)
    exact touches_updateConn (keepsSocket_handleRequestResponse _ json)

theorem touches_recoverBookGap (hw : s.WriterAlive env url) (symbol : Symbol) :
    Touches False url s (recoverBookGap env url s symbol) := by
  unfold recoverBookGap
  dsimp only
  split
  · exact .same rfl rfl
  · rename_i f hf
    have hsent : f.sent = env.sendFrame f.key := by
      obtain ⟨params, -, rfl⟩ := Option.map_eq_some_iff.1 hf
      rfl
    refine (touches_setRegistry (s.registry.beginBookResync .book symbol)).trans ?_
    refine touches_updateConn (keepsSocket_sendBookReseed _ fun hr he => ?_)
    rw [hsent] at he
    exact hw hr f.key he

theorem touches_recoverBookGaps (hw : s.WriterAlive env url) (gaps : List Symbol) :
    Touches False url s (gaps.foldl (recoverBookGap env url) s) := by
  induction gaps generalizing s with
  | nil => exact .same rfl rfl
  | cons symbol gaps ih =>
    have ht := touches_recoverBookGap hw symbol
    exact ht.trans (ih (hw.touched ht))

theorem touches_textFrame (hw : s.WriterAlive env url) (json : Json) :
    Touches False url s (s.textFrame env url json) := by
  have hnote : Touches False url s (s.updateConn url (·.noteInboundActivity env.toEnv)) :=
    touches_updateConn (.same rfl rfl rfl)
  unfold textFrame
  dsimp only
  have hresp : Touches False url s
      ((s.updateConn url (·.noteInboundActivity env.toEnv)).requestResponse env url json).2 :=
    hnote.trans (touches_requestResponse json)
  split
  · rename_i t ht
    rwa [ht] at hresp
  · rename_i t ht
    rw [ht] at hresp
    have hack : Touches False url s (t.handleSubAck env url json).2 := hresp.trans (touches_handleSubAck json)
    split
    · rename_i t' ht'
      rwa [ht'] at hack
    · rename_i t' ht'
      rw [ht'] at hack
      have hreg := hack.trans (touches_setRegistry (env.router.routeTextFrame t'.registry json).1)
      exact hreg.trans (touches_recoverBookGaps (hw.touched hreg) _)

theorem synced_driveWireClose (h : s.Synced) (event : FsmEvent) : (s.driveWireClose env url event).Synced := by
  have hunmap : ({ s with sockets := Function.update s.sockets url none } : IoReactor).Synced := by
    refine ⟨h.socketOk, fun u c hc => ?_⟩
    by_cases hu : u = url
    · subst hu
      simp at hc
    · simp only [Function.update_of_ne hu] at hc
      exact h.mapped u c hc
  have hev : Touches True url ({ s with sockets := Function.update s.sockets url none } : IoReactor)
      ({ s with sockets := Function.update s.sockets url none }.updateConn url (·.handleEvent env.toEnv event)) :=
    touches_updateConn (keepsSocket_handleEvent (fun _ => trivial) fun _ _ => trivial)
  unfold driveWireClose
  dsimp only
  split_ifs
  · exact hunmap.projected hev
  · exact hunmap.unmapped hev (by simp)

/-! ### Timers -/

theorem touches_handleBookReseedTimeout (pair : Option Symbol) :
    Touches True url s (s.handleBookReseedTimeout env url pair) := by
  unfold handleBookReseedTimeout
  split
  · exact .same rfl rfl
  · dsimp only
    split
    · refine (touches_setRegistry _).trans (touches_updateConn ?_)
      exact keepsSocket_sendBookReseed _ fun _ _ => trivial
    · exact .same rfl rfl

theorem synced_timer (h : s.Synced) (event : FsmEvent) : (s.timer env url event).Synced := by
  unfold timer
  split_ifs
  · dsimp only
    have hpop : Touches True url s (s.updateConn url (·.popTimerForEvent event)) :=
      touches_updateConn (by cases event <;> exact .same rfl rfl rfl)
    split
    · exact h.projected (hpop.trans (touches_updateConn (keepsSocket_handleSubscribeResend _ _ _ fun _ => trivial)))
    · exact h.projected (hpop.trans (touches_handleBookReseedTimeout _))
    · refine synced_updateConn (synced_updateConn h (.same rfl rfl rfl)) ?_
      unfold rearmProactiveRefresh
      split_ifs <;> exact .same rfl rfl rfl
    · exact h.projected (hpop.trans
        (touches_updateConn (keepsSocket_handleEvent (fun _ => trivial) fun _ _ => trivial)))
  · exact h

/-! ## Every run -/

/-- The arms that send without looking at the state, and do not project: none finds the writer dead while
the connection closes for a `force_reconnect()` the budget grants. -/
def WriterLive (s : IoReactor) (l : ArmLabel) : Prop :=
  match l.arm with
  | .registerBatch url _ _ | .textFrame url _ => s.WriterAlive l.env url
  | _ => True

theorem synced_whenMapped {next : IoReactor} (h : s.Synced) (h' : next.Synced) : (s.whenMapped url next).Synced := by
  unfold whenMapped
  split_ifs
  · exact h'
  · exact h

theorem synced_trySend (h : s.Synced) (q : QueuedOutcome) : (s.trySend q).2.Synced := by
  unfold trySend
  split_ifs
  · exact synced_of_eq h rfl rfl
  · exact h

theorem synced_step (s : IoReactor) (l : ArmLabel) (h : s.Synced) (hw : s.WriterLive l) : (s.step l).Synced := by
  obtain ⟨env, arm⟩ := l
  cases arm <;> simp only [step]
  case reportOk url connectionId =>
    unfold reportOk
    have hq := synced_trySend h ⟨connectionId, .ok url connectionId, fun _ _ h => (UpgradeOutcome.ok.inj h).2⟩
    split <;> rename_i t ht <;> rw [ht] at hq
    · exact hq
    · exact synced_of_eq hq rfl rfl
  case reportFallback =>
    unfold reportFallback
    split
    · exact h
    · rename_i rest _
      exact synced_trySend (s := { s with fallbacks := rest }) (synced_of_eq h rfl rfl) _
  case reportFailed => exact synced_trySend h _
  case callerEvent url event => exact synced_callerEvent h event
  case registerBatch url entries refId => exact synced_registerBatch h hw refId entries
  case deregister channel pair => exact synced_deregisterOne h channel pair
  case deregisterAll channel => exact synced_deregisterAll h channel
  case guardDrop handlerId channel symbols => exact synced_guardDrop h handlerId channel symbols
  case wsRequestFrame f => exact synced_updateConn h (keepsSocket_handleWsRequestFrame _ f)
  case abandonWsRequest reqId => exact synced_updateConn h (.same rfl rfl rfl)
  case takeOutcome => exact synced_takeOutcome h
  case refreshed requestId result => exact synced_refreshed h requestId result
  case textFrame url json => exact synced_whenMapped h (h.touched (touches_textFrame hw json))
  case otherFrame url => exact synced_whenMapped h (synced_updateConn h (.same rfl rfl rfl))
  case closeFrame url code reason => exact synced_whenMapped h (synced_driveWireClose h _)
  case recvError url error => exact synced_whenMapped h (synced_driveWireClose h _)
  case timer url event => exact synced_timer h event

theorem synced_init (knobs : Knobs) : (init knobs).Synced := ⟨fun _ hs => hs.elim, fun _ _ hc => by cases hc⟩

/-- An outcome the step takes changes a connection only if its producer is the current socket. -/
def TakesOwn (s : IoReactor) (l : ArmLabel) : Prop :=
  l.arm = .takeOutcome → ∀ q, s.upgradeRx.head? = some q →
    (s.conns q.outcome.url).socket ≠ some q.producer → (s.step l).conns = s.conns

/-- A failure the step takes finds no attempt of another socket under way. -/
def FailsOwn (s : IoReactor) (l : ArmLabel) : Prop :=
  l.arm = .takeOutcome → ∀ q, s.upgradeRx.head? = some q → ∀ url kind transient, q.outcome = .failed url kind transient →
    (s.conns url).state = .connecting → (s.conns url).socket = some q.producer

/-- Outside `Connecting` the FSM has no arm for an upgrade outcome. -/
theorem handleEvent_upgrade {mc : ManagedConnection} {e : FsmEvent} {env : Env} (hs : mc.state ≠ .connecting)
    (he : (∃ c, e = .wireUpgradeOk c) ∨ ∃ kind transient, e = upgradeFailureEvent kind transient) :
    mc.handleEvent env e = mc := by
  have hup : (∃ c, e = .wireUpgradeOk c) ∨ (∃ n, e = .wireUpgradeFailed n) ∨ ∃ k t, e = .wireConnectError k t := by
    rcases he with he | ⟨kind, transient, rfl⟩
    · exact .inl he
    · cases kind <;> simp [upgradeFailureEvent]
  unfold handleEvent
  split
  case h_2 hc => exact absurd hc hs
  all_goals rcases hup with ⟨c, rfl⟩ | ⟨n, rfl⟩ | ⟨k, t, rfl⟩ <;> rfl

/-- In `Connecting` a failure ends the attempt. -/
theorem state_upgradeFailure {mc : ManagedConnection} {env : Env} (hs : mc.state = .connecting)
    (kind : TransportErrorKind) (transient : Bool) :
    (mc.handleEvent env (upgradeFailureEvent kind transient)).state ≠ .connecting := by
  have hdown : (mc.handleEvent env (upgradeFailureEvent kind transient)).Down := by
    unfold upgradeFailureEvent
    split <;> simp only [handleEvent, hs, handleConnecting] <;> split_ifs
    · exact down_connectFailedOrEscalate _ _
    · exact ⟨rfl, .inr (.inl rfl)⟩
    · exact down_connectFailedOrEscalate _ _
    · exact ⟨rfl, .inr (.inl rfl)⟩
  rcases hdown.state with h | h | h <;> simp [h]

theorem updateConn_of_eq {f : ManagedConnection → ManagedConnection} (h : f (s.conns url) = s.conns url) :
    s.updateConn url f = s := by
  unfold updateConn
  rw [h, Function.update_eq_self]

/-- A success for a socket the connection does not hold falls on a connection that holds none. -/
theorem conns_upgradeOk_stale (h : s.Synced) {connectionId : SocketId} (hm : s.sockets url = some connectionId)
    (hne : (s.conns url).socket ≠ some connectionId) : (s.upgradeOk env url connectionId).conns = s.conns := by
  have hnone : (s.conns url).socket = none := (h.mapped url connectionId hm).resolve_left hne
  have hidle : ¬ HoldsSocket (s.conns url).state := fun hs => h.socketOk url hs hnone
  have hc : (s.conns url).state ≠ .connecting := fun hs => hidle (by simp [hs, HoldsSocket])
  have hr : (s.conns url).state ≠ .resubscribing := fun hs => hidle (by simp [hs, HoldsSocket])
  have ha : (s.conns url).state ≠ .authenticating := fun hs => hidle (by simp [hs, HoldsSocket])
  unfold upgradeOk
  rw [updateConn_of_eq (handleEvent_upgrade hc (.inl ⟨_, rfl⟩))]
  simp [hr, ha]

theorem takesOwn_iff (s : IoReactor) (l : ArmLabel) (h : s.Synced) : s.TakesOwn l ↔ s.FailsOwn l := by
  refine forall_congr' fun harm => forall_congr' fun q => forall_congr' fun hq => ?_
  obtain ⟨rest, hrest⟩ := List.head?_eq_some_iff.1 hq
  have hstep : s.step l = { s with upgradeRx := rest }.upgradeArm l.env q.outcome := by
    simp only [step, harm, takeOutcome, hrest]
  have hs : ({ s with upgradeRx := rest } : IoReactor).Synced := synced_of_eq h rfl rfl
  rw [hstep]
  constructor
  · intro hown url kind transient hfail hconn
    by_contra hne
    rw [hfail] at hown
    have heq := congrFun (hown hne) url
    simp only [upgradeArm, upgradeFailed, conns_dropDeadSocket, conns_updateConn] at heq
    exact state_upgradeFailure hconn kind transient ((congrArg ManagedConnection.state heq).trans hconn)
  · intro hown hne
    cases ho : q.outcome with
    | ok url connectionId =>
      rw [ho, q.own url connectionId ho] at hne
      simp only [upgradeArm]
      split_ifs with hlive
      · exact conns_upgradeOk_stale hs (of_decide_eq_true hlive) hne
      · rfl
    | failed url kind transient =>
      have hc : (s.conns url).state ≠ .connecting := by
        intro hconn
        rw [ho] at hne
        exact hne (hown url kind transient ho hconn)
      show (upgradeFailed _ l.env url kind transient).conns = s.conns
      unfold upgradeFailed
      rw [updateConn_of_eq (handleEvent_upgrade hc (.inr ⟨_, _, rfl⟩)), conns_dropDeadSocket]

/-- **Stale outcomes**: in a run that meets `WriterLive`, every outcome taken leaves the connections alone
unless its producer is the current socket, exactly when every failure taken meets `FailsOwn`. -/
theorem ownOutcomes_iff (knobs : Knobs) (ls : List ArmLabel) (hw : StepSystem.Allowed step WriterLive (init knobs) ls) :
    StepSystem.Allowed step TakesOwn (init knobs) ls ↔ StepSystem.Allowed step FailsOwn (init knobs) ls :=
  StepSystem.allowed_congr synced_step takesOwn_iff (synced_init knobs) hw

/-! ## An attempt's own failure, and two runs that end, or pass, the wrong attempt -/

/-- What the arms of the runs below read: the budget grants every attempt, and attempt `socket` is the one
the factory opens. -/
def attemptEnv (socket : SocketId) (sendFrame : Except SendFrameError Unit) : ArmEnv where
  now := 0
  knobs := { stalenessWindowMs := 30000, upgradeTimeout := fromMillis 10000, closeTimeout := fromMillis 5000
             reconnectAttempts := none, maxAuthHandshakeFailures := 3, subscribeAckAttempts := 3
             subscribeAckTimeoutMs := 5000 }
  tryConsume := .ok ()
  windowSeconds := 600
  nextBackoff := fun _ => fromMillis 500
  openSocket := socket
  cachedToken := none
  sendFrame := fun _ => sendFrame
  requestSend := .ok ()
  connectRequestId := 1
  router := { fromStr := fun _ => none, decodeOther := fun _ _ => .decodeFailed, handlers := .new ∅, busAlive := true }

/-- The knobs of these runs. -/
def attemptKnobs : Knobs := (attemptEnv 0 (.ok ())).knobs

/-- Socket 1 is refused, and the refusal is taken before anything else happens. -/
def ownFailure : List ArmLabel :=
  [⟨attemptEnv 1 (.ok ()), .callerEvent .publicUrl (.startConnect 1)⟩,
    ⟨attemptEnv 1 (.ok ()), .reportFailed .publicUrl 1 .tcpRefused true⟩,
    ⟨attemptEnv 1 (.ok ()), .takeOutcome⟩]

theorem ownOutcomes_iff_ownFailure : StepSystem.Allowed step TakesOwn (init attemptKnobs) ownFailure := by
  refine (ownOutcomes_iff attemptKnobs ownFailure ⟨trivial, trivial, trivial, trivial⟩).2
    ⟨nofun, nofun, fun _ q hq url kind transient hfail _ => ?_, trivial⟩
  cases hq
  cases hfail
  rfl

/-- Socket 1 is refused while its upgrade timeout is being served; a `force_reconnect()` is served before
the refusal is taken from the channel. -/
def staleFailure : List ArmLabel :=
  [⟨attemptEnv 1 (.ok ()), .callerEvent .publicUrl (.startConnect 1)⟩,
    ⟨attemptEnv 1 (.ok ()), .reportFailed .publicUrl 1 .tcpRefused true⟩,
    ⟨attemptEnv 1 (.ok ()), .timer .publicUrl .timerUpgradeTimeout⟩,
    ⟨attemptEnv 2 (.ok ()), .callerEvent .publicUrl (.forceReconnect 2)⟩,
    ⟨attemptEnv 2 (.ok ()), .takeOutcome⟩]

/-- The refusal of socket 1 ends the attempt of socket 2. -/
theorem staleFailure_endsAttempt :
    ¬ ∀ (knobs : Knobs) (ls : List ArmLabel), StepSystem.Allowed step TakesOwn (init knobs) ls := by
  intro h
  obtain ⟨-, -, -, -, htake, -⟩ := h attemptKnobs staleFailure
  have heq := htake rfl _ rfl (by decide)
  exact absurd (congrArg (fun conns => (conns .publicUrl).state) heq) (by decide)

/-- Socket 1 is upgraded and then reset. Before the success is taken the caller closes, asks for a
reconnect and registers an entry, whose send finds the writer dead. -/
def deadWriter : List ArmLabel :=
  [⟨attemptEnv 1 (.ok ()), .registerBatch .publicUrl [⟨.status, none, .status⟩] none⟩,
    ⟨attemptEnv 1 (.ok ()), .reportOk .publicUrl 1⟩,
    ⟨attemptEnv 1 (.ok ()), .callerEvent .publicUrl (.close 2)⟩,
    ⟨attemptEnv 1 (.ok ()), .callerEvent .publicUrl (.forceReconnect 3)⟩,
    ⟨attemptEnv 2 (.error .writerClosed), .registerBatch .publicUrl [⟨.ticker, none, .ticker none none⟩] none⟩,
    ⟨attemptEnv 2 (.ok ()), .takeOutcome⟩]

/-- The success of socket 1 passes the guard and leaves `Connecting` for socket 2, with no failure taken. -/
theorem deadWriter_readmitsSuccess : StepSystem.Allowed step FailsOwn (init attemptKnobs) deadWriter ∧
    ¬ StepSystem.Allowed step TakesOwn (init attemptKnobs) deadWriter := by
  constructor
  · refine ⟨nofun, nofun, nofun, nofun, nofun, fun _ q hq url kind transient hfail => ?_, trivial⟩
    cases hq
    cases hfail
  · rintro ⟨-, -, -, -, -, htake, -⟩
    have heq := htake rfl _ rfl (by decide)
    exact absurd (congrArg (fun conns => (conns .publicUrl).state) heq) (by decide)

end KrakenSdk.Dispatch.IoReactor
