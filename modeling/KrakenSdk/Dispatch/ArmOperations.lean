import KrakenSdk.Conn.Upgraded
import KrakenSdk.Dispatch.SendReady
/-!
# What an arm does to the connections (dispatch/io_reactor)

Every arm but the taking of an upgrade outcome operates on the connections (`Served`), and leaves the socket map
as it is or brings it up to the connection. So a socket that is up stays mapped: `attached_run`.
-/
namespace KrakenSdk.Dispatch.IoReactor

open KrakenSdk.Conn KrakenSdk.Conn.ManagedConnection

variable {s s' s'' : IoReactor} {env : ArmEnv} {url : WsUrl}

/-- From `s` to `s'` the connections were operated on, and the map of one that is up was kept or brought up to it. -/
structure Served (env : ArmEnv) (s s' : IoReactor) : Prop where
  conns : ∀ u, Operated env.toEnv (s.conns u) (s'.conns u)
  sockets : ∀ u, s'.sockets u = s.sockets u ∨ s'.sockets u = (s'.conns u).socket ∨ ¬ Upgraded (s'.conns u).state

theorem Served.of_eq (hc : s'.conns = s.conns) (hs : s'.sockets = s.sockets) : Served env s s' :=
  ⟨fun u => by rw [hc], fun u => .inl (by rw [hs])⟩

theorem Served.refl (s : IoReactor) : Served env s s := .of_eq rfl rfl

theorem Served.trans (h : Served env s s') (h' : Served env s' s'') : Served env s s'' where
  conns u := (h.conns u).trans (h'.conns u)
  sockets u := by
    by_cases hup : Upgraded (s''.conns u).state
    · obtain ⟨hup', hk⟩ := (h'.conns u).stays.session hup
      rcases h'.sockets u with hmap | hmap | hout
      · rcases h.sockets u with hmap' | hmap' | hout'
        · exact .inl (hmap.trans hmap')
        · exact .inr (.inl (by rw [hmap, hmap', hk]))
        · exact absurd hup' hout'
      · exact .inr (.inl hmap)
      · exact absurd hup hout
    · exact .inr (.inr hup)

/-- Only the success of an upgrade leads into `Authenticating`. -/
theorem Served.handshake (h : Served env s s') (hs : s'.InHandshake) : s.InHandshake :=
  (h.conns .authUrl).stays.handshake hs

theorem served_updateConn {f : ManagedConnection → ManagedConnection}
    (hf : Operated env.toEnv (s.conns url) (f (s.conns url))) : Served env s (s.updateConn url f) := by
  refine ⟨fun u => ?_, fun u => .inl rfl⟩
  by_cases hu : u = url
  · subst hu
    rw [conns_updateConn]
    exact hf
  · rw [conns_updateConn_of_ne _ _ _ hu]

/-- What the function reads is the reactor's. -/
theorem served_reads {t : IoReactor} {u : WsUrl} {f : ManagedConnection → ManagedConnection}
    (hf : Operated (t.reactorEnv env u).toEnv (s.conns url) (f (s.conns url))) : Served env s (s.updateConn url f) :=
  served_updateConn hf

theorem served_project (s : IoReactor) (url : WsUrl) : Served env s (s.project url) := by
  refine ⟨fun u => .refl, fun u => ?_⟩
  by_cases hu : u = url
  · subst hu
    exact .inr (.inl (sockets_project _ _))
  · exact .inl (sockets_project_of_ne _ _ hu)

theorem served_dropDeadSocket (s : IoReactor) (url : WsUrl) : Served env s (s.dropDeadSocket url) := by
  unfold dropDeadSocket
  split_ifs with hn
  · refine ⟨fun u => .refl, fun u => ?_⟩
    by_cases hu : u = url
    · subst hu
      exact .inr (.inl (by simp [hn]))
    · exact .inl (by simp [Function.update, hu])
  · exact .refl s

theorem served_event {e : FsmEvent} (he : ∀ connectionId, e ≠ .wireUpgradeOk connectionId) :
    Served env s (s.updateConn url (·.handleEvent env.toEnv e)) := served_updateConn (operated_event he)

theorem served_complete : Served env s (s.updateConn url (·.completeResubscribeIfEmpty env.toEnv)) :=
  served_updateConn operated_complete

theorem served_completeIf {p : Prop} [Decidable p] :
    Served env s (if p then s.updateConn url (·.completeResubscribeIfEmpty env.toEnv) else s) := by
  split_ifs
  · exact served_complete
  · exact .refl s

theorem served_kept {f : ManagedConnection → ManagedConnection} (hu : (f (s.conns url)).url = (s.conns url).url)
    (hs : (f (s.conns url)).state = (s.conns url).state) (hk : (f (s.conns url)).socket = (s.conns url).socket)
    (hb : (f (s.conns url)).bus = (s.conns url).bus) : Served env s (s.updateConn url f) :=
  served_updateConn (operated_kept hu hs hk hb)

/-- A loop of served steps. -/
theorem served_foldl {α : Type} {f : IoReactor → α → IoReactor} (hf : ∀ s a, Served env s (f s a)) (s : IoReactor)
    (as : List α) : Served env s (as.foldl f s) := by
  induction as generalizing s with
  | nil => exact .refl s
  | cons a as ih => exact (hf s a).trans (ih _)

/-! ## The caller arm -/

theorem served_callerEvent (event : CallerEvent) : Served env s (s.callerEvent env url event) :=
  (served_event (by cases event <;> simp [CallerEvent.toFsmEvent])).trans (served_project _ _)

theorem served_startIfIdle : Served env s (s.startIfIdle env url) := by
  unfold startIfIdle
  split_ifs
  · exact (served_event (by simp)).trans (served_project _ _)
  · exact .refl s

theorem served_subscribeFirst (f : SubscribeFrame) : Served env s (s.subscribeFirst env url f) := by
  unfold subscribeFirst
  cases url with
  | authUrl =>
    dsimp only
    split_ifs
    · exact served_reads (operated_sendSingleSignedSubscribe f)
    · exact .refl s
  | publicUrl => exact served_updateConn (operated_sendSingleSubscribe _ f)

theorem served_registerOneAndEmit (refId : Option HandlerId) (reg : Registration) :
    Served env s (s.registerOneAndEmit env url refId reg) := by
  have hreg : Served env s { s with registry := registryAfter s.registry env url refId reg } := .of_eq rfl rfl
  rw [registerOneAndEmit_eq]
  split_ifs
  · exact (hreg.trans served_startIfIdle).trans (served_subscribeFirst _)
  · exact hreg.trans served_startIfIdle

theorem served_registerBatch (refId : Option HandlerId) (regs : List Registration) :
    Served env s (s.registerBatch env url refId regs) :=
  served_foldl (fun _ reg => (served_registerOneAndEmit refId reg).trans (served_dropDeadSocket _ _)) s regs

theorem served_teardownReleasedKey (key : EntryKey) : Served env s (s.teardownReleasedKey key) :=
  served_kept rfl rfl rfl rfl

theorem served_deregisterOne (channel : ChannelName) (pair : Option Symbol) :
    Served env s (s.deregisterOne env channel pair) := by
  have hreg : Served env s
      { s with registry := (s.registry.release (channel.wireChannel, pair)).1 } := .of_eq rfl rfl
  unfold deregisterOne
  dsimp only
  split_ifs
  · exact hreg
  · exact (hreg.trans (served_teardownReleasedKey _)).trans served_complete

theorem served_deregisterAll (channel : Option ChannelName) : Served env s (s.deregisterAll env channel) := by
  have htear := @served_foldl env _ _ (fun t (e : SubscriptionEntry × RemovedEntryKind) =>
    served_teardownReleasedKey (s := t) e.1.key) { s with
      registry := (s.registry.deregisterAll (channel.map ChannelName.wireChannel)).1 }
      (s.registry.deregisterAll (channel.map ChannelName.wireChannel)).2
  have hreg : Served env s { s with
      registry := (s.registry.deregisterAll (channel.map ChannelName.wireChannel)).1 } := .of_eq rfl rfl
  unfold deregisterAll
  dsimp only
  exact ((hreg.trans htear).trans served_completeIf).trans served_completeIf

theorem served_dropGuardRef (handlerId : HandlerId) (acc : IoReactor × Bool) (key : EntryKey) :
    Served env acc.1 (dropGuardRef handlerId acc key).1 := by
  obtain ⟨s, any⟩ := acc
  have hreg : Served env s { s with registry := (s.registry.releaseGuardRef handlerId key).1 } := .of_eq rfl rfl
  unfold dropGuardRef
  dsimp only
  split_ifs
  · exact hreg.trans (served_teardownReleasedKey key)
  · exact hreg

theorem served_guardDrop (handlerId : HandlerId) (channel : ChannelName) (symbols : List Symbol) :
    Served env s (s.guardDrop env handlerId channel symbols) := by
  have hall : ∀ (targets : List EntryKey) (acc : IoReactor × Bool),
      Served env acc.1 (targets.foldl (dropGuardRef handlerId) acc).1 := by
    intro targets
    induction targets with
    | nil => exact fun acc => .refl _
    | cons key targets ih => exact fun acc => (served_dropGuardRef handlerId acc key).trans (ih _)
  unfold guardDrop
  dsimp only
  split_ifs
  · exact (hall _ (s, false)).trans served_complete
  · exact hall _ (s, false)
  · exact (hall _ (s, false)).trans served_complete
  · exact hall _ (s, false)

/-! ## The other arms -/

theorem served_upgradeFailed (kind : TransportErrorKind) (transient : Bool) :
    Served env s (s.upgradeFailed env url kind transient) := by
  refine (served_event ?_).trans (served_dropDeadSocket _ _)
  cases kind <;> simp [upgradeFailureEvent]

theorem operated_sendDeferred (ds : List (ChannelName × Option Symbol × SubscribeParams)) (mc : ManagedConnection) :
    Operated env.toEnv mc (s.sendDeferred env ds mc) := by
  induction ds generalizing mc with
  | nil => exact .refl
  | cons d ds ih =>
    obtain ⟨channel, pair, params⟩ := d
    have hsend : Operated env.toEnv mc (mc.sendSingleSignedSubscribe (s.reactorEnv env .authUrl)
        ⟨(channel, pair), params, env.sendFrame (channel, pair)⟩) :=
      @operated_sendSingleSignedSubscribe mc (s.reactorEnv env .authUrl) _
    simp only [sendDeferred]
    split_ifs
    · exact ih mc
    · exact hsend.trans (ih _)
    · exact hsend

theorem operated_deliverRefresh (requestId : Nat) (result : Except AuthError Unit) (mc : ManagedConnection) :
    Operated env.toEnv mc (s.deliverRefresh env requestId result mc) := by
  unfold deliverRefresh
  split_ifs
  · cases result with
    | error e => exact operated_event (by simp)
    | ok u =>
      have hevent : Operated env.toEnv mc (mc.handleEvent env.toEnv (.busTokenRefreshed requestId)) :=
        operated_event (by simp)
      dsimp only
      split_ifs
      · exact hevent.trans (@operated_sendFirstSignedSubscribe _ (s.reactorEnv env .authUrl))
      · exact hevent
  · exact .refl

/-- The drain of the deferred subscribes, where it applies. -/
theorem served_drainIf {p : Prop} [Decidable p] : Served env s (if p then s.updateConn .authUrl (fun mc =>
    s.sendDeferred env mc.drainDeferredOpenAuthSubscribes.1 mc.drainDeferredOpenAuthSubscribes.2) else s) := by
  split_ifs
  · have hdrained : Operated env.toEnv (s.conns .authUrl) (s.conns .authUrl).drainDeferredOpenAuthSubscribes.2 :=
      operated_kept rfl rfl rfl rfl
    exact served_updateConn (hdrained.trans (operated_sendDeferred _ _))
  · exact .refl s

theorem served_rearmIf {p : Prop} [Decidable p] {due : Option MonotonicInstant} :
    Served env s (if p then s.updateConn .authUrl (·.setTokenRefreshDue due) else s) := by
  split_ifs
  · exact served_kept rfl rfl rfl rfl
  · exact .refl s

theorem served_refreshed (requestId : Nat) (result : Except AuthError Unit) :
    Served env s (s.refreshed env requestId result) := by
  have hdeliver : Served env s (s.updateConn .authUrl (s.deliverRefresh env requestId result)) :=
    served_updateConn (operated_deliverRefresh _ _ _)
  exact ((hdeliver.trans served_drainIf).trans served_rearmIf).trans (served_project _ _)

theorem served_handshakeAck (key : EntryKey) (success : Bool) (error : Option String) :
    Served env s (s.handshakeAck env url key success error) := by
  unfold handshakeAck
  cases success with
  | true =>
    have hok : Served env s (s.updateConn url fun mc =>
        (mc.handleEvent env.toEnv .wireAuthHandshakeOk).disarmSubscribeAck key) :=
      served_updateConn ((operated_event (by simp)).trans (operated_kept rfl rfl rfl rfl))
    have hreg : ∀ (t : IoReactor) registry, Served env t { t with registry } := fun _ _ => .of_eq rfl rfl
    have hdefer : ∀ t : IoReactor, Served env t (t.updateConn url (·.removeDeferredOpenAuthSubscribe key)) :=
      fun _ => served_kept rfl rfl rfl rfl
    rw [if_pos rfl]
    dsimp only
    split_ifs
    · refine ((hok.trans (hreg _ _)).trans (hdefer _)).trans (served_updateConn ?_)
      exact (@operated_sendRemainingSignedSubscribes _ (IoReactor.reactorEnv _ env url) _).trans operated_complete
    · exact (hok.trans (hreg _ _)).trans (hdefer _)
  | false =>
    have hfail : ∀ mc : ManagedConnection, Operated env.toEnv mc ((mc.handleEvent env.toEnv (.wireAuthHandshakeFailed
        (classifyAuthHandshakeError (error.getD "auth handshake rejected")))).disarmSubscribeAck key) :=
      fun mc => (operated_event (by simp)).trans (operated_kept rfl rfl rfl rfl)
    rw [if_neg Bool.false_ne_true]
    refine served_updateConn ?_
    dsimp only
    split_ifs
    · exact (hfail _).trans (operated_perform _)
    · exact hfail _

theorem served_lateAck (key : EntryKey) (success : Bool) : Served env s (s.lateAck env url key success) := by
  unfold lateAck
  split_ifs
  · have hdisarm : Operated env.toEnv (s.conns url)
        (((s.conns url).disarmSubscribeAck key).removeDeferredOpenAuthSubscribe key) := operated_kept rfl rfl rfl rfl
    exact served_updateConn (hdisarm.trans operated_complete)
  · exact .refl s

theorem served_armedAck (key : EntryKey) (success : Bool) (error : Option String) :
    Served env s (s.armedAck env url key success error) := by
  have hack : ∀ registry, Served env s (({ s with registry } : IoReactor).updateConn url fun mc =>
      (mc.removeDeferredOpenAuthSubscribe key).handleEvent env.toEnv (.wireSubscribeAck key.1 key.2
        (decide ((s.conns url).pendingSubscribeAckCount ≤ 1)))) := by
    intro registry
    have hreg : Served env s { s with registry } := .of_eq rfl rfl
    have hdefer : Operated env.toEnv (s.conns url) ((s.conns url).removeDeferredOpenAuthSubscribe key) :=
      operated_kept rfl rfl rfl rfl
    refine hreg.trans (served_updateConn (hdefer.trans (operated_event ?_)))
    simp
  have hfailed : ∀ t : IoReactor, Served env t (t.updateConn url (·.handleEvent env.toEnv (.wireSubscribeFailed key.1
      key.2 ⟨error.getD "subscribe rejected", isKrakenRateLimit (error.getD "subscribe rejected")⟩))) :=
    fun t => served_event (by simp)
  have hdisarm : ∀ registry, Served env s (({ s with registry } : IoReactor).updateConn url
      (·.disarmBookReseedSnapshot key)) :=
    fun registry =>
      have hreg : Served env s { s with registry } := .of_eq rfl rfl
      hreg.trans (served_kept rfl rfl rfl rfl)
  unfold armedAck
  dsimp only
  split_ifs
  · exact hack _
  · exact hfailed s
  · exact (hdisarm _).trans (hfailed _)

theorem served_handleSubAck (json : Json) : Served env s (s.handleSubAck env url json).2 := by
  unfold handleSubAck
  split
  · exact .refl s
  · dsimp only
    split
    · exact .refl s
    · split_ifs
      · exact served_handshakeAck _ _ _
      · exact served_lateAck _ _
      · exact served_armedAck _ _ _
  · exact .refl s

theorem served_requestResponse (json : Json) : Served env s (s.requestResponse env url json).2 := by
  unfold requestResponse
  cases url with
  | publicUrl => exact .refl s
  | authUrl =>
    have hresponse : Operated env.toEnv (s.conns .authUrl)
        ((s.conns .authUrl).handleRequestResponse (s.reactorEnv env .authUrl) json).2 :=
      @operated_handleRequestResponse _ (s.reactorEnv env .authUrl) json
    have hserved : Served env s (s.updateConn .authUrl fun mc => (mc.handleRequestResponse (s.reactorEnv env .authUrl)
        json).2) := served_updateConn hresponse
    exact hserved

theorem served_recoverBookGap (s : IoReactor) (symbol : Symbol) : Served env s (recoverBookGap env url s symbol) := by
  have hreg : Served env s { s with registry := s.registry.beginBookResync .book symbol } := .of_eq rfl rfl
  unfold recoverBookGap
  dsimp only
  split
  · exact hreg
  · exact hreg.trans (served_updateConn (operated_sendBookReseed _ _))

theorem served_textFrame (json : Json) : Served env s (s.textFrame env url json) := by
  have hnote : Served env s (s.updateConn url (·.noteInboundActivity env.toEnv)) := served_kept rfl rfl rfl rfl
  have hrouted : Served env s (s.routed env url json) := hnote.trans (.of_eq rfl rfl)
  rw [textFrame_eq]
  dsimp only
  split_ifs
  · exact hnote.trans (served_requestResponse json)
  · exact hnote.trans (served_handleSubAck json)
  · exact hrouted.trans (served_foldl served_recoverBookGap _ _)

/-- The map of a lost wire is cleared, and its connection is not up any more. -/
theorem served_driveWireClose {event : FsmEvent} (he : WireLost event) : Served env s (s.driveWireClose env url event) := by
  have hne : ∀ connectionId, event ≠ .wireUpgradeOk connectionId := by
    rcases he with ⟨code, reason, rfl⟩ | ⟨error, rfl⟩ <;> simp
  have hevent : Served env s (({ s with sockets := Function.update s.sockets url none } : IoReactor).updateConn url
      (·.handleEvent env.toEnv event)) := by
    refine ⟨fun u => ?_, fun u => ?_⟩
    all_goals by_cases hu : u = url
    · subst hu
      rw [conns_updateConn]
      exact operated_event hne
    · rw [conns_updateConn_of_ne _ _ _ hu]
    · subst hu
      rw [conns_updateConn]
      exact .inr (.inr (not_upgraded_wireLost he))
    · exact .inl (by simp [Function.update, hu])
  unfold driveWireClose
  dsimp only
  split_ifs
  · exact hevent.trans (served_project _ _)
  · exact hevent

theorem served_handleBookReseedTimeout (pair : Option Symbol) : Served env s (s.handleBookReseedTimeout env url pair) := by
  unfold handleBookReseedTimeout
  cases pair with
  | none => exact .refl s
  | some symbol =>
    have hreg : Served env s { s with registry := (s.registry.noteReseedTimeout .book symbol).1 } := .of_eq rfl rfl
    dsimp only
    split
    · exact hreg.trans (served_updateConn (operated_sendBookReseed _ _))
    · exact hreg

theorem operated_rearmProactiveRefresh (mc : ManagedConnection) :
    Operated env.toEnv mc (rearmProactiveRefresh env mc) := by
  unfold rearmProactiveRefresh
  split_ifs
  · exact .refl
  · exact operated_kept rfl rfl rfl rfl

theorem served_timer (event : FsmEvent) : Served env s (s.timer env url event) := by
  have hpop : Served env s (s.updateConn url (·.popTimerForEvent event)) := by
    cases event <;> exact served_kept rfl rfl rfl rfl
  unfold timer
  split_ifs with harmed
  · dsimp only
    split
    · exact (hpop.trans (served_reads (operated_handleSubscribeResend url _))).trans (served_project _ _)
    · exact (hpop.trans (served_handleBookReseedTimeout _)).trans (served_project _ _)
    · exact hpop.trans (served_updateConn (operated_rearmProactiveRefresh _))
    · refine (hpop.trans (served_event ?_)).trans (served_project _ _)
      rintro connectionId rfl
      cases harmed
  · exact .refl s

theorem served_whenMapped {next : IoReactor} (h : Served env s next) : Served env s (s.whenMapped url next) := by
  unfold whenMapped
  split_ifs
  · exact h
  · exact .refl s

theorem served_trySend (q : QueuedOutcome) : Served env s (s.trySend q).2 := by
  unfold trySend
  split_ifs <;> exact .of_eq rfl rfl

theorem served_reportOk (connectionId : SocketId) : Served env s (s.reportOk url connectionId) := by
  unfold reportOk trySend
  split_ifs <;> exact .of_eq rfl rfl

theorem served_reportFallback : Served env s s.reportFallback := by
  unfold reportFallback
  split
  · exact .refl s
  · rename_i url connectionId rest _
    have hrest : Served env s { s with fallbacks := rest } := .of_eq rfl rfl
    exact hrest.trans (served_trySend _)

/-- **Every arm but one** operates on the connections. -/
theorem served_step (s : IoReactor) {l : ArmLabel} (hl : l.arm ≠ .takeOutcome) : Served l.env s (s.step l) := by
  unfold step
  cases harm : l.arm with
  | takeOutcome => exact absurd harm hl
  | reportOk url connectionId => exact served_reportOk connectionId
  | reportFallback => exact served_reportFallback
  | reportFailed url connectionId kind transient => exact served_trySend _
  | callerEvent url event => exact served_callerEvent event
  | registerBatch url entries refId => exact served_registerBatch refId entries
  | deregister channel pair => exact served_deregisterOne channel pair
  | deregisterAll channel => exact served_deregisterAll channel
  | guardDrop handlerId channel symbols => exact served_guardDrop handlerId channel symbols
  | wsRequestFrame f => exact served_updateConn (operated_handleWsRequestFrame f)
  | abandonWsRequest reqId => exact served_updateConn (operated_abandonWsRequest reqId)
  | refreshed requestId result => exact served_refreshed requestId result
  | textFrame url json => exact served_whenMapped (served_textFrame json)
  | otherFrame url => exact served_whenMapped (served_kept rfl rfl rfl rfl)
  | closeFrame url code reason => exact served_whenMapped (served_driveWireClose (.inl ⟨_, _, rfl⟩))
  | recvError url error => exact served_whenMapped (served_driveWireClose (.inr ⟨_, rfl⟩))
  | timer url event => exact served_timer event

/-! ## A socket that is up is mapped -/

/-- An attempt has a socket, and so has what it led to; that one is mapped. -/
structure Attached (s : IoReactor) : Prop where
  held : ∀ u, (s.conns u).HasSocket
  mapped : ∀ u, Upgraded (s.conns u).state → s.sockets u ≠ none

theorem attached_init (knobs : Knobs) : (init knobs).Attached := ⟨fun u => hasSocket_new u knobs, fun _ => False.elim⟩

theorem Attached.served (h : s.Attached) (hs : Served env s s') : s'.Attached := by
  have hheld : ∀ u, (s'.conns u).HasSocket := fun u => (h.held u).stays (hs.conns u).stays
  refine ⟨hheld, fun u hup => ?_⟩
  rcases hs.sockets u with hmap | hmap | hout
  · rw [hmap]
    exact h.mapped u ((hs.conns u).stays.session hup).1
  · rw [hmap]
    exact (hheld u).session hup
  · exact absurd hup hout

/-- A success is for the socket that is mapped. -/
theorem attached_wireUpgradeOk (h : s.Attached) {connectionId : SocketId} (hlive : s.sockets url = some connectionId) :
    (s.updateConn url (·.handleEvent env.toEnv (.wireUpgradeOk (some connectionId)))).Attached := by
  refine ⟨fun u => ?_, fun u hup => ?_⟩
  all_goals by_cases hu : u = url
  · subst hu
    rw [conns_updateConn]
    exact hasSocket_wireUpgradeOk (h.held u) _
  · rw [conns_updateConn_of_ne _ _ _ hu]
    exact h.held u
  · subst hu
    simp [hlive]
  · rw [conns_updateConn_of_ne _ _ _ hu] at hup
    exact h.mapped u hup

theorem served_replay : Served env s (s.replay env url) := by
  unfold replay
  dsimp only
  split
  · exact served_complete.trans (served_project _ _)
  · exact (served_updateConn ((operated_replayFrames _ _).trans operated_complete)).trans (served_project _ _)

theorem served_sendFirst : Served env s (s.updateConn url (·.sendFirstSignedSubscribe (s.reactorEnv env url))) :=
  served_reads operated_sendFirstSignedSubscribe

theorem attached_upgradeOk (h : s.Attached) {connectionId : SocketId} (hlive : s.sockets url = some connectionId) :
    (s.upgradeOk env url connectionId).Attached := by
  have hevent := @attached_wireUpgradeOk s env url h connectionId hlive
  unfold upgradeOk
  dsimp only
  split_ifs
  · exact (hevent.served served_replay).served served_sendFirst
  · exact hevent.served served_replay
  · exact hevent.served served_sendFirst
  · exact hevent

theorem attached_takeOutcome (h : s.Attached) : (s.takeOutcome env).Attached := by
  unfold takeOutcome
  split
  · exact h
  · rename_i q rest _
    have hrest : ({ s with upgradeRx := rest } : IoReactor).Attached := ⟨h.held, h.mapped⟩
    cases q.outcome with
    | failed url kind transient => exact hrest.served (served_upgradeFailed kind transient)
    | ok url connectionId =>
      simp only [upgradeArm]
      split_ifs with hlive
      · exact attached_upgradeOk hrest (of_decide_eq_true hlive)
      · exact hrest

theorem attached_step (l : ArmLabel) (h : s.Attached) : (s.step l).Attached := by
  by_cases hl : l.arm = .takeOutcome
  · unfold step
    rw [hl]
    exact attached_takeOutcome h
  · exact h.served (served_step s hl)

end KrakenSdk.Dispatch.IoReactor
