import KrakenSdk.Conn.Driven
import KrakenSdk.Dispatch.ArmOperations
/-!
# The reactor refines the runs of its connections (dispatch/io_reactor)

`Runs` takes a connection through any acts in any order; the reactor takes both of its connections through the acts
its arms are made of. Each arm drives each connection (`drives_step`), so a run of the reactor in which the outbound
queue refuses no subscribe frame is, for each connection, a run of that connection (`reactor_refines`): whatever holds
in every run of a connection and does not read the bus holds of the reactor's. A refused frame is the one thing an
arm does that no act does.
-/
namespace KrakenSdk.Dispatch.IoReactor

open KrakenSdk.Conn KrakenSdk.Conn.ManagedConnection

/-- A subscribe frame finds the outbound queue full. -/
def Refuses (env : ArmEnv) : Prop := ∃ key, env.sendFrame key = .error .backpressure

/-- The arm takes a `force_reconnect()`. -/
def Forces (arm : Arm) : Prop := ∃ url id, arm = .callerEvent url (.forceReconnect id)

/-- From `s` to `s'` both connections were driven. -/
def Drives (w : Leeway) (env : ArmEnv) (s s' : IoReactor) : Prop := ∀ u, Driven w env.toEnv (s.conns u) (s'.conns u)

variable {w : Leeway} {env : ArmEnv} {s s' s'' : IoReactor} {url : WsUrl}

theorem Drives.of_eq (h : s'.conns = s.conns) : Drives w env s s' := fun u => by rw [h]

theorem Drives.refl (s : IoReactor) : Drives w env s s := .of_eq rfl

theorem Drives.trans (h : Drives w env s s') (h' : Drives w env s' s'') : Drives w env s s'' :=
  fun u => (h u).trans (h' u)

theorem drives_updateConn {f : ManagedConnection → ManagedConnection}
    (hf : Driven w env.toEnv (s.conns url) (f (s.conns url))) : Drives w env s (s.updateConn url f) := by
  intro u
  by_cases hu : u = url
  · subst hu
    rw [conns_updateConn]
    exact hf
  · rw [conns_updateConn_of_ne _ _ _ hu]

theorem drives_project (s : IoReactor) (url : WsUrl) : Drives w env s (s.project url) := .of_eq rfl

theorem drives_dropDeadSocket (s : IoReactor) (url : WsUrl) : Drives w env s (s.dropDeadSocket url) :=
  .of_eq (conns_dropDeadSocket s url)

theorem drives_event {e : FsmEvent} (he : (∃ id, e = .callForceReconnect id) → w.forces)
    (hpop : ∀ mc : ManagedConnection, mc.popTimerForEvent e = mc) :
    Drives w env s (s.updateConn url (·.handleEvent env.toEnv e)) := drives_updateConn (driven_event he (hpop _))

theorem drives_update (u : Update) : Drives w env s (s.updateConn url (·.applyUpdate env.toEnv u)) :=
  drives_updateConn (driven_update u)

theorem drives_complete : Drives w env s (s.updateConn url (·.completeResubscribeIfEmpty env.toEnv)) :=
  drives_update .completeResubscribeIfEmpty

theorem drives_completeIf {p : Prop} [Decidable p] :
    Drives w env s (if p then s.updateConn url (·.completeResubscribeIfEmpty env.toEnv) else s) := by
  split_ifs
  · exact drives_complete
  · exact .refl s

/-- A loop of driving steps. -/
theorem drives_foldl {α : Type} {f : IoReactor → α → IoReactor} (hf : ∀ s a, Drives w env s (f s a)) (s : IoReactor)
    (as : List α) : Drives w env s (as.foldl f s) := by
  induction as generalizing s with
  | nil => exact .refl s
  | cons a as ih => exact (hf s a).trans (ih _)

/-! ## The caller arm -/

theorem drives_callerEvent (event : CallerEvent) (hforce : (∃ id, event = .forceReconnect id) → w.forces) :
    Drives w env s (s.callerEvent env url event) := by
  refine (drives_event ?_ ?_).trans (drives_project _ _)
  · rintro ⟨id, h⟩
    cases event with
    | forceReconnect id' => exact hforce ⟨id', rfl⟩
    | startConnect id' => cases h
    | close id' => cases h
  · intro mc
    cases event <;> rfl

theorem drives_startIfIdle : Drives w env s (s.startIfIdle env url) := by
  unfold startIfIdle
  split_ifs
  · exact (drives_event (by simp) fun _ => rfl).trans (drives_project _ _)
  · exact .refl s

section refuses

variable (hw : Refuses env → w.refuses)

include hw

/-- The frames an arm composes are refused only if it refuses. -/
theorem framesWithin (s : IoReactor) (url : WsUrl) : FramesWithin w (s.reactorEnv env url) := by
  intro f hf hsent
  obtain ⟨e, -, rfl⟩ := List.mem_map.1 hf
  exact hw ⟨e.key, hsent⟩

theorem frameFor_within {key : EntryKey} {f : SubscribeFrame} (hf : s.frameFor env key = some f)
    (hsent : f.sent = .error .backpressure) : w.refuses := by
  obtain ⟨params, -, rfl⟩ := Option.map_eq_some_iff.1 hf
  exact hw ⟨key, hsent⟩

theorem drives_subscribeFirst (e : SubscriptionEntry) : Drives w env s (s.subscribeFirst env url (frame env e)) := by
  have hf : (frame env e).sent = .error .backpressure → w.refuses := fun h => hw ⟨e.key, h⟩
  unfold subscribeFirst
  cases url with
  | authUrl =>
    dsimp only
    split_ifs
    · exact drives_updateConn (driven_sendSingleSignedSubscribe (r := s.reactorEnv env .authUrl) hf)
    · exact .refl s
  | publicUrl => exact drives_updateConn (driven_sendSingleSubscribe _ hf)

theorem drives_registerOneAndEmit (refId : Option HandlerId) (reg : Registration) :
    Drives w env s (s.registerOneAndEmit env url refId reg) := by
  have hreg : Drives w env s { s with registry := registryAfter s.registry env url refId reg } := .of_eq rfl
  rw [registerOneAndEmit_eq]
  split_ifs
  · exact (hreg.trans drives_startIfIdle).trans (drives_subscribeFirst hw _)
  · exact hreg.trans drives_startIfIdle

theorem drives_registerBatch (refId : Option HandlerId) (regs : List Registration) :
    Drives w env s (s.registerBatch env url refId regs) :=
  drives_foldl (fun _ reg => (drives_registerOneAndEmit hw refId reg).trans (drives_dropDeadSocket _ _)) s regs

end refuses

theorem drives_teardownReleasedKey (key : EntryKey) : Drives w env s (s.teardownReleasedKey key) := by
  refine drives_updateConn ?_
  have hack : Driven w env.toEnv (s.conns (channelWsUrl key.1))
      ((s.conns (channelWsUrl key.1)).disarmSubscribeAck key) := driven_update (.disarmSubscribeAck key)
  exact (hack.trans (driven_update (.disarmBookReseedSnapshot key))).trans
    (driven_update (.removeDeferredOpenAuthSubscribe key))

theorem drives_deregisterOne (channel : ChannelName) (pair : Option Symbol) :
    Drives w env s (s.deregisterOne env channel pair) := by
  have hreg : Drives w env s { s with registry := (s.registry.release (channel.wireChannel, pair)).1 } := .of_eq rfl
  unfold deregisterOne
  dsimp only
  split_ifs
  · exact hreg
  · exact (hreg.trans (drives_teardownReleasedKey _)).trans drives_complete

theorem drives_deregisterAll (channel : Option ChannelName) : Drives w env s (s.deregisterAll env channel) := by
  have hreg : Drives w env s { s with
      registry := (s.registry.deregisterAll (channel.map ChannelName.wireChannel)).1 } := .of_eq rfl
  have htear := hreg.trans (drives_foldl (fun t (e : SubscriptionEntry × RemovedEntryKind) =>
    drives_teardownReleasedKey (s := t) e.1.key) _ (s.registry.deregisterAll (channel.map ChannelName.wireChannel)).2)
  exact (htear.trans drives_completeIf).trans drives_completeIf

theorem drives_dropGuardRef (handlerId : HandlerId) (acc : IoReactor × Bool) (key : EntryKey) :
    Drives w env acc.1 (dropGuardRef handlerId acc key).1 := by
  obtain ⟨s, any⟩ := acc
  have hreg : Drives w env s { s with registry := (s.registry.releaseGuardRef handlerId key).1 } := .of_eq rfl
  unfold dropGuardRef
  dsimp only
  split_ifs
  · exact hreg.trans (drives_teardownReleasedKey key)
  · exact hreg

theorem drives_guardDrop (handlerId : HandlerId) (channel : ChannelName) (symbols : List Symbol) :
    Drives w env s (s.guardDrop env handlerId channel symbols) := by
  have hall : ∀ (targets : List EntryKey) (acc : IoReactor × Bool),
      Drives w env acc.1 (targets.foldl (dropGuardRef handlerId) acc).1 := by
    intro targets
    induction targets with
    | nil => exact fun acc => .refl _
    | cons key targets ih => exact fun acc => (drives_dropGuardRef handlerId acc key).trans (ih _)
  unfold guardDrop
  exact (hall _ (s, false)).trans drives_completeIf

/-! ## The upgrade arm -/

section refuses

variable (hw : Refuses env → w.refuses)

include hw

theorem drives_replay : Drives w env s (s.replay env url) := by
  have hsend : ∀ (mc : ManagedConnection) (socket : SocketId), Driven w env.toEnv mc (mc.replayFrames env.toEnv socket
      ((s.registry.entriesForResubscribeSorted url).map fun e =>
        (frame env e, decide (e.channel = .book) && s.registry.isBookResyncing e.channel e.pair))) := by
    intro mc socket
    refine driven_replayFrames socket fun row hrow hsent => ?_
    obtain ⟨e, -, rfl⟩ := List.mem_map.1 hrow
    exact hw ⟨e.key, hsent⟩
  refine (drives_updateConn ?_).trans (drives_project _ _)
  cases s.sockets url with
  | none => exact driven_complete
  | some socket => exact (hsend _ socket).trans driven_complete

theorem drives_upgradeOk (connectionId : SocketId) : Drives w env s (s.upgradeOk env url connectionId) := by
  have hevent : Drives w env s (s.updateConn url (·.handleEvent env.toEnv (.wireUpgradeOk (some connectionId)))) :=
    drives_event (by simp) fun _ => rfl
  have hfirst : ∀ t : IoReactor, Drives w env t
      (t.updateConn url (·.sendFirstSignedSubscribe (t.reactorEnv env url))) :=
    fun t => drives_updateConn (driven_sendFirstSignedSubscribe (framesWithin hw t url))
  unfold upgradeOk
  dsimp only
  split_ifs
  · exact (hevent.trans (drives_replay hw)).trans (hfirst _)
  · exact hevent.trans (drives_replay hw)
  · exact hevent.trans (hfirst _)
  · exact hevent

theorem drives_upgradeArm (outcome : UpgradeOutcome) : Drives w env s (s.upgradeArm env outcome) := by
  cases outcome with
  | ok url connectionId =>
    simp only [upgradeArm]
    split_ifs
    · exact drives_upgradeOk hw connectionId
    · exact .refl s
  | failed url kind transient =>
    refine (drives_event ?_ ?_).trans (drives_dropDeadSocket _ _)
    · cases kind <;> simp [upgradeFailureEvent]
    · intro mc
      cases kind <;> rfl

theorem drives_takeOutcome : Drives w env s (s.takeOutcome env) := by
  unfold takeOutcome
  split
  · exact .refl s
  · rename_i q rest _
    have hrest : Drives w env s { s with upgradeRx := rest } := .of_eq rfl
    exact hrest.trans (drives_upgradeArm hw q.outcome)

/-! ## The refresh arm -/

theorem driven_sendDeferred (ds : List (ChannelName × Option Symbol × SubscribeParams)) (mc : ManagedConnection) :
    Driven w env.toEnv mc (s.sendDeferred env ds mc) := by
  induction ds generalizing mc with
  | nil => exact .refl
  | cons d ds ih =>
    obtain ⟨channel, pair, params⟩ := d
    have hsend : Driven w env.toEnv mc (mc.sendSingleSignedSubscribe (s.reactorEnv env .authUrl)
        ⟨(channel, pair), params, env.sendFrame (channel, pair)⟩) :=
      driven_sendSingleSignedSubscribe (r := s.reactorEnv env .authUrl) fun hsent => hw ⟨_, hsent⟩
    simp only [sendDeferred]
    split_ifs
    · exact ih mc
    · exact hsend.trans (ih _)
    · exact hsend

theorem driven_deliverRefresh (requestId : Nat) (result : Except AuthError Unit) (mc : ManagedConnection) :
    Driven w env.toEnv mc (s.deliverRefresh env requestId result mc) := by
  unfold deliverRefresh
  split_ifs
  · cases result with
    | error e => exact driven_event (by simp) rfl
    | ok u =>
      have hevent : Driven w env.toEnv mc (mc.handleEvent env.toEnv (.busTokenRefreshed requestId)) :=
        driven_event (by simp) rfl
      dsimp only
      split_ifs
      · exact hevent.trans (driven_sendFirstSignedSubscribe (framesWithin hw s .authUrl))
      · exact hevent
  · exact .refl

theorem drives_refreshed (requestId : Nat) (result : Except AuthError Unit) :
    Drives w env s (s.refreshed env requestId result) := by
  have hdeliver : Drives w env s (s.updateConn .authUrl (s.deliverRefresh env requestId result)) :=
    drives_updateConn (driven_deliverRefresh hw _ _ _)
  have hdrain : ∀ (t : IoReactor) (p : Prop) [Decidable p], Drives w env t (if p then t.updateConn .authUrl (fun mc =>
      t.sendDeferred env mc.drainDeferredOpenAuthSubscribes.1 mc.drainDeferredOpenAuthSubscribes.2) else t) := by
    intro t p _
    split_ifs
    · have hdrained : Driven w env.toEnv (t.conns .authUrl) (t.conns .authUrl).drainDeferredOpenAuthSubscribes.2 :=
        driven_update .drainDeferredOpenAuthSubscribes
      exact drives_updateConn (hdrained.trans (driven_sendDeferred hw _ _))
    · exact .refl t
  have hrearm : ∀ (t : IoReactor) (p : Prop) [Decidable p] (due : Option MonotonicInstant),
      Drives w env t (if p then t.updateConn .authUrl (·.setTokenRefreshDue due) else t) := by
    intro t p _ due
    split_ifs
    · exact drives_update (.setTokenRefreshDue due)
    · exact .refl t
  exact ((hdeliver.trans (hdrain _ _)).trans (hrearm _ _ _)).trans (drives_project _ _)

/-! ## The frame arm -/

theorem drives_handshakeAck (key : EntryKey) (success : Bool) (error : Option String) :
    Drives w env s (s.handshakeAck env url key success error) := by
  have hack : ∀ (mc : ManagedConnection) {e : FsmEvent}, (∀ id, e ≠ .callForceReconnect id) →
      (∀ mc : ManagedConnection, mc.popTimerForEvent e = mc) →
      Driven w env.toEnv mc ((mc.handleEvent env.toEnv e).disarmSubscribeAck key) := by
    intro mc e he hpop
    have hevent : Driven w env.toEnv mc (mc.handleEvent env.toEnv e) :=
      driven_event (fun ⟨id, h⟩ => absurd h (he id)) (hpop mc)
    exact hevent.trans (driven_update (.disarmSubscribeAck key))
  unfold handshakeAck
  cases success with
  | true =>
    have hok : Drives w env s (s.updateConn url fun mc =>
        (mc.handleEvent env.toEnv .wireAuthHandshakeOk).disarmSubscribeAck key) :=
      drives_updateConn (hack _ (by simp) fun _ => rfl)
    have hdefer : ∀ (t : IoReactor) registry, Drives w env t
        (({ t with registry } : IoReactor).updateConn url (·.removeDeferredOpenAuthSubscribe key)) :=
      fun t registry => Drives.trans (.of_eq rfl) (drives_update (.removeDeferredOpenAuthSubscribe key))
    rw [if_pos rfl]
    dsimp only
    split_ifs
    · refine (hok.trans (hdefer _ _)).trans (drives_updateConn ?_)
      exact (driven_sendRemainingSignedSubscribes (framesWithin hw _ url) _).trans driven_complete
    · exact hok.trans (hdefer _ _)
  | false =>
    rw [if_neg Bool.false_ne_true]
    refine drives_updateConn ?_
    dsimp only
    split_ifs
    · exact (hack _ (by simp) fun _ => rfl).trans (driven_perform _)
    · exact hack _ (by simp) fun _ => rfl

omit hw in
theorem drives_lateAck (key : EntryKey) (success : Bool) : Drives w env s (s.lateAck env url key success) := by
  unfold lateAck
  split_ifs
  · have hdisarm : Driven w env.toEnv (s.conns url) ((s.conns url).disarmSubscribeAck key) :=
      driven_update (.disarmSubscribeAck key)
    have hremoved := hdisarm.trans (driven_update (.removeDeferredOpenAuthSubscribe key))
    exact drives_updateConn (hremoved.trans driven_complete)
  · exact .refl s

omit hw in
theorem drives_armedAck (key : EntryKey) (success : Bool) (error : Option String) :
    Drives w env s (s.armedAck env url key success error) := by
  have hfailed : ∀ t : IoReactor, Drives w env t (t.updateConn url (·.handleEvent env.toEnv (.wireSubscribeFailed key.1
      key.2 ⟨error.getD "subscribe rejected", isKrakenRateLimit (error.getD "subscribe rejected")⟩))) :=
    fun t => drives_event (by simp) fun _ => rfl
  have hdisarm : ∀ registry, Drives w env s (({ s with registry } : IoReactor).updateConn url
      (·.disarmBookReseedSnapshot key)) :=
    fun registry => Drives.trans (.of_eq rfl) (drives_update (.disarmBookReseedSnapshot key))
  unfold armedAck
  dsimp only
  split_ifs
  · have hdefer : Driven w env.toEnv (s.conns url) ((s.conns url).removeDeferredOpenAuthSubscribe key) :=
      driven_update (.removeDeferredOpenAuthSubscribe key)
    have hreg : Drives w env s { s with registry := s.registry.noteAcked key } := .of_eq rfl
    exact hreg.trans (drives_updateConn (hdefer.trans (driven_event (by simp) rfl)))
  · exact hfailed s
  · exact (hdisarm _).trans (hfailed _)

theorem drives_handleSubAck (json : Json) : Drives w env s (s.handleSubAck env url json).2 := by
  unfold handleSubAck
  split
  · exact .refl s
  · dsimp only
    split
    · exact .refl s
    · split_ifs
      · exact drives_handshakeAck hw _ _ _
      · exact drives_lateAck _ _
      · exact drives_armedAck _ _ _
  · exact .refl s

theorem drives_requestResponse (json : Json) : Drives w env s (s.requestResponse env url json).2 := by
  unfold requestResponse
  cases url with
  | publicUrl => exact .refl s
  | authUrl =>
    have hdrives : Drives w env s (s.updateConn .authUrl fun mc =>
        (mc.handleRequestResponse (s.reactorEnv env .authUrl) json).2) :=
      drives_updateConn (driven_handleRequestResponse (framesWithin hw s .authUrl) json)
    exact hdrives

theorem drives_recoverBookGap (s : IoReactor) (symbol : Symbol) : Drives w env s (recoverBookGap env url s symbol) := by
  have hreg : Drives w env s { s with registry := s.registry.beginBookResync .book symbol } := .of_eq rfl
  unfold recoverBookGap
  dsimp only
  split
  · exact hreg
  · rename_i hf
    exact hreg.trans (drives_updateConn (driven_sendBookReseed _ (frameFor_within hw hf)))

theorem drives_textFrame (json : Json) : Drives w env s (s.textFrame env url json) := by
  have hnote : Drives w env s (s.updateConn url (·.noteInboundActivity env.toEnv)) := drives_update .noteInboundActivity
  have hrouted : Drives w env s (s.routed env url json) := hnote.trans (.of_eq rfl)
  rw [textFrame_eq]
  dsimp only
  split_ifs
  · exact hnote.trans (drives_requestResponse hw json)
  · exact hnote.trans (drives_handleSubAck hw json)
  · exact hrouted.trans (drives_foldl (drives_recoverBookGap hw) _ _)

omit hw in
theorem drives_driveWireClose {event : FsmEvent} (he : WireLost event) :
    Drives w env s (s.driveWireClose env url event) := by
  have hevent : Drives w env s (({ s with sockets := Function.update s.sockets url none } : IoReactor).updateConn url
      (·.handleEvent env.toEnv event)) := by
    refine Drives.trans (.of_eq rfl) (drives_event ?_ ?_)
    · rcases he with ⟨code, reason, rfl⟩ | ⟨error, rfl⟩ <;> simp
    · rcases he with ⟨code, reason, rfl⟩ | ⟨error, rfl⟩ <;> exact fun _ => rfl
  unfold driveWireClose
  dsimp only
  split_ifs
  · exact hevent.trans (drives_project _ _)
  · exact hevent

/-! ## The timer arm -/

theorem drives_handleBookReseedTimeout (pair : Option Symbol) :
    Drives w env s (s.handleBookReseedTimeout env url pair) := by
  unfold handleBookReseedTimeout
  cases pair with
  | none => exact .refl s
  | some symbol =>
    have hreg : Drives w env s { s with registry := (s.registry.noteReseedTimeout .book symbol).1 } := .of_eq rfl
    dsimp only
    split
    · rename_i hf
      exact hreg.trans (drives_updateConn (driven_sendBookReseed _ (frameFor_within hw hf)))
    · exact hreg

omit hw in
/-- The timers the reactor takes for itself: no state has an arm for them. -/
theorem deliver_reactorSide {mc : ManagedConnection} {e : FsmEvent} (env : ArmEnv) (he : e = .timerTokenRefreshDue ∨
    (∃ channel pair, e = .timerSubscribeResendDue channel pair) ∨
    ∃ channel pair, e = .timerBookReseedSnapshot channel pair) :
    mc.deliver env.toEnv e = mc.popTimerForEvent e := by
  have hs := popTimerForEvent_state mc e
  unfold deliver handleEvent
  rw [hs]
  rcases he with rfl | ⟨channel, pair, rfl⟩ | ⟨channel, pair, rfl⟩ <;> cases mc.state <;> rfl

theorem drives_timer (event : FsmEvent) : Drives w env s (s.timer env url event) := by
  have hpop : ∀ {e : FsmEvent}, e = .timerTokenRefreshDue ∨
      (∃ channel pair, e = .timerSubscribeResendDue channel pair) ∨
      (∃ channel pair, e = .timerBookReseedSnapshot channel pair) →
      Drives w env s (s.updateConn url (·.popTimerForEvent e)) := by
    intro e he
    refine drives_updateConn ?_
    rw [← deliver_reactorSide env he]
    refine driven_deliver ?_
    rcases he with rfl | ⟨channel, pair, rfl⟩ | ⟨channel, pair, rfl⟩ <;> simp
  unfold timer
  split_ifs with harmed
  · dsimp only
    split
    · refine ((hpop (.inr (.inl ⟨_, _, rfl⟩))).trans (drives_updateConn ?_)).trans (drives_project _ _)
      exact driven_handleSubscribeResend (r := IoReactor.reactorEnv _ env url) url fun f hf => frameFor_within hw hf
    · exact ((hpop (.inr (.inr ⟨_, _, rfl⟩))).trans (drives_handleBookReseedTimeout hw _)).trans (drives_project _ _)
    · refine (hpop (.inl rfl)).trans (drives_updateConn ?_)
      unfold rearmProactiveRefresh
      split_ifs
      · exact .refl
      · exact driven_update (.setTokenRefreshDue _)
    · refine Drives.trans ?_ (drives_project _ _)
      intro u
      by_cases hu : u = url
      · subst hu
        rw [conns_updateConn, conns_updateConn]
        refine driven_deliver ?_
        rintro ⟨id, rfl⟩
        cases harmed
      · rw [conns_updateConn_of_ne _ _ _ hu, conns_updateConn_of_ne _ _ _ hu]
  · exact .refl s

omit hw in
theorem drives_whenMapped {next : IoReactor} (h : Drives w env s next) : Drives w env s (s.whenMapped url next) := by
  unfold whenMapped
  split_ifs
  · exact h
  · exact .refl s

end refuses

theorem drives_trySend (q : QueuedOutcome) : Drives w env s (s.trySend q).2 := by
  unfold trySend
  split_ifs <;> exact .of_eq rfl

theorem drives_reportOk (connectionId : SocketId) : Drives w env s (s.reportOk url connectionId) := by
  unfold reportOk trySend
  split_ifs <;> exact .of_eq rfl

theorem drives_reportFallback : Drives w env s s.reportFallback := by
  unfold reportFallback
  split
  · exact .refl s
  · rename_i q rest _
    have hrest : Drives w env s { s with fallbacks := rest } := .of_eq rfl
    exact hrest.trans (drives_trySend _)

/-! ## Every arm -/

/-- **Every arm drives both connections**. -/
theorem drives_step (s : IoReactor) (l : ArmLabel) (hforce : Forces l.arm → w.forces)
    (hw : Refuses l.env → w.refuses) : Drives w l.env s (s.step l) := by
  obtain ⟨env, arm⟩ := l
  cases arm with
  | reportOk url connectionId => exact drives_reportOk connectionId
  | reportFallback => exact drives_reportFallback
  | reportFailed url connectionId kind transient => exact drives_trySend _
  | callerEvent url event => exact drives_callerEvent event fun ⟨id, h⟩ => hforce ⟨url, id, by rw [h]⟩
  | registerBatch url entries refId => exact drives_registerBatch hw refId entries
  | deregister channel pair => exact drives_deregisterOne channel pair
  | deregisterAll channel => exact drives_deregisterAll channel
  | guardDrop handlerId channel symbols => exact drives_guardDrop handlerId channel symbols
  | wsRequestFrame f =>
    refine drives_updateConn (f := fun mc => mc.handleWsRequestFrame (s.reactorEnv env .authUrl) f) ?_
    exact driven_handleWsRequestFrame (r := s.reactorEnv env .authUrl) f
  | abandonWsRequest reqId =>
    refine drives_updateConn (f := fun mc => mc.abandonWsRequest reqId) ?_
    exact driven_failPendingRequest reqId .responseTimeout
  | takeOutcome => exact drives_takeOutcome hw
  | refreshed requestId result => exact drives_refreshed hw requestId result
  | textFrame url json => exact drives_whenMapped (drives_textFrame hw json)
  | otherFrame url => exact drives_whenMapped (drives_update .noteInboundActivity)
  | closeFrame url code reason => exact drives_whenMapped (drives_driveWireClose (.inl ⟨_, _, rfl⟩))
  | recvError url error => exact drives_whenMapped (drives_driveWireClose (.inr ⟨_, rfl⟩))
  | timer url event => exact drives_timer hw event

/-! ## Every run -/

/-- **The reactor refines the runs of its connections**: when the outbound queue refuses no subscribe frame, what a
run of the reactor makes of each connection is what some run of that connection makes of it, the bus apart; and that
run forces a reconnect only if the reactor's does. -/
theorem reactor_refines (knobs : Knobs) (ls : List ArmLabel) (hsent : ∀ l ∈ ls, ¬ Refuses l.env) (url : WsUrl) :
    ∃ ls' : List Label, Alike ((run knobs ls).conns url) (ManagedConnection.run url knobs ls') ∧
      ((∃ l' ∈ ls', ForcesReconnect l'.act) → ∃ l ∈ ls, Forces l.arm) := by
  induction ls using List.reverseRecOn with
  | nil => exact ⟨[], Alike.refl (new url knobs), by simp⟩
  | append_singleton ls l ih =>
    obtain ⟨ls', halike, hforce⟩ := ih fun l' hl' => hsent l' (List.mem_append_left _ hl')
    obtain ⟨as, hstep, has⟩ :=
      (drives_step (w := ⟨Forces l.arm, Refuses l.env⟩) (run knobs ls) l id id url).acts (hsent l (by simp))
    have hrun : run knobs (ls ++ [l]) = (run knobs ls).step l := StepSystem.exec_append _ _ _
    refine ⟨ls' ++ as.map (⟨l.env.toEnv, ·⟩), ?_, ?_⟩
    · have hrun' : ManagedConnection.run url knobs (ls' ++ as.map (⟨l.env.toEnv, ·⟩)) =
          StepSystem.exec ManagedConnection.step (ManagedConnection.run url knobs ls') (as.map (⟨l.env.toEnv, ·⟩)) :=
        StepSystem.exec_append _ _ _
      rw [hrun, hrun']
      exact hstep.trans (alike_exec halike _)
    · rintro ⟨l', hl', hf⟩
      rcases List.mem_append.1 hl' with hmem | hmem
      · obtain ⟨l₀, hl₀, hf₀⟩ := hforce ⟨l', hmem, hf⟩
        exact ⟨l₀, List.mem_append_left _ hl₀, hf₀⟩
      · obtain ⟨a, ha, rfl⟩ := List.mem_map.1 hmem
        exact ⟨l, by simp, has a ha hf⟩

/-- A registration starts the connection, and its upgrade succeeds. -/
def upgraded : List ArmLabel :=
  [⟨bringUpEnv 1, .registerBatch .publicUrl [⟨.status, none, .status⟩] none⟩, ⟨bringUpEnv 1, .reportOk .publicUrl 1⟩,
    ⟨bringUpEnv 1, .takeOutcome⟩]

theorem reactor_refines_upgraded : ((run (bringUpEnv 1).knobs upgraded).conns .publicUrl).state = .resubscribing ∧
    ∃ ls' : List Label, Alike ((run (bringUpEnv 1).knobs upgraded).conns .publicUrl)
      (ManagedConnection.run .publicUrl (bringUpEnv 1).knobs ls') ∧
        ((∃ l' ∈ ls', ForcesReconnect l'.act) → ∃ l ∈ upgraded, Forces l.arm) :=
  ⟨by decide, reactor_refines _ upgraded (by simp [upgraded, Refuses, bringUpEnv]) .publicUrl⟩

end KrakenSdk.Dispatch.IoReactor
