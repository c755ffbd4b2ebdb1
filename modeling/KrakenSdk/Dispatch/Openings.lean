import KrakenSdk.Conn.Openings
import KrakenSdk.Dispatch.SendReady
/-!
# What is still to be sent when a connection opens (dispatch/io_reactor)

`complete_resubscribe_if_empty` opens a connection once no ack and no resend is waited for; `handle_sub_ack` opens it
with the last ack timer, whatever waits for its resend. `opensClean_iff`: in a run the two agree,
and every connection opens with no subscribe timer armed, exactly if no last ack comes while a resend of another key
is due.
-/
namespace KrakenSdk.Dispatch.IoReactor

open KrakenSdk.Conn KrakenSdk.Conn.ManagedConnection StepSystem

/-- In `Resubscribing` the frame is taken as an ack of the key, and its timer waits for it. -/
structure AcksArmed (s : IoReactor) (url : WsUrl) (json : Json) (key : EntryKey) : Prop where
  mapped : (s.sockets url).isSome = true
  unanswered : url = .authUrl → decodeResponse json = none
  method : (json.get? "method").bind Json.asStr? = some "subscribe"
  resolved : ackKey (s.conns url) json = some key
  state : (s.conns url).state = .resubscribing
  armed : (s.conns url).isSubscribeAckArmed key = true
  taken : ((json.get? "success").bind Json.asBool?).getD false = true ∨
    key.1 = .status ∧ ((json.get? "error").bind Json.asStr?).any (fun e => strContains e "Symbol(s) not found") = true

/-- What opens has no subscribe timer left, and the ack opens where the short-circuit would. -/
def OpensClean (s : IoReactor) (l : ArmLabel) : Prop :=
  (∀ url, Opens (s.conns url) ((s.step l).conns url)) ∧
    ∀ url json key, l.arm = .textFrame url json → s.AcksArmed url json key →
      (((s.step l).conns url).state = .opened ↔
        (((s.conns url).disarmSubscribeAck key).completeResubscribeIfEmpty l.env.toEnv).state = .opened)

/-- No last ack comes while the resend of another key is due. -/
def LastAckClean (s : IoReactor) (l : ArmLabel) : Prop :=
  ∀ url json key, l.arm = .textFrame url json → s.AcksArmed url json key →
    (s.conns url).pendingSubscribeAckCount ≤ 1 → (s.conns url).ResendsOut key

/-- No connection opens. -/
def ShutAll (s s' : IoReactor) : Prop := ∀ u, Shut (s.conns u) (s'.conns u)

/-- What opens has no subscribe timer left. -/
def OpensAll (s s' : IoReactor) : Prop := ∀ u, Opens (s.conns u) (s'.conns u)

variable {s s' s'' : IoReactor} {env : ArmEnv} {url : WsUrl}

theorem ShutAll.of_conns (hc : s'.conns = s.conns) : ShutAll s s' := fun u => by rw [hc]; exact .refl _

theorem ShutAll.trans (h : ShutAll s s') (h' : ShutAll s' s'') : ShutAll s s'' := fun u => (h u).trans (h' u)

theorem ShutAll.opens (h : ShutAll s s') : OpensAll s s' := fun u => (h u).opens

theorem OpensAll.after (h : ShutAll s s') (h' : OpensAll s' s'') : OpensAll s s'' := fun u => .after (h u) (h' u)

theorem OpensAll.project (h : OpensAll s s') (url : WsUrl) : OpensAll s (s'.project url) := h

theorem shutAll_update {f : ManagedConnection → ManagedConnection} (hf : Shut (s.conns url) (f (s.conns url))) :
    ShutAll s (s.updateConn url f) := by
  intro u
  by_cases hu : u = url
  · subst hu
    rw [conns_updateConn]
    exact hf
  · rw [conns_updateConn_of_ne _ _ _ hu]
    exact .refl _

/-- The connection that is operated on last may open, if it has not before. -/
theorem OpensAll.update (h : OpensAll s s') (hurl : Shut (s.conns url) (s'.conns url))
    {f : ManagedConnection → ManagedConnection} (hf : Opens (s'.conns url) (f (s'.conns url))) :
    OpensAll s (s'.updateConn url f) := by
  intro u
  by_cases hu : u = url
  · subst hu
    rw [conns_updateConn]
    exact .after hurl hf
  · rw [conns_updateConn_of_ne _ _ _ hu]
    exact h u

theorem opensAll_update {f : ManagedConnection → ManagedConnection} (hf : Opens (s.conns url) (f (s.conns url))) :
    OpensAll s (s.updateConn url f) := OpensAll.update (ShutAll.of_conns rfl).opens (.refl _) hf

theorem shutAll_foldl {α : Type} {f : IoReactor → α → IoReactor} (hf : ∀ s a, ShutAll s (f s a)) (s : IoReactor)
    (as : List α) : ShutAll s (as.foldl f s) := by
  induction as generalizing s with
  | nil => exact .of_conns rfl
  | cons a as ih => exact (hf s a).trans (ih _)

theorem shutAll_event {e : FsmEvent} (he : ¬ Answers e) : ShutAll s (s.updateConn url (·.handleEvent env.toEnv e)) :=
  shutAll_update (shut_event he)

theorem opensAll_complete : OpensAll s (s.updateConn url (·.completeResubscribeIfEmpty env.toEnv)) :=
  opensAll_update opens_complete

/-! ## Arms that open nothing -/

theorem shutAll_callerEvent (event : CallerEvent) : ShutAll s (s.callerEvent env url event) :=
  (shutAll_event (by cases event <;> exact id)).trans (.of_conns rfl)

theorem shutAll_startIfIdle : ShutAll s (s.startIfIdle env url) := by
  unfold startIfIdle
  split_ifs
  · exact (shutAll_event id).trans (.of_conns rfl)
  · exact .of_conns rfl

theorem shutAll_subscribeFirst (f : SubscribeFrame) : ShutAll s (s.subscribeFirst env url f) := by
  unfold subscribeFirst
  cases url with
  | publicUrl => exact shutAll_update (shut_sendSingleSubscribe _ _)
  | authUrl =>
    dsimp only
    split_ifs
    · exact shutAll_update (shut_sendSingleSignedSubscribe _)
    · exact .of_conns rfl

theorem shutAll_registerBatch (refId : Option HandlerId) (regs : List Registration) :
    ShutAll s (s.registerBatch env url refId regs) := by
  refine shutAll_foldl (fun s reg => ?_) s regs
  have hone : ShutAll s (s.registerOneAndEmit env url refId reg) := by
    have hstart : ShutAll s (({ s with registry := registryAfter s.registry env url refId reg } :
        IoReactor).startIfIdle env url) :=
      @shutAll_startIfIdle { s with registry := registryAfter s.registry env url refId reg } env url
    rw [registerOneAndEmit_eq]
    split_ifs
    · exact hstart.trans (shutAll_subscribeFirst _)
    · exact hstart
  exact hone.trans (.of_conns (conns_dropDeadSocket _ _))

theorem shutAll_teardownReleasedKey (key : EntryKey) : ShutAll s (s.teardownReleasedKey key) := by
  refine shutAll_update (shut_kept ?_)
  rfl

theorem shutAll_driveWireClose {event : FsmEvent} (he : WireLost event) : ShutAll s (s.driveWireClose env url event) := by
  have hlost : ¬ Answers event := by rcases he with ⟨code, reason, rfl⟩ | ⟨error, rfl⟩ <;> exact id
  have hdead : ShutAll s ({ s with sockets := Function.update s.sockets url none }.updateConn url
      (·.handleEvent env.toEnv event)) :=
    @shutAll_event { s with sockets := Function.update s.sockets url none } env url event hlost
  unfold driveWireClose
  dsimp only
  split_ifs
  · exact hdead.trans (.of_conns rfl)
  · exact hdead

theorem shutAll_recoverBookGap (s : IoReactor) (symbol : Symbol) : ShutAll s (recoverBookGap env url s symbol) := by
  unfold recoverBookGap
  dsimp only
  split
  · exact .of_conns rfl
  · exact @shutAll_update { s with registry := s.registry.beginBookResync .book symbol } _ _ (shut_sendBookReseed _ _)

theorem shutAll_handleBookReseedTimeout (pair : Option Symbol) : ShutAll s (s.handleBookReseedTimeout env url pair) := by
  unfold handleBookReseedTimeout
  cases pair with
  | none => exact .of_conns rfl
  | some symbol =>
    dsimp only
    split
    · exact @shutAll_update { s with registry := (s.registry.noteReseedTimeout .book symbol).1 } _ _
        (shut_sendBookReseed _ _)
    · exact .of_conns rfl

theorem shutAll_trySend (q : QueuedOutcome) : ShutAll s (s.trySend q).2 := by
  unfold trySend
  split_ifs <;> exact .of_conns rfl

theorem shutAll_reportOk (connectionId : SocketId) : ShutAll s (s.reportOk url connectionId) := by
  unfold reportOk trySend
  split_ifs <;> exact .of_conns rfl

theorem shutAll_reportFallback : ShutAll s s.reportFallback := by
  unfold reportFallback
  split
  · exact .of_conns rfl
  · rename_i url connectionId rest _
    have hrest : ShutAll s { s with fallbacks := rest } := .of_conns rfl
    exact hrest.trans (shutAll_trySend _)

/-- The drain of the deferred subscribes. -/
theorem shut_sendDeferred (ds : List (ChannelName × Option Symbol × SubscribeParams)) (mc : ManagedConnection) :
    Shut mc (s.sendDeferred env ds mc) := by
  induction ds generalizing mc with
  | nil => exact .refl mc
  | cons x ds ih =>
    obtain ⟨channel, pair, params⟩ := x
    have hsend : Shut mc (mc.sendSingleSignedSubscribe (s.reactorEnv env .authUrl)
        ⟨(channel, pair), params, env.sendFrame (channel, pair)⟩) := shut_sendSingleSignedSubscribe _
    simp only [sendDeferred]
    split_ifs
    · exact ih mc
    · exact hsend.trans (ih _)
    · exact hsend

theorem shut_deliverRefresh (mc : ManagedConnection) (requestId : Nat) (result : Except AuthError Unit) :
    Shut mc (s.deliverRefresh env requestId result mc) := by
  unfold deliverRefresh
  split_ifs
  · cases result with
    | ok u =>
      dsimp only
      have hevent : Shut mc (mc.handleEvent env.toEnv (.busTokenRefreshed requestId)) := shut_event id
      split_ifs
      · exact hevent.trans shut_sendFirstSignedSubscribe
      · exact hevent
    | error e => exact shut_event id
  · exact .refl mc

theorem shutAll_refreshed (requestId : Nat) (result : Except AuthError Unit) :
    ShutAll s (s.refreshed env requestId result) := by
  have hdeliver : ShutAll s (s.updateConn .authUrl (s.deliverRefresh env requestId result)) :=
    shutAll_update (shut_deliverRefresh _ _ _)
  have hdrain : ∀ t : IoReactor, ShutAll t (t.updateConn .authUrl fun mc =>
      t.sendDeferred env mc.drainDeferredOpenAuthSubscribes.1 mc.drainDeferredOpenAuthSubscribes.2) := by
    intro t
    have hdrained : Shut (t.conns .authUrl) (t.conns .authUrl).drainDeferredOpenAuthSubscribes.2 := shut_kept rfl
    exact shutAll_update (hdrained.trans (shut_sendDeferred _ _))
  have hrearm : ∀ (t : IoReactor) due, ShutAll t (t.updateConn .authUrl (·.setTokenRefreshDue due)) :=
    fun _ _ => shutAll_update (shut_kept rfl)
  unfold refreshed
  dsimp only
  split_ifs
  · exact ((hdeliver.trans (hdrain _)).trans (hrearm _ _)).trans (.of_conns rfl)
  · exact (hdeliver.trans (hrearm _ _)).trans (.of_conns rfl)
  · exact (hdeliver.trans (hdrain _)).trans (.of_conns rfl)
  · exact hdeliver.trans (.of_conns rfl)

/-! ## Arms that end in the short-circuit -/

theorem opensAll_deregisterOne (channel : ChannelName) (pair : Option Symbol) :
    OpensAll s (s.deregisterOne env channel pair) := by
  have hreg : ShutAll s { s with registry := (s.registry.release (channel.wireChannel, pair)).1 } := .of_conns rfl
  unfold deregisterOne
  dsimp only
  split_ifs
  · exact hreg.opens
  · exact .after (hreg.trans (shutAll_teardownReleasedKey _)) opensAll_complete

theorem opensAll_deregisterAll (channel : Option ChannelName) : OpensAll s (s.deregisterAll env channel) := by
  have hfold : ∀ (es : List (SubscriptionEntry × RemovedEntryKind)) (t : IoReactor),
      ShutAll t (es.foldl (fun t e => t.teardownReleasedKey e.1.key) t) :=
    fun es t => shutAll_foldl (fun _ _ => shutAll_teardownReleasedKey _) t es
  have hreg : ShutAll s { s with registry := (s.registry.deregisterAll (channel.map ChannelName.wireChannel)).1 } :=
    .of_conns rfl
  have hall := hreg.trans (hfold (s.registry.deregisterAll (channel.map ChannelName.wireChannel)).2
    { s with registry := (s.registry.deregisterAll (channel.map ChannelName.wireChannel)).1 })
  unfold deregisterAll
  dsimp only
  split_ifs
  · -- Each connection is asked once.
    have hpublic := OpensAll.after hall (@opensAll_complete _ env .publicUrl)
    refine hpublic.update ?_ opens_complete
    rw [conns_updateConn_of_ne _ _ _ (by decide)]
    exact hall .authUrl
  · exact .after hall opensAll_complete
  · exact .after hall opensAll_complete
  · exact hall.opens

theorem opensAll_guardDrop (handlerId : HandlerId) (channel : ChannelName) (symbols : List Symbol) :
    OpensAll s (s.guardDrop env handlerId channel symbols) := by
  have hone : ∀ (acc : IoReactor × Bool) (key : EntryKey), ShutAll acc.1 (dropGuardRef handlerId acc key).1 := by
    rintro ⟨t, any⟩ key
    have hrel : ShutAll t { t with registry := (t.registry.releaseGuardRef handlerId key).1 } := .of_conns rfl
    unfold dropGuardRef
    dsimp only
    split_ifs
    · exact hrel.trans (shutAll_teardownReleasedKey key)
    · exact hrel
  have hfold : ∀ (keys : List EntryKey) (acc : IoReactor × Bool),
      ShutAll acc.1 (keys.foldl (dropGuardRef handlerId) acc).1 := by
    intro keys
    induction keys with
    | nil => exact fun _ => .of_conns rfl
    | cons key keys ih => exact fun acc => (hone acc key).trans (ih _)
  unfold guardDrop
  dsimp only
  split_ifs
  · exact .after (hfold _ (s, false)) opensAll_complete
  · exact (hfold _ (s, false)).opens
  · exact .after (hfold _ (s, false)) opensAll_complete
  · exact (hfold _ (s, false)).opens

theorem opensAll_replay : OpensAll s (s.replay env url) := by
  unfold replay
  refine OpensAll.project (opensAll_update ?_) url
  refine .after ?_ opens_complete
  cases s.sockets url with
  | none => exact .refl _
  | some socket => exact shut_replayFrames socket _

theorem opensAll_takeOutcome : OpensAll s (s.takeOutcome env) := by
  unfold takeOutcome
  split
  · exact (ShutAll.of_conns rfl).opens
  · rename_i q rest _
    have hrest : ShutAll s { s with upgradeRx := rest } := .of_conns rfl
    refine .after hrest ?_
    generalize ({ s with upgradeRx := rest } : IoReactor) = t
    cases q.outcome with
    | failed url kind transient =>
      have hfail : ¬ Answers (upgradeFailureEvent kind transient) := by cases kind <;> exact id
      exact ((shutAll_event hfail).trans (.of_conns (conns_dropDeadSocket _ _))).opens
    | ok url connectionId =>
      have hevent : ShutAll t (t.updateConn url (·.handleEvent env.toEnv (.wireUpgradeOk (some connectionId)))) :=
        shutAll_update (shut_wireUpgradeOk _)
      have hfirst : ∀ t : IoReactor, ShutAll t (t.updateConn url (·.sendFirstSignedSubscribe (t.reactorEnv env url))) :=
        fun t => shutAll_update shut_sendFirstSignedSubscribe
      simp only [upgradeArm]
      split_ifs
      · unfold upgradeOk
        dsimp only
        generalize t.updateConn url (·.handleEvent env.toEnv (.wireUpgradeOk (some connectionId))) = u at hevent ⊢
        refine .after hevent ?_
        split_ifs with _ hauth
        · -- A connection that the replay opened sends no probe.
          have hreplay := @opensAll_replay u env url
          refine hreplay.update (fun ho => ?_) shut_sendFirstSignedSubscribe.opens
          rw [hauth] at ho
          cases ho
        · exact opensAll_replay
        · exact (hfirst u).opens
        · exact (ShutAll.of_conns rfl).opens
      · exact (ShutAll.of_conns rfl).opens

theorem opensAll_timer (event : FsmEvent) : OpensAll s (s.timer env url event) := by
  have hpop : ShutAll s (s.updateConn url (·.popTimerForEvent event)) :=
    shutAll_update (shut_kept (popTimerForEvent_state _ _))
  unfold timer
  split_ifs with harmed
  · dsimp only
    split
    · refine OpensAll.project (.after hpop (opensAll_update ?_)) url
      exact opens_handleSubscribeResend _ _
    · exact ((hpop.trans (shutAll_handleBookReseedTimeout _)).trans (.of_conns rfl)).opens
    · refine (hpop.trans (shutAll_update (shut_kept ?_))).opens
      unfold rearmProactiveRefresh
      split_ifs <;> rfl
    · refine ((hpop.trans (shutAll_event fun hanswers => ?_)).trans (.of_conns rfl)).opens
      cases event <;> first | exact hanswers | cases harmed
  · exact (ShutAll.of_conns rfl).opens

/-! ## The frame arm -/

theorem opensAll_requestResponse (json : Json) : OpensAll s (s.requestResponse env url json).2 := by
  cases url with
  | publicUrl => exact (ShutAll.of_conns rfl).opens
  | authUrl =>
    have hroute : Opens (s.conns .authUrl)
        ((s.conns .authUrl).handleRequestResponse (s.reactorEnv env .authUrl) json).2 := by
      unfold handleRequestResponse
      split
      · exact .refl _
      · exact .refl _
      · exact opens_routeResponse _
    have hopens : OpensAll s (s.updateConn .authUrl fun mc => (mc.handleRequestResponse (s.reactorEnv env .authUrl)
        json).2) := opensAll_update hroute
    exact hopens

theorem opensAll_handshakeAck (key : EntryKey) (success : Bool) (error : Option String) :
    OpensAll s (s.handshakeAck env url key success error) := by
  unfold handshakeAck
  split_ifs
  · have hok : ShutAll s (s.updateConn url fun mc =>
        (mc.handleEvent env.toEnv .wireAuthHandshakeOk).disarmSubscribeAck key) :=
      shutAll_update (shut_wireAuthHandshakeOk.trans (shut_kept rfl))
    have hacked : ∀ t : IoReactor, ShutAll t ({ t with registry := t.registry.noteAcked key }.updateConn url
        (·.removeDeferredOpenAuthSubscribe key)) :=
      fun t => @shutAll_update { t with registry := t.registry.noteAcked key } _ _ (shut_kept rfl)
    dsimp only
    split_ifs
    · refine .after (hok.trans (hacked _)) (opensAll_update ?_)
      exact .after (shut_sendRemainingSignedSubscribes _) opens_complete
    · exact (hok.trans (hacked _)).opens
  · refine (shutAll_update ?_).opens
    have hfail : Shut (s.conns url) (((s.conns url).handleEvent env.toEnv (.wireAuthHandshakeFailed
        (classifyAuthHandshakeError (error.getD "auth handshake rejected")))).disarmSubscribeAck key) :=
      (shut_event id).trans (shut_kept rfl)
    dsimp only
    split_ifs
    · exact hfail.trans (shut_kept rfl)
    · exact hfail

theorem opensAll_lateAck (key : EntryKey) (success : Bool) : OpensAll s (s.lateAck env url key success) := by
  unfold lateAck
  split_ifs
  · refine opensAll_update ?_
    exact .after (shut_kept (m := ((s.conns url).disarmSubscribeAck key).removeDeferredOpenAuthSubscribe key) rfl)
      opens_complete
  · exact (ShutAll.of_conns rfl).opens

theorem opensAll_armedAck {key : EntryKey} {success : Bool} {error : Option String}
    (hk : (success = true ∨ key.1 = .status ∧ error.any (fun e => strContains e "Symbol(s) not found") = true) →
      Opens (s.conns url) (((s.conns url).removeDeferredOpenAuthSubscribe key).handleEvent env.toEnv
        (.wireSubscribeAck key.1 key.2 (decide ((s.conns url).pendingSubscribeAckCount ≤ 1))))) :
    OpensAll s (s.armedAck env url key success error) := by
  unfold armedAck
  dsimp only
  split_ifs with hack htransient
  · have htaken : success = true ∨ key.1 = .status ∧ error.any (fun e => strContains e "Symbol(s) not found") = true := by
      simp only [Bool.or_eq_true, Bool.and_eq_true, decide_eq_true_eq] at hack
      rcases hack with hs | ⟨⟨hstatus, -⟩, herr⟩
      · exact .inl hs
      · exact .inr ⟨hstatus, herr⟩
    exact @opensAll_update { s with registry := s.registry.noteAcked key } _ _ (hk htaken)
  · exact opensAll_update (opens_wireSubscribeFailed _)
  · have hreg : ∀ cause lastError, ShutAll s ({ s with registry := s.registry.noteTerminated key cause lastError
        }.updateConn url (·.disarmBookReseedSnapshot key)) := fun cause lastError =>
      @shutAll_update { s with registry := s.registry.noteTerminated key cause lastError } _ _ (shut_kept rfl)
    exact .after (hreg _ _) (opensAll_update (opens_wireSubscribeFailed _))

/-- What an ack frame does to its connection. -/
theorem conns_textFrame_acksArmed {json : Json} {key : EntryKey} (h : s.AcksArmed url json key) :
    (s.textFrame env url json).conns url =
      (((s.conns url).noteInboundActivity env.toEnv).removeDeferredOpenAuthSubscribe key).handleEvent env.toEnv
        (.wireSubscribeAck key.1 key.2 (decide ((s.conns url).pendingSubscribeAckCount ≤ 1))) := by
  have hconn : (s.updateConn url (·.noteInboundActivity env.toEnv)).conns url =
      (s.conns url).noteInboundActivity env.toEnv := conns_updateConn _ _ _
  have hreq : ((s.updateConn url (·.noteInboundActivity env.toEnv)).requestResponse env url json).1 = false := by
    cases url with
    | publicUrl => rfl
    | authUrl => simp only [requestResponse, handleRequestResponse, h.unanswered rfl]
  rw [textFrame_eq]
  dsimp only
  rw [if_neg (by simp [hreq])]
  generalize s.updateConn url (·.noteInboundActivity env.toEnv) = t at hconn
  have hkey : ackKey (t.conns url) json = some key := by
    rw [hconn]
    exact h.resolved
  have hauth : ¬ (t.conns url).state = .authenticating := by
    have hs : (t.conns url).state = .resubscribing := by
      rw [hconn]
      exact h.state
    simp [hs]
  have harmed : (t.conns url).isSubscribeAckArmed key = true := by
    rw [hconn]
    exact h.armed
  have hcount : (t.conns url).pendingSubscribeAckCount = (s.conns url).pendingSubscribeAckCount := by
    rw [hconn]
    rfl
  have htaken : (((json.get? "success").bind Json.asBool?).getD false || (key.1 = .status &&
      !((json.get? "success").bind Json.asBool?).getD false &&
        ((json.get? "error").bind Json.asStr?).any fun e => strContains e "Symbol(s) not found")) = true := by
    cases hsuccess : ((json.get? "success").bind Json.asBool?).getD false with
    | true => rfl
    | false =>
      obtain ⟨hstatus, herr⟩ := h.taken.resolve_left (by simp [hsuccess])
      simp [hstatus, herr]
  have hsub : t.handleSubAck env url json = (true, t.armedAck env url key
      (((json.get? "success").bind Json.asBool?).getD false) ((json.get? "error").bind Json.asStr?)) := by
    unfold handleSubAck
    rw [h.method]
    dsimp only
    rw [hkey]
    dsimp only
    rw [if_neg hauth, if_neg (by simp [harmed])]
    rfl
  rw [hsub, if_pos rfl]
  unfold armedAck
  dsimp only
  rw [if_pos htaken, conns_updateConn, ← hconn, hcount]

/-- A frame that is no last ack with a resend outstanding. -/
theorem opensAll_textFrame {json : Json} (hmapped : (s.sockets url).isSome = true)
    (hk : ∀ key, s.AcksArmed url json key → (s.conns url).pendingSubscribeAckCount ≤ 1 → (s.conns url).ResendsOut key) :
    OpensAll s (s.textFrame env url json) := by
  have hnote : ShutAll s (s.updateConn url (·.noteInboundActivity env.toEnv)) := shutAll_update (shut_kept rfl)
  have hconn : (s.updateConn url (·.noteInboundActivity env.toEnv)).conns url =
      (s.conns url).noteInboundActivity env.toEnv := conns_updateConn _ _ _
  rw [textFrame_eq]
  dsimp only
  split_ifs with hreq hsub
  · exact .after hnote (opensAll_requestResponse json)
  · have hnone : url = .authUrl → decodeResponse json = none := by
      rintro rfl
      have hfalse := Bool.not_eq_true _ ▸ hreq
      unfold requestResponse handleRequestResponse at hfalse
      dsimp only at hfalse
      cases hd : decodeResponse json with
      | none => rfl
      | some answer =>
        rw [hd] at hfalse
        cases answer <;> cases hfalse
    refine .after hnote ?_
    generalize s.updateConn url (·.noteInboundActivity env.toEnv) = t at hconn
    unfold handleSubAck
    split
    · exact (ShutAll.of_conns rfl).opens
    · rename_i hmethod
      dsimp only
      split
      · exact (ShutAll.of_conns rfl).opens
      · rename_i key hkey
        split_ifs with hauth harmed
        · exact opensAll_handshakeAck _ _ _
        · exact opensAll_lateAck _ _
        · refine opensAll_armedAck fun htaken => ?_
          have hack : (t.conns url).isSubscribeAckArmed key = true := by simpa using harmed
          by_cases hs : (t.conns url).state = .resubscribing
          · have hresub : ((t.conns url).removeDeferredOpenAuthSubscribe key).state = .resubscribing := hs
            refine (opens_lastAck_iff hresub (by exact hack)).2 fun hcount => ?_
            rw [hconn] at hkey hs hack hcount ⊢
            exact hk key ⟨hmapped, hnone, hmethod, hkey, hs, hack, htaken⟩ hcount
          · exact (Shut.trans (shut_kept rfl)
              (@shut_ack ((t.conns url).removeDeferredOpenAuthSubscribe key) _ _ hs _)).opens
    · exact (ShutAll.of_conns rfl).opens
  · have hdata : ShutAll s (s.routed env url json) := hnote.trans (.of_conns rfl)
    exact (hdata.trans (shutAll_foldl shutAll_recoverBookGap _ _)).opens

/-- An arm that is no text frame. -/
theorem opensAll_step (s : IoReactor) {l : ArmLabel} (hno : ∀ url json, l.arm ≠ .textFrame url json) :
    OpensAll s (s.step l) := by
  have hmapped : ∀ {url : WsUrl} {next : IoReactor}, ShutAll s next → OpensAll s (s.whenMapped url next) := by
    intro url next h
    unfold whenMapped
    split_ifs
    · exact h.opens
    · exact (ShutAll.of_conns rfl).opens
  obtain ⟨env, arm⟩ := l
  cases arm with
  | textFrame url json => exact absurd rfl (hno url json)
  | reportOk url connectionId => exact (shutAll_reportOk connectionId).opens
  | reportFallback => exact shutAll_reportFallback.opens
  | reportFailed url connectionId kind transient => exact (shutAll_trySend _).opens
  | callerEvent url event => exact (shutAll_callerEvent event).opens
  | registerBatch url regs refId => exact (shutAll_registerBatch refId regs).opens
  | deregister channel pair => exact opensAll_deregisterOne channel pair
  | deregisterAll channel => exact opensAll_deregisterAll channel
  | guardDrop handlerId channel symbols => exact opensAll_guardDrop handlerId channel symbols
  | wsRequestFrame f =>
    simp only [step]
    exact (shutAll_update (shut_handleWsRequestFrame f)).opens
  | abandonWsRequest reqId =>
    simp only [step]
    exact (shutAll_update (shut_kept rfl)).opens
  | takeOutcome => exact opensAll_takeOutcome
  | refreshed requestId result => exact (shutAll_refreshed requestId result).opens
  | otherFrame url => exact hmapped (shutAll_update (shut_kept rfl))
  | closeFrame url code reason => exact hmapped (shutAll_driveWireClose (.inl ⟨_, _, rfl⟩))
  | recvError url error => exact hmapped (shutAll_driveWireClose (.inr ⟨_, rfl⟩))
  | timer url event => exact opensAll_timer event

/-- **One arm.** -/
theorem opensClean_step_iff (s : IoReactor) (l : ArmLabel) : s.OpensClean l ↔ s.LastAckClean l := by
  obtain ⟨env, arm⟩ := l
  by_cases htext : ∃ url json, arm = .textFrame url json
  · obtain ⟨url, json, rfl⟩ := htext
    have hack : ∀ {key : EntryKey}, s.AcksArmed url json key → (s.step ⟨env, .textFrame url json⟩).conns url =
        (((s.conns url).noteInboundActivity env.toEnv).removeDeferredOpenAuthSubscribe key).handleEvent env.toEnv
          (.wireSubscribeAck key.1 key.2 (decide ((s.conns url).pendingSubscribeAckCount ≤ 1))) := by
      intro key h
      simp only [step]
      rw [whenMapped, if_pos h.mapped]
      exact conns_textFrame_acksArmed h
    constructor
    · rintro ⟨hopens, -⟩ url' json' key harm hk hcount
      cases harm
      have hone := hopens url
      rw [hack hk] at hone
      exact (@opens_lastAck_iff (((s.conns url).noteInboundActivity env.toEnv).removeDeferredOpenAuthSubscribe key) _ key
        hk.state hk.armed).1 hone hcount
    · intro h
      refine ⟨fun u => ?_, ?_⟩
      · have hall : OpensAll s (s.step ⟨env, .textFrame url json⟩) := by
          simp only [step]
          unfold whenMapped
          split_ifs with hmapped
          · exact opensAll_textFrame hmapped fun key => h url json key rfl
          · exact (ShutAll.of_conns rfl).opens
        exact hall u
      · rintro url' json' key harm hk
        cases harm
        rw [hack hk, opened_shortCircuit hk.state hk.armed]
        have hlast := @handleEvent_lastAck (((s.conns url).noteInboundActivity
          env.toEnv).removeDeferredOpenAuthSubscribe key) env.toEnv key hk.state
        have hcount : (((s.conns url).noteInboundActivity env.toEnv).removeDeferredOpenAuthSubscribe
          key).pendingSubscribeAckCount = (s.conns url).pendingSubscribeAckCount := rfl
        rw [hcount] at hlast
        rw [hlast]
        split_ifs with hle
        · exact iff_of_true rfl ⟨hle, h url json key rfl hk hle⟩
        · refine iff_of_false ?_ fun hboth => hle hboth.1
          have hs : ((((s.conns url).noteInboundActivity env.toEnv).removeDeferredOpenAuthSubscribe
            key).disarmSubscribeAck key).state = .resubscribing := hk.state
          rw [hs]
          rintro ⟨⟩
  · have hno : ∀ url json, (⟨env, arm⟩ : ArmLabel).arm ≠ .textFrame url json := fun url json harm => htext ⟨url, json, harm⟩
    refine iff_of_true ⟨opensAll_step s hno, fun url json key harm => absurd harm (hno url json)⟩ ?_
    exact fun url json key harm => absurd harm (hno url json)

/-- **Along a run** every connection opens with no subscribe timer armed, and the two ways to open agree, exactly if
no last ack comes while the resend of another key is due. -/
theorem opensClean_iff (knobs : Knobs) (ls : List ArmLabel) :
    Allowed step OpensClean (init knobs) ls ↔ Allowed step LastAckClean (init knobs) ls :=
  allowed_congr (J := fun _ => True) (fun _ _ _ _ => trivial) (fun s l _ => opensClean_step_iff s l) trivial
    (allowed_anyStep _ _)

/-- Two subscriptions come up. The ack of the second is late, and it is to be sent again when the first is acked. -/
def lateSecond : List ArmLabel :=
  [⟨bringUpEnv 1, .registerBatch .publicUrl [⟨.status, none, .status⟩,
      ⟨.ticker, some "BTC/USD", .ticker none none⟩] none⟩,
    ⟨bringUpEnv 1, .reportOk .publicUrl 1⟩, ⟨bringUpEnv 1, .takeOutcome⟩,
    ⟨bringUpEnv 1, .timer .publicUrl (.timerSubscribeAckTimeout .ticker (some "BTC/USD"))⟩,
    ⟨bringUpEnv 1, .textFrame .publicUrl (.obj [("method", .str "subscribe"), ("success", .bool true),
      ("result", .obj [("channel", .str "status")])])⟩]

/-- The connection opens, with the resend of the second still due. -/
theorem lateSecond_opens : ¬ ∀ (knobs : Knobs) (ls : List ArmLabel), Allowed step OpensClean (init knobs) ls := by
  intro h
  obtain ⟨-, -, -, -, ⟨hopens, -⟩, -⟩ := h (bringUpEnv 0).knobs lateSecond
  refine hopens .publicUrl (by decide +kernel) (by decide +kernel) (.ticker, some "BTC/USD") (.inr ?_)
  decide +kernel

end KrakenSdk.Dispatch.IoReactor
