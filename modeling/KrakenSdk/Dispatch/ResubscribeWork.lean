import KrakenSdk.Conn.Working
import KrakenSdk.Dispatch.SendReady
/-!
# `Resubscribing` is left with work (dispatch/io_reactor)

In `Resubscribing` the public connection waits for subscribe acks; `complete_resubscribe_if_empty` opens it once
it waits for nothing. Of the paths into `Resubscribing` only the replay of a reconnect ends in that call: a first
success calls nothing. Of the paths that take a timer, only the resend of a key that is not there calls nothing.
`LeavesWork` names the two.

`waits_iff` says that these are all; `bareFirstOpen_waits_forever` is a run that reaches the first.
-/
namespace KrakenSdk.Dispatch.IoReactor

open KrakenSdk.Conn KrakenSdk.Conn.ManagedConnection KrakenSdk.Conn.SubscriptionRegistry

variable {s s' : IoReactor} {env : ArmEnv} {url : WsUrl}

/-! ## What should hold, and what it takes -/

/-- In `Resubscribing` a subscribe-ack timer or a resend timer is armed. -/
def Waits (s : IoReactor) : Prop := (s.conns .publicUrl).state = .resubscribing → ∃ key, (s.conns .publicUrl).Armed key

/-- The success of a first attempt finds a timer of a subscribe sent while `Connecting`. -/
def FirstOpenWorks (s : IoReactor) : Prop :=
  (s.conns .publicUrl).state = .connecting → (s.conns .publicUrl).hasBeenOpen = false →
    ∃ key, (s.conns .publicUrl).Armed key

/-- In `Resubscribing` a resend has a registered key and a socket, or is not the last timer. -/
def ResendWorks (s : IoReactor) (env : ArmEnv) (key : EntryKey) : Prop :=
  (s.conns .publicUrl).state = .resubscribing → s.frameFor env key = none ∨ s.sockets .publicUrl = none →
    ∃ k, ((s.conns .publicUrl).popTimerForEvent (.timerSubscribeResendDue key.1 key.2)).Armed k

/-- The step leaves `Resubscribing` something to wait for. -/
def LeavesWork (s : IoReactor) (l : ArmLabel) : Prop :=
  match l.arm with
  | .takeOutcome => ∀ q connectionId, s.upgradeRx.head? = some q → q.outcome = .ok .publicUrl connectionId →
      s.sockets .publicUrl = some connectionId → s.FirstOpenWorks
  | .timer .publicUrl (.timerSubscribeResendDue channel pair) =>
    timerArmed (s.conns .publicUrl) (.timerSubscribeResendDue channel pair) = true → s.ResendWorks l.env (channel, pair)
  | _ => True

/-! ## What holds of every state of such a run -/

/-- The public connection signs nothing. -/
def PublicUnsigned (s : IoReactor) : Prop := (s.conns .publicUrl).Unsigned

/-- And waits in `Resubscribing`. -/
def PublicWorking (s : IoReactor) : Prop := (s.conns .publicUrl).Working

theorem PublicWorking.unsigned (h : s.PublicWorking) : s.PublicUnsigned := h.toUnsigned

theorem PublicWorking.waits (h : s.PublicWorking) : s.Waits := h.work

theorem PublicUnsigned.working (h : s.PublicUnsigned) (hw : s.Waits) : s.PublicWorking := ⟨h, hw⟩

theorem publicWorking_init (knobs : Knobs) : (init knobs).PublicWorking := working_new knobs

/-! ## Frames of the step -/

theorem PublicWorking.of_conns (h : s.PublicWorking) (hc : s'.conns = s.conns) : s'.PublicWorking := by
  unfold PublicWorking
  rw [hc]
  exact h

theorem PublicUnsigned.of_conns (h : s.PublicUnsigned) (hc : s'.conns = s.conns) : s'.PublicUnsigned := by
  unfold PublicUnsigned
  rw [hc]
  exact h

/-- One connection is operated on; if it is the public one it still waits. -/
theorem PublicWorking.update (h : s.PublicWorking) {f : ManagedConnection → ManagedConnection}
    (hf : url = .publicUrl → (f (s.conns .publicUrl)).Working) : (s.updateConn url f).PublicWorking := by
  unfold PublicWorking
  cases url with
  | publicUrl =>
    rw [conns_updateConn]
    exact hf rfl
  | authUrl =>
    rw [conns_updateConn_of_ne s .authUrl f (by simp)]
    exact h

theorem publicWorking_updatePublic {f : ManagedConnection → ManagedConnection} (hf : (f (s.conns .publicUrl)).Working) :
    (s.updateConn .publicUrl f).PublicWorking := by
  unfold PublicWorking
  rw [conns_updateConn]
  exact hf

theorem publicWorking_updateAuth (h : s.PublicWorking) (f : ManagedConnection → ManagedConnection) :
    (s.updateConn .authUrl f).PublicWorking := h.update nofun

theorem PublicWorking.project (h : s.PublicWorking) (url : WsUrl) : (s.project url).PublicWorking := h

theorem PublicWorking.dropDeadSocket (h : s.PublicWorking) (url : WsUrl) : (s.dropDeadSocket url).PublicWorking :=
  h.of_conns (conns_dropDeadSocket s url)

theorem PublicWorking.trySend (h : s.PublicWorking) (q : QueuedOutcome) : (s.trySend q).2.PublicWorking := by
  unfold IoReactor.trySend
  split_ifs <;> exact h

theorem publicWorking_event (h : s.PublicWorking) {e : FsmEvent} (hp : ¬ Decides e) :
    (s.updateConn url (·.handleEvent env.toEnv e)).PublicWorking := h.update fun _ => working_handleEvent h hp

/-! ### Registrations -/

theorem publicWorking_startIfIdle (h : s.PublicWorking) : (s.startIfIdle env url).PublicWorking := by
  unfold startIfIdle
  split_ifs
  · exact (publicWorking_event h id).project url
  · exact h

theorem publicWorking_subscribeFirst (h : s.PublicWorking) (f : SubscribeFrame) :
    (s.subscribeFirst env url f).PublicWorking := by
  unfold subscribeFirst
  cases url with
  | publicUrl => exact publicWorking_updatePublic (working_sendSingleSubscribe h _ f)
  | authUrl =>
    dsimp only
    split_ifs
    · exact publicWorking_updateAuth h _
    · exact h

theorem publicWorking_registerBatch (h : s.PublicWorking) (refId : Option HandlerId) (regs : List Registration) :
    (s.registerBatch env url refId regs).PublicWorking := by
  unfold registerBatch
  induction regs generalizing s with
  | nil => exact h
  | cons reg regs ih =>
    refine ih (PublicWorking.dropDeadSocket ?_ url)
    have hreg : ({ s with registry := registryAfter s.registry env url refId reg } : IoReactor).PublicWorking := h
    rw [registerOneAndEmit_eq]
    split_ifs
    · exact publicWorking_subscribeFirst (publicWorking_startIfIdle hreg) _
    · exact publicWorking_startIfIdle hreg

/-! ### Deregistrations -/

/-- The timers of a released key go, whoever waits for them: what is left is for the call that follows. -/
theorem publicUnsigned_teardown (h : s.PublicUnsigned) (key : EntryKey) : (s.teardownReleasedKey key).PublicUnsigned := by
  unfold PublicUnsigned teardownReleasedKey
  cases channelWsUrl key.1 with
  | publicUrl =>
    rw [conns_updateConn]
    exact ⟨h.url, h.handshake⟩
  | authUrl =>
    rw [conns_updateConn_of_ne s .authUrl _ (by simp)]
    exact h

theorem publicWorking_teardownAuth (h : s.PublicWorking) {key : EntryKey} (hk : channelWsUrl key.1 = .authUrl) :
    (s.teardownReleasedKey key).PublicWorking := by
  unfold teardownReleasedKey
  rw [hk]
  exact publicWorking_updateAuth h _

theorem publicWorking_complete (h : s.PublicUnsigned) :
    (s.updateConn .publicUrl (·.completeResubscribeIfEmpty env.toEnv)).PublicWorking :=
  publicWorking_updatePublic (working_completeResubscribeIfEmpty h)

theorem publicWorking_deregisterOne (h : s.PublicWorking) (channel : ChannelName) (pair : Option Symbol) :
    (s.deregisterOne env channel pair).PublicWorking := by
  have hrel : ({ s with registry := (s.registry.release (channel.wireChannel, pair)).1 } : IoReactor).PublicWorking := h
  unfold deregisterOne
  dsimp only
  split_ifs
  · exact hrel
  · cases hurl : channelWsUrl channel.wireChannel with
    | publicUrl => exact publicWorking_complete (publicUnsigned_teardown hrel.unsigned _)
    | authUrl => exact publicWorking_updateAuth (publicWorking_teardownAuth hrel hurl) _

theorem publicWorking_deregisterAll (h : s.PublicWorking) (channel : Option ChannelName) :
    (s.deregisterAll env channel).PublicWorking := by
  have hfold : ∀ (es : List (SubscriptionEntry × RemovedEntryKind)) (t : IoReactor), t.PublicWorking →
      (es.foldl (fun t e => t.teardownReleasedKey e.1.key) t).PublicUnsigned ∧
        ((es.any fun e => channelWsUrl e.1.channel = .publicUrl) = false →
          (es.foldl (fun t e => t.teardownReleasedKey e.1.key) t).PublicWorking) := by
    intro es t ht
    refine ⟨?_, ?_⟩
    · have hu := ht.unsigned
      clear ht
      induction es generalizing t with
      | nil => exact hu
      | cons e es ih => exact ih _ (publicUnsigned_teardown hu e.1.key)
    · induction es generalizing t with
      | nil => exact fun _ => ht
      | cons e es ih =>
        intro hno
        rw [List.any_cons, Bool.or_eq_false_iff] at hno
        refine ih _ (publicWorking_teardownAuth ht ?_) hno.2
        cases hurl : channelWsUrl e.1.key.1 with
        | authUrl => rfl
        | publicUrl => exact absurd hurl (of_decide_eq_false hno.1)
  obtain ⟨hunsigned, hworking⟩ := hfold (s.registry.deregisterAll (channel.map ChannelName.wireChannel)).2
    { s with registry := (s.registry.deregisterAll (channel.map ChannelName.wireChannel)).1 } h
  unfold deregisterAll
  dsimp only
  split_ifs with _ hpub hpub
  · exact publicWorking_updateAuth (publicWorking_complete hunsigned) _
  · exact publicWorking_updateAuth (hworking (by simpa using hpub)) _
  · exact publicWorking_complete hunsigned
  · exact hworking (by simpa using hpub)

theorem publicWorking_guardDrop (h : s.PublicWorking) (handlerId : HandlerId) (channel : ChannelName)
    (symbols : List Symbol) : (s.guardDrop env handlerId channel symbols).PublicWorking := by
  -- Every target is on the wire channel: a teardown sets the flag, and all of them are of one connection.
  have hone : ∀ (key : EntryKey) (acc : IoReactor × Bool), key.1 = channel.wireChannel →
      acc.1.PublicUnsigned ∧ (acc.2 = false ∨ channelWsUrl channel.wireChannel = .authUrl → acc.1.PublicWorking) →
        (dropGuardRef handlerId acc key).1.PublicUnsigned ∧ ((dropGuardRef handlerId acc key).2 = false ∨
          channelWsUrl channel.wireChannel = .authUrl → (dropGuardRef handlerId acc key).1.PublicWorking) := by
    rintro key ⟨t, flag⟩ hkey ⟨hu, hw⟩
    have hrel : ({ t with registry := (t.registry.releaseGuardRef handlerId key).1 } : IoReactor).PublicUnsigned := hu
    unfold dropGuardRef
    dsimp only
    split_ifs
    · refine ⟨publicUnsigned_teardown hrel key, ?_⟩
      rintro (hflag | hauth)
      · cases hflag
      · exact publicWorking_teardownAuth (PublicWorking.of_conns (hw (.inr hauth)) rfl) (by rw [hkey]; exact hauth)
    · exact ⟨hu, fun hc => PublicWorking.of_conns (hw hc) rfl⟩
  have hfold : ∀ (keys : List EntryKey) (acc : IoReactor × Bool), (∀ key ∈ keys, key.1 = channel.wireChannel) →
      acc.1.PublicUnsigned ∧ (acc.2 = false ∨ channelWsUrl channel.wireChannel = .authUrl → acc.1.PublicWorking) →
        (keys.foldl (dropGuardRef handlerId) acc).1.PublicUnsigned ∧ ((keys.foldl (dropGuardRef handlerId) acc).2 = false ∨
          channelWsUrl channel.wireChannel = .authUrl → (keys.foldl (dropGuardRef handlerId) acc).1.PublicWorking) := by
    intro keys
    induction keys with
    | nil => exact fun acc _ hacc => hacc
    | cons key keys ih =>
      intro acc hkeys hacc
      exact ih _ (fun k hk => hkeys k (List.mem_cons_of_mem _ hk)) (hone key acc (hkeys key List.mem_cons_self) hacc)
  have htargets : ∀ key ∈ guardTargets channel symbols, key.1 = channel.wireChannel := by
    intro key hkey
    unfold guardTargets at hkey
    split_ifs at hkey
    · rw [List.mem_singleton.1 hkey]
    · obtain ⟨sym, -, rfl⟩ := List.mem_map.1 hkey
      rfl
  obtain ⟨hunsigned, hworking⟩ := hfold (guardTargets channel symbols) (s, false) htargets ⟨h.unsigned, fun _ => h⟩
  show (if ((guardTargets channel symbols).foldl (dropGuardRef handlerId) (s, false)).2 then
    ((guardTargets channel symbols).foldl (dropGuardRef handlerId) (s, false)).1.updateConn
      (channelWsUrl channel.wireChannel) (·.completeResubscribeIfEmpty env.toEnv)
    else ((guardTargets channel symbols).foldl (dropGuardRef handlerId) (s, false)).1).PublicWorking
  split_ifs with hany
  · cases hurl : channelWsUrl channel.wireChannel with
    | publicUrl => exact publicWorking_complete hunsigned
    | authUrl => exact publicWorking_updateAuth (hworking (.inr hurl)) _
  · exact hworking (.inl (by simpa using hany))

/-! ### Upgrade outcomes -/

/-- A replay ends in `complete_resubscribe_if_empty`. -/
theorem publicWorking_replay (h : s.PublicUnsigned) : (s.replay env .publicUrl).PublicWorking := by
  unfold replay
  dsimp only
  refine PublicWorking.project ?_ .publicUrl
  refine publicWorking_updatePublic (working_completeResubscribeIfEmpty ?_)
  cases s.sockets .publicUrl with
  | none => exact h
  | some socket => exact unsigned_replayFrames h socket _

theorem publicUnsigned_wireUpgradeOk (h : s.PublicUnsigned) (connectionId : Option Nat) :
    (s.updateConn .publicUrl (·.handleEvent env.toEnv (.wireUpgradeOk connectionId))).PublicUnsigned := by
  unfold PublicUnsigned
  rw [conns_updateConn]
  exact unsigned_wireUpgradeOk h connectionId

/-- A success: what it takes is the work of a first open. -/
theorem upgradeOk_works (h : s.PublicWorking) (connectionId : SocketId) :
    (s.upgradeOk env .publicUrl connectionId).PublicUnsigned ∧
      ((s.upgradeOk env .publicUrl connectionId).Waits ↔ s.FirstOpenWorks) := by
  have hevent := @publicUnsigned_wireUpgradeOk s env h.unsigned (some connectionId)
  have harmed := @armed_wireUpgradeOk (s.conns .publicUrl) env.toEnv (some connectionId)
  have hopen := hasBeenOpen_wireUpgradeOk (s.conns .publicUrl) env.toEnv (some connectionId)
  unfold upgradeOk
  dsimp only
  by_cases hreplay : ((s.updateConn .publicUrl (·.handleEvent env.toEnv (.wireUpgradeOk (some connectionId)))).conns
      .publicUrl).state = .resubscribing ∧ ((s.updateConn .publicUrl
        (·.handleEvent env.toEnv (.wireUpgradeOk (some connectionId)))).conns .publicUrl).hasBeenOpen = true
  · have hworking := @publicWorking_replay _ env hevent
    rw [if_pos hreplay, if_neg hworking.handshake]
    refine ⟨hworking.unsigned, iff_of_true hworking.waits fun _ hfirst => ?_⟩
    rw [conns_updateConn, hopen] at hreplay
    rw [hreplay.2] at hfirst
    cases hfirst
  · rw [if_neg hreplay, if_neg hevent.handshake]
    refine ⟨hevent, ?_⟩
    unfold Waits
    rw [conns_updateConn, hopen] at hreplay
    rw [conns_updateConn]
    by_cases hs : (s.conns .publicUrl).state = .connecting
    · have hres := @state_wireUpgradeOk _ env.toEnv h.url hs (some connectionId)
      have hfirst : (s.conns .publicUrl).hasBeenOpen = false := by
        by_contra hbefore
        exact hreplay ⟨hres, Bool.not_eq_false _ ▸ hbefore⟩
      constructor
      · intro hwait _ _
        obtain ⟨key, ha⟩ := hwait hres
        exact ⟨key, (harmed key).1 ha⟩
      · intro hworks _
        obtain ⟨key, ha⟩ := hworks hs hfirst
        exact ⟨key, (harmed key).2 ha⟩
    · rw [handleEvent_wireUpgradeOk_of_ne hs]
      exact iff_of_true h.waits fun hc => absurd hc hs

theorem publicWorking_upgradeOkAuth (h : s.PublicWorking) (connectionId : SocketId) :
    (s.upgradeOk env .authUrl connectionId).PublicWorking := by
  unfold upgradeOk
  dsimp only
  have hevent := publicWorking_updateAuth h (·.handleEvent env.toEnv (.wireUpgradeOk (some connectionId)))
  have hfirst : ∀ t : IoReactor, t.PublicWorking → (if (t.conns .authUrl).state = .authenticating then
      t.updateConn .authUrl (·.sendFirstSignedSubscribe (t.reactorEnv env .authUrl)) else t).PublicWorking := by
    intro t ht
    split_ifs
    · exact publicWorking_updateAuth ht _
    · exact ht
  refine hfirst _ ?_
  split_ifs
  · exact (publicWorking_updateAuth hevent _).project .authUrl
  · exact hevent

theorem takeOutcome_works (h : s.PublicWorking) :
    (s.takeOutcome env).PublicUnsigned ∧ ((s.takeOutcome env).Waits ↔ s.LeavesWork ⟨env, .takeOutcome⟩) := by
  -- Anything but a success of the public connection asks for nothing.
  have hplain : ∀ t : IoReactor, t.PublicWorking → s.LeavesWork ⟨env, .takeOutcome⟩ →
      t.PublicUnsigned ∧ (t.Waits ↔ s.LeavesWork ⟨env, .takeOutcome⟩) :=
    fun t ht hok => ⟨ht.unsigned, iff_of_true ht.waits hok⟩
  unfold takeOutcome
  cases hrx : s.upgradeRx with
  | nil => exact hplain s h fun q connectionId hq => by simp [hrx] at hq
  | cons q rest =>
    have ht : ({ s with upgradeRx := rest } : IoReactor).PublicWorking := h
    dsimp only
    cases ho : q.outcome with
    | failed url kind transient =>
      have hp : ¬ Decides (upgradeFailureEvent kind transient) := by
        unfold upgradeFailureEvent
        split <;> exact id
      refine hplain _ ((publicWorking_event ht hp).dropDeadSocket url) ?_
      intro q' connectionId hq' ho'
      rw [hrx] at hq'
      cases hq'
      rw [ho] at ho'
      cases ho'
    | ok url connectionId =>
      have hthis : ∀ q' connectionId', s.upgradeRx.head? = some q' → q'.outcome = .ok .publicUrl connectionId' →
          url = .publicUrl ∧ connectionId' = connectionId := by
        intro q' connectionId' hq' ho'
        rw [hrx] at hq'
        cases hq'
        rw [ho] at ho'
        cases ho'
        exact ⟨rfl, rfl⟩
      simp only [upgradeArm]
      split_ifs with hlive
      · cases url with
        | authUrl =>
          refine hplain _ (publicWorking_upgradeOkAuth ht connectionId) ?_
          intro q' connectionId' hq' ho'
          cases (hthis q' connectionId' hq' ho').1
        | publicUrl =>
          obtain ⟨hunsigned, hiff⟩ := @upgradeOk_works _ env ht connectionId
          refine ⟨hunsigned, hiff.trans ⟨fun hworks q' connectionId' _ _ _ => hworks, fun hok => ?_⟩⟩
          exact hok q connectionId (by rw [hrx]; rfl) ho (of_decide_eq_true hlive)
      · refine hplain _ ht ?_
        intro q' connectionId' hq' ho' hmap
        obtain ⟨rfl, rfl⟩ := hthis q' connectionId' hq' ho'
        exact absurd (decide_eq_true hmap) hlive

/-! ### Refreshes and frames -/

/-- The refresh arm is about the auth connection. -/
theorem publicWorking_refreshed (h : s.PublicWorking) (requestId : Nat) (result : Except AuthError Unit) :
    (s.refreshed env requestId result).PublicWorking := by
  unfold refreshed
  dsimp only
  refine PublicWorking.project ?_ .authUrl
  split_ifs
  · exact publicWorking_updateAuth (publicWorking_updateAuth (publicWorking_updateAuth h _) _) _
  · exact publicWorking_updateAuth (publicWorking_updateAuth h _) _
  · exact publicWorking_updateAuth (publicWorking_updateAuth h _) _
  · exact publicWorking_updateAuth h _

theorem publicWorking_driveWireClose (h : s.PublicWorking) {event : FsmEvent} (he : WireLost event) :
    (s.driveWireClose env url event).PublicWorking := by
  have hdead : ({ s with sockets := Function.update s.sockets url none } : IoReactor).PublicWorking := h
  have hevent : (({ s with sockets := Function.update s.sockets url none } : IoReactor).updateConn url
      (·.handleEvent env.toEnv event)).PublicWorking := hdead.update fun _ => working_wireLost hdead.unsigned he
  unfold driveWireClose
  dsimp only
  split_ifs
  · exact hevent.project url
  · exact hevent

theorem publicWorking_recoverBookGap (h : s.PublicWorking) (symbol : Symbol) :
    (recoverBookGap env url s symbol).PublicWorking := by
  have hreg : ({ s with registry := s.registry.beginBookResync .book symbol } : IoReactor).PublicWorking := h
  unfold recoverBookGap
  dsimp only
  split
  · exact hreg
  · exact hreg.update fun _ => working_sendBookReseed hreg _ _

/-- An ack that is not the last one: another timer stays, whatever the key. -/
theorem armed_disarm_of_count {mc : ManagedConnection} {key : EntryKey} (h : ¬ mc.pendingSubscribeAckCount ≤ 1) :
    ∃ k, (mc.disarmSubscribeAck key).Armed k := by
  have hpos : 0 < HashMap.len (mc.timers.perEntrySubscribeAckTimeouts.erase key) := by
    unfold pendingSubscribeAckCount at h
    by_cases hmem : key ∈ mc.timers.perEntrySubscribeAckTimeouts
    · have hlen := HashMap.len_erase_of_mem hmem
      omega
    · have hlen := HashMap.len_erase_of_not_mem hmem
      omega
  obtain ⟨k, hk⟩ := HashMap.exists_mem_of_len_pos hpos
  exact ⟨k, .inl (AList.lookup_isSome.2 hk)⟩

theorem publicWorking_lateAck (h : s.PublicWorking) (key : EntryKey) (success : Bool) :
    (s.lateAck env url key success).PublicWorking := by
  unfold lateAck
  split_ifs
  · exact h.update fun _ => working_completeResubscribeIfEmpty ⟨h.url, h.handshake⟩
  · exact h

theorem publicWorking_armedAck (h : s.PublicWorking) (key : EntryKey) (success : Bool) (error : Option String) :
    (s.armedAck env url key success error).PublicWorking := by
  unfold armedAck
  dsimp only
  split_ifs
  · have hreg : ({ s with registry := s.registry.noteAcked key } : IoReactor).PublicWorking := h
    refine hreg.update fun hu => ?_
    subst hu
    have hdefer : ((s.conns .publicUrl).removeDeferredOpenAuthSubscribe key).Unsigned := ⟨h.url, h.handshake⟩
    exact working_wireSubscribeAck hdefer fun hlast _ => armed_disarm_of_count (of_decide_eq_false hlast)
  · exact h.update fun _ => working_failureEvent h.unsigned (.inr ⟨_, rfl⟩)
  · have hreg : ∀ registry, ({ s with registry } : IoReactor).PublicWorking := fun _ => h
    have hdisarm : ∀ registry, (({ s with registry } : IoReactor).updateConn url
        (·.disarmBookReseedSnapshot key)).PublicWorking :=
      fun registry => (hreg registry).update fun _ => h.same rfl rfl fun _ ha => ha
    exact (hdisarm _).update fun _ => working_failureEvent (hdisarm _).unsigned (.inr ⟨_, rfl⟩)

theorem publicWorking_handshakeAck (h : s.PublicWorking) (key : EntryKey) (success : Bool) (error : Option String) :
    (s.handshakeAck env .authUrl key success error).PublicWorking := by
  unfold handshakeAck
  split_ifs
  · have hreg : ∀ registry, ({ s.updateConn .authUrl fun mc =>
        (mc.handleEvent env.toEnv .wireAuthHandshakeOk).disarmSubscribeAck key with
      registry } : IoReactor).PublicWorking := fun _ => publicWorking_updateAuth h fun mc =>
        (mc.handleEvent env.toEnv .wireAuthHandshakeOk).disarmSubscribeAck key
    dsimp only
    split_ifs
    · exact publicWorking_updateAuth (publicWorking_updateAuth (hreg _) _) _
    · exact publicWorking_updateAuth (hreg _) _
  · exact publicWorking_updateAuth h _

/-- No ack of the public connection is that of a handshake. -/
theorem publicWorking_handleSubAck (h : s.PublicWorking) (json : Json) : (s.handleSubAck env url json).2.PublicWorking := by
  unfold handleSubAck
  split
  · exact h
  · dsimp only
    split
    · exact h
    · rename_i key _
      split_ifs with hauth
      · cases url with
        | publicUrl => exact absurd hauth h.handshake
        | authUrl => exact publicWorking_handshakeAck h key _ _
      · exact publicWorking_lateAck h key _
      · exact publicWorking_armedAck h key _ _
  · exact h

theorem publicWorking_textFrame (h : s.PublicWorking) (json : Json) : (s.textFrame env url json).PublicWorking := by
  have hnote : (s.updateConn url (·.noteInboundActivity env.toEnv)).PublicWorking :=
    h.update fun _ => h.same rfl rfl fun _ ha => ha
  have hgaps : ∀ (gaps : List Symbol) (t : IoReactor), t.PublicWorking →
      (gaps.foldl (recoverBookGap env url) t).PublicWorking := by
    intro gaps
    induction gaps with
    | nil => exact fun t ht => ht
    | cons symbol gaps ih => exact fun t ht => ih _ (publicWorking_recoverBookGap ht symbol)
  rw [textFrame_eq]
  dsimp only
  split_ifs
  · cases url with
    | publicUrl => exact hnote
    | authUrl =>
      exact publicWorking_updateAuth hnote fun _ =>
        (((s.updateConn .authUrl (·.noteInboundActivity env.toEnv)).conns .authUrl).handleRequestResponse
          ((s.updateConn .authUrl (·.noteInboundActivity env.toEnv)).reactorEnv env .authUrl) json).2
  · exact publicWorking_handleSubAck hnote json
  · exact hgaps _ _ (hnote.of_conns rfl)

/-! ### Timers -/

theorem publicWorking_handleBookReseedTimeout (h : s.PublicWorking) (pair : Option Symbol) :
    (s.handleBookReseedTimeout env url pair).PublicWorking := by
  unfold handleBookReseedTimeout
  split
  · exact h
  · rename_i symbol
    have hreg : ({ s with registry := (s.registry.noteReseedTimeout .book symbol).1 } : IoReactor).PublicWorking := h
    dsimp only
    split
    · exact hreg.update fun _ => working_sendBookReseed hreg _ _
    · exact hreg

/-- Popping a timer that is neither an ack's nor a resend's. -/
theorem working_popTimerForEvent {mc : ManagedConnection} {e : FsmEvent} (h : mc.Working)
    (hack : ∀ channel pair, e ≠ .timerSubscribeAckTimeout channel pair)
    (hresend : ∀ channel pair, e ≠ .timerSubscribeResendDue channel pair) : (mc.popTimerForEvent e).Working := by
  cases e
  case timerSubscribeAckTimeout channel pair => exact absurd rfl (hack channel pair)
  case timerSubscribeResendDue channel pair => exact absurd rfl (hresend channel pair)
  all_goals exact h.same rfl rfl fun _ ha => ha

theorem unsigned_popTimerForEvent {mc : ManagedConnection} (h : mc.Unsigned) (e : FsmEvent) :
    (mc.popTimerForEvent e).Unsigned := by
  cases e <;> exact ⟨h.url, h.handshake⟩

/-- A timer whose firing asks for nothing: any but a resend of the public connection. -/
theorem publicWorking_timer (h : s.PublicWorking) {event : FsmEvent}
    (hresend : ∀ channel pair, url = .publicUrl → event ≠ .timerSubscribeResendDue channel pair) :
    (s.timer env url event).PublicWorking := by
  have hplain : (∀ channel pair, event ≠ .timerSubscribeAckTimeout channel pair) →
      (s.updateConn url (·.popTimerForEvent event)).PublicWorking := fun hack =>
    h.update fun hu => working_popTimerForEvent h hack fun channel pair => hresend channel pair hu
  unfold timer
  split_ifs with harmed
  · dsimp only
    split
    · rename_i channel pair
      cases url with
      | publicUrl => exact absurd rfl (hresend channel pair rfl)
      | authUrl => exact (publicWorking_updateAuth (publicWorking_updateAuth h _) _).project .authUrl
    · exact (publicWorking_handleBookReseedTimeout (hplain nofun) _).project url
    · refine (hplain nofun).update fun _ => ?_
      unfold rearmProactiveRefresh
      split_ifs
      · exact hplain nofun
      · exact (hplain nofun).same rfl rfl fun _ ha => ha
    · refine PublicWorking.project ?_ url
      by_cases hack : ∃ channel pair, event = .timerSubscribeAckTimeout channel pair
      · obtain ⟨channel, pair, rfl⟩ := hack
        cases url with
        | publicUrl =>
          refine publicWorking_updatePublic ?_
          rw [conns_updateConn]
          exact @working_failureEvent _ _ (channel, pair) _ (unsigned_popTimerForEvent h.unsigned _) (.inl rfl)
        | authUrl => exact publicWorking_updateAuth (publicWorking_updateAuth h _) _
      · refine publicWorking_event (hplain fun channel pair he => hack ⟨channel, pair, he⟩) fun hdecides => ?_
        cases event <;> first | exact hdecides | exact hack ⟨_, _, rfl⟩ | cases harmed
  · exact h

/-- The resend of the public connection: what it takes is a key and a socket, or another timer. -/
theorem resend_works (h : s.PublicWorking) (channel : ChannelName) (pair : Option Symbol) :
    (s.timer env .publicUrl (.timerSubscribeResendDue channel pair)).PublicUnsigned ∧
      ((s.timer env .publicUrl (.timerSubscribeResendDue channel pair)).Waits ↔
        s.LeavesWork ⟨env, .timer .publicUrl (.timerSubscribeResendDue channel pair)⟩) := by
  have hpop := unsigned_popTimerForEvent h.unsigned (.timerSubscribeResendDue channel pair)
  have hframe : (s.updateConn .publicUrl (·.popTimerForEvent (.timerSubscribeResendDue channel pair))).frameFor env
      (channel, pair) = s.frameFor env (channel, pair) := rfl
  unfold timer LeavesWork
  dsimp only
  split_ifs with harmed
  · by_cases hgone : s.frameFor env (channel, pair) = none ∨ s.sockets .publicUrl = none
    · -- Nothing is sent: the firing took the timer, and that is all.
      have hnothing : ∀ r : ReactorEnv, r.socketOf = s.sockets .publicUrl →
          ((s.conns .publicUrl).popTimerForEvent (.timerSubscribeResendDue channel pair)).handleSubscribeResend r .publicUrl
            (s.frameFor env (channel, pair)) =
              (s.conns .publicUrl).popTimerForEvent (.timerSubscribeResendDue channel pair) := by
        intro r hr
        unfold handleSubscribeResend
        cases hf : s.frameFor env (channel, pair) with
        | none => rfl
        | some f =>
          dsimp only
          rw [if_neg (by simp), hr, hgone.resolve_left (by simp [hf])]
      unfold PublicUnsigned Waits
      rw [conns_project, conns_updateConn, conns_updateConn, hframe, hnothing _ rfl]
      refine ⟨hpop, ?_⟩
      rw [popTimerForEvent_state]
      exact ⟨fun hwait _ hres _ => hwait hres, fun hok hres => hok harmed hres hgone⟩
    · have hworking : (((s.updateConn .publicUrl (·.popTimerForEvent (.timerSubscribeResendDue channel pair))).updateConn
          .publicUrl (·.handleSubscribeResend ((s.updateConn .publicUrl
            (·.popTimerForEvent (.timerSubscribeResendDue channel pair))).reactorEnv env .publicUrl) .publicUrl
              (s.frameFor env (channel, pair)))).project .publicUrl).PublicWorking := by
        refine PublicWorking.project (publicWorking_updatePublic ?_) .publicUrl
        rw [conns_updateConn]
        exact working_handleSubscribeResend hpop fun hno => absurd hno hgone
      rw [hframe]
      exact ⟨hworking.unsigned, iff_of_true hworking.waits fun _ _ hno => absurd hno hgone⟩
  · exact ⟨h.unsigned, iff_of_true h.waits fun hc => absurd hc harmed⟩

/-! ## Runs -/

/-- An arm that asks for nothing. -/
theorem publicWorking_step (l : ArmLabel) (h : s.PublicWorking) (hout : l.arm ≠ .takeOutcome)
    (hresend : ∀ channel pair, l.arm ≠ .timer .publicUrl (.timerSubscribeResendDue channel pair)) :
    (s.step l).PublicWorking := by
  obtain ⟨env, arm⟩ := l
  have hmapped : ∀ (url : WsUrl) (next : IoReactor), next.PublicWorking → (s.whenMapped url next).PublicWorking := by
    intro url next hnext
    unfold whenMapped
    split_ifs
    · exact hnext
    · exact h
  cases arm with
  | takeOutcome => exact absurd rfl hout
  | reportOk url connectionId =>
    have hq := h.trySend ⟨connectionId, .ok url connectionId, fun _ _ h => (UpgradeOutcome.ok.inj h).2⟩
    simp only [step, reportOk]
    split <;> rename_i t ht <;> rw [ht] at hq
    · exact hq
    · exact hq
  | reportFallback =>
    simp only [step, reportFallback]
    split
    · exact h
    · have hrest : ∀ fallbacks, ({ s with fallbacks } : IoReactor).PublicWorking := fun _ => h
      exact (hrest _).trySend _
  | reportFailed url connectionId kind transient => exact h.trySend _
  | callerEvent url event =>
    have hp : ¬ Decides event.toFsmEvent := by cases event <;> exact id
    exact (publicWorking_event h hp).project url
  | registerBatch url entries refId => exact publicWorking_registerBatch h refId entries
  | deregister channel pair => exact publicWorking_deregisterOne h channel pair
  | deregisterAll channel => exact publicWorking_deregisterAll h channel
  | guardDrop handlerId channel symbols => exact publicWorking_guardDrop h handlerId channel symbols
  | wsRequestFrame f => exact publicWorking_updateAuth h (·.handleWsRequestFrame (s.reactorEnv env .authUrl) f)
  | abandonWsRequest reqId => exact publicWorking_updateAuth h (·.abandonWsRequest reqId)
  | refreshed requestId result => exact publicWorking_refreshed h requestId result
  | textFrame url json => exact hmapped url _ (publicWorking_textFrame h json)
  | otherFrame url => exact hmapped url _ (h.update fun _ => h.same rfl rfl fun _ ha => ha)
  | closeFrame url code reason => exact hmapped url _ (publicWorking_driveWireClose h (.inl ⟨_, _, rfl⟩))
  | recvError url error => exact hmapped url _ (publicWorking_driveWireClose h (.inr ⟨_, rfl⟩))
  | timer url event =>
    refine publicWorking_timer h ?_
    rintro channel pair rfl rfl
    exact hresend channel pair rfl

/-- A step from a state that waits leaves one exactly if it leaves work. -/
theorem step_works (l : ArmLabel) (h : s.PublicWorking) :
    (s.step l).PublicUnsigned ∧ ((s.step l).Waits ↔ s.LeavesWork l) := by
  obtain ⟨env, arm⟩ := l
  by_cases hout : arm = .takeOutcome
  · subst hout
    exact takeOutcome_works h
  · by_cases hresend : ∃ channel pair, arm = .timer .publicUrl (.timerSubscribeResendDue channel pair)
    · obtain ⟨channel, pair, rfl⟩ := hresend
      exact resend_works h channel pair
    · have hworking := publicWorking_step ⟨env, arm⟩ h hout fun channel pair he => hresend ⟨channel, pair, he⟩
      refine ⟨hworking.unsigned, iff_of_true hworking.waits ?_⟩
      unfold LeavesWork
      split
      · exact absurd ‹_› hout
      · exact absurd ⟨_, _, ‹_›⟩ hresend
      · trivial

/-- **`Resubscribing` waits for an ack or a resend** in every state of a run exactly if no step of it leaves the
public connection without one: a first success that finds nothing sent, or the last resend, of a key that is
not there. -/
theorem waits_iff (knobs : Knobs) (ls : List ArmLabel) :
    (∀ p, p <+: ls → (run knobs p).Waits) ↔ StepSystem.Allowed step LeavesWork (init knobs) ls := by
  have hinit := publicWorking_init knobs
  refine StepSystem.forall_prefix_iff_allowed_along (J := PublicUnsigned) (fun s l hu hw => ?_) (fun s l hu hw => ?_)
    hinit.unsigned hinit.waits ls
  · exact (step_works l (hu.working hw)).1
  · exact (step_works l (hu.working hw)).2

/-- The connection is started with nothing registered. -/
def bareFirstOpen : List ArmLabel :=
  [⟨bringUpEnv 1, .callerEvent .publicUrl (.startConnect 1)⟩, ⟨bringUpEnv 1, .reportOk .publicUrl 1⟩,
    ⟨bringUpEnv 1, .takeOutcome⟩]

/-- Its success leads to `Resubscribing`, with nothing to wait for. -/
theorem bareFirstOpen_waits_forever : ¬ ∀ (knobs : Knobs) (ls : List ArmLabel), (run knobs ls).Waits := by
  intro h
  obtain ⟨key, ha⟩ := h (bringUpEnv 0).knobs bareFirstOpen (by decide)
  exact not_armed_of_empty (by decide) (by decide) key ha

end KrakenSdk.Dispatch.IoReactor
