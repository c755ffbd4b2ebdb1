import KrakenSdk.Conn.Pursuit
import KrakenSdk.Dispatch.HandshakeStall
/-!
# Whether an auth subscription can be stranded (dispatch/io_reactor)

In `Resubscribing` and `Open` a live auth entry is either handed to the socket or to be tried again, and what is
deferred waits for a refresh (`Subscribes`). A failed refresh keeps the deferrals, clears the flag, and without a
cached token disarms the proactive timer: then nothing re-issues them (`failedRefresh_strands`). `StrandsNone` is the
condition on the arms at which something is lost.

`forall_subscribes`: in every run whose steps meet it, no entry is stranded.
-/
namespace KrakenSdk.Dispatch

open KrakenSdk.Conn KrakenSdk.Conn.ManagedConnection KrakenSdk.Conn.SubscriptionRegistry StepSystem

/-- The loop of the handshake, and how many effects of the auth connection precede the current lifetime of a key. -/
structure EntryLoop where
  loop : HandshakeLoop
  born : EntryKey → Nat

namespace IoReactor

/-- A lifetime begins where a registration is the first holder. -/
def bornAfter (s : IoReactor) (env : ArmEnv) (url : WsUrl) (refId : Option HandlerId) :
    List Registration → (EntryKey → Nat) → EntryKey → Nat
  | [], born => born
  | reg :: regs, born =>
    bornAfter ((s.registerOneAndEmit env url refId reg).dropDeadSocket url) env url refId regs
      (if (s.registry.register (.new url reg.channel reg.pair reg.params) env.now refId.isSome).2 = 1 then
        Function.update born (reg.channel, reg.pair) (s.conns .authUrl).bus.length
      else born)

/-- The frame ends a handshake: an order's answer that accepts the token, or the ack of the first subscribe, whose
key is not sent again. -/
def Completes (mc : ManagedConnection) (json : Json) : Option EntryKey → Prop
  | none => ∃ resp, decodeResponse json = some (some resp) ∧
      classifyOrderAckAuth resp.success resp.error = .authenticated
  | some key => decodeResponse json = none ∧ (json.get? "method").bind Json.asStr? = some "subscribe" ∧
      ackKey mc json = some key ∧ ((json.get? "success").bind Json.asBool?).getD false = true

end IoReactor

namespace EntryLoop

/-- As it starts. -/
def init (knobs : Knobs) : EntryLoop := ⟨.init knobs, fun _ => 0⟩

/-- One arm. -/
def step (s : EntryLoop) (l : ArmLabel) : EntryLoop :=
  ⟨s.loop.step l, match l.arm with
    | .registerBatch url regs refId => s.loop.reactor.bornAfter l.env url refId regs s.born
    | _ => s.born⟩

/-- The loop after a list of arms. -/
def run (knobs : Knobs) (ls : List ArmLabel) : EntryLoop := StepSystem.exec step (init knobs) ls

/-- No auth entry is stranded. -/
def Subscribes (s : EntryLoop) : Prop :=
  let mc := s.loop.reactor.conns .authUrl
  Active mc.state →
    (∀ key, s.loop.reactor.registry.Live .authUrl key → mc.Pursues (s.born key) key) ∧
      (mc.deferredOpenAuthSubscribes ≠ [] →
        s.loop.delivered < mc.refreshes ∨ mc.timers.tokenRefreshDueAt.isSome = true)

/-- The arm strands no auth entry. -/
def StrandsNone (s : EntryLoop) (l : ArmLabel) : Prop :=
  let r := s.loop.reactor
  let mc := r.conns .authUrl
  match l.arm with
  | .takeOutcome => ∀ q connectionId, r.upgradeRx.head? = some q → q.outcome = .ok .authUrl connectionId →
      r.sockets .authUrl = some connectionId → mc.state = .connecting → mc.socket = some connectionId
  | .registerBatch url regs _ => ∀ reg ∈ regs, url = IoReactor.channelWsUrl reg.channel
  | .deregister _ _ | .guardDrop _ _ _ => r.registry.Counted
  | .refreshed requestId (.ok ()) => Active mc.state → (requestId ≠ 0 → s.loop.delivered < mc.refreshes) →
      ∀ key, mc.Deferred key → mc.isSubscribeAckArmed key = true → r.registry.Live .authUrl key →
        mc.HandedSince (s.born key) key
  | .refreshed requestId (.error _) => Active mc.state → (requestId ≠ 0 → s.loop.delivered < mc.refreshes) →
      mc.deferredOpenAuthSubscribes ≠ [] →
        (if requestId = 0 then s.loop.delivered else s.loop.delivered + 1) < mc.refreshes ∨
          (l.env.cachedToken.isSome = true ∧ mc.timers.tokenRefreshDueAt.isSome = true)
  | .textFrame .authUrl json =>
    (Upgraded mc.state → decodeResponse json = none → ∀ key, IoReactor.TakenForAck mc json key →
      r.registry.Live .authUrl key → mc.HandedSince (s.born key) key) ∧
    (mc.state = .authenticating → (r.reactorEnv l.env .authUrl).token ≠ none →
      ∀ skipped, IoReactor.Completes mc json skipped → (∃ key, mc.Deferred key ∧ some key ≠ skipped) →
        s.loop.delivered < mc.refreshes ∨ mc.timers.tokenRefreshDueAt.isSome = true)
  | _ => True

end EntryLoop

namespace IoReactor

variable {s s' s'' : IoReactor} {env : ArmEnv} {url : WsUrl} {d : Nat} {born : EntryKey → Nat} {K : EntryKey → Prop}

/-! ## What holds of every state of such a run -/

/-- The auth connection, its socket and its entries belong together. -/
structure Grounded (s : IoReactor) (born : EntryKey → Nat) (d : Nat) : Prop where
  attached : s.Attached
  url : (s.conns .authUrl).url = .authUrl
  matched : Upgraded (s.conns .authUrl).state → s.sockets .authUrl = (s.conns .authUrl).socket
  routed : Routed s.registry
  spawned : d ≤ (s.conns .authUrl).refreshes
  births : ∀ key, born key ≤ (s.conns .authUrl).bus.length

/-- And while it is active no entry is stranded. -/
structure Subscribed (s : IoReactor) (born : EntryKey → Nat) (d : Nat) : Prop extends Grounded s born d where
  pursued : Active (s.conns .authUrl).state → ∀ key, s.registry.Live .authUrl key →
    (s.conns .authUrl).Pursues (born key) key
  due : Active (s.conns .authUrl).state →
    (s.conns .authUrl).Due ((s.conns .authUrl).timers.tokenRefreshDueAt.isSome = true) d

theorem subscribed_init (knobs : Knobs) : (init knobs).Subscribed (fun _ => 0) 0 where
  attached := attached_init knobs
  url := rfl
  matched := False.elim
  routed := (replaying_init knobs).routed
  spawned := Nat.zero_le _
  births _ := Nat.zero_le _
  pursued := False.elim
  due := False.elim

theorem Grounded.served (h : s.Grounded born d) (hs : Served env s s') (hr : Routed s'.registry) : s'.Grounded born d where
  attached := h.attached.served hs
  url := (hs.conns .authUrl).stays.url.trans h.url
  matched hup := by
    obtain ⟨hup', hk⟩ := (hs.conns .authUrl).stays.session hup
    rcases hs.sockets .authUrl with hmap | hmap | hout
    · rw [hmap, hk]
      exact h.matched hup'
    · exact hmap
    · exact absurd hup hout
  routed := hr
  spawned := Nat.le_trans h.spawned hs.spawned
  births key := by
    obtain ⟨new, hb⟩ := (hs.conns .authUrl).bus
    have hle := h.births key
    rw [hb, List.length_append]
    omega

/-- A socket that is up is the one the map holds. -/
theorem Grounded.own (h : s.Grounded born d) (hup : Upgraded (s.conns .authUrl).state) :
    ∃ socket, s.sockets .authUrl = some socket ∧ (s.conns .authUrl).socket = some socket := by
  obtain ⟨socket, hk⟩ := Option.ne_none_iff_exists'.1 ((h.attached.held .authUrl).session hup)
  exact ⟨socket, (h.matched hup).trans hk, hk⟩

theorem upgraded_of_active {state : ConnectionState} (h : Active state) : Upgraded state := by
  cases state <;> trivial

theorem Grounded.ownSocket (h : s.Grounded born d) : OwnSocket (s.reactorEnv env .authUrl) (s.conns .authUrl) :=
  fun ha => h.own (upgraded_of_active ha)

/-- An entry that is live is in the batch. -/
theorem mem_entries (hr : Routed s.registry) {key : EntryKey} (hl : s.registry.Live .authUrl key) :
    ∃ f ∈ (s.reactorEnv env .authUrl).entries, f.key = key := by
  obtain ⟨e, he, hu, hlive⟩ := hl
  refine ⟨frame env e, List.mem_map_of_mem ?_, (hr key e he).1⟩
  refine mem_sortByOrderKey.2 (List.mem_filter.2 ⟨(mem_allEntries _ _).2 ⟨key, he⟩, ?_⟩)
  simp [hu, hlive]

/-! ## Arms that strand nothing -/

/-- From `s` to `s'` no entry came to life, and those that are live stay pursued, those of `K` apart. -/
structure KeepsLive (K : EntryKey → Prop) (s s' : IoReactor) : Prop where
  auth : Sustains (fun key => ¬ s'.registry.Live .authUrl key ∨ K key) (s.conns .authUrl) (s'.conns .authUrl)
  registry : Shrinks s.registry s'.registry

theorem KeepsLive.of_eq (hc : s'.conns .authUrl = s.conns .authUrl) (hr : Shrinks s.registry s'.registry) :
    KeepsLive K s s' := ⟨by rw [hc]; exact .refl _, hr⟩

theorem KeepsLive.refl (s : IoReactor) : KeepsLive K s s := .of_eq rfl (.refl _)

theorem KeepsLive.trans (h : KeepsLive K s s') (h' : KeepsLive K s' s'') : KeepsLive K s s'' where
  auth := (h.auth.mono fun _ hk => hk.imp_left fun hn hl => hn (hl.of_shrinks h'.registry)).trans h'.auth
  registry := h.registry.trans h'.registry

theorem keepsLive_update {f : ManagedConnection → ManagedConnection}
    (hf : url = .authUrl → Sustains (fun key => ¬ s.registry.Live .authUrl key ∨ K key) (s.conns .authUrl)
      (f (s.conns .authUrl))) : KeepsLive K s (s.updateConn url f) := by
  refine ⟨?_, .refl _⟩
  cases url with
  | publicUrl =>
    rw [conns_updateConn_of_ne _ _ _ (by decide)]
    exact .refl _
  | authUrl =>
    rw [conns_updateConn]
    exact hf rfl

/-- The public connection is another one. -/
theorem keepsLive_public (f : ManagedConnection → ManagedConnection) : KeepsLive K s (s.updateConn .publicUrl f) :=
  keepsLive_update nofun

theorem KeepsLive.project (h : KeepsLive K s s') (url : WsUrl) : KeepsLive K s (s'.project url) := ⟨h.auth, h.registry⟩

theorem keepsLive_dropDeadSocket (s : IoReactor) (url : WsUrl) : KeepsLive K s (s.dropDeadSocket url) :=
  .of_eq (by rw [conns_dropDeadSocket]) (by rw [registry_dropDeadSocket]; exact .refl _)

theorem keepsLive_event {e : FsmEvent} (he : ¬ Answers e) : KeepsLive K s (s.updateConn url (·.handleEvent env.toEnv e)) :=
  keepsLive_update fun _ => (upholds_event he).widen

theorem keepsLive_complete : KeepsLive K s (s.updateConn url (·.completeResubscribeIfEmpty env.toEnv)) :=
  keepsLive_update fun _ => upholds_complete

theorem keepsLive_foldl {α : Type} {f : IoReactor → α → IoReactor} (hf : ∀ s a, KeepsLive K s (f s a)) (s : IoReactor)
    (as : List α) : KeepsLive K s (as.foldl f s) := by
  induction as generalizing s with
  | nil => exact .refl s
  | cons a as ih => exact (hf s a).trans (ih _)

/-- **The frame of an arm**: what it spares stays pursued, and what it does not was handed. -/
theorem Subscribed.kept (h : s.Subscribed born d) (hs : Served env s s') (hk : KeepsLive K s s')
    (hK : Active (s.conns .authUrl).state → ∀ key, K key → s.registry.Live .authUrl key →
      (s.conns .authUrl).HandedSince (born key) key) : s'.Subscribed born d where
  toGrounded := h.toGrounded.served hs (h.routed.shrink hk.registry)
  pursued ha key hl := by
    have hactive := hk.auth.active ha
    have hlive := hl.of_shrinks hk.registry
    by_cases hkey : K key
    · exact .inl ((hK hactive key hkey hlive).grow (hk.auth.grows ha) (h.births key))
    · refine hk.auth.pursued ha key _ ?_ (h.births key) (h.pursued hactive key hlive)
      rintro (hdead | hin)
      · exact hdead hl
      · exact hkey hin
  due ha := by
    rw [hk.auth.timer ha]
    exact hk.auth.due ha _ d h.spawned (h.due (hk.auth.active ha))

theorem Subscribed.spared (h : s.Subscribed born d) (hs : Served env s s') (hk : KeepsLive (fun _ => False) s s') :
    s'.Subscribed born d := h.kept hs hk fun _ _ => False.elim

/-! ### Registrations -/

theorem upholds_updateConn {f : ManagedConnection → ManagedConnection}
    (hf : url = .authUrl → Upholds (s.conns .authUrl) (f (s.conns .authUrl))) :
    Upholds (s.conns .authUrl) ((s.updateConn url f).conns .authUrl) := by
  cases url with
  | publicUrl =>
    rw [conns_updateConn_of_ne _ _ _ (by decide)]
    exact .refl _
  | authUrl =>
    rw [conns_updateConn]
    exact hf rfl

theorem upholds_startIfIdle : Upholds (s.conns .authUrl) ((s.startIfIdle env url).conns .authUrl) := by
  unfold startIfIdle
  split_ifs
  · rw [conns_project]
    refine upholds_updateConn fun hu => ?_
    subst hu
    exact upholds_event id
  · exact .refl _

/-- A connection that is active is not started. -/
theorem startIfIdle_active (ha : Active (s.conns .authUrl).state) : s.startIfIdle env .authUrl = s := by
  unfold startIfIdle
  rw [if_neg]
  intro hidle
  rw [hidle] at ha
  exact ha

theorem upholds_subscribeFirst (h : s.Grounded born d) (f : SubscribeFrame) :
    Upholds (s.conns .authUrl) ((s.subscribeFirst env url f).conns .authUrl) := by
  unfold subscribeFirst
  cases url with
  | publicUrl => exact upholds_updateConn nofun
  | authUrl =>
    dsimp only
    split_ifs
    · exact upholds_updateConn fun _ => (reaches_sendSingleSignedSubscribe h.ownSocket f).toSustains
    · exact .refl _

/-- The subscribe of a first holder is tried. -/
theorem reaches_subscribeFirst (h : s.Grounded born d) (ha : Active (s.conns .authUrl).state) (f : SubscribeFrame) :
    Reaches f.key (s.conns .authUrl) ((s.subscribeFirst env .authUrl f).conns .authUrl) := by
  have hsends : (s.conns .authUrl).state = .opened ∨ (s.conns .authUrl).state = .resubscribing ∨
      (s.conns .authUrl).authenticatingNothingInFlight = true := by
    cases hs : (s.conns .authUrl).state <;> rw [hs] at ha <;> first | exact ha.elim | simp
  unfold subscribeFirst
  dsimp only
  rw [if_pos hsends, conns_updateConn]
  exact reaches_sendSingleSignedSubscribe h.ownSocket f

/-- **One registration**: a new lifetime begins with its subscribe, and the others go on. -/
theorem subscribed_registerOneAndEmit (h : s.Subscribed born d) {refId : Option HandlerId} {reg : Registration}
    (hroute : url = channelWsUrl reg.channel) :
    ((s.registerOneAndEmit env url refId reg).dropDeadSocket url).Subscribed
      (if (s.registry.register (.new url reg.channel reg.pair reg.params) env.now refId.isSome).2 = 1 then
        Function.update born (reg.channel, reg.pair) (s.conns .authUrl).bus.length
      else born) d := by
  have hserved : Served env s ((s.registerOneAndEmit env url refId reg).dropDeadSocket url) :=
    (served_registerOneAndEmit refId reg).trans (served_dropDeadSocket _ _)
  have hrouted : Routed (registryAfter s.registry env url refId reg) := routed_registryAfter h.routed hroute
  -- The registry is the registration's, and a start comes before the subscribe.
  have hsame : Served env s { s with registry := registryAfter s.registry env url refId reg } := .of_eq rfl rfl
  have hground : ({ s with registry := registryAfter s.registry env url refId reg } : IoReactor).Grounded born d :=
    h.toGrounded.served hsame hrouted
  have hstarted := hground.served (@served_startIfIdle _ env url) (by
    rw [(startIfIdle_public _ env url).1]
    exact hrouted)
  have hstart : Upholds (s.conns .authUrl) ((({ s with registry := registryAfter s.registry env url refId reg } :
      IoReactor).startIfIdle env url).conns .authUrl) :=
    @upholds_startIfIdle { s with registry := registryAfter s.registry env url refId reg } env url
  have hup : Upholds (s.conns .authUrl) (((s.registerOneAndEmit env url refId reg).dropDeadSocket url).conns .authUrl) := by
    rw [conns_dropDeadSocket, registerOneAndEmit_eq]
    split_ifs
    · exact hstart.trans (upholds_subscribeFirst hstarted _)
    · exact hstart
  refine ⟨.served ?_ hserved ?_, fun ha key hl => ?_, fun ha => ?_⟩
  · refine { h.toGrounded with births := fun key => ?_ }
    split_ifs
    · by_cases hkey : key = (reg.channel, reg.pair)
      · simp [hkey]
      · rw [Function.update_of_ne hkey]
        exact h.births key
    · exact h.births key
  · rw [registry_dropDeadSocket, registry_registerOneAndEmit]
    exact hrouted
  · have hactive := hup.active ha
    rw [registry_dropDeadSocket, registry_registerOneAndEmit] at hl
    have hkeep : s.registry.Live .authUrl key →
        (((s.registerOneAndEmit env url refId reg).dropDeadSocket url).conns .authUrl).Pursues (born key) key :=
      fun hl => hup.pursued ha key _ id (h.births key) (h.pursued hactive key hl)
    by_cases hkey : key = (reg.channel, reg.pair)
    · subst hkey
      by_cases hone : (s.registry.register (.new url reg.channel reg.pair reg.params) env.now refId.isSome).2 = 1
      · rw [if_pos hone, Function.update_self]
        have hu : url = .authUrl := by
          obtain ⟨e, he, hurl, -⟩ := hl
          rw [hroute, ← (hrouted _ e he).2, hurl]
        subst hu
        have hid := @startIfIdle_active { s with registry := registryAfter s.registry env .authUrl refId reg } env hactive
        rw [conns_dropDeadSocket, registerOneAndEmit_eq, if_pos hone, hid] at ha ⊢
        have hreach := @reaches_subscribeFirst _ env _ _ hground hactive
          (frame env (.new .authUrl reg.channel reg.pair reg.params))
        exact hreach.reached ha
      · rw [if_neg hone]
        exact hkeep (live_of_count_ne_one hone hl)
    · have hborn : (if (s.registry.register (.new url reg.channel reg.pair reg.params) env.now refId.isSome).2 = 1 then
          Function.update born (reg.channel, reg.pair) (s.conns .authUrl).bus.length else born) key = born key := by
        split_ifs
        · exact Function.update_of_ne hkey _ _
        · rfl
      rw [hborn]
      exact hkeep (live_registryAfter hl hkey)
  · rw [hup.timer ha]
    exact hup.due ha _ d h.spawned (h.due (hup.active ha))

theorem subscribed_registerBatch {refId : Option HandlerId} {regs : List Registration} (h : s.Subscribed born d)
    (hroute : ∀ reg ∈ regs, url = channelWsUrl reg.channel) :
    (s.registerBatch env url refId regs).Subscribed (s.bornAfter env url refId regs born) d := by
  unfold registerBatch
  induction regs generalizing s born with
  | nil => exact h
  | cons reg regs ih =>
    refine ih (subscribed_registerOneAndEmit h (hroute reg List.mem_cons_self)) fun reg' hreg' => ?_
    exact hroute reg' (List.mem_cons_of_mem _ hreg')

/-! ### Teardowns -/

/-- The timers and the deferral of a key that is live no more are nobody's. -/
theorem keepsLive_teardownReleasedKey {key : EntryKey} (hk : ¬ s.registry.Live .authUrl key) :
    KeepsLive K s (s.teardownReleasedKey key) := by
  refine keepsLive_update fun _ => ?_
  have hdisarm : Sustains (fun key => ¬ s.registry.Live .authUrl key ∨ K key) (s.conns .authUrl)
      (((s.conns .authUrl).disarmSubscribeAck key).disarmBookReseedSnapshot key) :=
    (sustains_disarmSubscribeAck (.inl hk)).trans (sustains_same rfl (.of_eq rfl rfl rfl) rfl rfl id rfl)
  exact hdisarm.trans (sustains_removeDeferred (.inl hk))

theorem keepsLive_deregisterOne (hc : s.registry.Counted) (channel : ChannelName) (pair : Option Symbol) :
    KeepsLive K s (s.deregisterOne env channel pair) := by
  have hrel : KeepsLive K s { s with registry := (s.registry.release (channel.wireChannel, pair)).1 } :=
    .of_eq rfl (shrinks_releaseInner _ _ _)
  unfold deregisterOne
  dsimp only
  split_ifs with hleft
  · exact hrel
  · have hzero : (s.registry.release (channel.wireChannel, pair)).2 = 0 := by
      by_contra hne
      exact hleft (.inl hne)
    refine hrel.trans (.trans ?_ keepsLive_complete)
    exact keepsLive_teardownReleasedKey (not_live_of_releaseInner hc hzero)

theorem keepsLive_deregisterAll (hrouted : Routed s.registry) (channel : Option ChannelName) :
    KeepsLive K s (s.deregisterAll env channel) := by
  have hfold : ∀ (es : List (SubscriptionEntry × RemovedEntryKind)) {t : IoReactor},
      (∀ e ∈ es, ¬ t.registry.Live .authUrl e.1.key) →
        KeepsLive K t (es.foldl (fun t e => t.teardownReleasedKey e.1.key) t) := by
    intro es
    induction es with
    | nil => exact fun _ => .refl _
    | cons e es ih =>
      intro t hes
      refine (keepsLive_teardownReleasedKey (hes e List.mem_cons_self)).trans (ih fun e' he' => ?_)
      exact hes e' (List.mem_cons_of_mem _ he')
  have hreg : KeepsLive K s { s with
      registry := (s.registry.deregisterAll (channel.map ChannelName.wireChannel)).1 } :=
    .of_eq rfl (shrinks_deregisterAll _ _)
  have hall := hreg.trans (@hfold (s.registry.deregisterAll (channel.map ChannelName.wireChannel)).2
    { s with registry := (s.registry.deregisterAll (channel.map ChannelName.wireChannel)).1 } (by
      rintro e he ⟨e', he', -⟩
      obtain ⟨key, hentry, hch⟩ := mem_deregisterAll he
      rw [(hrouted key e.1 hentry).1] at he'
      rw [entry_deregisterAll, if_pos hch] at he'
      cases he'))
  unfold deregisterAll
  dsimp only
  split_ifs
  · exact (hall.trans keepsLive_complete).trans keepsLive_complete
  · exact hall.trans keepsLive_complete
  · exact hall.trans keepsLive_complete
  · exact hall

theorem keepsLive_guardDrop (hc : s.registry.Counted) (handlerId : HandlerId) (channel : ChannelName)
    (symbols : List Symbol) : KeepsLive K s (s.guardDrop env handlerId channel symbols) := by
  have hone : ∀ {acc : IoReactor × Bool} (key : EntryKey), acc.1.registry.Counted →
      KeepsLive K acc.1 (dropGuardRef handlerId acc key).1 := by
    rintro ⟨t, any⟩ key hcount
    have hrel : KeepsLive K t { t with registry := (t.registry.releaseGuardRef handlerId key).1 } :=
      .of_eq rfl (shrinks_releaseGuardRef t.registry handlerId key)
    unfold dropGuardRef
    dsimp only
    split_ifs with hgone
    · exact hrel.trans (keepsLive_teardownReleasedKey (not_live_of_releaseGuardRef hcount hgone.2))
    · exact hrel
  have hfold : ∀ (keys : List EntryKey) {acc : IoReactor × Bool}, acc.1.registry.Counted →
      KeepsLive K acc.1 (keys.foldl (dropGuardRef handlerId) acc).1 := by
    intro keys
    induction keys with
    | nil => exact fun _ => .refl _
    | cons key keys ih =>
      intro acc hcount
      exact (hone key hcount).trans (ih (hcount.of_shrinks (hone key hcount).registry))
  unfold guardDrop
  dsimp only
  split_ifs
  · exact (@hfold _ (s, false) hc).trans keepsLive_complete
  · exact @hfold _ (s, false) hc
  · exact (@hfold _ (s, false) hc).trans keepsLive_complete
  · exact @hfold _ (s, false) hc

/-! ### Frames that end no handshake -/

theorem keepsLive_sendBookReseed (socketOf : Option SocketId) (f : SubscribeFrame) :
    KeepsLive K s (s.updateConn url (·.sendBookReseed env.toEnv socketOf f)) :=
  keepsLive_update fun _ => (upholds_sendBookReseed socketOf f).widen

theorem keepsLive_recoverBookGap (s : IoReactor) (symbol : Symbol) : KeepsLive K s (recoverBookGap env url s symbol) := by
  have hreg : KeepsLive K s { s with registry := s.registry.beginBookResync .book symbol } :=
    .of_eq rfl (shrinks_beginBookResync _ _ _)
  unfold recoverBookGap
  dsimp only
  split
  · exact hreg
  · exact hreg.trans (keepsLive_sendBookReseed _ _)

theorem keepsLive_handleBookReseedTimeout (pair : Option Symbol) :
    KeepsLive K s (s.handleBookReseedTimeout env url pair) := by
  unfold handleBookReseedTimeout
  cases pair with
  | none => exact .refl s
  | some symbol =>
    have hreg : KeepsLive K s { s with registry := (s.registry.noteReseedTimeout .book symbol).1 } :=
      .of_eq rfl (shrinks_noteReseedTimeout _ _ _)
    dsimp only
    split
    · exact hreg.trans (keepsLive_sendBookReseed _ _)
    · exact hreg

theorem keepsLive_noteInboundActivity : KeepsLive K s (s.updateConn url (·.noteInboundActivity env.toEnv)) :=
  keepsLive_update fun _ => sustains_same rfl (.of_eq rfl rfl rfl) rfl rfl id rfl

theorem keepsLive_requestResponse (hs : (s.conns .authUrl).state ≠ .authenticating) (json : Json) :
    KeepsLive K s (s.requestResponse env url json).2 := by
  cases url with
  | publicUrl => exact .refl s
  | authUrl =>
    have hroute : Upholds (s.conns .authUrl)
        ((s.conns .authUrl).handleRequestResponse (s.reactorEnv env .authUrl) json).2 := by
      unfold handleRequestResponse
      split
      · exact .refl _
      · exact .refl _
      · exact upholds_routeResponse hs _
    have hkeeps : KeepsLive K s (s.updateConn .authUrl fun mc => (mc.handleRequestResponse (s.reactorEnv env .authUrl)
        json).2) := keepsLive_update fun _ => hroute.widen
    exact hkeeps

/-- An ack that no timer waits for. -/
theorem keepsLive_lateAck {key : EntryKey} {success : Bool} (hk : url = .authUrl → success = true → K key) :
    KeepsLive K s (s.lateAck env url key success) := by
  unfold lateAck
  split_ifs with hsuccess
  · refine keepsLive_update fun hu => ?_
    have hkey : ¬ s.registry.Live .authUrl key ∨ K key := .inr (hk hu hsuccess)
    exact ((sustains_disarmSubscribeAck hkey).trans (sustains_removeDeferred hkey)).trans upholds_complete
  · exact .refl s

/-- An ack its timer waits for. -/
theorem keepsLive_armedAck {key : EntryKey} {success : Bool} {error : Option String}
    (hk : url = .authUrl → (success = true ∨ key.1 = .status ∧
      error.any (fun e => strContains e "Symbol(s) not found") = true) → K key) :
    KeepsLive K s (s.armedAck env url key success error) := by
  unfold armedAck
  dsimp only
  split_ifs with hack htransient
  · have hreg : KeepsLive K s { s with registry := s.registry.noteAcked key } := .of_eq rfl (shrinks_noteAcked _ _)
    have htaken : success = true ∨ key.1 = .status ∧ error.any (fun e => strContains e "Symbol(s) not found") = true := by
      simp only [Bool.or_eq_true, Bool.and_eq_true, decide_eq_true_eq] at hack
      rcases hack with hs | ⟨⟨hstatus, -⟩, herr⟩
      · exact .inl hs
      · exact .inr ⟨hstatus, herr⟩
    refine hreg.trans (keepsLive_update fun hu => ?_)
    exact (sustains_removeDeferred (.inr (hk hu htaken))).trans (sustains_wireSubscribeAck (.inr (hk hu htaken)) _)
  · exact keepsLive_update fun _ => sustains_wireSubscribeFailed (.inl htransient)
  · -- The entry is terminated before the FSM hears of the reject.
    have hreg : ∀ cause lastError, KeepsLive K s { s with registry := s.registry.noteTerminated key cause lastError } :=
      fun _ _ => .of_eq rfl (shrinks_noteTerminated _ _ _ _)
    refine (hreg _ _).trans (.trans (keepsLive_update fun _ => ?_) (keepsLive_update fun _ => ?_))
    · exact sustains_same rfl (.of_eq rfl rfl rfl) rfl rfl id rfl
    · exact sustains_wireSubscribeFailed (.inr (.inl not_live_noteTerminated))

/-- The handshake of the public connection is none of the auth connection's. -/
theorem keepsLive_handshakeAck_public (key : EntryKey) (success : Bool) (error : Option String) :
    KeepsLive K s (s.handshakeAck env .publicUrl key success error) := by
  unfold handshakeAck
  split_ifs
  · have hok : KeepsLive K s (s.updateConn .publicUrl fun mc =>
        (mc.handleEvent env.toEnv .wireAuthHandshakeOk).disarmSubscribeAck key) := keepsLive_public _
    have hreg : ∀ t : IoReactor, KeepsLive K t { t with registry := t.registry.noteAcked key } :=
      fun _ => .of_eq rfl (shrinks_noteAcked _ _)
    dsimp only
    split_ifs
    · exact ((hok.trans (hreg _)).trans (keepsLive_public _)).trans (keepsLive_public _)
    · exact (hok.trans (hreg _)).trans (keepsLive_public _)
  · exact keepsLive_public _

theorem keepsLive_handleSubAck {json : Json} (hs : url = .authUrl → (s.conns .authUrl).state ≠ .authenticating)
    (hk : url = .authUrl → ∀ key, TakenForAck (s.conns .authUrl) json key → K key) :
    KeepsLive K s (s.handleSubAck env url json).2 := by
  unfold handleSubAck
  split
  · exact .refl s
  · rename_i hmethod
    dsimp only
    split
    · exact .refl s
    · rename_i key hkey
      split_ifs with hauth harmed
      · cases url with
        | publicUrl => exact keepsLive_handshakeAck_public _ _ _
        | authUrl => exact absurd hauth (hs rfl)
      · refine keepsLive_lateAck fun hu hsuccess => ?_
        subst hu
        exact hk rfl key ⟨hmethod, hkey, .inl hsuccess⟩
      · have harmed' : (s.conns url).isSubscribeAckArmed key = true := by simpa using harmed
        refine keepsLive_armedAck fun hu htaken => ?_
        subst hu
        exact hk rfl key ⟨hmethod, hkey, htaken.imp_right fun hq => ⟨harmed', hq⟩⟩
  · exact .refl s

theorem handleRequestResponse_unconsumed {mc : ManagedConnection} {r : ReactorEnv} {json : Json}
    (h : (mc.handleRequestResponse r json).1 = false) : decodeResponse json = none := by
  unfold handleRequestResponse at h
  split at h
  · assumption
  · cases h
  · cases h

/-- A frame that finds no handshake: what it acks was handed, and nothing else is lost. -/
theorem keepsLive_textFrame (hs : url = .authUrl → (s.conns .authUrl).state ≠ .authenticating) {json : Json}
    (hk : url = .authUrl → decodeResponse json = none → ∀ key, TakenForAck (s.conns .authUrl) json key → K key) :
    KeepsLive K s (s.textFrame env url json) := by
  have hnote : KeepsLive K s (s.updateConn url (·.noteInboundActivity env.toEnv)) := keepsLive_noteInboundActivity
  have hdata : KeepsLive K s (s.routed env url json) :=
    hnote.trans (.of_eq rfl (shrinks_routeTextFrame env.router s.registry json))
  have hstate : url = .authUrl →
      ((s.updateConn url (·.noteInboundActivity env.toEnv)).conns .authUrl).state ≠ .authenticating := by
    rintro rfl
    rw [conns_updateConn]
    exact hs rfl
  rw [textFrame_eq]
  dsimp only
  split_ifs with hreq
  · refine hnote.trans ?_
    cases url with
    | publicUrl => exact .refl _
    | authUrl => exact keepsLive_requestResponse (hstate rfl) json
  · refine hnote.trans (keepsLive_handleSubAck hstate ?_)
    rintro rfl key htaken
    rw [conns_updateConn] at htaken
    refine hk rfl ?_ key htaken
    exact handleRequestResponse_unconsumed (Bool.not_eq_true _ ▸ hreq)
  · exact hdata.trans (keepsLive_foldl keepsLive_recoverBookGap _ _)

/-! ### The end of a handshake -/

theorem Grounded.inactive (h : s.Grounded born d) (hn : ¬ Active (s.conns .authUrl).state) : s.Subscribed born d :=
  ⟨h, fun ha => absurd ha hn, fun ha => absurd ha hn⟩

/-- Every live entry was tried, but the one whose ack it was. -/
theorem Grounded.resumed (h : s.Grounded born d) {r : ReactorEnv} {mc : ManagedConnection} {skipped : Option EntryKey}
    (hr : Active (s.conns .authUrl).state → Resumes r skipped mc (s.conns .authUrl))
    (hentries : ∀ key, s.registry.Live .authUrl key → ∃ f ∈ r.entries, f.key = key)
    (hborn : ∀ key, born key ≤ mc.bus.length) (hd : d ≤ mc.refreshes)
    (hskipped : ∀ key, some key = skipped → s.registry.Live .authUrl key → mc.HandedSince (born key) key)
    (hdue : r.token ≠ none → mc.Due (mc.timers.tokenRefreshDueAt.isSome = true) d) : s.Subscribed born d where
  toGrounded := h
  pursued ha key hl := by
    have hres := hr ha
    by_cases hkey : some key = skipped
    · exact .inl ((hskipped key hkey hl).grow (hres.grows ha) (hborn key))
    · obtain ⟨f, hf, rfl⟩ := hentries key hl
      exact (hres.reached f hf hkey ha).mono (hborn f.key)
  due ha := by
    have hres := hr ha
    by_cases htoken : r.token = none
    · exact hres.spawned htoken ha _ d hd
    · rw [hres.timer ha]
      exact hres.due ha _ d hd (hdue htoken)

/-- What the condition says of a frame that ends the handshake. -/
theorem due_of_completes {mc : ManagedConnection} {timer : Prop} {key : Option EntryKey}
    (hd : (∃ k, mc.Deferred k ∧ some k ≠ key) → d < mc.refreshes ∨ timer) {m : ManagedConnection}
    (ha : m.awaitingTokenRefresh = false) (hb : m.bus = mc.bus)
    (hdef : ∀ x ∈ m.deferredOpenAuthSubscribes, x ∈ mc.deferredOpenAuthSubscribes ∧ some (x.1, x.2.1) ≠ key) :
    m.Due timer d := by
  constructor
  · intro hawait
    rw [ha] at hawait
    cases hawait
  · intro hne
    obtain ⟨x, hx⟩ := List.exists_mem_of_ne_nil _ hne
    obtain ⟨hmem, hkey⟩ := hdef x hx
    have hlt := hd ⟨(x.1, x.2.1), ⟨x, hmem, rfl, rfl⟩, hkey⟩
    unfold refreshes at hlt ⊢
    rwa [hb]

/-- An order's answer. -/
theorem subscribed_requestResponse (h : s.Grounded born d) (hs : (s.conns .authUrl).state = .authenticating) (json : Json)
    (hdue : (s.reactorEnv env .authUrl).token ≠ none → Completes (s.conns .authUrl) json none →
      (∃ key, (s.conns .authUrl).Deferred key) →
        d < (s.conns .authUrl).refreshes ∨ (s.conns .authUrl).timers.tokenRefreshDueAt.isSome = true) :
    (s.requestResponse env .authUrl json).2.Subscribed born d := by
  have hnone : ¬ Active (s.conns .authUrl).state := by
    rw [hs]
    exact id
  have hground : (s.requestResponse env .authUrl json).2.Grounded born d := h.served (served_requestResponse json) h.routed
  have hok := @handleEvent_wireAuthHandshakeOk (s.conns .authUrl) (s.reactorEnv env .authUrl).toEnv hs
  have hown := h.own (by rw [hs]; trivial)
  unfold requestResponse handleRequestResponse at hground ⊢
  dsimp only at hground ⊢
  cases hdecode : decodeResponse json with
  | none =>
    rw [hdecode] at hground
    exact hground.inactive (by rw [conns_updateConn]; exact hnone)
  | some answer =>
    rw [hdecode] at hground
    cases answer with
    | none => exact hground.inactive (by rw [conns_updateConn]; exact hnone)
    | some resp =>
      dsimp only at hground ⊢
      by_cases ha : Active ((s.conns .authUrl).routeResponse (s.reactorEnv env .authUrl) resp).state
      · obtain ⟨hack, hresumes, hbare⟩ := @routeResponse_authenticating _ (s.reactorEnv env .authUrl) hs hown resp ha
        cases hentry : (s.reactorEnv env .authUrl).hasUrlEntry with
        | true =>
          have hm := hresumes hentry
          rw [hok, ← conns_updateConn s .authUrl fun _ => (s.conns .authUrl).routeResponse (s.reactorEnv env .authUrl)
            resp] at hm
          refine hground.resumed (fun _ => hm) (fun key hl => mem_entries h.routed hl) h.births h.spawned ?_ fun htoken => ?_
          · intro key hkey
            cases hkey
          · refine @due_of_completes d (s.conns .authUrl) _ none ?_ _ rfl rfl fun x hx => ⟨hx, by simp⟩
            rintro ⟨k, hk, -⟩
            exact hdue htoken ⟨resp, hdecode, hack⟩ ⟨k, hk⟩
        | false =>
          refine ⟨hground, fun _ key hl => ?_, fun _ => ?_⟩
          · obtain ⟨f, hf, -⟩ := @mem_entries s env h.routed key hl
            rw [ReactorEnv.hasUrlEntry, Bool.not_eq_false', List.isEmpty_iff] at hentry
            rw [hentry] at hf
            cases hf
          · rw [conns_updateConn]
            exact hbare hentry _ d
      · exact hground.inactive (by rw [conns_updateConn]; exact ha)

/-- A handshake that fails leaves the connection without subscriptions to keep. -/
theorem subscribed_handshakeAck_failed (h : s.Grounded born d) (hs : (s.conns .authUrl).state = .authenticating)
    {key : EntryKey} {error : Option String} : (s.handshakeAck env .authUrl key false error).Subscribed born d := by
  have hserved := @served_handshakeAck s env .authUrl key false error
  unfold handshakeAck at hserved ⊢
  rw [if_neg Bool.false_ne_true] at hserved ⊢
  dsimp only at hserved ⊢
  have hrouted : ∀ f, Routed (s.updateConn .authUrl f).registry := fun _ => h.routed
  refine (h.served hserved (hrouted _)).inactive ?_
  have hfail : ∀ kind, ¬ Active ((s.conns .authUrl).handleEvent env.toEnv (.wireAuthHandshakeFailed kind)).state := by
    intro kind
    rw [handleEvent_authenticating hs]
    exact not_active_handleAuthenticating hs id
  rw [conns_updateConn]
  specialize hfail (classifyAuthHandshakeError (error.getD "auth handshake rejected"))
  generalize (s.conns .authUrl).handleEvent env.toEnv
    (.wireAuthHandshakeFailed (classifyAuthHandshakeError (error.getD "auth handshake rejected"))) = m at hfail ⊢
  split_ifs
  · exact hfail
  · exact hfail

/-- The answer to the first signed subscribe. -/
theorem subscribed_handshakeAck (h : s.Grounded born d) (hs : (s.conns .authUrl).state = .authenticating) {key : EntryKey}
    {success : Bool} {error : Option String}
    (hhanded : success = true → s.registry.Live .authUrl key → (s.conns .authUrl).HandedSince (born key) key)
    (hdue : success = true → (s.reactorEnv env .authUrl).token ≠ none →
      (∃ k, (s.conns .authUrl).Deferred k ∧ some k ≠ some key) →
        d < (s.conns .authUrl).refreshes ∨ (s.conns .authUrl).timers.tokenRefreshDueAt.isSome = true) :
    (s.handshakeAck env .authUrl key success error).Subscribed born d := by
  have hown := h.own (by rw [hs]; trivial)
  cases success with
  | false => exact subscribed_handshakeAck_failed h hs
  | true =>
    have hok := @handleEvent_wireAuthHandshakeOk (s.conns .authUrl) env.toEnv hs
    have hrouted : Routed (s.registry.noteAcked key) := h.routed.shrink (shrinks_noteAcked _ _)
    have hserved := @served_handshakeAck s env .authUrl key true error
    unfold handshakeAck at hserved ⊢
    rw [if_pos rfl] at hserved ⊢
    dsimp only at hserved ⊢
    generalize ht : ({ s.updateConn .authUrl (fun mc =>
      (mc.handleEvent env.toEnv .wireAuthHandshakeOk).disarmSubscribeAck key) with
        registry := (s.updateConn .authUrl fun mc =>
          (mc.handleEvent env.toEnv .wireAuthHandshakeOk).disarmSubscribeAck key).registry.noteAcked key } :
            IoReactor).updateConn .authUrl (·.removeDeferredOpenAuthSubscribe key) = t at hserved ⊢
    have hconn : t.conns .authUrl = (((s.conns .authUrl).handleEvent env.toEnv
        .wireAuthHandshakeOk).disarmSubscribeAck key).removeDeferredOpenAuthSubscribe key := by
      rw [← ht, conns_updateConn]
      simp [updateConn]
    have hreg : t.registry = s.registry.noteAcked key := by
      rw [← ht]
      rfl
    have hsockets : t.sockets = s.sockets := by
      rw [← ht]
      rfl
    rw [hok] at hconn
    have hstate : (t.conns .authUrl).state = .resubscribing := by
      rw [hconn]
      rfl
    have hbus : (t.conns .authUrl).bus = (s.conns .authUrl).bus := by
      rw [hconn]
      rfl
    have hsame : Grows (s.conns .authUrl) (t.conns .authUrl) := .of_eq (by rw [hconn]; rfl) (by rw [hconn]; rfl) hbus
    have hclear : (t.conns .authUrl).awaitingTokenRefresh = false := by
      rw [hconn]
      rfl
    have htimer : (t.conns .authUrl).timers.tokenRefreshDueAt = (s.conns .authUrl).timers.tokenRefreshDueAt := by
      rw [hconn]
      rfl
    have hdeferred : (t.conns .authUrl).deferredOpenAuthSubscribes = (s.conns .authUrl).deferredOpenAuthSubscribes.filter
        fun x => !decide (x.1 = key.1 ∧ x.2.1 = key.2) := by
      rw [hconn]
      rfl
    rw [if_pos hstate] at hserved ⊢
    have hgone : OwnSocket (t.reactorEnv env .authUrl) (t.conns .authUrl) := by
      obtain ⟨socket, hmap, hk⟩ := hown
      refine fun _ => ⟨socket, ?_, hsame.socket.trans hk⟩
      show t.sockets .authUrl = some socket
      rw [hsockets, hmap]
    have hm : Resumes (t.reactorEnv env .authUrl) (some key) (t.conns .authUrl) ((t.updateConn .authUrl fun mc =>
        (mc.sendRemainingSignedSubscribes (t.reactorEnv env .authUrl) (some key)).completeResubscribeIfEmpty
          env.toEnv).conns .authUrl) := by
      rw [conns_updateConn]
      exact resumes_sendRemaining hstate hclear hgone (some key)
    rw [← hreg] at hrouted
    have hground := h.served hserved hrouted
    refine hground.resumed (fun _ => hm) (fun k hl => mem_entries hrouted hl) (fun k => ?_) ?_ ?_ fun htoken => ?_
    · rw [hbus]
      exact h.births k
    · unfold refreshes
      rw [hbus]
      exact h.spawned
    · rintro k hk hl
      cases hk
      refine (hhanded rfl ?_).grow hsame (h.births key)
      have hl' : t.registry.Live .authUrl key := hl
      rw [hreg] at hl'
      exact hl'.of_shrinks (shrinks_noteAcked _ _)
    · rw [htimer]
      refine due_of_completes (hdue rfl htoken) hclear hbus fun x hx => ?_
      rw [hdeferred] at hx
      obtain ⟨hmem, hne⟩ := List.mem_filter.1 hx
      refine ⟨hmem, fun he => ?_⟩
      cases he
      simp at hne

/-- A frame of the auth socket that finds the handshake going on. -/
theorem subscribed_handshakeFrame (h : s.Subscribed born d) (hs : (s.conns .authUrl).state = .authenticating) {json : Json}
    (hack : decodeResponse json = none → ∀ key, TakenForAck (s.conns .authUrl) json key →
      s.registry.Live .authUrl key → (s.conns .authUrl).HandedSince (born key) key)
    (hdue : (s.reactorEnv env .authUrl).token ≠ none → ∀ skipped, Completes (s.conns .authUrl) json skipped →
      (∃ key, (s.conns .authUrl).Deferred key ∧ some key ≠ skipped) →
        d < (s.conns .authUrl).refreshes ∨ (s.conns .authUrl).timers.tokenRefreshDueAt.isSome = true) :
    (s.textFrame env .authUrl json).Subscribed born d := by
  have hserved := @served_textFrame s env .authUrl json
  have hnote : KeepsLive (fun _ => False) s (s.updateConn .authUrl (·.noteInboundActivity env.toEnv)) :=
    keepsLive_noteInboundActivity
  have hnoted : Served env s (s.updateConn .authUrl (·.noteInboundActivity env.toEnv)) := served_kept rfl rfl rfl rfl
  have hground := (h.spared hnoted hnote).toGrounded
  have hconn : (s.updateConn .authUrl (·.noteInboundActivity env.toEnv)).conns .authUrl =
      (s.conns .authUrl).noteInboundActivity env.toEnv := conns_updateConn _ _ _
  have hstate : ((s.updateConn .authUrl (·.noteInboundActivity env.toEnv)).conns .authUrl).state = .authenticating := by
    rw [hconn]
    exact hs
  rw [textFrame_eq] at hserved ⊢
  dsimp only at hserved ⊢
  split_ifs at hserved ⊢ with hreq hsub
  · refine subscribed_requestResponse hground hstate json fun htoken hc hdefer => ?_
    rw [hconn] at hc hdefer ⊢
    obtain ⟨key, hkey⟩ := hdefer
    exact hdue htoken none hc ⟨key, hkey, by simp⟩
  · have hnone : decodeResponse json = none := by
      simp only [requestResponse] at hreq
      exact handleRequestResponse_unconsumed (Bool.not_eq_true _ ▸ hreq)
    unfold handleSubAck
    split
    · exact h.spared hnoted hnote
    · rename_i hmethod
      dsimp only
      split
      · exact h.spared hnoted hnote
      · rename_i key hkey
        rw [if_pos hstate]
        rw [hconn] at hkey
        refine subscribed_handshakeAck hground hstate (fun hsuccess hl => ?_) fun hsuccess htoken hdefer => ?_
        · rw [hconn]
          exact hack hnone key ⟨hmethod, hkey, .inl hsuccess⟩ hl
        · rw [hconn] at hdefer ⊢
          exact hdue htoken (some key) ⟨hnone, hmethod, hkey, hsuccess⟩ hdefer
    · exact h.spared hnoted hnote
  · have hdata : KeepsLive (fun _ => False) s (s.routed env .authUrl json) :=
      hnote.trans (.of_eq rfl (shrinks_routeTextFrame env.router s.registry json))
    exact h.spared hserved (hdata.trans (keepsLive_foldl keepsLive_recoverBookGap _ _))

/-! ### Timers -/

theorem upholds_popTimer {mc : ManagedConnection} {event : FsmEvent}
    (hresend : ∀ channel pair, event ≠ .timerSubscribeResendDue channel pair) (htoken : event ≠ .timerTokenRefreshDue) :
    Upholds mc (mc.popTimerForEvent event) := by
  cases event
  case timerSubscribeResendDue => exact absurd rfl (hresend _ _)
  case timerTokenRefreshDue => exact absurd rfl htoken
  all_goals exact sustains_same rfl (.of_eq rfl rfl rfl) rfl rfl id rfl

/-- A timer that is neither a resend's nor the proactive refresh's. -/
theorem keepsLive_timer {event : FsmEvent}
    (hresend : url = .authUrl → ∀ channel pair, event ≠ .timerSubscribeResendDue channel pair)
    (htoken : url = .authUrl → event ≠ .timerTokenRefreshDue) : KeepsLive K s (s.timer env url event) := by
  have hpop : KeepsLive K s (s.updateConn url (·.popTimerForEvent event)) :=
    keepsLive_update fun hu => by subst hu; exact (upholds_popTimer (hresend rfl) (htoken rfl)).widen
  unfold timer
  split_ifs with harmed
  · dsimp only
    split
    · refine (hpop.trans (keepsLive_update fun hu => ?_)).project _
      exact absurd rfl (hresend hu _ _)
    · exact (hpop.trans (keepsLive_handleBookReseedTimeout _)).project _
    · refine hpop.trans (keepsLive_update fun hu => ?_)
      exact absurd rfl (htoken hu)
    · refine (hpop.trans (keepsLive_event fun hanswers => ?_)).project _
      cases event <;> first | exact hanswers | cases harmed
  · exact .refl s

/-- The proactive timer is armed again. -/
theorem subscribed_refreshTimer (h : s.Subscribed born d) : (s.timer env .authUrl .timerTokenRefreshDue).Subscribed born d := by
  have hground := h.toGrounded.served (@served_timer s env .authUrl .timerTokenRefreshDue) (by
    unfold timer
    split_ifs <;> exact h.routed)
  unfold timer at hground ⊢
  split_ifs at hground ⊢
  · dsimp only at hground ⊢
    -- Only the two terminal states leave it disarmed.
    have hkept : Active (rearmProactiveRefresh env ((s.conns .authUrl).popTimerForEvent .timerTokenRefreshDue)).state →
        Active (s.conns .authUrl).state ∧
          rearmProactiveRefresh env ((s.conns .authUrl).popTimerForEvent .timerTokenRefreshDue) =
            (s.conns .authUrl).setTokenRefreshDue (some (env.now + fromMillis (450 * 1000))) := by
      unfold rearmProactiveRefresh
      split_ifs with hterminal
      · intro ha
        rcases hterminal with hs | hs <;> rw [hs] at ha <;> exact ha.elim
      · exact fun ha => ⟨ha, rfl⟩
    refine ⟨hground, fun ha key hl => ?_, fun ha => ?_⟩
    all_goals
      rw [conns_updateConn, conns_updateConn] at ha ⊢
      obtain ⟨hactive, heq⟩ := hkept ha
      rw [heq]
    · exact h.pursued hactive key hl
    · exact ⟨(h.due hactive).awaited, fun _ => .inr rfl⟩
  · exact h

/-- A resend whose entry is still there is tried. -/
theorem subscribed_resendTimer (h : s.Subscribed born d) (channel : ChannelName) (pair : Option Symbol) :
    (s.timer env .authUrl (.timerSubscribeResendDue channel pair)).Subscribed born d := by
  have hground := h.toGrounded.served (@served_timer s env .authUrl (.timerSubscribeResendDue channel pair)) (by
    unfold timer
    split_ifs <;> exact h.routed)
  have hpop : Sustains (· = (channel, pair)) (s.conns .authUrl)
      ((s.conns .authUrl).popTimerForEvent (.timerSubscribeResendDue channel pair)) := by
    refine .of_seeks (seeks_kept rfl (.of_eq rfl rfl rfl) (fun key hne hr => ?_) (fun _ _ => id) rfl) id id
    simpa [popTimerForEvent, AList.lookup_erase_ne hne] using hr
  have hown : OwnSocket (s.reactorEnv env .authUrl)
      ((s.conns .authUrl).popTimerForEvent (.timerSubscribeResendDue channel pair)) := h.ownSocket
  unfold timer at hground ⊢
  split_ifs at hground ⊢
  · dsimp only at hground ⊢
    have hframe : (s.updateConn .authUrl (·.popTimerForEvent (.timerSubscribeResendDue channel pair))).frameFor env
        (channel, pair) = s.frameFor env (channel, pair) := rfl
    have hreads : (s.updateConn .authUrl (·.popTimerForEvent (.timerSubscribeResendDue channel pair))).reactorEnv env
        .authUrl = s.reactorEnv env .authUrl := rfl
    rw [hframe, hreads] at hground ⊢
    have hresend : Upholds ((s.conns .authUrl).popTimerForEvent (.timerSubscribeResendDue channel pair))
        (((s.conns .authUrl).popTimerForEvent (.timerSubscribeResendDue channel pair)).handleSubscribeResend
          (s.reactorEnv env .authUrl) .authUrl (s.frameFor env (channel, pair))) := by
      cases s.frameFor env (channel, pair) with
      | none => exact .refl _
      | some f => exact (reaches_handleSubscribeResend hown f).toSustains
    have hboth := hpop.trans hresend.widen
    refine ⟨hground, fun ha key hl => ?_, fun ha => ?_⟩
    all_goals rw [conns_project, conns_updateConn, conns_updateConn] at ha ⊢
    · have hactive := hboth.active ha
      by_cases hkey : key = (channel, pair)
      · subst hkey
        cases hf : s.frameFor env (channel, pair) with
        | none => exact absurd hl (not_live_of_frameFor hf)
        | some f =>
          rw [hf] at ha
          have hreached := (reaches_handleSubscribeResend hown f).reached ha
          rw [key_of_frameFor hf] at hreached
          exact hreached.mono (h.births _)
      · exact hboth.pursued ha key _ hkey (h.births key) (h.pursued hactive key hl)
    · rw [hboth.timer ha]
      exact hboth.due ha _ d h.spawned (h.due (hboth.active ha))
  · exact h

theorem subscribed_timer (h : s.Subscribed born d) (event : FsmEvent) : (s.timer env url event).Subscribed born d := by
  by_cases hresend : url = .authUrl ∧ ∃ channel pair, event = .timerSubscribeResendDue channel pair
  · obtain ⟨rfl, channel, pair, rfl⟩ := hresend
    exact subscribed_resendTimer h channel pair
  · by_cases htoken : url = .authUrl ∧ event = .timerTokenRefreshDue
    · obtain ⟨rfl, rfl⟩ := htoken
      exact subscribed_refreshTimer h
    · refine h.spared (served_timer event) (keepsLive_timer (fun hu channel pair he => ?_) fun hu he => ?_)
      · exact hresend ⟨hu, channel, pair, he⟩
      · exact htoken ⟨hu, he⟩

/-! ### Refresh outcomes -/

theorem drainable_iff {mc : ManagedConnection} : drainable mc = true ↔ Active mc.state := by
  unfold drainable
  cases mc.state <;> simp [Active]

/-- The drain reads the registry and the map. -/
theorem sendDeferred_updateConn (f : ManagedConnection → ManagedConnection)
    (ds : List (ChannelName × Option Symbol × SubscribeParams)) (mc : ManagedConnection) :
    (s.updateConn url f).sendDeferred env ds mc = s.sendDeferred env ds mc := by
  induction ds generalizing mc with
  | nil => rfl
  | cons x ds ih =>
    obtain ⟨channel, pair, params⟩ := x
    have hreads : (s.updateConn url f).reactorEnv env .authUrl = s.reactorEnv env .authUrl := rfl
    have hregistry : (s.updateConn url f).registry = s.registry := rfl
    simp only [sendDeferred, ih, hreads, hregistry]

/-- Every deferral is tried, unless its entry is gone or an ack is waited for. -/
theorem reaches_sendDeferred (ds : List (ChannelName × Option Symbol × SubscribeParams)) {mc : ManagedConnection}
    (hk : OwnSocket (s.reactorEnv env .authUrl) mc) : Upholds mc (s.sendDeferred env ds mc) ∧
      ∀ x ∈ ds, s.registry.paramsFor (x.1, x.2.1) = none ∨ s.registry.isTerminated (x.1, x.2.1) = true ∨
        mc.isSubscribeAckArmed (x.1, x.2.1) = true ∨ Reaches (x.1, x.2.1) mc (s.sendDeferred env ds mc) := by
  induction ds generalizing mc with
  | nil => exact ⟨.refl mc, fun _ hx => absurd hx List.not_mem_nil⟩
  | cons x ds ih =>
    obtain ⟨channel, pair, params⟩ := x
    have hreach : Reaches (channel, pair) mc (mc.sendSingleSignedSubscribe (s.reactorEnv env .authUrl)
        ⟨(channel, pair), params, env.sendFrame (channel, pair)⟩) :=
      reaches_sendSingleSignedSubscribe hk ⟨(channel, pair), params, env.sendFrame (channel, pair)⟩
    have harmed := fun ha key => @armed_sendSingleSignedSubscribe mc key (s.reactorEnv env .authUrl)
      ⟨(channel, pair), params, env.sendFrame (channel, pair)⟩ ha
    simp only [sendDeferred]
    split_ifs with hskip hdrain
    · obtain ⟨hup, hall⟩ := ih hk
      refine ⟨hup, fun x hx => ?_⟩
      rcases List.mem_cons.1 hx with rfl | hx
      · rcases hskip with hparams | hterm | hack
        · exact .inl hparams
        · exact .inr (.inl hterm)
        · exact .inr (.inr (.inl hack))
      · exact hall x hx
    · generalize mc.sendSingleSignedSubscribe (s.reactorEnv env .authUrl)
        ⟨(channel, pair), params, env.sendFrame (channel, pair)⟩ = m at hreach harmed hdrain ⊢
      obtain ⟨hup, hall⟩ := ih (hk.seeks hreach.toSeeks)
      refine ⟨hreach.toSustains.trans hup, fun x hx => ?_⟩
      rcases List.mem_cons.1 hx with rfl | hx
      · exact .inr (.inr (.inr (hreach.before hup)))
      · rcases hall x hx with hparams | hterm | hack | hrest
        · exact .inl hparams
        · exact .inr (.inl hterm)
        · rcases harmed (drainable_iff.1 hdrain) _ hack with hold | hkey
          · exact .inr (.inr (.inl hold))
          · rw [hkey]
            exact .inr (.inr (.inr (hreach.before hup)))
        · exact .inr (.inr (.inr (hrest.after hreach.toSustains)))
    · have hgone : ¬ Active (mc.sendSingleSignedSubscribe (s.reactorEnv env .authUrl)
          ⟨(channel, pair), params, env.sendFrame (channel, pair)⟩).state := fun ha => hdrain (drainable_iff.2 ha)
      exact ⟨.left hgone, fun _ _ => .inr (.inr (.inr (.left hgone)))⟩

/-- The connection after a refresh outcome. -/
theorem conns_refreshed (s : IoReactor) (env : ArmEnv) (requestId : Nat) (result : Except AuthError Unit) :
    (s.refreshed env requestId result).conns .authUrl =
      let m := s.deliverRefresh env requestId result (s.conns .authUrl)
      let m := if refreshLanded result = true ∧ drainable m = true ∧ ¬ m.awaitingTokenRefresh = true then
          s.sendDeferred env m.drainDeferredOpenAuthSubscribes.1 m.drainDeferredOpenAuthSubscribes.2
        else m
      if refreshLanded result = true ∨ env.cachedToken.isNone = true then
        m.setTokenRefreshDue (env.cachedToken.map (·.refreshDueAt))
      else m := by
  unfold refreshed
  dsimp only
  rw [conns_project]
  split_ifs <;> simp only [conns_updateConn, sendDeferred_updateConn] at * <;> simp_all

/-- The delivery of an outcome strands nothing. -/
theorem upholds_deliverRefresh (mc : ManagedConnection) (requestId : Nat) (result : Except AuthError Unit) :
    Upholds mc (s.deliverRefresh env requestId result mc) := by
  unfold deliverRefresh
  split_ifs
  · cases result with
    | ok u =>
      dsimp only
      have hevent : Upholds mc (mc.handleEvent env.toEnv (.busTokenRefreshed requestId)) := upholds_event id
      split_ifs
      · exact hevent.trans upholds_sendFirstSignedSubscribe
      · exact hevent
    | error e => exact upholds_event id
  · exact .refl mc

/-- An active connection hears of the outcome, and awaits it no more. -/
theorem deliverRefresh_active {mc : ManagedConnection} (ha : Active mc.state) (requestId : Nat)
    (result : Except AuthError Unit) :
    s.deliverRefresh env requestId result mc = { mc with awaitingTokenRefresh := false } := by
  unfold deliverRefresh
  rw [if_pos (.inr (drainable_iff.2 ha))]
  cases hs : mc.state <;> rw [hs] at ha
  case resubscribing | opened =>
    cases result with
    | ok => simp [handleEvent, handleResubscribing, handleOpen, authenticatingNothingInFlight, hs]
    | error => simp [handleEvent, handleResubscribing, handleOpen, hs]
  all_goals exact ha.elim

theorem not_live_of_skipped {key : EntryKey} (h : s.registry.paramsFor key = none ∨ s.registry.isTerminated key = true) :
    ¬ s.registry.Live .authUrl key := by
  rintro ⟨e, he, -, htomb⟩
  rcases h with h | h
  · rw [paramsFor, he] at h
    cases h
  · rw [isTerminated, he, Option.any_some, htomb] at h
    cases h

/-- **The outcome of a refresh**, where `d'` outcomes have come by then. -/
theorem subscribed_refreshed (h : s.Subscribed born d) {d' : Nat} (hd : d' ≤ (s.conns .authUrl).refreshes)
    (requestId : Nat) (result : Except AuthError Unit)
    (hok : refreshLanded result = true → Active (s.conns .authUrl).state → ∀ key, (s.conns .authUrl).Deferred key →
      (s.conns .authUrl).isSubscribeAckArmed key = true → s.registry.Live .authUrl key →
        (s.conns .authUrl).HandedSince (born key) key)
    (herr : refreshLanded result = false → Active (s.conns .authUrl).state →
      (s.conns .authUrl).deferredOpenAuthSubscribes ≠ [] → d' < (s.conns .authUrl).refreshes ∨
        (env.cachedToken.isSome = true ∧ (s.conns .authUrl).timers.tokenRefreshDueAt.isSome = true)) :
    (s.refreshed env requestId result).Subscribed born d' := by
  have hground : (s.refreshed env requestId result).Grounded born d' := by
    refine Grounded.served { h.toGrounded with spawned := hd } (served_refreshed requestId result) ?_
    rw [registry_refreshed]
    exact h.routed
  by_cases ha : Active (s.conns .authUrl).state
  · have hdeliver := @deliverRefresh_active s env _ ha requestId result
    have hconn := conns_refreshed s env requestId result
    dsimp only at hconn
    rw [hdeliver] at hconn
    cases hlanded : refreshLanded result with
    | false =>
      simp only [hlanded, Bool.false_eq_true, false_and, if_false, false_or] at hconn
      -- What is pursued is as before: only the flag and the proactive timer are touched.
      have hseeks : ∀ key n, (s.conns .authUrl).Pursues n key →
          ((s.refreshed env requestId result).conns .authUrl).Pursues n key := by
        intro key n hp
        rw [hconn]
        split_ifs <;> exact hp
      refine ⟨hground, fun _ key hl => ?_, fun _ => ⟨fun hawait => ?_, fun hne => ?_⟩⟩
      · rw [registry_refreshed] at hl
        exact hseeks key _ (h.pursued ha key hl)
      · rw [hconn] at hawait
        split_ifs at hawait
        cases hawait
      · have hdeferred : (s.conns .authUrl).deferredOpenAuthSubscribes ≠ [] := by
          rw [hconn] at hne
          split_ifs at hne <;> exact hne
        rcases herr hlanded ha hdeferred with hlt | ⟨hcached, htimer⟩
        · left
          rw [hconn]
          split_ifs <;> exact hlt
        · right
          have hno : ¬ env.cachedToken.isNone = true := by simp [Option.isSome_iff_ne_none.1 hcached]
          rw [hconn, if_neg hno]
          exact htimer
    | true =>
      have hdrains : drainable ({ s.conns .authUrl with awaitingTokenRefresh := false } : ManagedConnection) = true :=
        drainable_iff.2 ha
      simp only [hlanded, hdrains, true_and, true_or, if_true, Bool.false_eq_true, not_false_eq_true,
        drainDeferredOpenAuthSubscribes] at hconn
      -- The list is taken, and each of it is tried.
      generalize hmc : ({ s.conns .authUrl with
        deferredOpenAuthSubscribes := [], awaitingTokenRefresh := false } : ManagedConnection) = mc at hconn
      have hstate : mc.state = (s.conns .authUrl).state := by rw [← hmc]
      have hbus : mc.bus = (s.conns .authUrl).bus := by rw [← hmc]
      have hown : OwnSocket (s.reactorEnv env .authUrl) mc := by
        rw [← hmc]
        exact h.ownSocket
      obtain ⟨hup, hall⟩ := reaches_sendDeferred (s.conns .authUrl).deferredOpenAuthSubscribes hown
      generalize s.sendDeferred env (s.conns .authUrl).deferredOpenAuthSubscribes mc = m at hup hall hconn
      refine ⟨hground, fun hm key hl => ?_, fun hm => ?_⟩
      all_goals rw [hconn] at hm ⊢
      · rw [registry_refreshed] at hl
        have hborn : born key ≤ mc.bus.length := by
          rw [hbus]
          exact h.births key
        have hkept : mc.Pursues (born key) key → m.Pursues (born key) key := hup.pursued hm key _ id hborn
        have hhanded : (s.conns .authUrl).HandedSince (born key) key → m.Pursues (born key) key := by
          intro hh
          refine hkept (.inl ?_)
          rw [← hmc]
          exact hh
        rcases h.pursued ha key hl with hh | hresend | hdefer
        · exact hhanded hh
        · refine hkept (.inr (.inl ?_))
          rw [← hmc]
          exact hresend
        · obtain ⟨x, hx, hch, hpair⟩ := hdefer
          have hxkey : (x.1, x.2.1) = key := by rw [hch, hpair]
          rcases hall x hx with hparams | hterm | hack | hreach
          · exact absurd hl (not_live_of_skipped (.inl (hxkey ▸ hparams)))
          · exact absurd hl (not_live_of_skipped (.inr (hxkey ▸ hterm)))
          · rw [← hmc, hxkey] at hack
            exact hhanded (hok hlanded ha key ⟨x, hx, hch, hpair⟩ hack hl)
          · rw [hxkey] at hreach
            exact (hreach.reached hm).mono hborn
      · have hnone : mc.Due False d' := by
          rw [← hmc]
          exact due_of_none rfl rfl _ d'
        have hdue := hup.due hm False d' (by rw [← hmc]; exact hd) hnone
        exact ⟨hdue.awaited, fun hne => .inl ((hdue.deferred hne).resolve_right id)⟩
  · refine hground.inactive fun hm => ha ?_
    have hup := @upholds_deliverRefresh s env (s.conns .authUrl) requestId result
    -- Only an active connection is drained.
    by_contra hno
    rw [conns_refreshed] at hm
    dsimp only at hm
    generalize s.deliverRefresh env requestId result (s.conns .authUrl) = m at hup hm
    have hleft : ¬ Active m.state := fun h => hno (hup.active h)
    have hskip : ¬ (refreshLanded result = true ∧ drainable m = true ∧ ¬ m.awaitingTokenRefresh = true) :=
      fun h => hleft (drainable_iff.1 h.2.1)
    rw [if_neg hskip] at hm
    split_ifs at hm <;> exact hleft hm

/-! ### Upgrade outcomes -/

theorem Subscribed.same (h : s.Subscribed born d) (ha : s'.Attached) (hc : s'.conns .authUrl = s.conns .authUrl)
    (hk : s'.sockets .authUrl = s.sockets .authUrl) (hr : s'.registry = s.registry) : s'.Subscribed born d where
  attached := ha
  url := hc ▸ h.url
  matched hup := by
    rw [hc] at hup ⊢
    exact hk.trans (h.matched hup)
  routed := hr ▸ h.routed
  spawned := hc ▸ h.spawned
  births key := hc ▸ h.births key
  pursued hactive key hl := by
    rw [hc] at hactive ⊢
    rw [hr] at hl
    exact h.pursued hactive key hl
  due hactive := by
    rw [hc] at hactive ⊢
    exact h.due hactive

theorem keepsLive_sendFirst : KeepsLive K s (s.updateConn url (·.sendFirstSignedSubscribe (s.reactorEnv env url))) :=
  keepsLive_update fun _ => upholds_sendFirstSignedSubscribe.widen

theorem keepsLive_replay : KeepsLive K s (s.replay env url) := by
  unfold replay
  refine (keepsLive_update fun _ => ?_).project _
  refine Sustains.widen (Sustains.trans ?_ upholds_complete)
  cases s.sockets url with
  | none => exact .refl _
  | some socket => exact upholds_replayFrames socket _

/-- The success of an attempt begins a handshake. -/
theorem subscribed_upgradeOk_connecting (h : s.Subscribed born d) {connectionId : SocketId}
    (hs : (s.conns .authUrl).state = .connecting) (hlive : s.sockets .authUrl = some connectionId)
    (hown : (s.conns .authUrl).socket = some connectionId) : (s.upgradeOk env .authUrl connectionId).Subscribed born d := by
  have hevent : (s.conns .authUrl).handleEvent env.toEnv (.wireUpgradeOk (some connectionId)) =
      { s.conns .authUrl with
        serverConnectionId := some connectionId
        timers := { (s.conns .authUrl).timers with upgradeTimeoutDueAt := none }
        state := .authenticating }.armStaleness env.toEnv := by
    simp only [handleEvent, hs, handleConnecting, h.url]
  have hattached := @attached_wireUpgradeOk s env .authUrl h.attached connectionId hlive
  have hground : (s.updateConn .authUrl (·.handleEvent env.toEnv (.wireUpgradeOk (some connectionId)))).Grounded born d := by
    refine ⟨hattached, ?_, fun _ => ?_, h.routed, ?_, fun key => ?_⟩
    all_goals rw [conns_updateConn, hevent]
    · exact h.url
    · exact hlive.trans hown.symm
    · exact h.spawned
    · exact h.births key
  have hstate : ((s.updateConn .authUrl (·.handleEvent env.toEnv (.wireUpgradeOk (some connectionId)))).conns
      .authUrl).state = .authenticating := by
    rw [conns_updateConn, hevent]
    rfl
  unfold upgradeOk
  dsimp only
  generalize s.updateConn .authUrl (·.handleEvent env.toEnv (.wireUpgradeOk (some connectionId))) = t at hground hstate ⊢
  have hno : ¬ ((t.conns .authUrl).state = .resubscribing ∧ (t.conns .authUrl).hasBeenOpen = true) := by simp [hstate]
  rw [if_neg hno, if_pos hstate]
  refine (hground.served served_sendFirst hground.routed).inactive fun ha => ?_
  rw [conns_updateConn] at ha
  have hactive := upholds_sendFirstSignedSubscribe.active ha
  rw [hstate] at hactive
  exact hactive

/-- Later it changes nothing. -/
theorem subscribed_upgradeOk (h : s.Subscribed born d) {connectionId : SocketId}
    (hlive : s.sockets .authUrl = some connectionId)
    (hown : (s.conns .authUrl).state = .connecting → (s.conns .authUrl).socket = some connectionId) :
    (s.upgradeOk env .authUrl connectionId).Subscribed born d := by
  by_cases hs : (s.conns .authUrl).state = .connecting
  · exact subscribed_upgradeOk_connecting h hs hlive (hown hs)
  · have hevent : s.updateConn .authUrl (·.handleEvent env.toEnv (.wireUpgradeOk (some connectionId))) = s := by
      unfold updateConn
      dsimp only
      rw [handleEvent_wireUpgradeOk_of_ne hs, Function.update_eq_self]
    unfold upgradeOk
    dsimp only
    rw [hevent]
    split_ifs
    · exact (h.spared served_replay keepsLive_replay).spared served_sendFirst keepsLive_sendFirst
    · exact h.spared served_replay keepsLive_replay
    · exact h.spared served_sendFirst keepsLive_sendFirst
    · exact h

/-- The public connection's is none of the auth connection's. -/
theorem subscribed_upgradeOk_public (h : s.Subscribed born d) {connectionId : SocketId}
    (hlive : s.sockets .publicUrl = some connectionId) : (s.upgradeOk env .publicUrl connectionId).Subscribed born d := by
  have hattached := @attached_upgradeOk s env .publicUrl h.attached connectionId hlive
  refine h.same hattached ?_ ?_ ?_
  all_goals
    unfold upgradeOk
    dsimp only
    split_ifs <;> simp [replay, conns_updateConn_of_ne, sockets_project_of_ne]

theorem subscribed_takeOutcome (h : s.Subscribed born d)
    (hown : ∀ q connectionId, s.upgradeRx.head? = some q → q.outcome = .ok .authUrl connectionId →
      s.sockets .authUrl = some connectionId → (s.conns .authUrl).state = .connecting →
        (s.conns .authUrl).socket = some connectionId) : (s.takeOutcome env).Subscribed born d := by
  unfold takeOutcome
  cases hq : s.upgradeRx with
  | nil => exact h
  | cons q rest =>
    have hrest : ({ s with upgradeRx := rest } : IoReactor).Subscribed born d :=
      h.same ⟨h.attached.held, h.attached.mapped⟩ rfl rfl rfl
    dsimp only
    cases ho : q.outcome with
    | failed url kind transient =>
      refine hrest.spared (served_upgradeFailed kind transient) ?_
      have hfail : ¬ Answers (upgradeFailureEvent kind transient) := by cases kind <;> exact id
      exact (keepsLive_event hfail).trans (keepsLive_dropDeadSocket _ _)
    | ok url connectionId =>
      simp only [upgradeArm]
      split_ifs with hlive
      · have hmapped := of_decide_eq_true hlive
        cases url with
        | publicUrl => exact subscribed_upgradeOk_public hrest hmapped
        | authUrl =>
          refine subscribed_upgradeOk hrest hmapped fun hs => ?_
          exact hown q connectionId (by rw [hq]; rfl) ho hmapped hs
      · exact hrest

/-! ### The other arms -/

theorem KeepsLive.whenMapped {next : IoReactor} (h : KeepsLive K s next) : KeepsLive K s (s.whenMapped url next) := by
  unfold IoReactor.whenMapped
  split_ifs
  · exact h
  · exact .refl s

theorem keepsLive_callerEvent (event : CallerEvent) : KeepsLive K s (s.callerEvent env url event) :=
  (keepsLive_event (by cases event <;> exact id)).project url

theorem keepsLive_driveWireClose {event : FsmEvent} (he : WireLost event) :
    KeepsLive K s (s.driveWireClose env url event) := by
  have hlost : ¬ Answers event := by rcases he with ⟨code, reason, rfl⟩ | ⟨error, rfl⟩ <;> exact id
  have hdead : KeepsLive K s { s with sockets := Function.update s.sockets url none } := .of_eq rfl (.refl _)
  unfold driveWireClose
  dsimp only
  split_ifs
  · exact (hdead.trans (keepsLive_event hlost)).project url
  · exact hdead.trans (keepsLive_event hlost)

theorem keepsLive_trySend (q : QueuedOutcome) : KeepsLive K s (s.trySend q).2 := by
  unfold trySend
  split_ifs
  · exact .of_eq rfl (.refl _)
  · exact .refl s

theorem keepsLive_reportOk (connectionId : SocketId) : KeepsLive K s (s.reportOk url connectionId) := by
  unfold reportOk trySend
  split_ifs <;> exact .of_eq rfl (.refl _)

theorem keepsLive_reportFallback : KeepsLive K s s.reportFallback := by
  unfold reportFallback
  split
  · exact .refl s
  · rename_i url connectionId rest _
    have hrest : KeepsLive K s { s with fallbacks := rest } := .of_eq rfl (.refl _)
    exact hrest.trans (keepsLive_trySend _)

/-- **One text frame.** -/
theorem subscribed_textFrame (h : s.Subscribed born d) {json : Json}
    (hok : url = .authUrl →
      (Upgraded (s.conns .authUrl).state → decodeResponse json = none → ∀ key, TakenForAck (s.conns .authUrl) json key →
        s.registry.Live .authUrl key → (s.conns .authUrl).HandedSince (born key) key) ∧
      ((s.conns .authUrl).state = .authenticating → (s.reactorEnv env .authUrl).token ≠ none →
        ∀ skipped, Completes (s.conns .authUrl) json skipped →
          (∃ key, (s.conns .authUrl).Deferred key ∧ some key ≠ skipped) →
            d < (s.conns .authUrl).refreshes ∨ (s.conns .authUrl).timers.tokenRefreshDueAt.isSome = true)) :
    (s.textFrame env url json).Subscribed born d := by
  cases url with
  | publicUrl => exact h.spared (served_textFrame json) (keepsLive_textFrame (by simp) (by simp))
  | authUrl =>
    obtain ⟨hack, hdue⟩ := hok rfl
    by_cases hs : (s.conns .authUrl).state = .authenticating
    · exact subscribed_handshakeFrame h hs (hack (by rw [hs]; trivial)) (hdue hs)
    · have hkept : KeepsLive (fun key => decodeResponse json = none ∧ TakenForAck (s.conns .authUrl) json key) s
          (s.textFrame env .authUrl json) := keepsLive_textFrame (fun _ => hs) fun _ hnone key htaken => ⟨hnone, htaken⟩
      refine h.kept (served_textFrame json) hkept fun ha key hk hl => ?_
      exact hack (upgraded_of_active ha) hk.1 key hk.2 hl

/-- **One arm**, the outcome of a spawned refresh and registrations apart. -/
theorem subscribed_step {loop : EntryLoop} (h : loop.loop.reactor.Subscribed loop.born loop.loop.delivered) {l : ArmLabel}
    (hrefresh : ∀ requestId result, l.arm ≠ .refreshed requestId result)
    (hreg : ∀ url regs refId, l.arm ≠ .registerBatch url regs refId) (hok : loop.StrandsNone l) :
    (loop.loop.reactor.step l).Subscribed loop.born loop.loop.delivered := by
  obtain ⟨⟨s, d⟩, born⟩ := loop
  obtain ⟨env, arm⟩ := l
  have hspared : arm ≠ .takeOutcome → KeepsLive (fun _ => False) s (s.step ⟨env, arm⟩) →
      (s.step ⟨env, arm⟩).Subscribed born d := fun hoff hk => h.spared (served_step s hoff) hk
  cases arm with
  | registerBatch url regs refId => exact absurd rfl (hreg url regs refId)
  | refreshed requestId result => exact absurd rfl (hrefresh requestId result)
  | takeOutcome => exact subscribed_takeOutcome h hok
  | reportOk url connectionId => exact hspared (by simp) (keepsLive_reportOk connectionId)
  | reportFallback => exact hspared (by simp) keepsLive_reportFallback
  | reportFailed url connectionId kind transient => exact hspared (by simp) (keepsLive_trySend _)
  | callerEvent url event => exact hspared (by simp) (keepsLive_callerEvent event)
  | deregister channel pair => exact hspared (by simp) (keepsLive_deregisterOne hok channel pair)
  | deregisterAll channel => exact hspared (by simp) (keepsLive_deregisterAll h.routed channel)
  | guardDrop handlerId channel symbols => exact hspared (by simp) (keepsLive_guardDrop hok handlerId channel symbols)
  | wsRequestFrame f =>
    refine hspared (by simp) ?_
    simp only [step]
    exact keepsLive_update fun _ => (upholds_handleWsRequestFrame f).widen
  | abandonWsRequest reqId =>
    refine hspared (by simp) ?_
    simp only [step]
    exact keepsLive_update fun _ => (upholds_failPendingRequest _ _).widen
  | textFrame url json =>
    simp only [step]
    unfold whenMapped
    split_ifs
    · refine subscribed_textFrame h fun hu => ?_
      subst hu
      exact hok
    · exact h
  | otherFrame url => exact hspared (by simp) keepsLive_noteInboundActivity.whenMapped
  | closeFrame url code reason =>
    exact hspared (by simp) (keepsLive_driveWireClose (.inl ⟨_, _, rfl⟩)).whenMapped
  | recvError url error => exact hspared (by simp) (keepsLive_driveWireClose (.inr ⟨_, rfl⟩)).whenMapped
  | timer url event => exact subscribed_timer h event

end IoReactor

namespace EntryLoop

/-- What every such run keeps. -/
def Sound (s : EntryLoop) : Prop := s.loop.reactor.Subscribed s.born s.loop.delivered

/-- The outcome of a refresh comes in its turn, and is the next one if it was spawned. -/
theorem subscribed_refreshOutcome (s : EntryLoop) {env : ArmEnv} {requestId : Nat} {result : Except AuthError Unit}
    (h : s.Sound) (hok : s.StrandsNone ⟨env, .refreshed requestId result⟩)
    (hcame : requestId ≠ 0 → s.loop.delivered < (s.loop.reactor.conns .authUrl).refreshes) {d : Nat}
    (hd : d = if requestId = 0 then s.loop.delivered else s.loop.delivered + 1) :
    (s.loop.reactor.refreshed env requestId result).Subscribed s.born d := by
  refine IoReactor.subscribed_refreshed h ?_ requestId result (fun hlanded ha => ?_) fun hfailed ha hne => ?_
  · rw [hd]
    split_ifs with hid
    · exact h.spawned
    · exact hcame hid
  · cases result with
    | ok u => exact hok ha hcame
    | error e => cases hlanded
  · cases result with
    | ok u => cases hfailed
    | error e =>
      rw [hd]
      exact hok ha hcame hne

/-- **The step lemma.** -/
theorem sound_step (s : EntryLoop) (l : ArmLabel) (h : s.Sound) (hok : s.StrandsNone l) : (s.step l).Sound := by
  obtain ⟨env, arm⟩ := l
  by_cases hrefresh : ∃ requestId result, arm = .refreshed requestId result
  · obtain ⟨requestId, result, rfl⟩ := hrefresh
    cases requestId with
    | zero => exact subscribed_refreshOutcome s h hok (absurd rfl) rfl
    | succ requestId =>
      simp only [step, HandshakeLoop.step]
      split_ifs with hcame
      · exact subscribed_refreshOutcome s h hok (fun _ => hcame) rfl
      · exact h
  · by_cases hreg : ∃ url regs refId, arm = .registerBatch url regs refId
    · obtain ⟨url, regs, refId, rfl⟩ := hreg
      exact IoReactor.subscribed_registerBatch h hok
    · have hplain : s.step ⟨env, arm⟩ = ⟨⟨s.loop.reactor.step ⟨env, arm⟩, s.loop.delivered⟩, s.born⟩ := by
        have hloop : s.loop.step ⟨env, arm⟩ = ⟨s.loop.reactor.step ⟨env, arm⟩, s.loop.delivered⟩ :=
          s.loop.step_plain fun requestId result harm => hrefresh ⟨requestId + 1, result, harm⟩
        unfold step
        rw [hloop]
        cases arm with
        | registerBatch url regs refId => exact absurd ⟨url, regs, refId, rfl⟩ hreg
        | _ => rfl
      rw [hplain]
      exact IoReactor.subscribed_step h (fun requestId result harm => hrefresh ⟨requestId, result, harm⟩)
        (fun url regs refId harm => hreg ⟨url, regs, refId, harm⟩) hok

/-- **No auth entry is stranded** in a run whose arms each strand none. -/
theorem forall_subscribes (knobs : Knobs) (ls : List ArmLabel) (hok : Allowed step StrandsNone (init knobs) ls) :
    (run knobs ls).Subscribes := by
  have hstart : (init knobs).Sound := IoReactor.subscribed_init knobs
  have h : (run knobs ls).Sound := (Reach.exec hok).invariant hstart sound_step
  exact fun ha => ⟨h.pursued ha, (h.due ha).deferred⟩

/-! ## A refresh that fails -/

/-- An order ends the handshake, then the token has expired. -/
def opensByOrder : List ArmLabel :=
  HandshakeLoop.orderProbe ++ [⟨ReactorLoop.tokenEnv, .textFrame .authUrl (.obj [("method", .str "add_order"),
    ("req_id", .num "7"), ("success", .bool true)])⟩]

def expiredEnv : ArmEnv := { ReactorLoop.tokenEnv with cachedToken := none }

/-- Without a token the subscribe is deferred. -/
def registerExpired : ArmLabel := ⟨expiredEnv, .registerBatch .authUrl [⟨.executions, none, .executions⟩] none⟩

theorem allowed_opensByOrder : Allowed step StrandsNone (init ReactorLoop.tokenEnv.knobs) (opensByOrder ++ [registerExpired]) := by
  refine ⟨trivial, trivial, ?_, trivial, ?_, ?_, trivial⟩
  · rintro q connectionId - - hsome -
    rw [← hsome]
    decide +kernel
  · refine ⟨fun _ _ key htaken => ?_, fun _ _ skipped _ hdefer => ?_⟩
    · obtain ⟨hmethod, -⟩ := htaken
      exact absurd hmethod (by decide +kernel)
    · obtain ⟨key, ⟨x, hx, -⟩, -⟩ := hdefer
      have hnil : ((run ReactorLoop.tokenEnv.knobs HandshakeLoop.orderProbe).loop.reactor.conns
        .authUrl).deferredOpenAuthSubscribes = [] := by decide +kernel
      exact absurd hx (by
        show x ∉ ((run ReactorLoop.tokenEnv.knobs HandshakeLoop.orderProbe).loop.reactor.conns
          .authUrl).deferredOpenAuthSubscribes
        rw [hnil]
        simp)
  · intro reg hreg
    rw [List.mem_singleton.1 hreg]
    rfl

/-- While the refresh is under way the entry is not stranded. -/
theorem forall_subscribes_registerExpired : (run ReactorLoop.tokenEnv.knobs (opensByOrder ++ [registerExpired])).Subscribes :=
  forall_subscribes _ _ allowed_opensByOrder

/-- The refresh fails: the entry stays deferred, and nothing is under way. -/
def refreshFails : ArmLabel := ⟨expiredEnv, .refreshed 1 (.error .tokenRefreshTransient)⟩

theorem failedRefresh_strands : ¬ ∀ (knobs : Knobs) (ls : List ArmLabel), (run knobs ls).Subscribes := by
  intro h
  have hopen : ((run ReactorLoop.tokenEnv.knobs (opensByOrder ++ [registerExpired, refreshFails])).loop.reactor.conns
    .authUrl).state = .opened := by decide +kernel
  have hdeferred : ((run ReactorLoop.tokenEnv.knobs (opensByOrder ++ [registerExpired, refreshFails])).loop.reactor.conns
    .authUrl).deferredOpenAuthSubscribes ≠ [] := by decide +kernel
  have hactive : Active ((run ReactorLoop.tokenEnv.knobs (opensByOrder ++
    [registerExpired, refreshFails])).loop.reactor.conns .authUrl).state := by
    rw [hopen]
    trivial
  obtain ⟨-, hwaits⟩ := h _ _ hactive
  rcases hwaits hdeferred with hlt | htimer
  · exact absurd hlt (by decide +kernel)
  · exact absurd htimer (by decide +kernel)

end EntryLoop

end KrakenSdk.Dispatch
