import KrakenSdk.Conn.Handed
import KrakenSdk.Conn.LiveEntries
import KrakenSdk.Dispatch.IoReactor
/-!
# Is every live entry subscribed on the current socket (dispatch/io_reactor)

`Replayed` is what the comments call recovery from the registry: once the public connection is `Open`, or
waits for nothing more in `Resubscribing`, the current socket has been handed a subscribe frame of every
live entry. `NoneStranded` names, step by step, what that takes: the replay is gated on `has_been_open`, so an
entry registered before a first open that needs a second attempt is never sent on the second socket.

`replay_complete` is the theorem; `secondAttempt_strands` is a run that breaks it.
-/
namespace KrakenSdk.Dispatch.IoReactor

open KrakenSdk.Conn KrakenSdk.Conn.ManagedConnection KrakenSdk.Conn.SubscriptionRegistry

variable {s s' : IoReactor} {env : ArmEnv} {url : WsUrl}

/-! ## What should hold, and what it takes -/

/-- `Open`, or nothing left to wait for in `Resubscribing`. -/
def Settled (mc : ManagedConnection) : Prop :=
  mc.state = .opened ∨ (mc.state = .resubscribing ∧ mc.pendingSubscribeAckCount = 0 ∧
    HashMap.isEmpty mc.timers.perEntrySubscribeResendDue = true)

/-- Every live public entry has been handed to the current socket. -/
def Replayed (s : IoReactor) : Prop :=
  Settled (s.conns .publicUrl) → ∀ key, s.registry.Live .publicUrl key → (s.conns .publicUrl).Handed key

/-- The frame is taken for an ack of the key: a success, or the `status` reject (frame_routing.rs:470). -/
def TakenForAck (mc : ManagedConnection) (json : Json) (key : EntryKey) : Prop :=
  (json.get? "method").bind Json.asStr? = some "subscribe" ∧ ackKey mc json = some key ∧
    (((json.get? "success").bind Json.asBool?).getD false = true ∨
      mc.isSubscribeAckArmed key = true ∧ key.1 = .status ∧
        ((json.get? "error").bind Json.asStr?).any (fun e => strContains e "Symbol(s) not found") = true)

/-- In `Resubscribing` an ack is that of a key which was handed, and the last one leaves none that was not. -/
def AcksHanded (s : IoReactor) (json : Json) : Prop :=
  ∀ key, TakenForAck (s.conns .publicUrl) json key → (s.conns .publicUrl).state = .resubscribing →
    (s.registry.Live .publicUrl key → (s.conns .publicUrl).Handed key) ∧
      ((s.conns .publicUrl).isSubscribeAckArmed key = true → (s.conns .publicUrl).pendingSubscribeAckCount ≤ 1 →
        ∀ key, s.registry.Live .publicUrl key → (s.conns .publicUrl).Handed key)

/-- What a success finds, when it ends an attempt: its own socket, and a replay to come or nothing to replay. -/
def FirstOpenReady (s : IoReactor) (connectionId : SocketId) : Prop :=
  (s.conns .publicUrl).state = .connecting → (s.conns .publicUrl).socket = some connectionId ∧
    ((s.conns .publicUrl).hasBeenOpen = true ∨
      ∀ key, s.registry.Live .publicUrl key → (s.conns .publicUrl).Handed key ∨ (s.conns .publicUrl).Armed key)

/-- While the connection is open, a frame the writer refuses is one it has taken before. -/
def Resendable (s : IoReactor) (env : ArmEnv) (key : EntryKey) : Prop :=
  (s.conns .publicUrl).state = .opened → env.sendFrame key = .error .backpressure → (s.conns .publicUrl).Handed key

/-- The step strands no entry. -/
def NoneStranded (s : IoReactor) (l : ArmLabel) : Prop :=
  match l.arm with
  | .takeOutcome => ∀ q connectionId, s.upgradeRx.head? = some q → q.outcome = .ok .publicUrl connectionId →
      s.sockets .publicUrl = some connectionId → s.FirstOpenReady connectionId
  | .registerBatch url regs _ => ∀ reg ∈ regs, url = channelWsUrl reg.channel ∧
      (url = .publicUrl → s.Resendable l.env (reg.channel, reg.pair))
  | .textFrame .publicUrl json => s.AcksHanded json
  | .deregister _ _ | .guardDrop _ _ _ => s.registry.Counted
  | _ => True

/-! ## What holds of every state of such a run -/

/-- Entries are kept under their key and routed by their channel. -/
def Routed (r : SubscriptionRegistry) : Prop := ∀ key e, r.entry key = some e → e.key = key ∧ e.url = channelWsUrl key.1

/-- Every live public entry is handed or armed. -/
structure Replaying (s : IoReactor) : Prop where
  routed : Routed s.registry
  covered : Covered (s.registry.Live .publicUrl) (s.sockets .publicUrl) (s.conns .publicUrl)

theorem Replaying.replayed (h : s.Replaying) : s.Replayed := by
  rintro (hs | ⟨hs, hack, hresend⟩) key hl
  · exact h.covered.opened hs key hl
  · exact (h.covered.resubscribing hs key hl).resolve_right (not_armed_of_empty hack hresend key)

theorem replaying_init (knobs : Knobs) : (init knobs).Replaying where
  routed key e he := by
    obtain ⟨channel, _ | sym⟩ := key <;> cases he
  covered := covered_new knobs

/-! ## Frames of the step -/

/-- One connection is operated on; if it is the public one it still covers what is live. -/
theorem Replaying.update (h : s.Replaying) {f : ManagedConnection → ManagedConnection}
    (hf : url = .publicUrl → Covered (s.registry.Live .publicUrl) (s.sockets .publicUrl) (f (s.conns .publicUrl))) :
    (s.updateConn url f).Replaying := by
  refine ⟨h.routed, ?_⟩
  cases url with
  | publicUrl =>
    show Covered _ _ ((s.updateConn .publicUrl f).conns .publicUrl)
    rw [conns_updateConn]
    exact hf rfl
  | authUrl =>
    show Covered _ _ ((s.updateConn .authUrl f).conns .publicUrl)
    rw [conns_updateConn_of_ne s .authUrl f (by simp)]
    exact h.covered

theorem replaying_updateAuth (h : s.Replaying) (f : ManagedConnection → ManagedConnection) :
    (s.updateConn .authUrl f).Replaying := h.update nofun

/-- A registry that says less. -/
theorem Routed.shrink {r r' : SubscriptionRegistry} (h : Routed r) (hr : Shrinks r r') : Routed r' := by
  intro key e' he'
  obtain ⟨e, he, hw⟩ := hr key e' he'
  exact ⟨hw.key.trans (h key e he).1, hw.url.trans (h key e he).2⟩

theorem Replaying.shrink (h : s.Replaying) {registry : SubscriptionRegistry} (hr : Shrinks s.registry registry) :
    ({ s with registry } : IoReactor).Replaying :=
  ⟨h.routed.shrink hr, h.covered.mono fun _ hl => hl.of_shrinks hr⟩

theorem Replaying.of_eq (h : s.Replaying) (hc : s'.conns = s.conns) (hs : s'.sockets = s.sockets)
    (hr : s'.registry = s.registry) : s'.Replaying := by
  obtain ⟨hrouted, hcovered⟩ := h
  exact ⟨hr ▸ hrouted, by rw [hc, hs, hr]; exact hcovered⟩

/-- The map may be brought up to the connection. -/
theorem Replaying.project (h : s.Replaying) (url : WsUrl) : (s.project url).Replaying := by
  refine ⟨h.routed, ?_⟩
  cases url with
  | publicUrl =>
    have hc := h.covered
    refine ⟨hc.url, hc.handshake, fun ha => ?_, hc.opened, hc.resubscribing⟩
    obtain ⟨socket, -, hsock⟩ := hc.attached ha
    exact ⟨socket, (sockets_project s .publicUrl).trans hsock, hsock⟩
  | authUrl =>
    show Covered _ ((s.project .authUrl).sockets .publicUrl) _
    rw [sockets_project_of_ne s .authUrl (by simp)]
    exact h.covered

theorem Replaying.dropDeadSocket (h : s.Replaying) (url : WsUrl) : (s.dropDeadSocket url).Replaying := by
  unfold IoReactor.dropDeadSocket
  split_ifs with hn
  · refine ⟨h.routed, ?_⟩
    cases url with
    | publicUrl =>
      have hc := h.covered
      refine ⟨hc.url, hc.handshake, fun ha => ?_, hc.opened, hc.resubscribing⟩
      obtain ⟨socket, -, hsock⟩ := hc.attached ha
      rw [hn] at hsock
      cases hsock
    | authUrl => simpa [Function.update] using h.covered
  · exact h

theorem replaying_event (h : s.Replaying) {e : FsmEvent} (hp : ¬ Decides e) :
    (s.updateConn url (·.handleEvent env.toEnv e)).Replaying :=
  h.update fun _ => covered_handleEvent h.covered hp

theorem replaying_callerEvent (h : s.Replaying) (event : CallerEvent) : (s.callerEvent env url event).Replaying := by
  have hp : ¬ Decides event.toFsmEvent := by cases event <;> exact id
  exact (replaying_event h hp).project url

/-! ### Registrations -/

theorem entry_recordGuardRef (r : SubscriptionRegistry) (handlerId : HandlerId) (key key' : EntryKey) :
    (r.recordGuardRef handlerId key).entry key' = r.entry key' := by
  unfold recordGuardRef
  split <;> rfl

/-- The registry after a registration, guard ref included. -/
def registryAfter (r : SubscriptionRegistry) (env : ArmEnv) (url : WsUrl) (refId : Option HandlerId) (reg : Registration) :
    SubscriptionRegistry :=
  let registry := (r.register (.new url reg.channel reg.pair reg.params) env.now refId.isSome).1
  match refId with
  | some id => registry.recordGuardRef id (reg.channel, reg.pair)
  | none => registry

section register

variable {r : SubscriptionRegistry} {refId : Option HandlerId} {reg : Registration}

theorem entry_registryAfter (key : EntryKey) : (registryAfter r env url refId reg).entry key =
    if key = (reg.channel, reg.pair) then some (r.registered (.new url reg.channel reg.pair reg.params) refId.isSome)
    else r.entry key := by
  have hreg := entry_register r (.new url reg.channel reg.pair reg.params) env.now refId.isSome key
  unfold registryAfter
  cases refId with
  | some id => exact (entry_recordGuardRef _ _ _ _).trans hreg
  | none => exact hreg

theorem routed_registryAfter (h : Routed r) (hu : url = channelWsUrl reg.channel) :
    Routed (registryAfter r env url refId reg) := by
  intro key e he
  rw [entry_registryAfter] at he
  split_ifs at he with hkey
  · subst hkey
    cases he
    unfold registered
    split
    · exact ⟨rfl, hu⟩
    · rename_i e he
      obtain ⟨hk, hurl⟩ := h _ e he
      split_ifs <;> exact ⟨hk, hurl⟩
  · exact h key e he

/-- Another key is as live as it was. -/
theorem live_registryAfter {u : WsUrl} {key : EntryKey} (hl : (registryAfter r env url refId reg).Live u key)
    (hk : key ≠ (reg.channel, reg.pair)) : r.Live u key := by
  obtain ⟨e, he, hu, hlive⟩ := hl
  rw [entry_registryAfter, if_neg hk] at he
  exact ⟨e, he, hu, hlive⟩

/-- Past the first holder the key was live before. -/
theorem live_of_count_ne_one {u : WsUrl}
    (hc : (r.register (.new url reg.channel reg.pair reg.params) env.now refId.isSome).2 ≠ 1)
    (hl : (registryAfter r env url refId reg).Live u (reg.channel, reg.pair)) : r.Live u (reg.channel, reg.pair) := by
  have hcount : (r.registered (.new url reg.channel reg.pair reg.params) refId.isSome).count ≠ 1 := by
    rw [← registerEntry_count]
    exact hc
  obtain ⟨e, he, hu, hlive⟩ := hl
  rw [entry_registryAfter, if_pos rfl] at he
  cases he
  have hkey : (SubscriptionEntry.new url reg.channel reg.pair reg.params).key = (reg.channel, reg.pair) := rfl
  unfold registered at hcount hu hlive
  rw [hkey] at hcount hu hlive
  cases he : r.entry (reg.channel, reg.pair) with
  | none =>
    rw [he] at hcount
    exact absurd rfl hcount
  | some e =>
    rw [he] at hcount hu hlive
    dsimp only at hcount hu hlive
    by_cases hz : e.count = 0
    · rw [if_pos hz] at hcount
      exact absurd (by simp [hz, inc32]) hcount
    · rw [if_neg hz] at hu hlive
      exact ⟨e, he, hu, hlive⟩

end register

theorem registerOneAndEmit_eq (s : IoReactor) (env : ArmEnv) (url : WsUrl) (refId : Option HandlerId) (reg : Registration) :
    s.registerOneAndEmit env url refId reg =
      if (s.registry.register (.new url reg.channel reg.pair reg.params) env.now refId.isSome).2 = 1 then
        (({ s with registry := registryAfter s.registry env url refId reg } : IoReactor).startIfIdle env url).subscribeFirst
          env url (frame env (.new url reg.channel reg.pair reg.params))
      else ({ s with registry := registryAfter s.registry env url refId reg } : IoReactor).startIfIdle env url := by
  unfold registerOneAndEmit registryAfter
  cases refId <;> rfl

/-- A start opens nothing, and subscribes to nothing. -/
theorem startIfIdle_public (s : IoReactor) (env : ArmEnv) (url : WsUrl) :
    (s.startIfIdle env url).registry = s.registry ∧
      (((s.startIfIdle env url).conns .publicUrl).state = .opened →
        (s.startIfIdle env url).conns .publicUrl = s.conns .publicUrl) := by
  unfold startIfIdle
  split_ifs with hs
  · refine ⟨rfl, fun ho => ?_⟩
    cases url with
    | publicUrl =>
      rw [conns_project, conns_updateConn] at ho
      have hno : ((s.conns .publicUrl).handleEvent env.toEnv (.callStartConnect env.connectRequestId)).state ≠ .opened := by
        simp only [handleEvent, hs, handleIdle]
        split <;> simp [emitRateThrottled, emitLifecycle, enterConnecting, armUpgradeTimeout]
      exact absurd ho hno
    | authUrl =>
      rw [conns_project]
      exact conns_updateConn_of_ne s .authUrl _ (by simp)
  · exact ⟨rfl, fun _ => rfl⟩

/-- What a start leaves covered. -/
theorem covered_startIfIdle {L : EntryKey → Prop} (h : Covered L (s.sockets .publicUrl) (s.conns .publicUrl)) :
    Covered L ((s.startIfIdle env url).sockets .publicUrl) ((s.startIfIdle env url).conns .publicUrl) := by
  unfold startIfIdle
  split_ifs with hs
  · cases url with
    | publicUrl =>
      have hev : Covered L (s.sockets .publicUrl)
          ((s.conns .publicUrl).handleEvent env.toEnv (.callStartConnect env.connectRequestId)) :=
        covered_handleEvent h id
      rw [conns_project, sockets_project, conns_updateConn]
      refine ⟨hev.url, hev.handshake, fun ha => ?_, hev.opened, hev.resubscribing⟩
      obtain ⟨socket, -, hsock⟩ := hev.attached ha
      exact ⟨socket, hsock, hsock⟩
    | authUrl =>
      rw [conns_project, sockets_project_of_ne _ _ (by simp), conns_updateConn_of_ne s .authUrl _ (by simp)]
      exact h
  · exact h

/-- One registration. -/
theorem replaying_registerOneAndEmit (h : s.Replaying) {refId : Option HandlerId} {reg : Registration}
    (hroute : url = channelWsUrl reg.channel) (hback : url = .publicUrl → s.Resendable env (reg.channel, reg.pair)) :
    (s.registerOneAndEmit env url refId reg).Replaying := by
  have hrouted : Routed (registryAfter s.registry env url refId reg) := routed_registryAfter h.routed hroute
  have hreg := fun registry => (startIfIdle_public ({ s with registry } : IoReactor) env url).1
  rw [registerOneAndEmit_eq]
  split_ifs with hone
  · -- The first holder: everything but the new key is covered, and its frame goes out now.
    have hless : Covered (Without ((registryAfter s.registry env url refId reg).Live .publicUrl) (reg.channel, reg.pair))
        (s.sockets .publicUrl) (s.conns .publicUrl) := h.covered.mono fun _ hl => live_registryAfter hl.1 hl.2
    have hstart : Covered (Without ((registryAfter s.registry env url refId reg).Live .publicUrl) (reg.channel, reg.pair))
        ((startIfIdle { s with registry := registryAfter s.registry env url refId reg } env url).sockets .publicUrl)
        ((startIfIdle { s with registry := registryAfter s.registry env url refId reg } env url).conns .publicUrl) :=
      covered_startIfIdle hless
    cases url with
    | publicUrl =>
      refine ⟨(hreg _).symm ▸ hrouted, ?_⟩
      simp only [subscribeFirst, conns_updateConn, sockets_updateConn]
      show Covered ((startIfIdle _ env .publicUrl).registry.Live .publicUrl) _ _
      rw [hreg]
      refine covered_sendSingleSubscribe hstart fun ho hsent _ => ?_
      have heq := (startIfIdle_public ({ s with registry := registryAfter s.registry env .publicUrl refId reg } : IoReactor)
        env .publicUrl).2 ho
      rw [heq] at ho ⊢
      exact hback rfl ho hsent
    | authUrl =>
      have hno : ¬ (registryAfter s.registry env .authUrl refId reg).Live .publicUrl (reg.channel, reg.pair) := by
        rintro ⟨e, he, hu, -⟩
        have hurl := (hrouted _ e he).2
        rw [hu, ← hroute] at hurl
        cases hurl
      have hall : ((({ s with registry := registryAfter s.registry env .authUrl refId reg } : IoReactor)).startIfIdle env
          .authUrl).Replaying := by
        refine ⟨(hreg _).symm ▸ hrouted, ?_⟩
        rw [hreg]
        refine hstart.mono fun key hl => ⟨hl, ?_⟩
        rintro rfl
        exact hno hl
      simp only [subscribeFirst]
      split_ifs
      · exact hall.update nofun
      · exact hall
  · refine ⟨(hreg _).symm ▸ hrouted, ?_⟩
    rw [hreg]
    refine covered_startIfIdle (h.covered.mono fun key hl => ?_)
    by_cases hkey : key = (reg.channel, reg.pair)
    · subst hkey
      exact live_of_count_ne_one hone hl
    · exact live_registryAfter hl hkey

/-- Nor does a registration open anything. -/
theorem opened_registerOneAndEmit (h : s.Replaying) {refId : Option HandlerId} {reg : Registration}
    (ho : ((s.registerOneAndEmit env url refId reg).conns .publicUrl).state = .opened) :
    (s.conns .publicUrl).state = .opened ∧
      Grows (s.conns .publicUrl) ((s.registerOneAndEmit env url refId reg).conns .publicUrl) := by
  rw [registerOneAndEmit_eq] at ho ⊢
  generalize hs₀ : ({ s with registry := registryAfter s.registry env url refId reg } : IoReactor) = s₀ at ho ⊢
  have hconns : s₀.conns = s.conns := by rw [← hs₀]
  have hstart := (startIfIdle_public s₀ env url).2
  rw [hconns] at hstart
  have hcov : Covered (fun _ => False) ((s₀.startIfIdle env url).sockets .publicUrl)
      ((s₀.startIfIdle env url).conns .publicUrl) := by
    refine covered_startIfIdle ?_
    rw [← hs₀]
    exact h.covered.mono nofun
  split_ifs at ho ⊢
  · cases url with
    | publicUrl =>
      simp only [subscribeFirst, conns_updateConn] at ho ⊢
      obtain ⟨ho', hg⟩ := opened_sendSingleSubscribe hcov.url hcov.handshake ho
      have heq := hstart ho'
      rw [heq] at ho' hg ⊢
      exact ⟨ho', hg⟩
    | authUrl =>
      have hsame : ((s₀.startIfIdle env .authUrl).subscribeFirst env .authUrl
          (frame env (.new .authUrl reg.channel reg.pair reg.params))).conns .publicUrl =
            (s₀.startIfIdle env .authUrl).conns .publicUrl := by
        simp only [subscribeFirst]
        split_ifs
        · exact conns_updateConn_of_ne _ .authUrl _ (by simp)
        · rfl
      rw [hsame] at ho ⊢
      have heq := hstart ho
      rw [heq] at ho ⊢
      exact ⟨ho, .refl _⟩
  · have heq := hstart ho
    rw [heq] at ho ⊢
    exact ⟨ho, .refl _⟩

theorem replaying_registerBatch (h : s.Replaying) {refId : Option HandlerId} {regs : List Registration}
    (hregs : ∀ reg ∈ regs, url = channelWsUrl reg.channel ∧
      (url = .publicUrl → s.Resendable env (reg.channel, reg.pair))) : (s.registerBatch env url refId regs).Replaying := by
  unfold registerBatch
  induction regs generalizing s with
  | nil => exact h
  | cons reg regs ih =>
    obtain ⟨hroute, hback⟩ := hregs reg List.mem_cons_self
    refine ih ((replaying_registerOneAndEmit h hroute hback).dropDeadSocket url) fun reg' hreg' => ?_
    obtain ⟨hroute', hback'⟩ := hregs reg' (List.mem_cons_of_mem _ hreg')
    refine ⟨hroute', fun hu ho hsent => ?_⟩
    rw [conns_dropDeadSocket] at ho ⊢
    obtain ⟨hwas, hg⟩ := opened_registerOneAndEmit h ho
    exact (hback' hu hwas hsent).grow hg

/-! ### Deregistrations -/

/-- The timers of a key that is live no more are nobody's. -/
theorem replaying_teardownReleasedKey (h : s.Replaying) {key : EntryKey} (hk : ¬ s.registry.Live .publicUrl key) :
    (s.teardownReleasedKey key).Replaying := by
  refine h.update fun _ => ?_
  have hdisarm : Covered (s.registry.Live .publicUrl) (s.sockets .publicUrl) ((s.conns .publicUrl).disarmSubscribeAck key) :=
    covered_disarmSubscribeAck h.covered fun _ hl => absurd hl hk
  exact hdisarm.same rfl (.of_eq rfl rfl rfl) fun _ ha => ha

theorem replaying_complete (h : s.Replaying) : (s.updateConn url (·.completeResubscribeIfEmpty env.toEnv)).Replaying :=
  h.update fun _ => covered_completeResubscribeIfEmpty h.covered

theorem replaying_deregisterOne (h : s.Replaying) (hc : s.registry.Counted) (channel : ChannelName) (pair : Option Symbol) :
    (s.deregisterOne env channel pair).Replaying := by
  have hrel : ({ s with registry := (s.registry.release (channel.wireChannel, pair)).1 } : IoReactor).Replaying :=
    h.shrink (shrinks_releaseInner _ _ _)
  unfold deregisterOne
  dsimp only
  split_ifs with hleft
  · exact hrel
  · have hzero : (s.registry.release (channel.wireChannel, pair)).2 = 0 := by
      by_contra hne
      exact hleft (.inl hne)
    exact replaying_complete (replaying_teardownReleasedKey hrel (not_live_of_releaseInner hc hzero))

theorem replaying_deregisterAll (h : s.Replaying) (channel : Option ChannelName) :
    (s.deregisterAll env channel).Replaying := by
  have hfold : ∀ (es : List (SubscriptionEntry × RemovedEntryKind)) {t : IoReactor}, t.Replaying →
      (∀ e ∈ es, ¬ t.registry.Live .publicUrl e.1.key) →
        (es.foldl (fun t e => t.teardownReleasedKey e.1.key) t).Replaying := by
    intro es
    induction es with
    | nil => exact fun ht _ => ht
    | cons e es ih =>
      intro t ht hes
      refine ih (replaying_teardownReleasedKey ht (hes e List.mem_cons_self)) fun e' he' => ?_
      exact hes e' (List.mem_cons_of_mem _ he')
  have hall := hfold (s.registry.deregisterAll (channel.map ChannelName.wireChannel)).2
    (h.shrink (shrinks_deregisterAll s.registry (channel.map ChannelName.wireChannel))) fun e he => by
      rintro ⟨e', he', -⟩
      obtain ⟨key, hentry, hch⟩ := mem_deregisterAll he
      rw [(h.routed key e.1 hentry).1] at he'
      rw [entry_deregisterAll, if_pos hch] at he'
      cases he'
  unfold deregisterAll
  dsimp only
  split_ifs
  · exact replaying_complete (replaying_complete hall)
  · exact replaying_complete hall
  · exact replaying_complete hall
  · exact hall

theorem replaying_guardDrop (h : s.Replaying) (hc : s.registry.Counted) (handlerId : HandlerId) (channel : ChannelName)
    (symbols : List Symbol) : (s.guardDrop env handlerId channel symbols).Replaying := by
  have hone : ∀ {acc : IoReactor × Bool} (key : EntryKey), acc.1.Replaying → acc.1.registry.Counted →
      (dropGuardRef handlerId acc key).1.Replaying ∧ (dropGuardRef handlerId acc key).1.registry.Counted := by
    intro acc key hacc hcount
    have hrel := shrinks_releaseGuardRef acc.1.registry handlerId key
    unfold dropGuardRef
    dsimp only
    split_ifs with hgone
    · exact ⟨replaying_teardownReleasedKey (hacc.shrink hrel) (not_live_of_releaseGuardRef hcount hgone.2),
        hcount.of_shrinks hrel⟩
    · exact ⟨hacc.shrink hrel, hcount.of_shrinks hrel⟩
  have hfold : ∀ (keys : List EntryKey) {acc : IoReactor × Bool}, acc.1.Replaying → acc.1.registry.Counted →
      (keys.foldl (dropGuardRef handlerId) acc).1.Replaying := by
    intro keys
    induction keys with
    | nil => exact fun hacc _ => hacc
    | cons key keys ih =>
      intro acc hacc hcount
      obtain ⟨h', hc'⟩ := hone key hacc hcount
      exact ih h' hc'
  unfold guardDrop
  dsimp only
  split_ifs
  · exact replaying_complete (hfold _ h hc)
  · exact hfold _ h hc
  · exact replaying_complete (hfold _ h hc)
  · exact hfold _ h hc

/-! ### Upgrade outcomes -/

/-- A replay covers everything: every live entry is in it. -/
theorem replaying_replay (hrouted : Routed s.registry) (h : Covered (fun _ => False) (s.sockets .publicUrl) (s.conns .publicUrl))
    (hs : (s.conns .publicUrl).state = .resubscribing) : (s.replay env .publicUrl).Replaying := by
  obtain ⟨socket, hmap, -⟩ := h.attached (by rw [hs]; trivial)
  have hsend : Covered (s.registry.Live .publicUrl) (s.sockets .publicUrl)
      ((s.conns .publicUrl).replayFrames env.toEnv socket ((s.registry.entriesForResubscribeSorted .publicUrl).map fun e =>
        (frame env e, e.channel = .book && s.registry.isBookResyncing e.channel e.pair))) := by
    refine covered_replayFrames _ hmap (h.mono ?_) (by simp [hs])
    rintro key ⟨⟨e, he, hu, hlive⟩, hno⟩
    have hmem : e ∈ s.registry.entriesForResubscribeSorted .publicUrl := by
      refine mem_sortByOrderKey.2 (List.mem_filter.2 ⟨(mem_allEntries _ _).2 ⟨key, he⟩, ?_⟩)
      simp [hu, hlive]
    exact hno _ (List.mem_map_of_mem hmem) (hrouted key e he).1.symm
  have hupd : (s.updateConn .publicUrl fun mc => (mc.replayFrames env.toEnv socket
      ((s.registry.entriesForResubscribeSorted .publicUrl).map fun e =>
        (frame env e, e.channel = .book && s.registry.isBookResyncing e.channel e.pair))).completeResubscribeIfEmpty
          env.toEnv).Replaying := by
    refine ⟨hrouted, ?_⟩
    rw [conns_updateConn]
    exact covered_completeResubscribeIfEmpty hsend
  unfold replay
  dsimp only
  rw [hmap]
  exact hupd.project .publicUrl

theorem hasBeenOpen_wireUpgradeOk (mc : ManagedConnection) (env : Env) (connectionId : Option Nat) :
    (mc.handleEvent env (.wireUpgradeOk connectionId)).hasBeenOpen = mc.hasBeenOpen := by
  cases hs : mc.state <;> simp only [handleEvent, hs] <;> rfl

theorem replaying_upgradeOk (h : s.Replaying) {connectionId : SocketId} (hmap : s.sockets .publicUrl = some connectionId)
    (hready : s.FirstOpenReady connectionId) : (s.upgradeOk env .publicUrl connectionId).Replaying := by
  have hfirst : ∀ {t : IoReactor}, t.Replaying → (if (t.conns .publicUrl).state = .authenticating then
      t.updateConn .publicUrl (·.sendFirstSignedSubscribe (t.reactorEnv env .publicUrl)) else t).Replaying := by
    intro t ht
    rw [if_neg ht.covered.handshake]
    exact ht
  have hsocket : (s.conns .publicUrl).state = .connecting →
      ∃ socket, s.sockets .publicUrl = some socket ∧ (s.conns .publicUrl).socket = some socket :=
    fun hs => ⟨connectionId, hmap, (hready hs).1⟩
  have hevent : ∀ {L : EntryKey → Prop}, Covered L (s.sockets .publicUrl) (s.conns .publicUrl) →
      ((s.conns .publicUrl).state = .connecting → ∀ key, L key →
        (s.conns .publicUrl).Handed key ∨ (s.conns .publicUrl).Armed key) →
      Covered L (s.sockets .publicUrl) ((s.updateConn .publicUrl
        (·.handleEvent env.toEnv (.wireUpgradeOk (some connectionId)))).conns .publicUrl) := by
    intro L hcov hk
    rw [conns_updateConn]
    exact covered_wireUpgradeOk hcov _ hsocket hk
  unfold upgradeOk
  dsimp only
  refine hfirst ?_
  split_ifs with hreplay
  · exact replaying_replay h.routed (hevent (h.covered.mono nofun) nofun) hreplay.1
  · refine ⟨h.routed, hevent h.covered fun hs key hl => ?_⟩
    rcases (hready hs).2 with hbefore | hall
    · -- Open before: the success leads to the replay.
      refine absurd ⟨?_, ?_⟩ hreplay
      · rw [conns_updateConn]
        simp [handleEvent, hs, handleConnecting, h.covered.url, armStaleness]
      · rw [conns_updateConn, hasBeenOpen_wireUpgradeOk]
        exact hbefore
    · exact hall key hl

theorem replaying_upgradeOk_auth (h : s.Replaying) (connectionId : SocketId) :
    (s.upgradeOk env .authUrl connectionId).Replaying := by
  have hevent : (s.updateConn .authUrl (·.handleEvent env.toEnv (.wireUpgradeOk (some connectionId)))).Replaying :=
    replaying_updateAuth h _
  have hfirst : ∀ {t : IoReactor}, t.Replaying → (if (t.conns .authUrl).state = .authenticating then
      t.updateConn .authUrl (·.sendFirstSignedSubscribe (t.reactorEnv env .authUrl)) else t).Replaying := by
    intro t ht
    split_ifs
    · exact replaying_updateAuth ht _
    · exact ht
  unfold upgradeOk
  dsimp only
  refine hfirst ?_
  split_ifs
  · unfold replay
    exact (replaying_updateAuth hevent _).project .authUrl
  · exact hevent

theorem replaying_takeOutcome (h : s.Replaying) (hready : ∀ q connectionId, s.upgradeRx.head? = some q →
      q.outcome = .ok .publicUrl connectionId → s.sockets .publicUrl = some connectionId → s.FirstOpenReady connectionId) :
    (s.takeOutcome env).Replaying := by
  unfold takeOutcome
  split
  · exact h
  · rename_i q rest hrx
    have ht : ({ s with upgradeRx := rest } : IoReactor).Replaying := h.of_eq rfl rfl rfl
    cases ho : q.outcome with
    | ok url connectionId =>
      simp only [upgradeArm]
      split_ifs with hlive
      · cases url with
        | publicUrl =>
          have hmap : s.sockets .publicUrl = some connectionId := of_decide_eq_true hlive
          exact replaying_upgradeOk ht hmap (hready q connectionId (by rw [hrx]; rfl) ho hmap)
        | authUrl => exact replaying_upgradeOk_auth ht connectionId
      · exact ht
    | failed url kind transient =>
      have hp : ¬ Decides (upgradeFailureEvent kind transient) := by
        unfold upgradeFailureEvent
        split <;> exact id
      exact (replaying_event ht hp).dropDeadSocket url

/-! ### Refreshes, frames and timers -/

/-- The refresh arm is about the auth connection. -/
theorem replaying_refreshed (h : s.Replaying) (requestId : Nat) (result : Except AuthError Unit) :
    (s.refreshed env requestId result).Replaying := by
  unfold refreshed
  dsimp only
  refine Replaying.project ?_ .authUrl
  split_ifs
  · exact replaying_updateAuth (replaying_updateAuth (replaying_updateAuth h _) _) _
  · exact replaying_updateAuth (replaying_updateAuth h _) _
  · exact replaying_updateAuth (replaying_updateAuth h _) _
  · exact replaying_updateAuth h _

theorem replaying_driveWireClose (h : s.Replaying) {event : FsmEvent} (he : WireLost event) :
    (s.driveWireClose env url event).Replaying := by
  have hev : ({ s with sockets := Function.update s.sockets url none }.updateConn url
      (·.handleEvent env.toEnv event) : IoReactor).Replaying := by
    refine ⟨h.routed, ?_⟩
    cases url with
    | publicUrl =>
      rw [conns_updateConn]
      exact covered_wireLost h.covered.url h.covered.handshake he
    | authUrl =>
      rw [conns_updateConn_of_ne _ .authUrl _ (by simp)]
      show Covered (s.registry.Live .publicUrl) (Function.update s.sockets .authUrl none .publicUrl) (s.conns .publicUrl)
      rw [Function.update_of_ne (by simp)]
      exact h.covered
  unfold driveWireClose
  dsimp only
  split_ifs
  · exact hev.project url
  · exact hev

theorem key_of_frameFor {key : EntryKey} {f : SubscribeFrame} (hf : s.frameFor env key = some f) : f.key = key := by
  obtain ⟨params, -, rfl⟩ := Option.map_eq_some_iff.1 hf
  rfl

theorem not_live_of_frameFor {key : EntryKey} (hf : s.frameFor env key = none) : ¬ s.registry.Live url key := by
  rintro ⟨e, he, -⟩
  have hnone : s.registry.paramsFor key = none := Option.map_eq_none_iff.1 hf
  rw [paramsFor, he] at hnone
  cases hnone

theorem replaying_sendBookReseed (h : s.Replaying) (f : SubscribeFrame) :
    (s.updateConn url (·.sendBookReseed env.toEnv (s.sockets url) f)).Replaying := by
  refine h.update ?_
  rintro rfl
  exact covered_sendBookReseed h.covered

theorem replaying_recoverBookGap (h : s.Replaying) (symbol : Symbol) : (recoverBookGap env url s symbol).Replaying := by
  have hreg : ({ s with registry := s.registry.beginBookResync .book symbol } : IoReactor).Replaying :=
    h.shrink (shrinks_beginBookResync _ _ _)
  unfold recoverBookGap
  dsimp only
  split
  · exact hreg
  · exact replaying_sendBookReseed hreg _

theorem replaying_handleBookReseedTimeout (h : s.Replaying) (pair : Option Symbol) :
    (s.handleBookReseedTimeout env url pair).Replaying := by
  unfold handleBookReseedTimeout
  split
  · exact h
  · rename_i symbol
    have hreg : ({ s with registry := (s.registry.noteReseedTimeout .book symbol).1 } : IoReactor).Replaying :=
      h.shrink (shrinks_noteReseedTimeout _ _ _)
    dsimp only
    split
    · exact replaying_sendBookReseed hreg _
    · exact hreg

theorem shrinks_routeEntries (c : Router Unit) (channel : ChannelName) (msgType : String) (data : List Json)
    (r : SubscriptionRegistry) : Shrinks r (c.routeEntries channel msgType r data).1 := by
  induction data generalizing r with
  | nil => exact .refl r
  | cons entry data ih => exact (shrinks_handleUpdate c.fromStr r _ _ entry).trans (ih _)

theorem shrinks_sequenceCheck (c : Router Unit) (channel : ChannelName) (msgType : String) (r : SubscriptionRegistry)
    (json : Json) : Shrinks r (c.sequenceCheck channel msgType r json).1 := by
  unfold Router.sequenceCheck
  split
  · split
    · exact shrinks_noteSequence r _ _ _
    · exact .refl r
  · exact .refl r

theorem shrinks_routeTextFrame (c : Router Unit) (r : SubscriptionRegistry) (json : Json) :
    Shrinks r (c.routeTextFrame r json).1 := by
  unfold Router.routeTextFrame
  split
  · split_ifs
    · exact .refl r
    · dsimp only
      split
      · exact shrinks_sequenceCheck c _ _ r json
      · exact Shrinks.trans (shrinks_sequenceCheck c _ _ r json) (shrinks_routeEntries c _ _ _ _)
  · exact .refl r

/-- An ack that no timer waits for. -/
theorem replaying_lateAck (h : s.Replaying) {key : EntryKey} {success : Bool}
    (hk : url = .publicUrl → success = true → (s.conns .publicUrl).state = .resubscribing →
      s.registry.Live .publicUrl key → (s.conns .publicUrl).Handed key) : (s.lateAck env url key success).Replaying := by
  unfold lateAck
  split_ifs with hsuccess
  · refine h.update fun hu => ?_
    have hdisarm : Covered (s.registry.Live .publicUrl) (s.sockets .publicUrl)
        ((s.conns .publicUrl).disarmSubscribeAck key) := covered_disarmSubscribeAck h.covered (hk hu hsuccess)
    refine covered_completeResubscribeIfEmpty ?_
    exact hdisarm.same rfl (.of_eq rfl rfl rfl) fun _ ha => ha
  · exact h

/-- An ack its timer waits for. -/
theorem replaying_armedAck (h : s.Replaying) {key : EntryKey} {success : Bool} {error : Option String}
    (hk : url = .publicUrl → (success = true ∨ key.1 = .status ∧
        error.any (fun e => strContains e "Symbol(s) not found") = true) → (s.conns .publicUrl).state = .resubscribing →
      (s.registry.Live .publicUrl key → (s.conns .publicUrl).Handed key) ∧
        ((s.conns .publicUrl).pendingSubscribeAckCount ≤ 1 →
          ∀ key, s.registry.Live .publicUrl key → (s.conns .publicUrl).Handed key)) :
    (s.armedAck env url key success error).Replaying := by
  unfold armedAck
  dsimp only
  split_ifs with hack htransient
  · have hreg : ({ s with registry := s.registry.noteAcked key } : IoReactor).Replaying := h.shrink (shrinks_noteAcked _ _)
    have htaken : success = true ∨ key.1 = .status ∧ error.any (fun e => strContains e "Symbol(s) not found") = true := by
      simp only [Bool.or_eq_true, Bool.and_eq_true, decide_eq_true_eq] at hack
      rcases hack with hs | ⟨⟨hstatus, -⟩, herr⟩
      · exact .inl hs
      · exact .inr ⟨hstatus, herr⟩
    refine hreg.update fun hu => ?_
    subst hu
    have hdefer : Covered ((s.registry.noteAcked key).Live .publicUrl) (s.sockets .publicUrl)
        ((s.conns .publicUrl).removeDeferredOpenAuthSubscribe key) :=
      hreg.covered.same rfl (.of_eq rfl rfl rfl) fun _ ha => ha
    refine covered_wireSubscribeAck hdefer _ (fun hs hl => ?_) fun hs hlast k hl => ?_
    · exact (hk rfl htaken hs).1 (hl.of_shrinks (shrinks_noteAcked _ _))
    · exact (hk rfl htaken hs).2 (of_decide_eq_true hlast) k (hl.of_shrinks (shrinks_noteAcked _ _))
  · refine h.update fun hu => covered_transientFailure ?_ ?_ (.inr ⟨_, rfl, htransient⟩)
    · exact h.covered.mono fun _ hl => hl.1
    · exact fun hs hl => h.covered.opened hs key hl
  · -- The entry is terminated before the FSM hears of the reject.
    have hreg := h.shrink
      (shrinks_noteTerminated s.registry key .nonTransientWireRejection (some (error.getD "subscribe rejected")))
    have hdisarm : ∀ {t : IoReactor}, t.Replaying → (t.updateConn url (·.disarmBookReseedSnapshot key)).Replaying :=
      fun ht => ht.update fun _ => ht.covered.same rfl (.of_eq rfl rfl rfl) fun _ ha => ha
    refine (hdisarm hreg).update fun _ => covered_permanentFailure (hdisarm hreg).covered not_live_noteTerminated ?_
    exact Bool.eq_false_iff.2 htransient

theorem replaying_handshakeAck (h : s.Replaying) (key : EntryKey) (success : Bool) (error : Option String) :
    (s.handshakeAck env .authUrl key success error).Replaying := by
  unfold handshakeAck
  split_ifs
  · have hok : (s.updateConn .authUrl fun mc =>
        (mc.handleEvent env.toEnv .wireAuthHandshakeOk).disarmSubscribeAck key).Replaying := replaying_updateAuth h _
    have hack := hok.shrink (shrinks_noteAcked (s.updateConn .authUrl fun mc =>
      (mc.handleEvent env.toEnv .wireAuthHandshakeOk).disarmSubscribeAck key).registry key)
    dsimp only
    split_ifs
    · exact replaying_updateAuth (replaying_updateAuth hack _) _
    · exact replaying_updateAuth hack _
  · exact replaying_updateAuth h _

theorem replaying_handleSubAck (h : s.Replaying) {json : Json} (hack : url = .publicUrl → s.AcksHanded json) :
    (s.handleSubAck env url json).2.Replaying := by
  unfold handleSubAck
  split
  · exact h
  · rename_i hmethod
    dsimp only
    split
    · exact h
    · rename_i key hkey
      split_ifs with hauth harmed
      · cases url with
        | publicUrl => exact absurd hauth h.covered.handshake
        | authUrl => exact replaying_handshakeAck h _ _ _
      · refine replaying_lateAck h fun hu hs => ?_
        subst hu
        exact fun hres hl => (hack rfl key ⟨hmethod, hkey, .inl hs⟩ hres).1 hl
      · have harmed' : (s.conns url).isSubscribeAckArmed key = true := by simpa using harmed
        refine replaying_armedAck h fun hu htaken hres => ?_
        subst hu
        have htake : TakenForAck (s.conns .publicUrl) json key :=
          ⟨hmethod, hkey, htaken.imp_right fun hq => ⟨harmed', hq⟩⟩
        exact ⟨(hack rfl key htake hres).1, (hack rfl key htake hres).2 harmed'⟩
  · exact h

theorem replaying_textFrame (h : s.Replaying) {json : Json} (hack : url = .publicUrl → s.AcksHanded json) :
    (s.textFrame env url json).Replaying := by
  have hnote : (s.updateConn url (·.noteInboundActivity env.toEnv)).Replaying :=
    h.update fun _ => h.covered.same rfl (.of_eq rfl rfl rfl) fun _ ha => ha
  have hack' : url = .publicUrl → (s.updateConn url (·.noteInboundActivity env.toEnv)).AcksHanded json := by
    rintro rfl
    unfold AcksHanded
    rw [conns_updateConn]
    exact hack rfl
  have hresp : ((s.updateConn url (·.noteInboundActivity env.toEnv)).requestResponse env url json).2.Replaying ∧
      (url = .publicUrl →
        ((s.updateConn url (·.noteInboundActivity env.toEnv)).requestResponse env url json).2.AcksHanded json) := by
    cases url with
    | publicUrl => exact ⟨hnote, hack'⟩
    | authUrl =>
      refine ⟨?_, nofun⟩
      have hauth := fun mc => replaying_updateAuth hnote fun _ => mc
      exact hauth (((s.updateConn .authUrl (·.noteInboundActivity env.toEnv)).conns .authUrl).handleRequestResponse
        ((s.updateConn .authUrl (·.noteInboundActivity env.toEnv)).reactorEnv env .authUrl) json).2
  have hgaps : ∀ (gaps : List Symbol) {t : IoReactor}, t.Replaying →
      (gaps.foldl (recoverBookGap env url) t).Replaying := by
    intro gaps
    induction gaps with
    | nil => exact fun ht => ht
    | cons symbol gaps ih => exact fun ht => ih (replaying_recoverBookGap ht symbol)
  unfold textFrame
  dsimp only
  split
  · rename_i t ht
    rw [ht] at hresp
    exact hresp.1
  · rename_i t ht
    rw [ht] at hresp
    have hsub : (t.handleSubAck env url json).2.Replaying := replaying_handleSubAck hresp.1 hresp.2
    split
    · rename_i t' ht'
      rwa [ht'] at hsub
    · rename_i t' ht'
      rw [ht'] at hsub
      exact hgaps _ (hsub.shrink (shrinks_routeTextFrame env.router t'.registry json))

/-- A timer that fires and is somebody's: an ack's or a resend's. -/
theorem replaying_timer (h : s.Replaying) (event : FsmEvent) : (s.timer env url event).Replaying := by
  unfold timer
  split_ifs with harmed
  · have hpop := covered_popTimerForEvent (e := event) h.covered
    have hopen : ∀ key, (s.conns .publicUrl).state = .opened → s.registry.Live .publicUrl key →
        ((s.conns .publicUrl).popTimerForEvent event).Handed key := by
      intro key hs hl
      refine (h.covered.opened hs key hl).grow ?_
      cases event <;> exact .of_eq rfl rfl rfl
    -- An event that is no ack's and no resend's leaves everything covered.
    have hplain : (∀ channel pair, event ≠ .timerSubscribeAckTimeout channel pair) →
        (∀ channel pair, event ≠ .timerSubscribeResendDue channel pair) →
          (s.updateConn url (·.popTimerForEvent event)).Replaying := fun hack hresend =>
      h.update fun _ => hpop.mono fun key hl => ⟨hl, hack _ _, hresend _ _⟩
    dsimp only
    split
    · rename_i channel pair
      refine Replaying.project ?_ url
      refine ⟨h.routed, ?_⟩
      cases url with
      | publicUrl =>
        simp only [conns_updateConn, sockets_updateConn]
        refine covered_handleSubscribeResend (hpop.mono ?_) (fun hs => hopen _ ?_) rfl (fun f => key_of_frameFor)
          not_live_of_frameFor
        · rintro key ⟨hl, hkey⟩
          exact ⟨hl, nofun, fun he => hkey (by cases he; rfl)⟩
        · exact hs
      | authUrl =>
        rw [conns_updateConn_of_ne _ .authUrl _ (by simp), conns_updateConn_of_ne _ .authUrl _ (by simp)]
        exact h.covered
    · exact Replaying.project (replaying_handleBookReseedTimeout (hplain nofun nofun) _) url
    · refine (hplain nofun nofun).update fun _ => ?_
      unfold rearmProactiveRefresh
      split_ifs
      · exact (hplain nofun nofun).covered
      · exact (hplain nofun nofun).covered.same rfl (.of_eq rfl rfl rfl) fun _ ha => ha
    · rename_i hresend _ _
      refine Replaying.project ?_ url
      refine ⟨h.routed, ?_⟩
      cases url with
      | publicUrl =>
        simp only [conns_updateConn, sockets_updateConn]
        by_cases hack : ∃ channel pair, event = .timerSubscribeAckTimeout channel pair
        · obtain ⟨channel, pair, rfl⟩ := hack
          refine covered_transientFailure (hpop.mono ?_) (fun hs => hopen (channel, pair) ?_) (.inl rfl)
          · rintro key ⟨hl, hkey⟩
            exact ⟨hl, fun he => hkey (by cases he; rfl), nofun⟩
          · exact hs
        · have hplain' := (hplain (fun channel pair he => hack ⟨channel, pair, he⟩) hresend).covered
          rw [conns_updateConn] at hplain'
          refine covered_handleEvent hplain' fun hdecides => ?_
          cases event <;> first | exact hdecides | exact hack ⟨_, _, rfl⟩ | cases harmed
      | authUrl =>
        rw [conns_updateConn_of_ne _ .authUrl _ (by simp), conns_updateConn_of_ne _ .authUrl _ (by simp)]
        exact h.covered
  · exact h

/-! ## Runs -/

theorem Replaying.trySend (h : s.Replaying) (q : QueuedOutcome) : (s.trySend q).2.Replaying := by
  unfold IoReactor.trySend
  split_ifs
  · exact h.of_eq rfl rfl rfl
  · exact h

theorem replaying_step (l : ArmLabel) (h : s.Replaying) (hok : s.NoneStranded l) : (s.step l).Replaying := by
  obtain ⟨env, arm⟩ := l
  have hmapped : ∀ (url : WsUrl) {next : IoReactor}, next.Replaying → (s.whenMapped url next).Replaying := by
    intro url next hnext
    unfold whenMapped
    split_ifs
    · exact hnext
    · exact h
  cases arm with
  | reportOk url connectionId =>
    have hq := h.trySend ⟨connectionId, .ok url connectionId, fun _ _ h => (UpgradeOutcome.ok.inj h).2⟩
    simp only [step, reportOk]
    split <;> rename_i t ht <;> rw [ht] at hq
    · exact hq
    · exact hq.of_eq rfl rfl rfl
  | reportFallback =>
    simp only [step, reportFallback]
    split
    · exact h
    · have hrest : ∀ fallbacks, ({ s with fallbacks } : IoReactor).Replaying := fun _ => h.of_eq rfl rfl rfl
      exact (hrest _).trySend _
  | reportFailed url connectionId kind transient => exact h.trySend _
  | callerEvent url event => exact replaying_callerEvent h event
  | registerBatch url entries refId => exact replaying_registerBatch h hok
  | deregister channel pair => exact replaying_deregisterOne h hok channel pair
  | deregisterAll channel => exact replaying_deregisterAll h channel
  | guardDrop handlerId channel symbols => exact replaying_guardDrop h hok handlerId channel symbols
  | wsRequestFrame f => exact replaying_updateAuth h (·.handleWsRequestFrame (s.reactorEnv env .authUrl) f)
  | abandonWsRequest reqId => exact replaying_updateAuth h (·.abandonWsRequest reqId)
  | takeOutcome => exact replaying_takeOutcome h hok
  | refreshed requestId result => exact replaying_refreshed h requestId result
  | textFrame url json =>
    refine hmapped url (replaying_textFrame h ?_)
    rintro rfl
    exact hok
  | otherFrame url =>
    exact hmapped url (h.update fun _ => h.covered.same rfl (.of_eq rfl rfl rfl) fun _ ha => ha)
  | closeFrame url code reason => exact hmapped url (replaying_driveWireClose h (.inl ⟨_, _, rfl⟩))
  | recvError url error => exact hmapped url (replaying_driveWireClose h (.inr ⟨_, rfl⟩))
  | timer url event => exact replaying_timer h event

/-- **Replay completeness.** In every run none of whose steps strands an entry, whenever the public connection
is open, or waits for nothing more in `Resubscribing`, its current socket was handed every live entry. -/
theorem replay_complete (knobs : Knobs) (ls : List ArmLabel) (hok : StepSystem.Allowed step NoneStranded (init knobs) ls) :
    (run knobs ls).Replayed :=
  (StepSystem.Reach.invariant (replaying_init knobs) (fun _ l h hok => replaying_step l h hok)
    (StepSystem.Reach.exec hok)).replayed

/-! ## A bring-up that works, and one that strands an entry -/

/-- What the arms of the runs below read: the budget grants every attempt, and `socket` is the one opened. -/
def bringUpEnv (socket : SocketId) : ArmEnv where
  now := 0
  knobs := { stalenessWindowMs := 30000, upgradeTimeout := fromMillis 10000, closeTimeout := fromMillis 5000
             reconnectAttempts := none, maxAuthHandshakeFailures := 3, subscribeAckAttempts := 3
             subscribeAckTimeoutMs := 5000 }
  tryConsume := .ok ()
  windowSeconds := 600
  nextBackoff := fun _ => fromMillis 500
  openSocket := socket
  cachedToken := none
  sendFrame := fun _ => .ok ()
  requestSend := .ok ()
  connectRequestId := 1
  router := { fromStr := fun _ => none, decodeOther := fun _ _ => .decodeFailed, handlers := .new ∅, busAlive := true }

/-- The registration starts the connection: its frame goes to the socket before the upgrade, and is acked
after it. -/
def firstBringUp : List ArmLabel :=
  [⟨bringUpEnv 1, .registerBatch .publicUrl [⟨.status, none, .status⟩] none⟩,
    ⟨bringUpEnv 1, .reportOk .publicUrl 1⟩,
    ⟨bringUpEnv 1, .takeOutcome⟩,
    ⟨bringUpEnv 1, .textFrame .publicUrl (.obj [("method", .str "subscribe"), ("success", .bool true),
      ("result", .obj [("channel", .str "status")])])⟩]

theorem live_firstBringUp {key : EntryKey}
    (h : (run (bringUpEnv 0).knobs (firstBringUp.take 1)).registry.Live .publicUrl key) : key = (.status, none) := by
  obtain ⟨e, he, -⟩ := h
  obtain ⟨channel, _ | sym⟩ := key
  · cases channel <;> first | rfl | cases he
  · cases he

theorem replay_complete_firstBringUp : (run (bringUpEnv 0).knobs firstBringUp).Replayed := by
  refine replay_complete _ _ ⟨?_, trivial, ?_, ?_, trivial⟩
  · rintro reg hreg
    cases List.mem_singleton.1 hreg
    exact ⟨rfl, fun _ => nofun⟩
  · rintro q connectionId - - hmap -
    cases hmap
    refine ⟨rfl, .inr fun key hl => ?_⟩
    cases live_firstBringUp hl
    exact .inr (.inl rfl)
  · rintro key - -
    have hhanded : ∀ key, (run (bringUpEnv 0).knobs (firstBringUp.take 1)).registry.Live .publicUrl key →
        ((run (bringUpEnv 0).knobs (firstBringUp.take 3)).conns .publicUrl).Handed key := by
      intro key hl
      cases live_firstBringUp hl
      exact ⟨1, .status, 1, rfl, List.mem_cons_self⟩
    exact ⟨hhanded key, fun _ _ => hhanded⟩

/-- The first attempt is refused, and the entry registered while the connection backs off. -/
def secondAttempt : List ArmLabel :=
  [⟨bringUpEnv 1, .callerEvent .publicUrl (.startConnect 1)⟩,
    ⟨bringUpEnv 1, .reportFailed .publicUrl 1 .tcpRefused true⟩,
    ⟨bringUpEnv 1, .takeOutcome⟩,
    ⟨bringUpEnv 1, .registerBatch .publicUrl [⟨.status, none, .status⟩] none⟩,
    ⟨bringUpEnv 2, .timer .publicUrl .timerBackoffElapsed⟩,
    ⟨bringUpEnv 2, .reportOk .publicUrl 2⟩,
    ⟨bringUpEnv 2, .takeOutcome⟩]

/-- The second attempt succeeds and subscribes to nothing: the connection has not been open before. -/
theorem secondAttempt_strands : ¬ ∀ (knobs : Knobs) (ls : List ArmLabel), (run knobs ls).Replayed := by
  intro h
  have hsettled : Settled ((run (bringUpEnv 0).knobs secondAttempt).conns .publicUrl) := .inr (by decide)
  have hl : (run (bringUpEnv 0).knobs secondAttempt).registry.Live .publicUrl (.status, none) := ⟨_, rfl, rfl, rfl⟩
  obtain ⟨socket, params, reqId, -, hsent⟩ := h (bringUpEnv 0).knobs secondAttempt hsettled _ hl
  cases hsent

end KrakenSdk.Dispatch.IoReactor
