import KrakenSdk.Conn.HandshakeMoves
import KrakenSdk.Dispatch.ArmOperations
/-!
# Whether the auth handshake can stall (dispatch/io_reactor)

The first signed subscribe goes out where the handshake begins, on a registration and on a refresh, and only if
nothing else is in flight then. What is in flight leaves the handshake going on in five other places: a key is torn
down, a request is abandoned, an order's answer rejects the token, a resend finds no entry or no token, and a
registration waits for a refresh that no one has spawned. `LeavesMoving` is the condition on each of them.

`forall_moving`: in every run whose steps meet it, a handshake with a live entry has something in flight.
-/
namespace KrakenSdk.Dispatch

open KrakenSdk.Conn KrakenSdk.Conn.ManagedConnection KrakenSdk.Conn.SubscriptionRegistry StepSystem

/-- The reactor, and how many of the refreshes it spawned have come back. -/
structure HandshakeLoop where
  reactor : IoReactor
  delivered : Nat

namespace IoReactor

/-! ## What an arm takes out of flight -/

/-- The keys a guard drop tears down. -/
def guardTorn (handlerId : HandlerId) : SubscriptionRegistry → List EntryKey → List EntryKey
  | _, [] => []
  | r, key :: keys =>
    let (r', remaining) := r.releaseGuardRef handlerId key
    if (r.paramsFor key).isSome ∧ remaining = 0 then key :: guardTorn handlerId r' keys else guardTorn handlerId r' keys

/-- The keys an arm tears down. -/
def tornKeys (s : IoReactor) : Arm → List EntryKey
  | .deregister channel pair =>
    let key := (channel.wireChannel, pair)
    if (s.registry.release key).2 ≠ 0 ∨ s.registry.paramsFor key = none then [] else [key]
  | .deregisterAll channel => (s.registry.deregisterAll (channel.map ChannelName.wireChannel)).2.map (·.1.key)
  | .guardDrop handlerId channel symbols => guardTorn handlerId s.registry (guardTargets channel symbols)
  | _ => []

/-- A key of the auth connection is torn down. -/
def TornDown (s : IoReactor) (arm : Arm) (key : EntryKey) : Prop := key ∈ s.tornKeys arm ∧ channelWsUrl key.1 = .authUrl

/-- The registry an arm leaves. -/
def registryLeft (s : IoReactor) (env : ArmEnv) : Arm → SubscriptionRegistry
  | .registerBatch url regs refId => regs.foldl (fun r reg => registryAfter r env url refId reg) s.registry
  | .deregister channel pair => (s.registry.release (channel.wireChannel, pair)).1
  | .deregisterAll channel => (s.registry.deregisterAll (channel.map ChannelName.wireChannel)).1
  | .guardDrop handlerId channel symbols =>
    (guardTargets channel symbols).foldl (fun r key => (r.releaseGuardRef handlerId key).1) s.registry
  | _ => s.registry

end IoReactor

namespace HandshakeLoop

/-- As it starts. -/
def init (knobs : Knobs) : HandshakeLoop := ⟨.init knobs, 0⟩

/-- One arm. The outcome of a spawned refresh comes once, under an id that is not 0 (auth/token_lifecycle.rs:150);
a proactive tick has id 0. -/
def step (s : HandshakeLoop) (l : ArmLabel) : HandshakeLoop :=
  match l.arm with
  | .refreshed (_ + 1) _ =>
    if s.delivered < (s.reactor.conns .authUrl).refreshes then ⟨s.reactor.step l, s.delivered + 1⟩ else s
  | _ => ⟨s.reactor.step l, s.delivered⟩

/-- The loop after a list of arms. -/
def run (knobs : Knobs) (ls : List ArmLabel) : HandshakeLoop := StepSystem.exec step (init knobs) ls

/-- A handshake with a live entry has something in flight. -/
def Moving (s : HandshakeLoop) : Prop :=
  s.reactor.InHandshake → (∃ key, s.reactor.registry.Live .authUrl key) →
    (s.reactor.conns .authUrl).Moves s.delivered

/-- In a handshake the arm leaves something in flight, or no live entry. -/
def LeavesMoving (s : HandshakeLoop) (l : ArmLabel) : Prop :=
  let mc := s.reactor.conns .authUrl
  s.reactor.InHandshake → (∃ key, (s.reactor.registryLeft l.env l.arm).Live .authUrl key) →
    match l.arm with
    | .registerBatch url _ _ => (url = .authUrl → mc.awaitingTokenRefresh = true) → mc.Moves s.delivered
    | .deregister _ _ | .deregisterAll _ | .guardDrop _ _ _ =>
      mc.MovesWithout (s.reactor.TornDown l.arm) (s.reactor.TornDown l.arm) (fun _ => False) s.delivered
    | .abandonWsRequest reqId => mc.MovesWithout (fun _ => False) (fun _ => False) (· = reqId) s.delivered
    | .textFrame .authUrl json => ∀ resp, decodeResponse json = some (some resp) →
        classifyOrderAckAuth resp.success resp.error = .authFailed .tokenStale →
          satAdd32 mc.authHandshakeFailCount 1 < l.env.knobs.maxAuthHandshakeFailures →
            mc.MovesWithout (fun _ => False) (fun _ => False) (· = resp.reqId) s.delivered
    | .timer .authUrl (.timerSubscribeResendDue channel pair) =>
      s.reactor.frameFor l.env (channel, pair) = none ∨
          (s.reactor.reactorEnv l.env .authUrl).token = none ∧ mc.awaitingTokenRefresh = true →
        mc.MovesWithout (fun _ => False) (· = (channel, pair)) (fun _ => False) s.delivered
    | _ => True

end HandshakeLoop

namespace IoReactor

variable {s s' s'' : IoReactor} {env : ArmEnv} {url : WsUrl} {d : Nat}

/-! ## Arms that lose nothing -/

/-- Nothing in flight on the auth connection is lost. -/
def KeepsAuth (s s' : IoReactor) : Prop := KeepsInFlight (s.conns .authUrl) (s'.conns .authUrl)

theorem KeepsAuth.of_eq (h : s'.conns = s.conns) : KeepsAuth s s' := by
  unfold KeepsAuth
  rw [h]
  exact .refl _

theorem KeepsAuth.trans (h : KeepsAuth s s') (h' : KeepsAuth s' s'') : KeepsAuth s s'' := KeepsInFlight.trans h h'

theorem keepsAuth_update {f : ManagedConnection → ManagedConnection}
    (hf : url = .authUrl → KeepsInFlight (s.conns .authUrl) (f (s.conns .authUrl))) : KeepsAuth s (s.updateConn url f) := by
  unfold KeepsAuth
  cases url with
  | publicUrl =>
    rw [conns_updateConn_of_ne _ _ _ (by decide)]
    exact .refl _
  | authUrl =>
    rw [conns_updateConn]
    exact hf rfl

/-- The public connection is another one. -/
theorem keepsAuth_public (f : ManagedConnection → ManagedConnection) : KeepsAuth s (s.updateConn .publicUrl f) :=
  keepsAuth_update nofun

theorem KeepsAuth.project (h : KeepsAuth s s') (url : WsUrl) : KeepsAuth s (s'.project url) := h

theorem keepsAuth_event {e : FsmEvent} (he : ∀ connectionId, e ≠ .wireUpgradeOk connectionId) :
    KeepsAuth s (s.updateConn url (·.handleEvent env.toEnv e)) := keepsAuth_update fun _ => keepsInFlight_event he

theorem keepsAuth_dropDeadSocket (s : IoReactor) (url : WsUrl) : KeepsAuth s (s.dropDeadSocket url) :=
  .of_eq (conns_dropDeadSocket s url)

theorem keepsAuth_foldl {α : Type} {f : IoReactor → α → IoReactor} (hf : ∀ s a, KeepsAuth s (f s a)) (s : IoReactor)
    (as : List α) : KeepsAuth s (as.foldl f s) := by
  induction as generalizing s with
  | nil => exact .of_eq rfl
  | cons a as ih => exact (hf s a).trans (ih _)

theorem keepsAuth_callerEvent (event : CallerEvent) : KeepsAuth s (s.callerEvent env url event) :=
  (keepsAuth_event (by cases event <;> simp [CallerEvent.toFsmEvent])).project url

theorem keepsAuth_startIfIdle : KeepsAuth s (s.startIfIdle env url) := by
  unfold startIfIdle
  split_ifs
  · exact (keepsAuth_event (by simp)).project url
  · exact .of_eq rfl

theorem keepsAuth_subscribeFirst (f : SubscribeFrame) : KeepsAuth s (s.subscribeFirst env url f) := by
  unfold subscribeFirst
  cases url with
  | authUrl =>
    dsimp only
    split_ifs
    · exact keepsAuth_update fun _ => keepsInFlight_sendSingleSignedSubscribe f
    · exact .of_eq rfl
  | publicUrl => exact keepsAuth_update nofun

theorem keepsAuth_registerOneAndEmit (refId : Option HandlerId) (reg : Registration) :
    KeepsAuth s (s.registerOneAndEmit env url refId reg) := by
  have hreg : KeepsAuth s { s with registry := registryAfter s.registry env url refId reg } := .of_eq rfl
  rw [registerOneAndEmit_eq]
  split_ifs
  · exact (hreg.trans keepsAuth_startIfIdle).trans (keepsAuth_subscribeFirst _)
  · exact hreg.trans keepsAuth_startIfIdle

theorem keepsAuth_registerBatch (refId : Option HandlerId) (regs : List Registration) :
    KeepsAuth s (s.registerBatch env url refId regs) :=
  keepsAuth_foldl (fun _ reg => (keepsAuth_registerOneAndEmit refId reg).trans (keepsAuth_dropDeadSocket _ _)) s regs

theorem keepsAuth_upgradeFailed (kind : TransportErrorKind) (transient : Bool) :
    KeepsAuth s (s.upgradeFailed env url kind transient) := by
  refine (keepsAuth_event ?_).trans (keepsAuth_dropDeadSocket _ _)
  cases kind <;> simp [upgradeFailureEvent]

theorem keepsAuth_recoverBookGap (s : IoReactor) (symbol : Symbol) : KeepsAuth s (recoverBookGap env url s symbol) := by
  have hreg : KeepsAuth s { s with registry := s.registry.beginBookResync .book symbol } := .of_eq rfl
  unfold recoverBookGap
  dsimp only
  split
  · exact hreg
  · exact hreg.trans (keepsAuth_update fun hu => by subst hu; exact keepsInFlight_sendBookReseed _ _)

theorem keepsAuth_handleBookReseedTimeout (pair : Option Symbol) :
    KeepsAuth s (s.handleBookReseedTimeout env url pair) := by
  unfold handleBookReseedTimeout
  cases pair with
  | none => exact .of_eq rfl
  | some symbol =>
    have hreg : KeepsAuth s { s with registry := (s.registry.noteReseedTimeout .book symbol).1 } := .of_eq rfl
    dsimp only
    split
    · exact hreg.trans (keepsAuth_update fun hu => by subst hu; exact keepsInFlight_sendBookReseed _ _)
    · exact hreg

theorem keepsAuth_driveWireClose {event : FsmEvent} (he : WireLost event) : KeepsAuth s (s.driveWireClose env url event) := by
  have hne : ∀ connectionId, event ≠ .wireUpgradeOk connectionId := by
    rcases he with ⟨code, reason, rfl⟩ | ⟨error, rfl⟩ <;> simp
  have hdead : KeepsAuth s { s with sockets := Function.update s.sockets url none } := .of_eq rfl
  unfold driveWireClose
  dsimp only
  split_ifs
  · exact (hdead.trans (keepsAuth_event hne)).project url
  · exact hdead.trans (keepsAuth_event hne)

theorem keepsAuth_noteInboundActivity : KeepsAuth s (s.updateConn url (·.noteInboundActivity env.toEnv)) :=
  keepsAuth_update fun _ => keepsInFlight_same rfl (fun _ => id) rfl ⟨[], by simp [noteInboundActivity]⟩

theorem KeepsAuth.whenMapped {next : IoReactor} (h : KeepsAuth s next) : KeepsAuth s (s.whenMapped url next) := by
  unfold IoReactor.whenMapped
  split_ifs
  · exact h
  · exact .of_eq rfl

/-! ## Registrations -/

theorem entriesForResubscribeSorted_ne_nil {r : SubscriptionRegistry} {url : WsUrl} {key : EntryKey} (h : r.Live url key) :
    r.entriesForResubscribeSorted url ≠ [] := by
  obtain ⟨e, he, hu, hlive⟩ := h
  refine List.ne_nil_of_mem (mem_sortByOrderKey.2 (List.mem_filter.2 ⟨(mem_allEntries r e).2 ⟨key, he⟩, ?_⟩))
  simp [hu, hlive]

/-- What a batch for the auth connection keeps: an awaited refresh, or a live entry, has something in flight. -/
structure Pursued (d : Nat) (s : IoReactor) : Prop where
  attached : s.Attached
  spawned : d ≤ (s.conns .authUrl).refreshes
  awaiting : s.InHandshake → (s.conns .authUrl).awaitingTokenRefresh = true → (s.conns .authUrl).Moves d
  live : s.InHandshake → (∃ key, s.registry.Live .authUrl key) → (s.conns .authUrl).Moves d

/-- With nothing in flight the first holder of a key has its subscribe tried. -/
theorem pursued_registerOneAndEmit (h : s.Pursued d) (refId : Option HandlerId) (reg : Registration) :
    ((s.registerOneAndEmit env .authUrl refId reg).dropDeadSocket .authUrl).Pursued d := by
  have hkeeps : KeepsAuth s ((s.registerOneAndEmit env .authUrl refId reg).dropDeadSocket .authUrl) :=
    (keepsAuth_registerOneAndEmit refId reg).trans (keepsAuth_dropDeadSocket _ _)
  have hmoves : ((s.registerOneAndEmit env .authUrl refId reg).dropDeadSocket .authUrl).InHandshake →
      (((s.registerOneAndEmit env .authUrl refId reg).dropDeadSocket .authUrl).conns .authUrl).awaitingTokenRefresh =
          true ∨ (∃ key, ((s.registerOneAndEmit env .authUrl refId reg).dropDeadSocket .authUrl).registry.Live
            .authUrl key) →
        (((s.registerOneAndEmit env .authUrl refId reg).dropDeadSocket .authUrl).conns .authUrl).Moves d := by
    intro hs' hwork
    have hs : s.InHandshake := hkeeps.handshake hs'
    by_cases hm : (s.conns .authUrl).Moves d
    · exact hkeeps.moves hs' hm
    · have hawait : (s.conns .authUrl).awaitingTokenRefresh = false := by
        by_contra hset
        exact hm (h.awaiting hs (Bool.not_eq_false _ ▸ hset))
      have hdead : ∀ key, ¬ s.registry.Live .authUrl key := fun key hl => hm (h.live hs ⟨key, hl⟩)
      have hstart : ({ s with registry := registryAfter s.registry env .authUrl refId reg } : IoReactor).startIfIdle env
          .authUrl = { s with registry := registryAfter s.registry env .authUrl refId reg } := by
        unfold startIfIdle
        rw [if_neg]
        intro hidle
        have hauth : (s.conns .authUrl).state = .authenticating := hs
        rw [hauth] at hidle
        cases hidle
      rw [registry_dropDeadSocket, conns_dropDeadSocket, registry_registerOneAndEmit] at hwork
      rw [conns_dropDeadSocket]
      unfold InHandshake at hs'
      rw [conns_dropDeadSocket] at hs'
      rw [registerOneAndEmit_eq, hstart] at hs' hwork ⊢
      by_cases hfirst : (s.registry.register (.new .authUrl reg.channel reg.pair reg.params) env.now refId.isSome).2 = 1
      · rw [if_pos hfirst] at hs' ⊢
        have hnothing := authenticatingNothingInFlight_of_not_moves hs hm hawait
        unfold subscribeFirst at hs' ⊢
        dsimp only at hs' ⊢
        rw [if_pos (.inr (.inr hnothing)), conns_updateConn] at hs' ⊢
        refine launches_sendSingleSignedSubscribe _ hawait ?_ hs' d h.spawned
        exact h.attached.mapped .authUrl (by rw [show (s.conns .authUrl).state = .authenticating from hs]; trivial)
      · rw [if_neg hfirst] at hwork
        rcases hwork with hset | ⟨key, hl⟩
        · rw [hawait] at hset
          cases hset
        · by_cases hkey : key = (reg.channel, reg.pair)
          · subst hkey
            exact absurd (live_of_count_ne_one hfirst hl) (hdead _)
          · exact absurd (live_registryAfter hl hkey) (hdead key)
  exact {
    attached := h.attached.served ((served_registerOneAndEmit refId reg).trans (served_dropDeadSocket _ _))
    spawned := Nat.le_trans h.spawned hkeeps.spawned
    awaiting := fun hs' hset => hmoves hs' (.inl hset)
    live := fun hs' hl => hmoves hs' (.inr hl) }

theorem pursued_registerBatch (h : s.Pursued d) (refId : Option HandlerId) (regs : List Registration) :
    (s.registerBatch env .authUrl refId regs).Pursued d := by
  unfold registerBatch
  induction regs generalizing s with
  | nil => exact h
  | cons reg regs ih => exact ih (pursued_registerOneAndEmit h refId reg)

/-! ## Teardowns -/

/-- From `mc` to `m` the timers of the torn keys went, and nothing else that moves the handshake. -/
structure Tears (torn : EntryKey → Prop) (mc m : ManagedConnection) : Prop where
  ack : ∀ key, ¬ torn key → m.timers.perEntrySubscribeAckTimeouts.lookup key =
    mc.timers.perEntrySubscribeAckTimeouts.lookup key
  resend : ∀ key, ¬ torn key → m.timers.perEntrySubscribeResendDue.lookup key =
    mc.timers.perEntrySubscribeResendDue.lookup key
  pending : m.pendingRequests = mc.pendingRequests
  spawned : m.bus = mc.bus

theorem Tears.refl {torn : EntryKey → Prop} (mc : ManagedConnection) : Tears torn mc mc :=
  ⟨fun _ _ => rfl, fun _ _ => rfl, rfl, rfl⟩

theorem Tears.trans {torn : EntryKey → Prop} {mc m m' : ManagedConnection} (h : Tears torn mc m) (h' : Tears torn m m') :
    Tears torn mc m' where
  ack key hn := (h'.ack key hn).trans (h.ack key hn)
  resend key hn := (h'.resend key hn).trans (h.resend key hn)
  pending := h'.pending.trans h.pending
  spawned := h'.spawned.trans h.spawned

theorem Tears.mono {torn torn' : EntryKey → Prop} {mc m : ManagedConnection} (h : Tears torn mc m)
    (hsub : ∀ key, torn key → torn' key) : Tears torn' mc m where
  ack key hn := h.ack key fun ht => hn (hsub key ht)
  resend key hn := h.resend key fun ht => hn (hsub key ht)
  pending := h.pending
  spawned := h.spawned

theorem Tears.moves {torn : EntryKey → Prop} {mc m : ManagedConnection} (h : Tears torn mc m)
    (hm : mc.MovesWithout torn torn (fun _ => False) d) : m.Moves d := by
  refine hm.moves (fun key ha hn => .inl ?_) (fun key ha hn => .inr ?_) (fun reqId hc _ => ?_) (Nat.le_of_eq ?_)
  · rw [h.ack key hn]
    exact ha
  · rw [h.resend key hn]
    exact ha
  · unfold pendingRequestsContains at hc ⊢
    rwa [h.pending]
  · unfold refreshes
    rw [h.spawned]

theorem tears_teardownReleasedKey (s : IoReactor) (key : EntryKey) :
    Tears (fun k => k = key ∧ channelWsUrl k.1 = .authUrl) (s.conns .authUrl) ((s.teardownReleasedKey key).conns
      .authUrl) := by
  unfold teardownReleasedKey
  cases hu : channelWsUrl key.1 with
  | publicUrl =>
    rw [conns_updateConn_of_ne _ _ _ (by decide)]
    exact .refl _
  | authUrl =>
    rw [conns_updateConn]
    refine ⟨fun k hn => ?_, fun k hn => ?_, rfl, rfl⟩
    all_goals
      have hk : k ≠ key := by
        rintro rfl
        exact hn ⟨rfl, hu⟩
      exact AList.lookup_erase_ne hk

/-- In the handshake nothing is short-circuited. -/
theorem tears_complete {torn : EntryKey → Prop}
    (hs : ((s.updateConn url (·.completeResubscribeIfEmpty env.toEnv)).conns .authUrl).state = .authenticating) :
    Tears torn (s.conns .authUrl) ((s.updateConn url (·.completeResubscribeIfEmpty env.toEnv)).conns .authUrl) := by
  cases url with
  | publicUrl =>
    rw [conns_updateConn_of_ne _ _ _ (by decide)]
    exact .refl _
  | authUrl =>
    rw [conns_updateConn] at hs ⊢
    unfold completeResubscribeIfEmpty at hs ⊢
    split_ifs at hs ⊢
    · cases hs
    · exact .refl _

theorem tears_completeIf {torn : EntryKey → Prop} {p : Prop} [Decidable p]
    (hs : (if p then s.updateConn url (·.completeResubscribeIfEmpty env.toEnv) else s).InHandshake) :
    Tears torn (s.conns .authUrl)
      ((if p then s.updateConn url (·.completeResubscribeIfEmpty env.toEnv) else s).conns .authUrl) := by
  split_ifs at hs ⊢
  · exact tears_complete hs
  · exact .refl _

theorem tears_deregisterOne {channel : ChannelName} {pair : Option Symbol}
    (hs : (s.deregisterOne env channel pair).InHandshake) : Tears (s.TornDown (.deregister channel pair))
      (s.conns .authUrl) ((s.deregisterOne env channel pair).conns .authUrl) := by
  unfold InHandshake at hs
  unfold deregisterOne TornDown tornKeys at *
  dsimp only at hs ⊢
  split_ifs at hs ⊢
  · exact .refl _
  · refine .trans ?_ (tears_complete hs)
    refine (tears_teardownReleasedKey _ _).mono ?_
    rintro key ⟨rfl, hu⟩
    exact ⟨List.mem_singleton.2 rfl, hu⟩

theorem tears_deregisterAll {channel : Option ChannelName} (hs : (s.deregisterAll env channel).InHandshake) :
    Tears (s.TornDown (.deregisterAll channel)) (s.conns .authUrl) ((s.deregisterAll env channel).conns .authUrl) := by
  have hfold : ∀ (removed : List (SubscriptionEntry × RemovedEntryKind)) (t : IoReactor),
      Tears (fun k => k ∈ removed.map (·.1.key) ∧ channelWsUrl k.1 = .authUrl) (t.conns .authUrl)
        ((removed.foldl (fun s e => s.teardownReleasedKey e.1.key) t).conns .authUrl) := by
    intro removed
    induction removed with
    | nil => exact fun t => .refl _
    | cons e removed ih =>
      intro t
      refine .trans ?_ ((ih _).mono fun k hk => ⟨List.mem_cons_of_mem _ hk.1, hk.2⟩)
      refine (tears_teardownReleasedKey t e.1.key).mono ?_
      rintro k ⟨rfl, hu⟩
      exact ⟨List.mem_cons_self, hu⟩
  unfold deregisterAll at hs ⊢
  dsimp only at hs ⊢
  exact ((hfold _ { s with registry := _ }).trans (tears_completeIf (served_completeIf.handshake hs))).trans
    (tears_completeIf hs)

theorem tears_guardDrop {handlerId : HandlerId} {channel : ChannelName} {symbols : List Symbol}
    (hs : (s.guardDrop env handlerId channel symbols).InHandshake) :
    Tears (s.TornDown (.guardDrop handlerId channel symbols)) (s.conns .authUrl)
      ((s.guardDrop env handlerId channel symbols).conns .authUrl) := by
  have hall : ∀ (targets : List EntryKey) (acc : IoReactor × Bool),
      Tears (fun k => k ∈ guardTorn handlerId acc.1.registry targets ∧ channelWsUrl k.1 = .authUrl)
        (acc.1.conns .authUrl) ((targets.foldl (dropGuardRef handlerId) acc).1.conns .authUrl) := by
    intro targets
    induction targets with
    | nil => exact fun acc => .refl _
    | cons key targets ih =>
      rintro ⟨t, any⟩
      have hrest := ih (dropGuardRef handlerId (t, any) key)
      unfold dropGuardRef at hrest
      dsimp only at hrest
      rw [List.foldl_cons]
      unfold dropGuardRef guardTorn
      dsimp only
      split_ifs at hrest ⊢ with htorn
      · refine .trans ?_ (hrest.mono fun k hk => ⟨List.mem_cons_of_mem _ hk.1, hk.2⟩)
        refine (tears_teardownReleasedKey { t with registry := _ } key).mono ?_
        rintro k ⟨rfl, hu⟩
        exact ⟨List.mem_cons_self, hu⟩
      · exact hrest
  have htargets := hall (guardTargets channel symbols) (s, false)
  unfold guardDrop at hs ⊢
  dsimp only at hs ⊢
  exact htargets.trans (tears_completeIf hs)

/-! ## Timers -/

theorem keepsAuth_popTimer {event : FsmEvent} (hack : ∀ channel pair, event ≠ .timerSubscribeAckTimeout channel pair)
    (hresend : ∀ channel pair, event ≠ .timerSubscribeResendDue channel pair) :
    KeepsAuth s (s.updateConn url (·.popTimerForEvent event)) := by
  refine keepsAuth_update fun _ => ?_
  cases event
  case timerSubscribeAckTimeout => exact absurd rfl (hack _ _)
  case timerSubscribeResendDue => exact absurd rfl (hresend _ _)
  all_goals exact keepsInFlight_same rfl (fun _ => id) rfl ⟨[], by simp [popTimerForEvent]⟩

/-- A timer that is not a resend's. -/
theorem keepsAuth_timer {event : FsmEvent}
    (hresend : url = .authUrl → ∀ channel pair, event ≠ .timerSubscribeResendDue channel pair) :
    KeepsAuth s (s.timer env url event) := by
  unfold timer
  split_ifs with harmed
  · cases url with
    | publicUrl =>
      dsimp only
      have hpop : KeepsAuth s (s.updateConn .publicUrl (·.popTimerForEvent event)) := keepsAuth_public _
      split
      · exact (hpop.trans (keepsAuth_public _)).project _
      · exact (hpop.trans (keepsAuth_handleBookReseedTimeout _)).project _
      · exact hpop.trans (keepsAuth_public _)
      · exact (hpop.trans (keepsAuth_public _)).project _
    | authUrl =>
      by_cases hack : ∃ channel pair, event = .timerSubscribeAckTimeout channel pair
      · obtain ⟨channel, pair, rfl⟩ := hack
        unfold KeepsAuth
        dsimp only
        rw [conns_project, conns_updateConn, conns_updateConn]
        exact keepsInFlight_ackTimeout channel pair
      · have hpop : KeepsAuth s (s.updateConn .authUrl (·.popTimerForEvent event)) :=
          keepsAuth_popTimer (fun channel pair he => hack ⟨channel, pair, he⟩) (hresend rfl)
        dsimp only
        split
        · exact absurd rfl (hresend rfl _ _)
        · exact (hpop.trans (keepsAuth_handleBookReseedTimeout _)).project _
        · refine hpop.trans (keepsAuth_update fun _ => ?_)
          unfold rearmProactiveRefresh
          split_ifs
          · exact .refl _
          · exact keepsInFlight_same rfl (fun _ => id) rfl ⟨[], by simp [setTokenRefreshDue]⟩
        · refine (hpop.trans (keepsAuth_event ?_)).project _
          rintro connectionId rfl
          cases harmed
  · exact .of_eq rfl

/-- The firing of a resend's timer. -/
theorem moves_resendTimer (ha : s.Attached) (hd : d ≤ (s.conns .authUrl).refreshes) (hs : s.InHandshake)
    {channel : ChannelName} {pair : Option Symbol} (hm : (s.conns .authUrl).Moves d)
    (hleft : s.frameFor env (channel, pair) = none ∨
        (s.reactorEnv env .authUrl).token = none ∧ (s.conns .authUrl).awaitingTokenRefresh = true →
      (s.conns .authUrl).MovesWithout (fun _ => False) (· = (channel, pair)) (fun _ => False) d)
    (hs' : (s.timer env .authUrl (.timerSubscribeResendDue channel pair)).InHandshake) :
    ((s.timer env .authUrl (.timerSubscribeResendDue channel pair)).conns .authUrl).Moves d := by
  have hpopped : (s.conns .authUrl).MovesWithout (fun _ => False) (· = (channel, pair)) (fun _ => False) d →
      ((s.conns .authUrl).popTimerForEvent (.timerSubscribeResendDue channel pair)).Moves d := fun h =>
    h.moves (fun _ ha _ => .inl ha) (fun key ha hne => .inr (by simpa [popTimerForEvent, AList.lookup_erase_ne hne] using ha))
      (fun _ hp _ => hp) (Nat.le_refl _)
  unfold InHandshake at hs'
  unfold timer at hs' ⊢
  split_ifs at hs' ⊢
  · dsimp only at hs' ⊢
    rw [conns_project, conns_updateConn, conns_updateConn] at hs' ⊢
    have hframe : (s.updateConn .authUrl (·.popTimerForEvent (.timerSubscribeResendDue channel pair))).frameFor env
        (channel, pair) = s.frameFor env (channel, pair) := rfl
    rw [hframe] at hs' ⊢
    cases hf : s.frameFor env (channel, pair) with
    | none => exact hpopped (hleft (.inl hf))
    | some f =>
      rw [hf] at hs'
      by_cases htoken : (s.reactorEnv env .authUrl).token = none ∧ (s.conns .authUrl).awaitingTokenRefresh = true
      · exact (keepsInFlight_handleSubscribeResend .authUrl (some f)).moves hs' (hpopped (hleft (.inr htoken)))
      · refine launches_handleSubscribeResend ?_ ?_ hs' d ?_
        · exact ha.mapped .authUrl (by rw [show (s.conns .authUrl).state = .authenticating from hs]; trivial)
        · intro hnone
          exact Bool.eq_false_iff.2 fun hawait => htoken ⟨hnone, hawait⟩
        · exact hd
  · exact hm

/-! ## Text frames -/

/-- The acks of the public connection. -/
theorem keepsAuth_handleSubAck (json : Json) : KeepsAuth s (s.handleSubAck env .publicUrl json).2 := by
  have hconn : (s.handleSubAck env .publicUrl json).2.conns .authUrl = s.conns .authUrl := by
    unfold handleSubAck
    split
    · rfl
    · dsimp only
      split
      · rfl
      · unfold handshakeAck lateAck armedAck
        dsimp only
        split_ifs <;> rfl
    · rfl
  unfold KeepsAuth
  rw [hconn]
  exact .refl _

/-- The answer to the first signed subscribe ends the handshake, or spawns the refresh it awaits. -/
theorem moves_handshakeAck (hs : s.InHandshake) (hd : d ≤ (s.conns .authUrl).refreshes) (key : EntryKey) (success : Bool)
    (error : Option String) (hs' : (s.handshakeAck env .authUrl key success error).InHandshake) :
    ((s.handshakeAck env .authUrl key success error).conns .authUrl).Moves d := by
  cases success with
  | true =>
    exfalso
    have hop : ∀ (mc : ManagedConnection) (r : ReactorEnv), Operated r.toEnv mc
        ((mc.sendRemainingSignedSubscribes r (some key)).completeResubscribeIfEmpty r.toEnv) :=
      fun mc r => (operated_sendRemainingSignedSubscribes _).trans operated_complete
    have hok : ((s.conns .authUrl).handleEvent env.toEnv .wireAuthHandshakeOk).state = .resubscribing := by
      rw [handleEvent_authenticating hs]
      rfl
    unfold handshakeAck at hs'
    rw [if_pos rfl] at hs'
    dsimp only at hs'
    split_ifs at hs' with hres
    · unfold InHandshake at hs'
      rw [conns_updateConn] at hs'
      have hback := (hop _ _).stays.handshake hs'
      rw [hres] at hback
      cases hback
    · refine hres ?_
      simp only [updateConn, Function.update_self]
      exact hok
  | false =>
    unfold InHandshake at hs'
    unfold handshakeAck at hs' ⊢
    rw [if_neg Bool.false_ne_true] at hs' ⊢
    dsimp only at hs' ⊢
    rw [conns_updateConn] at hs' ⊢
    split_ifs at hs' ⊢ with hstale
    · have hop : Operated env.toEnv (s.conns .authUrl) ((s.conns .authUrl).handleEvent env.toEnv
          (.wireAuthHandshakeFailed (classifyAuthHandshakeError (error.getD "auth handshake rejected")))) :=
        operated_event (by simp)
      refine .inr (.inr (Nat.lt_of_le_of_lt (Nat.le_trans hd hop.refreshes_le) ?_))
      exact refreshes_force rfl
    · exact absurd ⟨hs', awaiting_handshakeFailed hs hs'⟩ hstale

theorem moves_handleSubAck (hs : s.InHandshake) (hd : d ≤ (s.conns .authUrl).refreshes)
    (hm : (s.conns .authUrl).Moves d) (json : Json) (hs' : (s.handleSubAck env url json).2.InHandshake) :
    ((s.handleSubAck env url json).2.conns .authUrl).Moves d := by
  cases url with
  | publicUrl => exact (keepsAuth_handleSubAck json).moves hs' hm
  | authUrl =>
    revert hs'
    unfold handleSubAck
    split
    · exact fun _ => hm
    · dsimp only
      split
      · exact fun _ => hm
      · have hauth : (s.conns .authUrl).state = .authenticating := hs
        rw [if_pos hauth]
        exact moves_handshakeAck hs hd _ _ _
    · exact fun _ => hm

theorem moves_requestResponse (hs : s.InHandshake) (hm : (s.conns .authUrl).Moves d) (json : Json)
    (hleft : url = .authUrl → ∀ resp, decodeResponse json = some (some resp) →
      classifyOrderAckAuth resp.success resp.error = .authFailed .tokenStale →
        satAdd32 (s.conns .authUrl).authHandshakeFailCount 1 < env.knobs.maxAuthHandshakeFailures →
          (s.conns .authUrl).MovesWithout (fun _ => False) (fun _ => False) (· = resp.reqId) d)
    (hs' : (s.requestResponse env url json).2.InHandshake) :
    ((s.requestResponse env url json).2.conns .authUrl).Moves d := by
  cases url with
  | publicUrl => exact hm
  | authUrl =>
    unfold InHandshake at hs'
    unfold requestResponse handleRequestResponse at hs' ⊢
    dsimp only at hs' ⊢
    rw [conns_updateConn] at hs' ⊢
    revert hs'
    split
    · exact fun _ => hm
    · exact fun _ => hm
    · rename_i resp hdecode
      exact moves_routeResponse hs (hleft rfl resp hdecode)

theorem moves_textFrame (hs : s.InHandshake) (hd : d ≤ (s.conns .authUrl).refreshes) (hm : (s.conns .authUrl).Moves d)
    (json : Json) (hleft : url = .authUrl → ∀ resp, decodeResponse json = some (some resp) →
      classifyOrderAckAuth resp.success resp.error = .authFailed .tokenStale →
        satAdd32 (s.conns .authUrl).authHandshakeFailCount 1 < env.knobs.maxAuthHandshakeFailures →
          (s.conns .authUrl).MovesWithout (fun _ => False) (fun _ => False) (· = resp.reqId) d)
    (hs' : (s.textFrame env url json).InHandshake) : ((s.textFrame env url json).conns .authUrl).Moves d := by
  have hnote : KeepsAuth s (s.updateConn url (·.noteInboundActivity env.toEnv)) := keepsAuth_noteInboundActivity
  have hdata : KeepsAuth s (s.routed env url json) := hnote.trans (.of_eq rfl)
  have hnoted : (s.updateConn url (·.noteInboundActivity env.toEnv)).InHandshake := by
    refine hs.update fun hu => ?_
    subst hu
    exact hs
  have hmoves := hnote.moves hnoted hm
  have hspawned := Nat.le_trans hd hnote.spawned
  rw [textFrame_eq] at hs' ⊢
  dsimp only at hs' ⊢
  split_ifs at hs' ⊢
  · refine moves_requestResponse hnoted hmoves json ?_ hs'
    intro hu
    subst hu
    rw [conns_updateConn]
    exact hleft rfl
  · exact moves_handleSubAck hnoted hspawned hmoves json hs'
  · exact (hdata.trans (keepsAuth_foldl keepsAuth_recoverBookGap _ _)).moves hs' hm

/-! ## Refresh outcomes -/

theorem keepsAuth_rearmIf {p : Prop} [Decidable p] {due : Option MonotonicInstant} :
    KeepsAuth s (if p then s.updateConn .authUrl (·.setTokenRefreshDue due) else s) := by
  split_ifs
  · exact keepsAuth_update fun _ => keepsInFlight_same rfl (fun _ => id) rfl ⟨[], by simp [setTokenRefreshDue]⟩
  · exact .of_eq rfl

/-- Once the outcome is delivered a handshake that goes on is left alone. -/
theorem keepsAuth_delivered (requestId : Nat) (result : Except AuthError Unit)
    (hs' : (s.refreshed env requestId result).InHandshake) :
    (s.updateConn .authUrl (s.deliverRefresh env requestId result)).InHandshake ∧
      KeepsAuth (s.updateConn .authUrl (s.deliverRefresh env requestId result)) (s.refreshed env requestId result) := by
  have hdelivered : (s.updateConn .authUrl (s.deliverRefresh env requestId result)).InHandshake :=
    ((served_drainIf.trans served_rearmIf).trans (served_project _ _)).handshake hs'
  refine ⟨hdelivered, ?_⟩
  unfold refreshed
  dsimp only
  unfold InHandshake at hdelivered
  generalize s.updateConn .authUrl (s.deliverRefresh env requestId result) = t at hdelivered ⊢
  -- In the handshake nothing is drained.
  have hno : ¬ (refreshLanded result = true ∧ drainable (t.conns .authUrl) = true ∧
      ¬ (t.conns .authUrl).awaitingTokenRefresh = true) := by
    rintro ⟨-, hdrain, -⟩
    rw [drainable, hdelivered] at hdrain
    cases hdrain
  rw [if_neg hno]
  refine KeepsAuth.project ?_ .authUrl
  exact keepsAuth_rearmIf

/-- A proactive tick is not delivered to the handshake. -/
theorem keepsAuth_refreshed_zero (result : Except AuthError Unit) (hs' : (s.refreshed env 0 result).InHandshake) :
    KeepsAuth s (s.refreshed env 0 result) := by
  obtain ⟨-, hkeeps⟩ := keepsAuth_delivered 0 result hs'
  have hs : (s.conns .authUrl).state = .authenticating := (served_refreshed 0 result).handshake hs'
  refine .trans (keepsAuth_update fun _ => ?_) hkeeps
  unfold deliverRefresh
  rw [if_neg (by simp [drainable, hs])]
  exact .refl _

theorem not_handshake_tokenRefreshFailed {mc : ManagedConnection} {e : Env} (hs : mc.state = .authenticating)
    (requestId : Nat) (error : AuthError) :
    (mc.handleEvent e (.busTokenRefreshFailed requestId error)).state ≠ .authenticating := by
  rw [handleEvent_authenticating hs]
  simp only [handleAuthenticating]
  split_ifs
  · exact fun h => (down_attemptFailedOrEscalate rfl _ _ _ _).not_handshake h
  · rintro ⟨⟩

/-- The outcome of a spawned refresh: the next one to wait for is in flight, or the probe is. -/
theorem moves_refreshed (ha : s.Attached) (hd : d ≤ (s.conns .authUrl).refreshes)
    (hl : ∃ key, s.registry.Live .authUrl key) {requestId : Nat} (hid : requestId ≠ 0) (result : Except AuthError Unit)
    (hs' : (s.refreshed env requestId result).InHandshake) :
    ((s.refreshed env requestId result).conns .authUrl).Moves d := by
  obtain ⟨hdelivered, hkeeps⟩ := keepsAuth_delivered requestId result hs'
  have hs : (s.conns .authUrl).state = .authenticating := (served_refreshed requestId result).handshake hs'
  refine hkeeps.moves hs' ?_
  unfold InHandshake at hdelivered
  rw [conns_updateConn] at hdelivered ⊢
  unfold deliverRefresh at hdelivered ⊢
  rw [if_pos (.inl hid)] at hdelivered ⊢
  cases result with
  | error e => exact absurd hdelivered (not_handshake_tokenRefreshFailed hs requestId e)
  | ok u =>
    have hclear : ((s.conns .authUrl).handleEvent env.toEnv (.busTokenRefreshed requestId)).awaitingTokenRefresh =
        false := by
      rw [handleEvent_authenticating hs]
      rfl
    have hevent : KeepsInFlight (s.conns .authUrl)
        ((s.conns .authUrl).handleEvent env.toEnv (.busTokenRefreshed requestId)) := keepsInFlight_event (by simp)
    dsimp only at hdelivered ⊢
    split_ifs at hdelivered ⊢ with hnothing
    · refine launches_sendFirstSignedSubscribe ?_ ?_ hdelivered d (Nat.le_trans hd hevent.spawned)
      · exact ha.mapped .authUrl (by rw [hs]; trivial)
      · obtain ⟨key, hkey⟩ := hl
        exact fun hnil => entriesForResubscribeSorted_ne_nil hkey (List.map_eq_nil_iff.1 hnil)
    · by_contra hm
      exact hnothing (authenticatingNothingInFlight_of_not_moves hdelivered hm hclear)

/-! ## Upgrade outcomes -/

/-- A success that begins the handshake, or finds it, ends in the probe. -/
theorem moves_upgradeOk (hd : d ≤ (s.conns .authUrl).refreshes) (hl : ∃ key, s.registry.Live .authUrl key)
    {connectionId : SocketId} (hlive : s.sockets .authUrl = some connectionId)
    (hs' : (s.upgradeOk env .authUrl connectionId).InHandshake) :
    ((s.upgradeOk env .authUrl connectionId).conns .authUrl).Moves d := by
  have hspawned : (s.conns .authUrl).refreshes ≤
      ((s.conns .authUrl).handleEvent env.toEnv (.wireUpgradeOk (some connectionId))).refreshes :=
    refreshes_le (bus_of_transition (transition_handleEvent _))
  have hmapped : (s.updateConn .authUrl (·.handleEvent env.toEnv (.wireUpgradeOk (some connectionId)))).sockets
      .authUrl = some connectionId := hlive
  have hsame : (s.updateConn .authUrl (·.handleEvent env.toEnv (.wireUpgradeOk (some connectionId)))).registry =
    s.registry := rfl
  rw [← conns_updateConn s .authUrl (·.handleEvent env.toEnv (.wireUpgradeOk (some connectionId)))] at hspawned
  unfold upgradeOk at hs' ⊢
  dsimp only at hs' ⊢
  generalize s.updateConn .authUrl (·.handleEvent env.toEnv (.wireUpgradeOk (some connectionId))) = t at *
  by_cases hauth : (t.conns .authUrl).state = .authenticating
  · have hno : ¬ ((t.conns .authUrl).state = .resubscribing ∧ (t.conns .authUrl).hasBeenOpen = true) := by simp [hauth]
    unfold InHandshake at hs'
    rw [if_neg hno, if_pos hauth, conns_updateConn] at hs' ⊢
    refine launches_sendFirstSignedSubscribe ?_ ?_ hs' d (Nat.le_trans hd hspawned)
    · simp [reactorEnv, hmapped]
    · obtain ⟨key, hkey⟩ := hl
      rw [← hsame] at hkey
      exact fun hnil => entriesForResubscribeSorted_ne_nil hkey (List.map_eq_nil_iff.1 hnil)
  · refine absurd ?_ hauth
    split_ifs at hs'
    · exact (served_replay.trans served_sendFirst).handshake hs'
    · exact served_replay.handshake hs'
    · exact hs'

theorem keepsAuth_upgradeOk {connectionId : SocketId} : KeepsAuth s (s.upgradeOk env .publicUrl connectionId) := by
  have hreplay : ∀ t : IoReactor, KeepsAuth t (t.replay env .publicUrl) := by
    intro t
    unfold replay
    exact (keepsAuth_public _).project _
  have hevent : KeepsAuth s (s.updateConn .publicUrl (·.handleEvent env.toEnv (.wireUpgradeOk (some connectionId)))) :=
    keepsAuth_public _
  unfold upgradeOk
  dsimp only
  split_ifs
  · exact (hevent.trans (hreplay _)).trans (keepsAuth_public _)
  · exact hevent.trans (hreplay _)
  · exact hevent.trans (keepsAuth_public _)
  · exact hevent

theorem moves_takeOutcome (hd : d ≤ (s.conns .authUrl).refreshes) (hl : ∃ key, s.registry.Live .authUrl key)
    (hm : s.InHandshake → (s.conns .authUrl).Moves d) (hs' : (s.takeOutcome env).InHandshake) :
    ((s.takeOutcome env).conns .authUrl).Moves d := by
  have hkept : ∀ {t : IoReactor}, KeepsAuth s t → t.InHandshake → (t.conns .authUrl).Moves d :=
    fun hk ht => hk.moves ht (hm (hk.handshake ht))
  unfold takeOutcome at hs' ⊢
  cases hq : s.upgradeRx with
  | nil =>
    rw [hq] at hs'
    exact hm hs'
  | cons q rest =>
    rw [hq] at hs'
    have hrest : KeepsAuth s { s with upgradeRx := rest } := .of_eq rfl
    dsimp only at hs' ⊢
    cases ho : q.outcome with
    | failed url kind transient =>
      rw [ho] at hs'
      exact hkept (hrest.trans (keepsAuth_upgradeFailed kind transient)) hs'
    | ok url connectionId =>
      rw [ho] at hs'
      simp only [upgradeArm] at hs' ⊢
      split_ifs at hs' ⊢ with hlive
      · cases url with
        | authUrl => exact moves_upgradeOk (s := { s with upgradeRx := rest }) hd hl (of_decide_eq_true hlive) hs'
        | publicUrl =>
          exact hkept (hrest.trans keepsAuth_upgradeOk) hs'
      · exact hkept hrest hs'

/-! ## Steps -/

/-- The registry after an arm that takes keys out, or puts them in. -/
theorem registryLeft_step (s : IoReactor) {l : ArmLabel} (hl : leavesRegistry l.arm = false)
    (hframe : ∀ url json, l.arm ≠ .textFrame url json) (htimer : ∀ url event, l.arm ≠ .timer url event) :
    (s.step l).registry = s.registryLeft l.env l.arm := by
  obtain ⟨env, arm⟩ := l
  cases arm with
  | registerBatch url regs refId => exact registry_registerBatch s env url refId regs
  | deregister channel pair => exact registry_deregisterOne s env channel pair
  | deregisterAll channel => exact registry_deregisterAll s env channel
  | guardDrop handlerId channel symbols => exact registry_guardDrop s env handlerId channel symbols
  | textFrame url json => exact absurd rfl (hframe url json)
  | timer url event => exact absurd rfl (htimer url event)
  | _ => cases hl

theorem moves_registerBatch (ha : s.Attached) (hd : d ≤ (s.conns .authUrl).refreshes)
    (hm : s.InHandshake → (∃ key, s.registry.Live .authUrl key) → (s.conns .authUrl).Moves d) {refId : Option HandlerId}
    {regs : List Registration}
    (hok : (url = .authUrl → (s.conns .authUrl).awaitingTokenRefresh = true) → (s.conns .authUrl).Moves d)
    (hs' : (s.registerBatch env url refId regs).InHandshake)
    (hl : ∃ key, (s.registerBatch env url refId regs).registry.Live .authUrl key) :
    ((s.registerBatch env url refId regs).conns .authUrl).Moves d := by
  cases url with
  | publicUrl => exact (keepsAuth_registerBatch refId regs).moves hs' (hok nofun)
  | authUrl =>
    have hp : s.Pursued d := ⟨ha, hd, fun _ hset => hok fun _ => hset, hm⟩
    exact (pursued_registerBatch hp refId regs).live hs' hl

/-- **One arm**, the outcome of a spawned refresh apart. -/
theorem moves_step (ha : s.Attached) (hd : d ≤ (s.conns .authUrl).refreshes)
    (hm : s.InHandshake → (∃ key, s.registry.Live .authUrl key) → (s.conns .authUrl).Moves d) {l : ArmLabel}
    (hne : ∀ requestId result, l.arm ≠ .refreshed (requestId + 1) result)
    (hok : HandshakeLoop.LeavesMoving ⟨s, d⟩ l) (hs' : (s.step l).InHandshake)
    (hl' : ∃ key, (s.step l).registry.Live .authUrl key) : ((s.step l).conns .authUrl).Moves d := by
  obtain ⟨env, arm⟩ := l
  by_cases hoff : arm = .takeOutcome
  · subst hoff
    have hl : ∃ key, s.registry.Live .authUrl key := by
      simp only [step] at hl'
      rwa [registry_takeOutcome] at hl'
    exact moves_takeOutcome hd hl (fun hs => hm hs hl) hs'
  have hs : s.InHandshake := (served_step s hoff).handshake hs'
  by_cases hreg : ∃ url regs refId, arm = .registerBatch url regs refId
  · obtain ⟨url, regs, refId, rfl⟩ := hreg
    refine moves_registerBatch ha hd hm (hok hs ?_) hs' hl'
    rwa [registryLeft_step s rfl (by simp) (by simp)] at hl'
  have hl : ∃ key, s.registry.Live .authUrl key := by
    obtain ⟨key, hkey⟩ := hl'
    exact ⟨key, hkey.of_shrinks (shrinks_step s fun url regs refId he => hreg ⟨url, regs, refId, he⟩)⟩
  have hmoves := hm hs hl
  have hkept : KeepsAuth s (s.step ⟨env, arm⟩) → ((s.step ⟨env, arm⟩).conns .authUrl).Moves d :=
    fun hk => hk.moves hs' hmoves
  cases arm with
  | takeOutcome => exact absurd rfl hoff
  | registerBatch url regs refId => exact absurd ⟨url, regs, refId, rfl⟩ hreg
  | reportOk url connectionId =>
    refine hkept (.of_eq ?_)
    simp only [step, reportOk, trySend]
    split_ifs <;> rfl
  | reportFallback =>
    refine hkept (.of_eq ?_)
    simp only [step, reportFallback, trySend]
    split
    · rfl
    · split_ifs <;> rfl
  | reportFailed url connectionId kind transient =>
    refine hkept (.of_eq ?_)
    simp only [step, reportFailed, trySend]
    split_ifs <;> rfl
  | callerEvent url event => exact hkept (keepsAuth_callerEvent event)
  | deregister channel pair =>
    refine (tears_deregisterOne hs').moves (hok hs ?_)
    rwa [registryLeft_step s rfl (by simp) (by simp)] at hl'
  | deregisterAll channel =>
    refine (tears_deregisterAll hs').moves (hok hs ?_)
    rwa [registryLeft_step s rfl (by simp) (by simp)] at hl'
  | guardDrop handlerId channel symbols =>
    refine (tears_guardDrop hs').moves (hok hs ?_)
    rwa [registryLeft_step s rfl (by simp) (by simp)] at hl'
  | wsRequestFrame f =>
    -- With a live entry no order is admitted as the probe.
    refine hkept ?_
    simp only [step]
    refine keepsAuth_update fun _ => ?_
    have hentry : (s.reactorEnv env .authUrl).hasUrlEntry = true := by
      obtain ⟨key, hkey⟩ := hl
      have hne := entriesForResubscribeSorted_ne_nil hkey
      simpa [ReactorEnv.hasUrlEntry, reactorEnv] using hne
    have hauth : (s.conns .authUrl).state = .authenticating := hs
    unfold handleWsRequestFrame
    rw [if_pos (by simp [admitsRequest, hauth, hentry])]
    exact keepsInFlight_same rfl (fun _ => id) rfl ⟨_, rfl⟩
  | abandonWsRequest reqId =>
    simp only [step]
    rw [conns_updateConn]
    exact moves_abandonWsRequest (hok hs hl)
  | refreshed requestId result =>
    cases requestId with
    | zero => exact hkept (keepsAuth_refreshed_zero result hs')
    | succ requestId => exact absurd rfl (hne requestId result)
  | textFrame url json =>
    simp only [step] at hs' ⊢
    unfold whenMapped at hs' ⊢
    split_ifs at hs' ⊢
    · refine moves_textFrame hs hd hmoves json ?_ hs'
      intro hu
      subst hu
      exact hok hs hl
    · exact hmoves
  | otherFrame url => exact hkept keepsAuth_noteInboundActivity.whenMapped
  | closeFrame url code reason => exact hkept (keepsAuth_driveWireClose (.inl ⟨_, _, rfl⟩)).whenMapped
  | recvError url error => exact hkept (keepsAuth_driveWireClose (.inr ⟨_, rfl⟩)).whenMapped
  | timer url event =>
    by_cases hresend : url = .authUrl ∧ ∃ channel pair, event = .timerSubscribeResendDue channel pair
    · obtain ⟨rfl, channel, pair, rfl⟩ := hresend
      exact moves_resendTimer ha hd hs hmoves (hok hs hl) hs'
    · refine hkept (keepsAuth_timer fun hu channel pair he => ?_)
      exact hresend ⟨hu, channel, pair, he⟩

theorem Served.spawned (h : Served env s s') : (s.conns .authUrl).refreshes ≤ (s'.conns .authUrl).refreshes :=
  (h.conns .authUrl).refreshes_le

theorem refreshes_upgradeOk (connectionId : SocketId) :
    (s.conns .authUrl).refreshes ≤ ((s.upgradeOk env url connectionId).conns .authUrl).refreshes := by
  have hevent : (s.conns .authUrl).refreshes ≤ ((s.updateConn url (·.handleEvent env.toEnv (.wireUpgradeOk
      (some connectionId)))).conns .authUrl).refreshes := by
    cases url with
    | publicUrl => rw [conns_updateConn_of_ne _ _ _ (by decide)]
    | authUrl =>
      rw [conns_updateConn]
      exact refreshes_le (bus_of_transition (transition_handleEvent _))
  unfold upgradeOk
  dsimp only
  split_ifs
  · exact Nat.le_trans hevent (@served_replay _ env url |>.trans served_sendFirst).spawned
  · exact Nat.le_trans hevent (@served_replay _ env url).spawned
  · exact Nat.le_trans hevent (@served_sendFirst _ env url).spawned
  · exact hevent

theorem refreshes_takeOutcome : (s.conns .authUrl).refreshes ≤ ((s.takeOutcome env).conns .authUrl).refreshes := by
  unfold takeOutcome
  split
  · exact Nat.le_refl _
  · rename_i q rest _
    cases q.outcome with
    | failed url kind transient =>
      exact (@served_upgradeFailed { s with upgradeRx := rest } env url kind transient).spawned
    | ok url connectionId =>
      simp only [upgradeArm]
      split_ifs
      · exact @refreshes_upgradeOk { s with upgradeRx := rest } env url connectionId
      · exact Nat.le_refl _

/-- No arm takes a spawned refresh back. -/
theorem refreshes_step (s : IoReactor) (l : ArmLabel) :
    (s.conns .authUrl).refreshes ≤ ((s.step l).conns .authUrl).refreshes := by
  by_cases hoff : l.arm = .takeOutcome
  · unfold step
    rw [hoff]
    exact refreshes_takeOutcome
  · exact ((served_step s hoff).conns .authUrl).refreshes_le

end IoReactor

namespace HandshakeLoop

/-- What every such run keeps. -/
structure Tracked (s : HandshakeLoop) : Prop where
  attached : s.reactor.Attached
  spawned : s.delivered ≤ (s.reactor.conns .authUrl).refreshes
  moving : s.Moving

theorem tracked_init (knobs : Knobs) : (init knobs).Tracked where
  attached := IoReactor.attached_init knobs
  spawned := Nat.zero_le _
  moving hs := by cases hs

/-- An arm that delivers no spawned refresh. -/
theorem step_plain (s : HandshakeLoop) {l : ArmLabel} (hne : ∀ requestId result, l.arm ≠ .refreshed (requestId + 1) result) :
    s.step l = ⟨s.reactor.step l, s.delivered⟩ := by
  unfold step
  split
  · rename_i requestId result harm
    exact absurd harm (hne requestId result)
  · rfl

/-- **The step lemma.** -/
theorem tracked_step (s : HandshakeLoop) (l : ArmLabel) (h : s.Tracked) (hok : s.LeavesMoving l) : (s.step l).Tracked := by
  have hattached := IoReactor.attached_step l h.attached
  have hspawned := IoReactor.refreshes_step s.reactor l
  by_cases hrefresh : ∃ requestId result, l.arm = .refreshed (requestId + 1) result
  · obtain ⟨requestId, result, harm⟩ := hrefresh
    unfold step
    rw [harm]
    dsimp only
    split_ifs with hdue
    · refine ⟨hattached, Nat.le_trans hdue hspawned, fun hs' hl' => ?_⟩
      unfold IoReactor.step at hs' hl' ⊢
      rw [harm] at hs' hl' ⊢
      dsimp only at hs' hl' ⊢
      rw [IoReactor.registry_refreshed] at hl'
      exact IoReactor.moves_refreshed h.attached hdue hl' (Nat.succ_ne_zero requestId) result hs'
    · exact h
  · have hne : ∀ requestId result, l.arm ≠ .refreshed (requestId + 1) result :=
      fun requestId result harm => hrefresh ⟨requestId, result, harm⟩
    rw [step_plain s hne]
    exact ⟨hattached, Nat.le_trans h.spawned hspawned,
      fun hs' hl' => IoReactor.moves_step h.attached h.spawned h.moving hne hok hs' hl'⟩

/-- **The handshake never stalls** in a run whose arms each leave it something to wait for. -/
theorem forall_moving (knobs : Knobs) (ls : List ArmLabel) (hok : Allowed step LeavesMoving (init knobs) ls) :
    (run knobs ls).Moving :=
  ((Reach.exec hok).invariant (tracked_init knobs) tracked_step).moving

/-! ## A bare order as the probe -/

/-- The upgrade succeeds with nothing registered, and an order is admitted. -/
def orderProbe : List ArmLabel :=
  [⟨ReactorLoop.tokenEnv, .callerEvent .authUrl (.startConnect 1)⟩, ⟨ReactorLoop.tokenEnv, .reportOk .authUrl 1⟩,
    ⟨ReactorLoop.tokenEnv, .takeOutcome⟩,
    ⟨ReactorLoop.tokenEnv, .wsRequestFrame ⟨7, "add_order", .addOrder, .obj []⟩⟩]

/-- An entry is registered while the order is pending. -/
def registerExecutions : ArmLabel :=
  ⟨ReactorLoop.tokenEnv, .registerBatch .authUrl [⟨.executions, none, .executions⟩] none⟩

/-- The deadline of another request leaves the order pending. -/
theorem forall_moving_orderProbe : (run ReactorLoop.tokenEnv.knobs (orderProbe ++
    [registerExecutions, ⟨ReactorLoop.tokenEnv, .abandonWsRequest 8⟩])).Moving := by
  refine forall_moving _ _ ⟨?_, ?_, ?_, ?_, ?_, ?_, trivial⟩
  · exact fun _ _ => trivial
  · exact fun _ _ => trivial
  · exact fun _ _ => trivial
  · exact fun _ _ => trivial
  · exact fun _ _ _ => .inr (.inl ⟨7, by decide +kernel⟩)
  · exact fun _ _ => .inr (.inr (.inl ⟨7, by decide +kernel, by decide⟩))

/-- The order's answer: the token is stale. -/
def staleAnswer : ArmLabel :=
  ⟨ReactorLoop.tokenEnv, .textFrame .authUrl (.obj [("method", .str "add_order"), ("req_id", .num "7"),
    ("success", .bool false), ("error", .str "EAPI:Invalid token")])⟩

/-- A refresh is awaited and none was spawned: the subscribe of what is registered then is never sent. -/
theorem staleAnswer_stalls : ¬ ∀ (knobs : Knobs) (ls : List ArmLabel), (run knobs ls).Moving := by
  intro h
  have hlive := (SubscriptionRegistry.hasUrlEntry_iff (run ReactorLoop.tokenEnv.knobs (orderProbe ++
    [staleAnswer, registerExecutions])).reactor.registry .authUrl).1 (by decide +kernel)
  have hpending : HashMap.isEmpty ((run ReactorLoop.tokenEnv.knobs (orderProbe ++
    [staleAnswer, registerExecutions])).reactor.conns .authUrl).pendingRequests = true := by decide +kernel
  have hauth : ((run ReactorLoop.tokenEnv.knobs (orderProbe ++ [staleAnswer, registerExecutions])).reactor.conns
    .authUrl).state = .authenticating := by decide +kernel
  rcases h ReactorLoop.tokenEnv.knobs (orderProbe ++ [staleAnswer, registerExecutions]) hauth hlive with
    ⟨key, ha⟩ | ⟨reqId, hp⟩ | hlt
  · exact not_armed_of_empty (by decide +kernel) (by decide +kernel) key ha
  · unfold pendingRequestsContains at hp
    rw [(HashMap.isEmpty_iff_lookup _).1 hpending reqId] at hp
    cases hp
  · exact absurd hlt (by decide +kernel)

end HandshakeLoop

end KrakenSdk.Dispatch
