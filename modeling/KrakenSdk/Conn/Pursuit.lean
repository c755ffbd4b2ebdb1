import KrakenSdk.Conn.HandshakeMoves
/-!
# What the auth connection owes its entries (io_reactor/subscribe_send.rs)

In `Resubscribing` and `Open` the subscribe of an entry has gone out, or a resend timer or the deferred list has it
(`Pursues`); and a deferred list waits for a refresh that is under way, or for the timer that starts one (`Due`).
`Sustains K` keeps both, the entries of `K` apart. A send that is tried sustains everything and leaves its own entry
pursued (`Reaches`), whatever the socket answered.
-/
namespace KrakenSdk.Conn.ManagedConnection

/-- The current socket has taken a subscribe frame of the key, after the first `n` effects. -/
def HandedSince (mc : ManagedConnection) (n : Nat) (key : EntryKey) : Prop :=
  ∃ socket params reqId, mc.socket = some socket ∧
    .subscribeSent socket key params reqId ∈ sinceConnecting (mc.bus.drop n)

/-- The key's subscribe waits for a token. -/
def Deferred (mc : ManagedConnection) (key : EntryKey) : Prop :=
  ∃ d ∈ mc.deferredOpenAuthSubscribes, d.1 = key.1 ∧ d.2.1 = key.2

/-- The key's subscribe has gone out, or is to. -/
def Pursues (mc : ManagedConnection) (n : Nat) (key : EntryKey) : Prop :=
  mc.HandedSince n key ∨ (mc.timers.perEntrySubscribeResendDue.lookup key).isSome = true ∨ mc.Deferred key

/-- The outcomes of `d` refreshes having come, what waits for a token has one under way, or `timer` brings one. -/
structure Due (mc : ManagedConnection) (timer : Prop) (d : Nat) : Prop where
  awaited : mc.awaitingTokenRefresh = true → d < mc.refreshes
  deferred : mc.deferredOpenAuthSubscribes ≠ [] → d < mc.refreshes ∨ timer

/-- From `mc` to `m` the keys outside `K` stay pursued, unless the connection is not active any more. -/
structure Seeks (K : EntryKey → Prop) (mc m : ManagedConnection) : Prop where
  active : Active m.state → Active mc.state
  grows : Active m.state → Grows mc m
  pursued : Active m.state → ∀ key n, ¬ K key → n ≤ mc.bus.length → mc.Pursues n key → m.Pursues n key
  timer : Active m.state → m.timers.tokenRefreshDueAt = mc.timers.tokenRefreshDueAt

/-- Also, what waits for a token still has it coming. -/
structure Sustains (K : EntryKey → Prop) (mc m : ManagedConnection) : Prop extends Seeks K mc m where
  due : Active m.state → ∀ timer d, d ≤ mc.refreshes → mc.Due timer d → m.Due timer d

/-- No key is left out. -/
abbrev Upholds : ManagedConnection → ManagedConnection → Prop := Sustains fun _ => False

/-- From `mc` to `m` the key's subscribe was tried. -/
structure Reaches (key : EntryKey) (mc m : ManagedConnection) : Prop extends Upholds mc m where
  reached : Active m.state → m.Pursues mc.bus.length key

variable {mc m m' : ManagedConnection} {env : Env} {e : FsmEvent} {d n n' : Nat} {key : EntryKey} {K : EntryKey → Prop}

/-! ## Since an effect -/

theorem mem_sinceConnecting_append {x : Effect} {before bus : List Effect} (h : x ∈ sinceConnecting bus) :
    x ∈ sinceConnecting (before ++ bus) := by
  unfold sinceConnecting at h ⊢
  rw [List.reverse_append, List.takeWhile_append]
  split_ifs
  · have hrev : x ∈ bus.reverse := (List.takeWhile_prefix _).mem h
    simp [hrev]
  · exact h

/-- An earlier effect to count from asks for less. -/
theorem HandedSince.mono (h : mc.HandedSince n key) (hn : n' ≤ n) : mc.HandedSince n' key := by
  obtain ⟨socket, params, reqId, hs, hmem⟩ := h
  refine ⟨socket, params, reqId, hs, ?_⟩
  have hsplit : mc.bus.drop n' = (mc.bus.drop n').take (n - n') ++ mc.bus.drop n := by
    have hdrop : (mc.bus.drop n').drop (n - n') = mc.bus.drop n := by
      rw [List.drop_drop]
      congr 1
      omega
    rw [← hdrop, List.take_append_drop]
  rw [hsplit]
  exact mem_sinceConnecting_append hmem

theorem HandedSince.grow (h : mc.HandedSince n key) (hg : Grows mc m) (hn : n ≤ mc.bus.length) : m.HandedSince n key := by
  obtain ⟨socket, params, reqId, hs, hmem⟩ := h
  obtain ⟨new, hb, hnew⟩ := hg.bus
  refine ⟨socket, params, reqId, hg.socket.trans hs, ?_⟩
  rw [hb, List.drop_append_of_le_length hn, sinceConnecting_append hnew]
  exact List.mem_append_right _ hmem

theorem Pursues.mono (h : mc.Pursues n key) (hn : n' ≤ n) : mc.Pursues n' key := h.imp_left (·.mono hn)

theorem Grows.length_le (h : Grows mc m) : mc.bus.length ≤ m.bus.length := by
  obtain ⟨new, hb, -⟩ := h.bus
  simp [hb]

theorem Grows.refreshes_le (h : Grows mc m) : mc.refreshes ≤ m.refreshes := by
  obtain ⟨new, hb, -⟩ := h.bus
  exact ManagedConnection.refreshes_le ⟨new, hb⟩

/-! ## Composition -/

theorem Seeks.trans (h : Seeks K mc m) (h' : Seeks K m m') : Seeks K mc m' where
  active ha := h.active (h'.active ha)
  grows ha := (h.grows (h'.active ha)).trans (h'.grows ha)
  pursued ha key n hk hn hp :=
    h'.pursued ha key n hk (Nat.le_trans hn (h.grows (h'.active ha)).length_le) (h.pursued (h'.active ha) key n hk hn hp)
  timer ha := (h'.timer ha).trans (h.timer (h'.active ha))

theorem Sustains.trans (h : Sustains K mc m) (h' : Sustains K m m') : Sustains K mc m' where
  toSeeks := h.toSeeks.trans h'.toSeeks
  due ha timer d hd hdue :=
    h'.due ha timer d (Nat.le_trans hd (h.grows (h'.active ha)).refreshes_le) (h.due (h'.active ha) timer d hd hdue)

/-- A connection that is not active owes nothing. -/
theorem Sustains.left (h : ¬ Active m.state) : Sustains K mc m :=
  ⟨⟨fun ha => absurd ha h, fun ha => absurd ha h, fun ha => absurd ha h, fun ha => absurd ha h⟩, fun ha => absurd ha h⟩

theorem Seeks.mono {K' : EntryKey → Prop} (h : Seeks K mc m) (hk : ∀ key, K key → K' key) : Seeks K' mc m :=
  ⟨h.active, h.grows, fun ha key n hn => h.pursued ha key n fun hK => hn (hk key hK), h.timer⟩

theorem Sustains.mono {K' : EntryKey → Prop} (h : Sustains K mc m) (hk : ∀ key, K key → K' key) : Sustains K' mc m :=
  ⟨h.toSeeks.mono hk, h.due⟩

theorem Sustains.widen (h : Upholds mc m) : Sustains K mc m := h.mono nofun

/-- The timers and the deferrals of the keys outside `K` are kept. -/
theorem seeks_kept (hs : m.state = mc.state) (hg : Grows mc m)
    (hresend : ∀ key, ¬ K key → (mc.timers.perEntrySubscribeResendDue.lookup key).isSome = true →
      (m.timers.perEntrySubscribeResendDue.lookup key).isSome = true)
    (hdefer : ∀ key, ¬ K key → mc.Deferred key → m.Deferred key)
    (ht : m.timers.tokenRefreshDueAt = mc.timers.tokenRefreshDueAt) : Seeks K mc m where
  active ha := hs ▸ ha
  timer _ := ht
  grows _ := hg
  pursued _ key n hk hn hp := by
    rcases hp with hp | hp | hp
    · exact .inl (hp.grow hg hn)
    · exact .inr (.inl (hresend key hk hp))
    · exact .inr (.inr (hdefer key hk hp))

/-- Nothing that is waited for changes. -/
theorem Sustains.of_seeks (h : Seeks K mc m) (ha : m.awaitingTokenRefresh = true → mc.awaitingTokenRefresh = true)
    (hd : m.deferredOpenAuthSubscribes ≠ [] → mc.deferredOpenAuthSubscribes ≠ []) : Sustains K mc m := by
  refine ⟨h, fun hactive timer d _ hdue => ?_⟩
  have hle := (h.grows hactive).refreshes_le
  constructor
  · intro hawait
    have hlt := hdue.awaited (ha hawait)
    omega
  · intro hne
    rcases hdue.deferred (hd hne) with hlt | htimer
    · exact .inl (by omega)
    · exact .inr htimer

/-- Bookkeeping that touches none of it. -/
theorem sustains_same (hs : m.state = mc.state) (hg : Grows mc m)
    (hr : m.timers.perEntrySubscribeResendDue = mc.timers.perEntrySubscribeResendDue)
    (hd : m.deferredOpenAuthSubscribes = mc.deferredOpenAuthSubscribes)
    (ha : m.awaitingTokenRefresh = true → mc.awaitingTokenRefresh = true)
    (ht : m.timers.tokenRefreshDueAt = mc.timers.tokenRefreshDueAt) : Sustains K mc m := by
  refine .of_seeks (seeks_kept hs hg (fun key _ => by rw [hr]; exact id) (fun key _ => ?_) ht) ha (by rw [hd]; exact id)
  unfold Deferred
  rw [hd]
  exact id

/-- A refresh is spawned. -/
theorem sustains_spawned (hs : m.state = mc.state) (hg : Grows mc m)
    (hr : m.timers.perEntrySubscribeResendDue = mc.timers.perEntrySubscribeResendDue)
    (hd : m.deferredOpenAuthSubscribes = mc.deferredOpenAuthSubscribes)
    (ht : m.timers.tokenRefreshDueAt = mc.timers.tokenRefreshDueAt) (hspawned : mc.refreshes < m.refreshes) :
    Sustains K mc m := by
  refine ⟨seeks_kept hs hg (fun key _ => by rw [hr]; exact id) (fun key _ => ?_) ht, fun _ _ d hle _ => ?_⟩
  · unfold Deferred
    rw [hd]
    exact id
  · exact ⟨fun _ => by omega, fun _ => .inl (by omega)⟩

theorem Sustains.refl (mc : ManagedConnection) : Sustains K mc mc := sustains_same rfl (.refl mc) rfl rfl id rfl

theorem Reaches.after (h : Upholds mc m) (hr : Reaches key m m') : Reaches key mc m' :=
  ⟨h.trans hr.toSustains, fun ha => (hr.reached ha).mono (h.grows (hr.active ha)).length_le⟩

theorem Reaches.before (hr : Reaches key mc m) (h : Upholds m m') : Reaches key mc m' :=
  ⟨hr.toSustains.trans h, fun ha =>
    h.pursued ha key mc.bus.length id (hr.grows (h.active ha)).length_le (hr.reached (h.active ha))⟩

theorem Reaches.left (h : ¬ Active m.state) : Reaches key mc m := ⟨.left h, fun ha => absurd ha h⟩

/-! ## Operations on one key -/

theorem deferred_filter {p : ChannelName × Option Symbol × SubscribeParams → Bool}
    (hf : m.deferredOpenAuthSubscribes = mc.deferredOpenAuthSubscribes.filter p) (h : mc.Deferred key)
    (hp : ∀ d, d.1 = key.1 → d.2.1 = key.2 → p d = true) : m.Deferred key := by
  obtain ⟨d, hd, h1, h2⟩ := h
  refine ⟨d, ?_, h1, h2⟩
  rw [hf]
  exact List.mem_filter.2 ⟨hd, hp d h1 h2⟩

/-- The timers of a key are given up. -/
theorem sustains_disarmSubscribeAck (hk : K key) : Sustains K mc (mc.disarmSubscribeAck key) := by
  refine .of_seeks (seeks_kept rfl (.of_eq rfl rfl rfl) (fun k hno hr => ?_) (fun _ _ => id) rfl) id id
  have hne : k ≠ key := by
    rintro rfl
    exact hno hk
  simpa [disarmSubscribeAck, forgetSubscribeReqIdForKey, AList.lookup_erase_ne hne] using hr

/-- And so is its deferral. -/
theorem sustains_removeDeferred (hk : K key) : Sustains K mc (mc.removeDeferredOpenAuthSubscribe key) := by
  refine .of_seeks (seeks_kept rfl (.of_eq rfl rfl rfl) (fun _ _ => id) (fun k hno hd => ?_) rfl) id fun hne => ?_
  · refine deferred_filter rfl hd fun d h1 h2 => ?_
    have hne : ¬ (d.1 = key.1 ∧ d.2.1 = key.2) := by
      rintro ⟨hc, hp⟩
      obtain rfl : k = key := Prod.ext (h1.symm.trans hc) (h2.symm.trans hp)
      exact hno hk
    simp [hne]
  · rintro hnil
    exact hne (by simp [removeDeferredOpenAuthSubscribe, hnil])

theorem upholds_complete : Sustains K mc (mc.completeResubscribeIfEmpty env) := by
  unfold completeResubscribeIfEmpty
  split_ifs with hc
  · refine .of_seeks ⟨fun _ => ?_, fun _ => grows_enterOpen, fun _ key n _ hn hp => ?_, fun _ => rfl⟩ id id
    · rw [hc.1]
      trivial
    · rcases hp with hp | hp | hp
      · exact .inl (hp.grow grows_enterOpen hn)
      · exact .inr (.inl hp)
      · exact .inr (.inr hp)
  · exact .refl mc

theorem Down.not_active (h : m.Down) : ¬ Active m.state := by
  rcases h.state with hs | hs | hs <;> simp [hs, Active]

/-- A transient failure arms the resend of its key, or ends the connection. -/
theorem reaches_failure (lastError : Option String) : Reaches key mc (mc.handleSubscribeFailure env key true lastError) := by
  show Reaches key mc ((mc.cancelEntryTimers key).retrySubscribe env key)
  unfold retrySubscribe
  dsimp only
  split_ifs
  · refine ⟨.of_seeks (seeks_kept rfl (.of_eq rfl rfl rfl) (fun k _ hr => ?_) (fun _ _ => id) rfl) id id, fun _ => ?_⟩
    · by_cases hkey : k = key
      · subst hkey
        simp [cancelEntryTimers]
      · simpa [cancelEntryTimers, forgetSubscribeReqIdForKey, AList.lookup_erase_ne hkey, AList.lookup_insert_ne hkey]
          using hr
    · exact .inr (.inl (by simp [cancelEntryTimers]))
  · exact .left (down_droppedOrEscalate rfl _ _).not_active
  · exact .left (down_attemptFailed rfl _ _ _ _).not_active

/-- Any other ends the entry. -/
theorem sustains_terminate (hk : K key) (lastError : Option String) :
    Sustains K mc (mc.handleSubscribeFailure env key false lastError) := by
  have hgrows : Grows mc { mc.cancelEntryTimers key with
      subscribeAckAttempts := mc.subscribeAckAttempts.erase key
      bus := mc.bus ++ [Effect.publish {
        eventVersion := 2, timestampMonotonic := env.now, requestId := none
        payload := .subscriptionTerminatedEvent key.1 key.2 .nonTransientWireRejection lastError env.now }] } :=
    ⟨rfl, rfl, _, rfl, by simp [Effect.isConnecting]⟩
  refine Sustains.trans ?_ upholds_complete
  refine .of_seeks (seeks_kept rfl hgrows (fun k hno hr => ?_) (fun _ _ => id) rfl) id id
  have hne : k ≠ key := by
    rintro rfl
    exact hno hk
  simpa [cancelEntryTimers, forgetSubscribeReqIdForKey, AList.lookup_erase_ne hne] using hr

/-! ## Events -/

/-- The events that answer a subscribe, an upgrade, a handshake or an order. -/
def Answers : FsmEvent → Prop
  | .wireUpgradeOk _ | .wireAuthHandshakeOk | .wireOrderAuthOk | .wireOrderAckTokenStale | .wireSubscribeAck _ _ _
  | .wireSubscribeFailed _ _ _ => True
  | _ => False

theorem not_active_of_not_upgraded (h : ¬ Upgraded m.state) : ¬ Active m.state := by
  intro ha
  cases hs : m.state <;> rw [hs] at ha <;> first | exact ha.elim | exact h (by rw [hs]; trivial)

theorem not_active_handleAuthenticating (hs : mc.state = .authenticating) (hp : ¬ Answers e) :
    ¬ Active (mc.handleAuthenticating env e).state := by
  cases e
  case wireAuthHandshakeFailed kind =>
    cases kind <;> simp only [handleAuthenticating]
    case tokenStale =>
      split_ifs
      · exact id
      · simp [hs, Active]
    case transient => exact (down_attemptFailedOrEscalate rfl _ _ _ _).not_active
    all_goals exact id
  all_goals simp only [handleAuthenticating]
  case wireAuthHandshakeOk | wireOrderAuthOk => exact absurd trivial hp
  case wireCloseReceived => exact (down_closedDuringHandshake rfl _ _ _).not_active
  case wireAbnormalClose | timerStalenessElapsed => exact (down_attemptFailedOrEscalate rfl _ _ _ _).not_active
  case busTokenRefreshFailed =>
    split_ifs
    · exact (down_attemptFailedOrEscalate rfl _ _ _ _).not_active
    · exact id
  case timerSubscribeAckTimeout channel pair =>
    intro ha
    have hauth := (@reaches_failure mc env (channel, pair) none).active ha
    simp [hs, Active] at hauth
  case callClose | callForceReconnect => exact id
  all_goals simp [hs, Active]

theorem upholds_handleResubscribing (hp : ¬ Answers e) : Upholds mc (mc.handleResubscribing env e) := by
  cases e
  case wireSubscribeAck => exact absurd trivial hp
  all_goals simp only [handleResubscribing]
  case wireSubscribeFailed => exact absurd trivial hp
  case timerSubscribeAckTimeout => exact (reaches_failure _).toSustains
  case wireCloseReceived => exact .left (down_closedDuringHandshake rfl _ _ _).not_active
  case wireAbnormalClose | timerStalenessElapsed => exact .left (down_attemptFailedOrEscalate rfl _ _ _ _).not_active
  case callClose | callForceReconnect => exact .left id
  case busTokenRefreshed | busTokenRefreshFailed =>
    exact sustains_same rfl (.of_eq rfl rfl rfl) rfl rfl (fun h => by cases h) rfl
  all_goals exact .refl mc

theorem upholds_handleOpen (hp : ¬ Answers e) : Upholds mc (mc.handleOpen env e) := by
  cases e <;> simp only [handleOpen]
  case wireSubscribeAck | wireSubscribeFailed | wireOrderAckTokenStale => exact absurd trivial hp
  case timerSubscribeAckTimeout => exact (reaches_failure _).toSustains
  case wireCloseReceived =>
    split_ifs
    · exact .left id
    · exact .left (down_droppedOrEscalate rfl _ _).not_active
  case wireAbnormalClose | timerStalenessElapsed => exact .left (down_droppedOrEscalate rfl _ _).not_active
  case callClose | callForceReconnect => exact .left id
  case busTokenRefreshed | busTokenRefreshFailed =>
    exact sustains_same rfl (.of_eq rfl rfl rfl) rfl rfl (fun h => by cases h) rfl
  all_goals exact .refl mc

/-- **One call of `handle_event`**, of an event that answers nothing. -/
theorem upholds_event (hp : ¬ Answers e) : Upholds mc (mc.handleEvent env e) := by
  have hstays : Stays mc (mc.handleEvent env e) := by
    refine stays_handleEvent ?_
    rintro connectionId rfl
    exact hp trivial
  cases hs : mc.state
  case resubscribing =>
    simp only [handleEvent, hs]
    exact upholds_handleResubscribing hp
  case opened =>
    simp only [handleEvent, hs]
    exact upholds_handleOpen hp
  case authenticating =>
    simp only [handleEvent, hs]
    exact .left (not_active_handleAuthenticating hs hp)
  -- Elsewhere no socket is up, and none comes up.
  all_goals
    refine .left (not_active_of_not_upgraded fun hup => ?_)
    have hold := (hstays.session hup).1
    simp [hs, Upgraded] at hold

/-- An ack gives the timers of its key up, and may open the connection. -/
theorem sustains_wireSubscribeAck (hk : K key) (last : Bool) :
    Sustains K mc (mc.handleEvent env (.wireSubscribeAck key.1 key.2 last)) := by
  have hdisarm : Sustains K mc (mc.disarmSubscribeAck key) := sustains_disarmSubscribeAck hk
  cases hs : mc.state <;> simp only [handleEvent, hs]
  case resubscribing =>
    cases last with
    | false => exact hdisarm
    | true =>
      have hsame : Grows mc (mc.disarmSubscribeAck key) := .of_eq rfl rfl rfl
      have hg : Grows mc ((mc.disarmSubscribeAck key).enterOpen env) := hsame.trans grows_enterOpen
      refine .of_seeks ⟨fun _ => by rw [hs]; trivial, fun _ => hg, fun _ k n hno hn hp => ?_, fun _ => rfl⟩ id id
      have hactive : Active (mc.disarmSubscribeAck key).state := by
        rw [show (mc.disarmSubscribeAck key).state = .resubscribing from hs]
        trivial
      exact (hdisarm.pursued hactive k n hno hn hp).imp_left (·.grow grows_enterOpen hn)
  case opened => exact hdisarm
  all_goals exact .refl mc

/-- A reject: a transient one is retried, any other ends the entry. -/
theorem sustains_wireSubscribeFailed {error : SubscribeRejected} (hk : error.transient = true ∨ K key) :
    Sustains K mc (mc.handleEvent env (.wireSubscribeFailed key.1 key.2 error)) := by
  have hfail : Sustains K mc (mc.handleSubscribeFailure env key error.transient (some error.krakenCode)) := by
    rcases hk with ht | hk
    · rw [ht]
      exact (reaches_failure _).toSustains.widen
    · cases error.transient with
      | true => exact (reaches_failure _).toSustains.widen
      | false => exact sustains_terminate hk _
  cases hs : mc.state <;> simp only [handleEvent, hs]
  case resubscribing => exact hfail
  case opened => exact hfail
  all_goals exact .refl mc

/-! ## Sends -/

theorem not_active_wireLost (he : WireLost e) : ¬ Active (mc.handleEvent env e).state :=
  not_active_of_not_upgraded (not_upgraded_wireLost he)

theorem grows_perform {xs : List Effect} (hx : ∀ x ∈ xs, x.isConnecting = false) : Grows mc (mc.perform xs) :=
  ⟨rfl, rfl, xs, rfl, hx⟩

theorem upholds_perform {xs : List Effect} (hx : ∀ x ∈ xs, x.isConnecting = false) : Sustains K mc (mc.perform xs) :=
  sustains_same rfl (grows_perform hx) rfl rfl id rfl

theorem upholds_take : Sustains K mc mc.takeSubscribeReqId.2 := sustains_same rfl (.of_eq rfl rfl rfl) rfl rfl id rfl

theorem upholds_arm (key : EntryKey) (reqId : Nat) : Sustains K mc (mc.armSubscribeAckTimerWithReqId env key reqId) :=
  sustains_same rfl (.of_eq rfl rfl rfl) rfl rfl id rfl

/-- **One frame**: taken it is handed, refused it is to be resent, and a dead writer ends the connection. -/
theorem reaches_sendSubscribeFrame {socket : SocketId} (hk : Active mc.state → mc.socket = some socket)
    (f : SubscribeFrame) (reqId : Nat) (context : String) :
    Reaches f.key mc (mc.sendSubscribeFrame env socket f reqId context).2 := by
  unfold sendSubscribeFrame
  split
  · refine ⟨upholds_perform (by simp [Effect.isConnecting]), fun ha => .inl ?_⟩
    refine ⟨socket, f.params, reqId, hk ha, ?_⟩
    rw [show (mc.perform [.subscribeSent socket f.key f.params reqId]).bus =
      mc.bus ++ [.subscribeSent socket f.key f.params reqId] from rfl, List.drop_left]
    simp [sinceConnecting, Effect.isConnecting]
  · exact reaches_failure none
  · exact .left (not_active_wireLost (.inr ⟨_, rfl⟩))

/-- Whatever socket it is sent on, nothing else is lost. -/
theorem upholds_sendSubscribeFrame (socket : SocketId) (f : SubscribeFrame) (reqId : Nat) (context : String) :
    Upholds mc (mc.sendSubscribeFrame env socket f reqId context).2 := by
  unfold sendSubscribeFrame
  split
  · exact upholds_perform (by simp [Effect.isConnecting])
  · exact (reaches_failure none).toSustains
  · exact .left (not_active_wireLost (.inr ⟨_, rfl⟩))

theorem upholds_sendAndArm (socket : SocketId) (f : SubscribeFrame) (context : String) :
    Upholds mc (mc.sendAndArm env socket f context) := by
  have hsend : Upholds mc
      (mc.takeSubscribeReqId.2.sendSubscribeFrame env socket f mc.takeSubscribeReqId.1 context).2 :=
    upholds_take.trans (upholds_sendSubscribeFrame socket f mc.takeSubscribeReqId.1 context)
  unfold sendAndArm
  dsimp only
  generalize mc.takeSubscribeReqId.2.sendSubscribeFrame env socket f mc.takeSubscribeReqId.1 context = out at hsend ⊢
  obtain ⟨outcome, m⟩ := out
  cases outcome with
  | sent => exact hsend.trans (upholds_arm _ _)
  | backpressured => exact hsend
  | writerDead => exact hsend

theorem reaches_sendAndArm {socket : SocketId} (hk : Active mc.state → mc.socket = some socket) (f : SubscribeFrame)
    (context : String) : Reaches f.key mc (mc.sendAndArm env socket f context) := by
  have hown : Active mc.takeSubscribeReqId.2.state → mc.takeSubscribeReqId.2.socket = some socket := hk
  have hsend : Reaches f.key mc
      (mc.takeSubscribeReqId.2.sendSubscribeFrame env socket f mc.takeSubscribeReqId.1 context).2 :=
    .after upholds_take (reaches_sendSubscribeFrame hown f mc.takeSubscribeReqId.1 context)
  unfold sendAndArm
  dsimp only
  generalize mc.takeSubscribeReqId.2.sendSubscribeFrame env socket f mc.takeSubscribeReqId.1 context = out at hsend ⊢
  obtain ⟨outcome, m⟩ := out
  cases outcome with
  | sent => exact hsend.before (upholds_arm _ _)
  | backpressured => exact hsend
  | writerDead => exact hsend

theorem upholds_sendBookReseed (socketOf : Option SocketId) (f : SubscribeFrame) :
    Upholds mc (mc.sendBookReseed env socketOf f) := by
  have hsend : Upholds mc (mc.sendSingleSubscribe env socketOf f) := by
    unfold sendSingleSubscribe
    split
    · exact .refl mc
    · exact upholds_sendAndArm _ _ _
  exact hsend.trans (sustains_same rfl (.of_eq rfl rfl rfl) rfl rfl id rfl)

/-! ### Deferrals -/

theorem seeks_deferOpenAuthSubscribe (key : EntryKey) (params : SubscribeParams) :
    Seeks K mc (mc.deferOpenAuthSubscribe key params) := by
  unfold deferOpenAuthSubscribe
  split_ifs
  · exact (Sustains.refl mc).toSeeks
  · refine seeks_kept rfl (.of_eq rfl rfl rfl) (fun _ _ => id) (fun k _ hd => ?_) rfl
    obtain ⟨d, hd, hkey⟩ := hd
    exact ⟨d, List.mem_append_left _ hd, hkey⟩

theorem deferred_deferOpenAuthSubscribe (mc : ManagedConnection) (key : EntryKey) (params : SubscribeParams) :
    (mc.deferOpenAuthSubscribe key params).Deferred key := by
  unfold deferOpenAuthSubscribe
  split_ifs with hany
  · obtain ⟨d, hd, hkey⟩ := List.any_eq_true.1 hany
    exact ⟨d, hd, of_decide_eq_true hkey⟩
  · exact ⟨(key.1, key.2, params), by simp, rfl, rfl⟩

/-- A deferral is no deferral of a refresh: one is under way, or is spawned now. -/
theorem Seeks.refreshOnce (h : Seeks K mc m) (ha : m.awaitingTokenRefresh = mc.awaitingTokenRefresh) :
    Sustains K mc m.refreshOnce := by
  unfold ManagedConnection.refreshOnce
  split_ifs with hawait
  · refine ⟨h, fun hactive _ d _ hdue => ?_⟩
    have hle := (h.grows hactive).refreshes_le
    have hlt := hdue.awaited (ha ▸ hawait)
    exact ⟨fun _ => by omega, fun _ => .inl (by omega)⟩
  · have hforce : Grows m ((m.setAwaitingTokenRefresh true).perform [.authStack .forceRefresh]) :=
      ⟨rfl, rfl, _, rfl, by simp [Effect.isConnecting]⟩
    have hspawned : m.refreshes < ((m.setAwaitingTokenRefresh true).perform [.authStack .forceRefresh]).refreshes :=
      refreshes_force rfl
    refine ⟨h.trans (seeks_kept rfl hforce (fun _ _ => id) (fun _ _ => id) rfl), fun hactive _ d hd _ => ?_⟩
    have hle := (h.grows hactive).refreshes_le
    exact ⟨fun _ => by omega, fun _ => .inl (by omega)⟩

theorem deferred_refreshOnce (h : mc.Deferred key) : mc.refreshOnce.Deferred key := by
  unfold refreshOnce
  split_ifs <;> exact h

section reactor

variable {r : ReactorEnv}

/-- The sends of the connection go to its own socket. -/
def OwnSocket (r : ReactorEnv) (mc : ManagedConnection) : Prop :=
  Active mc.state → ∃ socket, r.socketOf = some socket ∧ mc.socket = some socket

theorem reaches_sendSingleSignedSubscribe (hk : OwnSocket r mc) (f : SubscribeFrame) :
    Reaches f.key mc (mc.sendSingleSignedSubscribe r f) := by
  unfold sendSingleSignedSubscribe
  split
  · refine ⟨(seeks_deferOpenAuthSubscribe _ _).refreshOnce (awaiting_deferOpenAuthSubscribe _ _ _), fun _ => ?_⟩
    exact .inr (.inr (deferred_refreshOnce (deferred_deferOpenAuthSubscribe _ _ _)))
  · rename_i hnone
    refine ⟨.refl mc, fun ha => ?_⟩
    obtain ⟨socket, hmap, -⟩ := hk ha
    rw [hnone] at hmap
    cases hmap
  · rename_i socket hsome
    refine reaches_sendAndArm (fun ha => ?_) f _
    obtain ⟨socket', hmap, hown⟩ := hk ha
    rw [hsome] at hmap
    rw [hown, hmap]

theorem OwnSocket.seeks (h : OwnSocket r mc) (hs : Seeks K mc m) : OwnSocket r m := by
  intro ha
  obtain ⟨socket, hmap, hk⟩ := h (hs.active ha)
  exact ⟨socket, hmap, (hs.grows ha).socket.trans hk⟩

/-- A send arms no other key's ack timer. -/
theorem armed_sendSingleSignedSubscribe {f : SubscribeFrame} (ha : Active (mc.sendSingleSignedSubscribe r f).state)
    (h : (mc.sendSingleSignedSubscribe r f).isSubscribeAckArmed key = true) :
    mc.isSubscribeAckArmed key = true ∨ key = f.key := by
  by_cases hkey : key = f.key
  · exact .inr hkey
  · refine .inl ?_
    revert ha h
    unfold sendSingleSignedSubscribe
    split
    · unfold deferOpenAuthSubscribe refreshOnce
      split_ifs <;> exact fun _ h => h
    · exact fun _ h => h
    · unfold sendAndArm sendSubscribeFrame
      cases f.sent with
      | ok =>
        intro _ h
        simpa [isSubscribeAckArmed, armSubscribeAckTimerWithReqId, armSubscribeAck, recordSubscribeReqId, perform,
          takeSubscribeReqId, AList.lookup_insert_ne hkey] using h
      | error e =>
        cases e with
        | backpressure =>
          intro ha h
          simp only [handleSubscribeFailure, if_true, retrySubscribe] at ha h
          split_ifs at ha h
          · simpa [isSubscribeAckArmed, cancelEntryTimers, forgetSubscribeReqIdForKey, takeSubscribeReqId,
              AList.lookup_erase_ne hkey] using h
          · exact absurd ha (down_droppedOrEscalate rfl _ _).not_active
          · exact absurd ha (down_attemptFailed rfl _ _ _ _).not_active
        | writerClosed => exact fun ha => absurd ha (not_active_wireLost (.inr ⟨_, rfl⟩))

theorem reaches_handleSubscribeResend (hk : OwnSocket r mc) (f : SubscribeFrame) :
    Reaches f.key mc (mc.handleSubscribeResend r .authUrl (some f)) := by
  unfold handleSubscribeResend
  dsimp only
  split_ifs with hnone
  · have hseeks : Seeks (fun _ => False) mc ((mc.deferOpenAuthSubscribe f.key f.params).completeResubscribeIfEmpty r.toEnv) :=
      (seeks_deferOpenAuthSubscribe _ _).trans upholds_complete.toSeeks
    have hdeferred : ((mc.deferOpenAuthSubscribe f.key f.params).completeResubscribeIfEmpty r.toEnv).Deferred f.key := by
      unfold completeResubscribeIfEmpty
      split_ifs <;> exact deferred_deferOpenAuthSubscribe _ _ _
    refine ⟨hseeks.refreshOnce ?_, fun _ => .inr (.inr (deferred_refreshOnce hdeferred))⟩
    rw [awaiting_complete, awaiting_deferOpenAuthSubscribe]
  · split
    · rename_i hunmapped
      refine ⟨.refl mc, fun ha => ?_⟩
      obtain ⟨socket, hmap, -⟩ := hk ha
      rw [hunmapped] at hmap
      cases hmap
    · rename_i socket hsome
      refine reaches_sendAndArm (fun ha => ?_) f _
      obtain ⟨socket', hmap, hown⟩ := hk ha
      rw [hsome] at hmap
      rw [hown, hmap]

theorem upholds_sendFirstSignedSubscribe : Upholds mc (mc.sendFirstSignedSubscribe r) := by
  unfold sendFirstSignedSubscribe
  split
  · exact sustains_spawned rfl ⟨rfl, rfl, _, rfl, by simp [Effect.isConnecting]⟩ rfl rfl rfl (refreshes_force rfl)
  · exact .refl mc
  · exact .refl mc
  · exact upholds_sendAndArm _ _ _

/-! ### Batches -/

theorem Seeks.socket {socket : SocketId} (h : Seeks K mc m) (hk : Active mc.state → mc.socket = some socket) :
    Active m.state → m.socket = some socket := fun ha => (h.grows ha).socket.trans (hk (h.active ha))

/-- A send opens nothing. -/
theorem not_opened_sendSubscribeFrame (hs : mc.state ≠ .opened) (socket : SocketId) (f : SubscribeFrame) (reqId : Nat)
    (context : String) : (mc.sendSubscribeFrame env socket f reqId context).2.state ≠ .opened := by
  unfold sendSubscribeFrame
  split
  · exact hs
  · exact fun ho => hs (opened_subscribeFailure none ho).1
  · intro ho
    have hdead : ¬ Active (mc.driveWriterClosedAbnormal env context).state := not_active_wireLost (.inr ⟨_, rfl⟩)
    have hopen : (mc.driveWriterClosedAbnormal env context).state = .opened := ho
    exact hdead (by rw [hopen]; trivial)

/-- The signed batch of a handshake. -/
theorem reaches_sendFrames {socket : SocketId} (context : String) (fs : List SubscribeFrame) (hs : mc.state ≠ .opened)
    (hk : Active mc.state → mc.socket = some socket) :
    Upholds mc (mc.sendFrames env socket context fs) ∧ ∀ f ∈ fs, Reaches f.key mc (mc.sendFrames env socket context fs) := by
  induction fs generalizing mc with
  | nil => exact ⟨.refl mc, fun _ hf => absurd hf List.not_mem_nil⟩
  | cons f fs ih =>
    have hown : Active mc.takeSubscribeReqId.2.state → mc.takeSubscribeReqId.2.socket = some socket := hk
    have hsend : Reaches f.key mc
        (mc.takeSubscribeReqId.2.sendSubscribeFrame env socket f mc.takeSubscribeReqId.1 context).2 :=
      .after upholds_take (reaches_sendSubscribeFrame hown f mc.takeSubscribeReqId.1 context)
    have hopen : (mc.takeSubscribeReqId.2.sendSubscribeFrame env socket f mc.takeSubscribeReqId.1 context).2.state ≠
        .opened := not_opened_sendSubscribeFrame (by exact hs) _ _ _ _
    have hlost : (mc.takeSubscribeReqId.2.sendSubscribeFrame env socket f mc.takeSubscribeReqId.1 context).1 = .writerDead →
        ¬ Active (mc.takeSubscribeReqId.2.sendSubscribeFrame env socket f mc.takeSubscribeReqId.1 context).2.state := by
      unfold sendSubscribeFrame
      split
      · nofun
      · nofun
      · exact fun _ => not_active_wireLost (.inr ⟨_, rfl⟩)
    simp only [sendFrames]
    generalize mc.takeSubscribeReqId.2.sendSubscribeFrame env socket f mc.takeSubscribeReqId.1 context = out
      at hsend hopen hlost
    obtain ⟨outcome, m⟩ := out
    have hsock : Active m.state → m.socket = some socket := hsend.toSeeks.socket hk
    -- What is sent after `f` keeps it pursued.
    have hrest : ∀ m', Upholds m m' → (∀ g ∈ fs, Reaches g.key m m') →
        Upholds mc m' ∧ ∀ g ∈ f :: fs, Reaches g.key mc m' := by
      intro m' hup hall
      refine ⟨hsend.toSustains.trans hup, fun g hg => ?_⟩
      rcases List.mem_cons.1 hg with rfl | hg
      · exact hsend.before hup
      · exact (hall g hg).after hsend.toSustains
    have hgone : ¬ Active m.state → Upholds mc m ∧ ∀ g ∈ f :: fs, Reaches g.key mc m :=
      fun hno => ⟨.left hno, fun _ _ => .left hno⟩
    cases outcome with
    | sent =>
      have harm : Upholds m (m.armSubscribeAckTimerWithReqId env f.key mc.takeSubscribeReqId.1) := upholds_arm _ _
      obtain ⟨hup, hall⟩ := @ih (m.armSubscribeAckTimerWithReqId env f.key mc.takeSubscribeReqId.1) hopen
        (harm.toSeeks.socket hsock)
      exact hrest _ (harm.trans hup) fun g hg => (hall g hg).after harm
    | backpressured =>
      dsimp only
      split_ifs with hres
      · obtain ⟨hup, hall⟩ := ih hopen hsock
        exact hrest _ hup hall
      · refine hgone fun ha => ?_
        cases hst : m.state <;> rw [hst] at ha <;> first | exact ha | exact hopen hst | exact hres hst
    | writerDead => exact hgone (hlost rfl)

theorem upholds_replayFrames (socket : SocketId) (fs : List (SubscribeFrame × Bool)) :
    Upholds mc (mc.replayFrames env socket fs) := by
  induction fs generalizing mc with
  | nil => exact .refl mc
  | cons row fs ih =>
    obtain ⟨f, resyncing⟩ := row
    have hsend : Upholds mc (mc.takeSubscribeReqId.2.sendSubscribeFrame env socket f mc.takeSubscribeReqId.1
        "outbound writer task terminated (resubscribe replay)").2 :=
      upholds_take.trans (upholds_sendSubscribeFrame socket f mc.takeSubscribeReqId.1 _)
    simp only [replayFrames]
    generalize mc.takeSubscribeReqId.2.sendSubscribeFrame env socket f mc.takeSubscribeReqId.1
      "outbound writer task terminated (resubscribe replay)" = out at hsend
    obtain ⟨outcome, m⟩ := out
    cases outcome with
    | sent =>
      refine (hsend.trans ?_).trans ih
      dsimp only
      split_ifs
      · have harm : Upholds m (m.armSubscribeAckTimerWithReqId env f.key mc.takeSubscribeReqId.1) := upholds_arm _ _
        exact harm.trans (sustains_same rfl (.of_eq rfl rfl rfl) rfl rfl id rfl)
      · exact upholds_arm _ _
    | backpressured =>
      dsimp only
      split_ifs
      · exact hsend.trans ih
      · exact hsend
    | writerDead => exact hsend

theorem deferAll_spec (fs : List SubscribeFrame) :
    Seeks K mc (fs.foldl (fun mc f => mc.deferOpenAuthSubscribe f.key f.params) mc) ∧
      (fs.foldl (fun mc f => mc.deferOpenAuthSubscribe f.key f.params) mc).awaitingTokenRefresh =
        mc.awaitingTokenRefresh ∧
      (∀ key, mc.Deferred key → (fs.foldl (fun mc f => mc.deferOpenAuthSubscribe f.key f.params) mc).Deferred key) ∧
      ∀ f ∈ fs, (fs.foldl (fun mc f => mc.deferOpenAuthSubscribe f.key f.params) mc).Deferred f.key := by
  induction fs generalizing mc with
  | nil => exact ⟨(Sustains.refl mc).toSeeks, rfl, fun _ => id, fun _ hf => absurd hf List.not_mem_nil⟩
  | cons f fs ih =>
    obtain ⟨hseeks, hawait, hkept, hall⟩ := @ih (mc.deferOpenAuthSubscribe f.key f.params)
    refine ⟨(seeks_deferOpenAuthSubscribe _ _).trans hseeks, hawait.trans (awaiting_deferOpenAuthSubscribe _ _ _),
      fun key hd => hkept key ?_, fun g hg => ?_⟩
    · unfold deferOpenAuthSubscribe
      split_ifs
      · exact hd
      · obtain ⟨d, hd, hkey⟩ := hd
        exact ⟨d, List.mem_append_left _ hd, hkey⟩
    · rcases List.mem_cons.1 hg with rfl | hg
      · exact hkept _ (deferred_deferOpenAuthSubscribe _ _ _)
      · exact hall g hg

/-- From `mc` to `m` every entry was tried but `skipped`, and without a token a refresh was spawned. -/
structure Resumes (r : ReactorEnv) (skipped : Option EntryKey) (mc m : ManagedConnection) : Prop
    extends Upholds mc m where
  reached : ∀ f ∈ r.entries, some f.key ≠ skipped → Active m.state → m.Pursues mc.bus.length f.key
  spawned : r.token = none → Active m.state → ∀ timer d, d ≤ mc.refreshes → m.Due timer d

/-- Nothing waits for a token. -/
theorem due_of_none (ha : mc.awaitingTokenRefresh = false) (hd : mc.deferredOpenAuthSubscribes = [])
    (timer : Prop) (d : Nat) : mc.Due timer d := by
  constructor
  · intro h
    rw [ha] at h
    cases h
  · intro h
    exact absurd hd h

theorem due_refreshOnce (ha : mc.awaitingTokenRefresh = false) (hd : d ≤ mc.refreshes) (timer : Prop) :
    mc.refreshOnce.Due timer d := by
  unfold refreshOnce
  rw [if_neg (by simp [ha])]
  have hspawned : mc.refreshes < ((mc.setAwaitingTokenRefresh true).perform [.authStack .forceRefresh]).refreshes :=
    refreshes_force rfl
  exact ⟨fun _ => by omega, fun _ => .inl (by omega)⟩

/-- **What is left to subscribe after a handshake** goes out, or is deferred to a refresh. -/
theorem resumes_sendRemaining (hs : mc.state = .resubscribing) (ha : mc.awaitingTokenRefresh = false) (hk : OwnSocket r mc)
    (alreadySent : Option EntryKey) :
    Resumes r alreadySent mc ((mc.sendRemainingSignedSubscribes r alreadySent).completeResubscribeIfEmpty r.toEnv) := by
  have hactive : Active mc.state := by rw [hs]; trivial
  obtain ⟨socket, hmap, hown⟩ := hk hactive
  have hmem : ∀ f ∈ r.entries, some f.key ≠ alreadySent →
      f ∈ r.entries.filter fun f => !decide (some f.key = alreadySent) := by
    intro f hf hne
    exact List.mem_filter.2 ⟨hf, by simp [hne]⟩
  cases htoken : r.token with
  | none =>
    obtain ⟨hseeks, hawait, -, hall⟩ := @deferAll_spec mc (fun _ => False)
      (r.entries.filter fun f => !decide (some f.key = alreadySent))
    have hup := (hseeks.refreshOnce hawait).trans (@upholds_complete _ r.toEnv _)
    have hdefer := (@operated_deferAll mc r.toEnv (r.entries.filter fun f =>
      !decide (some f.key = alreadySent))).refreshes_le
    have honce := (@operated_refreshOnce ((r.entries.filter fun f => !decide (some f.key = alreadySent)).foldl
      (fun mc f => mc.deferOpenAuthSubscribe f.key f.params) mc) r.toEnv).refreshes_le
    unfold sendRemainingSignedSubscribes
    simp only [htoken]
    refine ⟨hup, fun f hf hne _ => .inr (.inr ?_), fun _ hm timer d hd => ?_⟩
    · unfold completeResubscribeIfEmpty
      split_ifs <;> exact deferred_refreshOnce (hall f (hmem f hf hne))
    · have hdue := @due_refreshOnce _ d (hawait.trans ha) (by omega) timer
      exact (@upholds_complete _ r.toEnv (fun _ => False)).due hm timer d (by omega) hdue
  | some token =>
    obtain ⟨hup, hall⟩ := @reaches_sendFrames mc r.toEnv socket
      "outbound writer task terminated (remaining signed subscribes)"
      (r.entries.filter fun f => !decide (some f.key = alreadySent)) (by simp [hs]) fun _ => hown
    unfold sendRemainingSignedSubscribes
    simp only [htoken, hmap]
    refine ⟨hup.trans upholds_complete, fun f hf hne => ?_, fun hnone => by rw [htoken] at hnone; cases hnone⟩
    exact ((hall f (hmem f hf hne)).before upholds_complete).reached

/-! ## Requests -/

theorem isConnecting_resolve (p : PendingRequestMap) (resp : WsResponse) :
    ∀ x ∈ (p.resolve resp).2, x.isConnecting = false := by
  unfold PendingRequestMap.resolve
  split <;> simp [Effect.isConnecting]

theorem isConnecting_failOne (p : PendingRequestMap) (reqId : Nat) (err : ConnectionError) :
    ∀ x ∈ (p.failOne reqId err).2, x.isConnecting = false := by
  unfold PendingRequestMap.failOne
  split <;> simp [Effect.isConnecting]

theorem isConnecting_drainOneRetryable (p : PendingRequestMap) (reqId : Nat) (now : MonotonicInstant) :
    ∀ x ∈ (p.drainOneRetryable reqId now).2, x.isConnecting = false := by
  unfold PendingRequestMap.drainOneRetryable
  split <;> simp [Effect.isConnecting, PendingRequestMap.requestFailed]

theorem upholds_failPendingRequest (reqId : Nat) (err : ConnectionError) : Upholds mc (mc.failPendingRequest reqId err) :=
  sustains_same rfl ⟨rfl, rfl, _, rfl, isConnecting_failOne _ _ _⟩ rfl rfl id rfl

theorem upholds_drainOneRetryable (reqId : Nat) : Upholds mc (mc.drainOneRetryable env reqId) :=
  sustains_same rfl ⟨rfl, rfl, _, rfl, isConnecting_drainOneRetryable _ _ _⟩ rfl rfl id rfl

theorem upholds_resolveIfPending (resp : WsResponse) :
    Upholds mc (if mc.pendingRequestsContains resp.reqId then mc.resolvePendingRequest resp else mc) := by
  split_ifs
  · exact sustains_same rfl ⟨rfl, rfl, _, rfl, isConnecting_resolve _ _⟩ rfl rfl id rfl
  · exact .refl mc

/-- A token that is stale in `Open` has its refresh spawned. -/
theorem upholds_recoverTokenStale (hs : mc.state = .opened) (reqId : Nat) : Upholds mc (mc.recoverTokenStale r reqId) := by
  unfold recoverTokenStale
  simp only [handleEvent, hs, handleOpen]
  refine Sustains.trans ?_ (upholds_drainOneRetryable reqId)
  refine sustains_spawned hs.symm ⟨rfl, rfl, [.authStack .invalidateCachedToken, .authStack .forceRefresh], ?_, ?_⟩
    rfl rfl rfl ?_
  · simp [perform, setAwaitingTokenRefresh]
  · simp [Effect.isConnecting]
  · simp [perform, setAwaitingTokenRefresh, refreshes, List.countP_append, Effect.spawnsRefresh]

theorem upholds_recoverIfStale (resp : WsResponse) (ack : OrderAckAuth) : Upholds mc
    (if mc.state = .opened ∧ ack = .authFailed .tokenStale then mc.recoverTokenStale r resp.reqId else mc) := by
  split_ifs with hc
  · exact upholds_recoverTokenStale hc.1 _
  · exact .refl mc

theorem upholds_routeResponse (hs : mc.state ≠ .authenticating) (resp : WsResponse) :
    Upholds mc (mc.routeResponse r resp) := by
  unfold routeResponse
  dsimp only
  rw [if_neg hs]
  exact (upholds_recoverIfStale resp _).trans (upholds_resolveIfPending resp)

theorem upholds_handleWsRequestFrame (f : WsRequestFrame) : Upholds mc (mc.handleWsRequestFrame r f) := by
  unfold handleWsRequestFrame
  split_ifs
  · exact upholds_perform (by simp [Effect.isConnecting])
  · split
    · refine sustains_spawned rfl ⟨rfl, rfl, [.authStack .invalidateCachedToken, .authStack .forceRefresh,
        .resolve f.reqId (.error .notOpen)], ?_, ?_⟩ rfl rfl rfl ?_
      · simp [rejectNotOpen, perform, setAwaitingTokenRefresh]
      · simp [Effect.isConnecting]
      · simp [rejectNotOpen, perform, setAwaitingTokenRefresh, refreshes, List.countP_append, Effect.spawnsRefresh]
    · have hrecord : ∀ p, Upholds mc (mc.recordPendingRequest p) :=
        fun _ => sustains_same rfl (.of_eq rfl rfl rfl) rfl rfl id rfl
      dsimp only
      split
      · exact (hrecord _).trans (upholds_perform (by simp [Effect.isConnecting]))
      · exact (hrecord _).trans (upholds_failPendingRequest _ _)

/-! ## The end of a handshake -/

theorem handleEvent_wireAuthHandshakeOk (hs : mc.state = .authenticating) : mc.handleEvent env .wireAuthHandshakeOk =
    { mc with awaitingTokenRefresh := false, authHandshakeFailCount := 0, state := .resubscribing } := by
  rw [handleEvent_authenticating hs]
  rfl

/-- An order's answer that ends the handshake accepts the token. With entries to subscribe these are tried, without
the connection opens and has no deferrals. -/
theorem routeResponse_authenticating (hs : mc.state = .authenticating)
    (hk : ∃ socket, r.socketOf = some socket ∧ mc.socket = some socket) {resp : WsResponse}
    (hm : Active (mc.routeResponse r resp).state) : classifyOrderAckAuth resp.success resp.error = .authenticated ∧
      (r.hasUrlEntry = true →
        Resumes r none (mc.handleEvent r.toEnv .wireAuthHandshakeOk) (mc.routeResponse r resp)) ∧
      (r.hasUrlEntry = false → ∀ timer d, (mc.routeResponse r resp).Due timer d) := by
  have hrest : ∀ {m : ManagedConnection} (ack : OrderAckAuth), Upholds m
      (let m' := if m.state = .opened ∧ ack = .authFailed .tokenStale then m.recoverTokenStale r resp.reqId else m
       if m'.pendingRequestsContains resp.reqId then m'.resolvePendingRequest resp else m') :=
    fun ack => (upholds_recoverIfStale resp ack).trans (upholds_resolveIfPending resp)
  unfold routeResponse at hm ⊢
  dsimp only at hm ⊢
  rw [if_pos hs] at hm ⊢
  cases hack : classifyOrderAckAuth resp.success resp.error with
  | authFailed kind =>
    exfalso
    rw [hack] at hm
    have hfail : ¬ Active (mc.handleEvent r.toEnv (.wireAuthHandshakeFailed kind)).state := by
      rw [handleEvent_authenticating hs]
      exact not_active_handleAuthenticating hs id
    have hprobe : ¬ Active (mc.driveAuthProbe r resp.reqId (.authFailed kind)).state := by
      simp only [driveAuthProbe]
      split_ifs <;> exact hfail
    exact hprobe ((hrest _).active hm)
  | authenticated =>
    rw [hack] at hm
    refine ⟨rfl, fun hentry => ?_, fun hentry timer d => ?_⟩
    · have hok := @handleEvent_wireAuthHandshakeOk mc r.toEnv hs
      have hresumes := @resumes_sendRemaining (mc.handleEvent r.toEnv .wireAuthHandshakeOk) r (by rw [hok])
        (by rw [hok]) (by rw [hok]; exact fun _ => hk) none
      have hdrive : mc.driveAuthProbe r resp.reqId .authenticated = ((mc.handleEvent r.toEnv
          .wireAuthHandshakeOk).sendRemainingSignedSubscribes r none).completeResubscribeIfEmpty r.toEnv := by
        simp only [driveAuthProbe]
        rw [if_pos hentry, if_pos (by rw [hok])]
      rw [hdrive] at hm ⊢
      refine ⟨hresumes.toSustains.trans (hrest .authenticated), fun f hf hne ha => ?_, fun hnone ha timer d hd => ?_⟩
      · have hactive := (hrest .authenticated).active ha
        refine (hrest .authenticated).pursued ha f.key _ id (hresumes.grows hactive).length_le ?_
        exact hresumes.reached f hf hne hactive
      · have hactive := (hrest .authenticated).active ha
        exact (hrest .authenticated).due ha timer d (Nat.le_trans hd (hresumes.grows hactive).refreshes_le)
          (hresumes.spawned hnone hactive timer d hd)
    · have hdrive : mc.driveAuthProbe r resp.reqId .authenticated = mc.handleEvent r.toEnv .wireOrderAuthOk := by
        simp only [driveAuthProbe]
        rw [if_neg (by simp [hentry])]
      have hopen : (mc.handleEvent r.toEnv .wireOrderAuthOk).awaitingTokenRefresh = false ∧
          (mc.handleEvent r.toEnv .wireOrderAuthOk).deferredOpenAuthSubscribes = [] := by
        rw [handleEvent_authenticating hs]
        exact ⟨rfl, rfl⟩
      have hsame : ∀ m : ManagedConnection, m.awaitingTokenRefresh = false → m.deferredOpenAuthSubscribes = [] →
          (if m.pendingRequestsContains resp.reqId then m.resolvePendingRequest resp else m).Due timer d := by
        intro m ha hd
        have hresolved : (m.resolvePendingRequest resp).Due timer d := due_of_none (by exact ha) (by exact hd) timer d
        split_ifs
        · exact hresolved
        · exact due_of_none ha hd timer d
      have hno : ¬ ((mc.handleEvent r.toEnv .wireOrderAuthOk).state = .opened ∧
          OrderAckAuth.authenticated = .authFailed .tokenStale) := by simp
      rw [hdrive, if_neg hno]
      exact hsame _ hopen.1 hopen.2

end reactor

end KrakenSdk.Conn.ManagedConnection
