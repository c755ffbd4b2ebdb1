import KrakenSdk.Conn.Sockets
/-!
# Which subscribes the current socket has been handed (io_reactor/subscribe_send.rs)

`Handed` is a subscribe frame on the current socket since the latest entry into `Connecting`. `Covered L`
says what the public connection owes a set `L` of keys: in `Open` each has been handed, in `Resubscribing` each
has been or has an ack or a resend timer armed. One lemma for each operation says what it needs to
keep that; four of them need something of the key they are about.
-/
namespace KrakenSdk.Conn

/-- A connection entered `Connecting`: its socket is a new one. -/
def Effect.isConnecting : Effect → Bool
  | .publish e =>
    match e.payload with
    | .connectionConnectingEvent .. => true
    | _ => false
  | _ => false

/-- What happened since the latest entry into `Connecting`, the latest first. -/
def sinceConnecting (bus : List Effect) : List Effect := bus.reverse.takeWhile fun x => !x.isConnecting

namespace ManagedConnection

/-- The current socket has taken a subscribe frame of the key. -/
def Handed (mc : ManagedConnection) (key : EntryKey) : Prop :=
  ∃ socket params reqId, mc.socket = some socket ∧ .subscribeSent socket key params reqId ∈ sinceConnecting mc.bus

/-- An ack or a resend of the key is being waited for. -/
def Armed (mc : ManagedConnection) (key : EntryKey) : Prop :=
  (mc.timers.perEntrySubscribeAckTimeouts.lookup key).isSome ∨ (mc.timers.perEntrySubscribeResendDue.lookup key).isSome

/-- The states in which a connection has its subscriptions, or is about to. -/
def Active : ConnectionState → Prop
  | .opened | .resubscribing => True
  | _ => False

/-- No subscription and no handshake. -/
def Away : ConnectionState → Prop
  | .opened | .resubscribing | .authenticating => False
  | _ => True

/-- What the public connection owes the keys of `L`; `mapped` is what the reactor's socket map holds. -/
structure Covered (L : EntryKey → Prop) (mapped : Option SocketId) (mc : ManagedConnection) : Prop where
  url : mc.url = .publicUrl
  handshake : mc.state ≠ .authenticating
  attached : Active mc.state → ∃ socket, mapped = some socket ∧ mc.socket = some socket
  opened : mc.state = .opened → ∀ key, L key → mc.Handed key
  resubscribing : mc.state = .resubscribing → ∀ key, L key → mc.Handed key ∨ mc.Armed key

/-! ## The same socket, more effects -/

/-- The socket stays, and nothing enters `Connecting`. -/
structure Grows (mc m : ManagedConnection) : Prop where
  url : m.url = mc.url
  socket : m.socket = mc.socket
  bus : ∃ new, m.bus = mc.bus ++ new ∧ ∀ x ∈ new, x.isConnecting = false

section grows

variable {mc m m' : ManagedConnection} {env : Env} {key : EntryKey}

theorem Grows.of_eq (hu : m.url = mc.url) (hs : m.socket = mc.socket) (hb : m.bus = mc.bus) : Grows mc m :=
  ⟨hu, hs, [], by simp [hb], by simp⟩

theorem Grows.refl (mc : ManagedConnection) : Grows mc mc := .of_eq rfl rfl rfl

theorem Grows.trans (h : Grows mc m) (h' : Grows m m') : Grows mc m' := by
  obtain ⟨new, hb, hn⟩ := h.bus
  obtain ⟨new', hb', hn'⟩ := h'.bus
  refine ⟨h'.url.trans h.url, h'.socket.trans h.socket, new ++ new', by simp [hb', hb], fun x hx => ?_⟩
  rcases List.mem_append.1 hx with hx | hx
  · exact hn x hx
  · exact hn' x hx

theorem sinceConnecting_append {bus new : List Effect} (hn : ∀ x ∈ new, x.isConnecting = false) :
    sinceConnecting (bus ++ new) = new.reverse ++ sinceConnecting bus := by
  unfold sinceConnecting
  rw [List.reverse_append, List.takeWhile_append_of_pos]
  intro x hx
  rw [hn x (List.mem_reverse.1 hx)]
  rfl

/-- What was handed stays handed. -/
theorem Handed.grow (h : mc.Handed key) (hg : Grows mc m) : m.Handed key := by
  obtain ⟨socket, params, reqId, hs, hmem⟩ := h
  obtain ⟨new, hb, hn⟩ := hg.bus
  refine ⟨socket, params, reqId, hg.socket.trans hs, ?_⟩
  rw [hb, sinceConnecting_append hn]
  exact List.mem_append_right _ hmem

theorem grows_enterOpen : Grows mc (mc.enterOpen env) := by
  have hevent : ∀ rid, (mc.openOrReopened env mc.hasBeenOpen mc.attemptCount rid).isConnecting = false := by
    intro rid
    unfold openOrReopened
    cases mc.hasBeenOpen <;> rfl
  refine ⟨rfl, rfl, _, rfl, fun x hx => ?_⟩
  rcases List.mem_cons.1 hx with rfl | hx
  · exact hevent _
  · obtain ⟨rid, -, rfl⟩ := List.mem_map.1 hx
    exact hevent _

end grows

/-! ## Keeping what is owed -/

section covered

variable {L L' : EntryKey → Prop} {mapped : Option SocketId} {mc m : ManagedConnection} {env : Env} {key : EntryKey}

/-- Fewer keys are owed less. -/
theorem Covered.mono (h : Covered L mapped mc) (hl : ∀ key, L' key → L key) : Covered L' mapped mc where
  url := h.url
  handshake := h.handshake
  attached := h.attached
  opened hs key hk := h.opened hs key (hl key hk)
  resubscribing hs key hk := h.resubscribing hs key (hl key hk)

theorem not_active_of_away {state : ConnectionState} (h : Away state) : ¬ Active state := by
  cases state <;> simp_all [Away, Active]

/-- A connection that has no subscriptions owes none. -/
theorem Covered.leaves (hu : m.url = .publicUrl) (hs : Away m.state) : Covered L mapped m := by
  have hn := not_active_of_away hs
  refine ⟨hu, ?_, fun ha => absurd ha hn, ?_, ?_⟩
  · rintro hauth
    rw [hauth] at hs
    exact hs
  · rintro hopen
    exact absurd (by rw [hopen]; trivial) hn
  · rintro hres
    exact absurd (by rw [hres]; trivial) hn

/-- The state stays and no timer is lost. -/
theorem Covered.same (h : Covered L mapped mc) (hs : m.state = mc.state) (hg : Grows mc m)
    (ha : ∀ key, mc.Armed key → m.Armed key) : Covered L mapped m where
  url := hg.url.trans h.url
  handshake := hs ▸ h.handshake
  attached hactive := by
    obtain ⟨socket, hmap, hsock⟩ := h.attached (hs ▸ hactive)
    exact ⟨socket, hmap, hg.socket.trans hsock⟩
  opened hopen key hk := (h.opened (hs ▸ hopen) key hk).grow hg
  resubscribing hres key hk := (h.resubscribing (hs ▸ hres) key hk).imp (·.grow hg) (ha key)

/-- Every key is handed: any state the connection goes on to will do. -/
theorem Covered.allHanded (hu : m.url = .publicUrl) (hs : m.state = .opened ∨ m.state = .resubscribing)
    (hattached : ∃ socket, mapped = some socket ∧ m.socket = some socket) (hall : ∀ key, L key → m.Handed key) :
    Covered L mapped m where
  url := hu
  handshake hauth := by rcases hs with hs | hs <;> simp [hs] at hauth
  attached _ := hattached
  opened _ := hall
  resubscribing _ key hk := .inl (hall key hk)

/-- Where nothing is owed it does not matter to whom. -/
theorem Covered.relabel (h : Covered L mapped mc) (hn : ¬ Active mc.state) : Covered L' mapped mc where
  url := h.url
  handshake := h.handshake
  attached := h.attached
  opened hs := absurd (by rw [hs]; trivial) hn
  resubscribing hs := absurd (by rw [hs]; trivial) hn

theorem covered_new (knobs : Knobs) : Covered L mapped (new .publicUrl knobs) := .leaves rfl trivial

theorem away_of_down (h : m.Down) : Away m.state := by
  rcases h.state with hs | hs | hs <;> simp [hs, Away]

theorem ne_opened_of_down (h : m.Down) : m.state ≠ .opened := by
  rcases h.state with hs | hs | hs <;> simp [hs]

theorem armed_of_lookup (h : m.timers.perEntrySubscribeAckTimeouts = mc.timers.perEntrySubscribeAckTimeouts)
    (h' : m.timers.perEntrySubscribeResendDue = mc.timers.perEntrySubscribeResendDue) (key : EntryKey) (ha : mc.Armed key) :
    m.Armed key := by
  unfold Armed at ha ⊢
  rwa [h, h']

theorem not_armed_of_empty (hack : mc.pendingSubscribeAckCount = 0)
    (hresend : HashMap.isEmpty mc.timers.perEntrySubscribeResendDue = true) (key : EntryKey) : ¬ mc.Armed key := by
  rintro (ha | ha)
  · have hempty : HashMap.isEmpty mc.timers.perEntrySubscribeAckTimeouts = true := by
      rw [HashMap.isEmpty, List.isEmpty_iff]
      exact List.eq_nil_of_length_eq_zero hack
    rw [(HashMap.isEmpty_iff_lookup _).1 hempty key] at ha
    cases ha
  · rw [(HashMap.isEmpty_iff_lookup _).1 hresend key] at ha
    cases ha

/-- No timer is armed: everything is handed, and the connection may open. -/
theorem covered_completeResubscribeIfEmpty (h : Covered L mapped mc) :
    Covered L mapped (mc.completeResubscribeIfEmpty env) := by
  unfold completeResubscribeIfEmpty
  split_ifs with hc
  · obtain ⟨hs, hack, hresend⟩ := hc
    refine .allHanded (grows_enterOpen.url.trans h.url) (.inl rfl) ?_ fun key hk => ?_
    · exact h.attached (by rw [hs]; trivial)
    · exact ((h.resubscribing hs key hk).resolve_right (not_armed_of_empty hack hresend key)).grow grows_enterOpen
  · exact h

theorem leaves_attemptFailedOrEscalate (hu : m.url = .publicUrl) (hs : m.socket = none) {cls : TransientClass}
    {krakenError : Option String} {httpStatus closeCode : Option Nat} :
    Covered L mapped (m.attemptFailedOrEscalate env cls krakenError httpStatus closeCode) := by
  refine .leaves ?_ (away_of_down (down_attemptFailedOrEscalate hs _ _ _ _))
  unfold attemptFailedOrEscalate
  split_ifs <;> exact hu

theorem leaves_droppedOrEscalate (hu : m.url = .publicUrl) (hs : m.socket = none) {closeCode : Option Nat}
    {reason : Option String} : Covered L mapped (m.droppedOrEscalate env closeCode reason) := by
  refine .leaves ?_ (away_of_down (down_droppedOrEscalate hs _ _))
  unfold droppedOrEscalate
  split_ifs <;> exact hu

theorem leaves_closedDuringHandshake (hu : m.url = .publicUrl) (hs : m.socket = none) {code : Nat}
    {reason : Option String} {phase : String} : Covered L mapped (m.closedDuringHandshake env code reason phase) := by
  unfold closedDuringHandshake
  split_ifs
  · exact .leaves hu trivial
  · exact leaves_attemptFailedOrEscalate hu hs

/-- The keys of `L` but one. -/
def Without (L : EntryKey → Prop) (key : EntryKey) : EntryKey → Prop := fun k => L k ∧ k ≠ key

/-- A transient failure of a key arms its resend, or ends the connection. Nothing is asked about its timers;
in `Open` it must have been handed. -/
theorem covered_subscribeFailure (h : Covered (Without L key) mapped mc)
    (hopen : mc.state = .opened → L key → mc.Handed key) (lastError : Option String) :
    Covered L mapped (mc.handleSubscribeFailure env key true lastError) := by
  show Covered L mapped ((mc.cancelEntryTimers key).retrySubscribe env key)
  unfold retrySubscribe
  dsimp only
  split_ifs
  · refine ⟨h.url, h.handshake, h.attached, fun hs k hk => ?_, fun hs k hk => ?_⟩
    · by_cases hkey : k = key
      · subst hkey
        exact (hopen hs hk).grow (.of_eq rfl rfl rfl)
      · exact (h.opened hs k ⟨hk, hkey⟩).grow (.of_eq rfl rfl rfl)
    · by_cases hkey : k = key
      · subst hkey
        exact .inr (.inr (by simp [cancelEntryTimers]))
      · refine (h.resubscribing hs k ⟨hk, hkey⟩).imp (·.grow (.of_eq rfl rfl rfl)) fun ha => ?_
        simpa [Armed, cancelEntryTimers, forgetSubscribeReqIdForKey, AList.lookup_erase_ne hkey,
          AList.lookup_insert_ne hkey] using ha
  · exact leaves_droppedOrEscalate (by exact h.url) (by rfl)
  · exact .leaves h.url trivial

/-- It opens nothing. -/
theorem opened_subscribeFailure (lastError : Option String)
    (hs : (mc.handleSubscribeFailure env key true lastError).state = .opened) :
    mc.state = .opened ∧ Grows mc (mc.handleSubscribeFailure env key true lastError) := by
  revert hs
  show ((mc.cancelEntryTimers key).retrySubscribe env key).state = .opened →
    mc.state = .opened ∧ Grows mc ((mc.cancelEntryTimers key).retrySubscribe env key)
  unfold retrySubscribe
  dsimp only
  split_ifs
  · exact fun hs => ⟨hs, .of_eq rfl rfl rfl⟩
  · exact fun hs => absurd hs (ne_opened_of_down (down_droppedOrEscalate rfl _ _))
  · nofun

/-! ### The FSM -/

/-- A non-transient failure ends the entry: it is owed nothing more. -/
theorem covered_terminate (h : Covered (Without L key) mapped mc) (hk : ¬ L key) (lastError : Option String) :
    Covered L mapped (mc.handleSubscribeFailure env key false lastError) := by
  have hterm : Covered L mapped ({ mc.cancelEntryTimers key with
      subscribeAckAttempts := mc.subscribeAckAttempts.erase key
      bus := mc.bus ++ [Effect.publish {
        eventVersion := 2, timestampMonotonic := env.now, requestId := none
        payload := .subscriptionTerminatedEvent key.1 key.2 .nonTransientWireRejection lastError env.now }] }) := by
    have hg : Grows mc { mc.cancelEntryTimers key with
        subscribeAckAttempts := mc.subscribeAckAttempts.erase key
        bus := mc.bus ++ [Effect.publish {
          eventVersion := 2, timestampMonotonic := env.now, requestId := none
          payload := .subscriptionTerminatedEvent key.1 key.2 .nonTransientWireRejection lastError env.now }] } :=
      ⟨rfl, rfl, _, rfl, by simp [Effect.isConnecting]⟩
    refine ⟨h.url, h.handshake, h.attached, fun hs k hl => ?_, fun hs k hl => ?_⟩
    · exact (h.opened hs k ⟨hl, fun hkey => hk (hkey ▸ hl)⟩).grow hg
    · have hkey : k ≠ key := fun hkey => hk (hkey ▸ hl)
      refine (h.resubscribing hs k ⟨hl, hkey⟩).imp (·.grow hg) fun ha => ?_
      simpa [Armed, cancelEntryTimers, forgetSubscribeReqIdForKey, AList.lookup_erase_ne hkey] using ha
  exact covered_completeResubscribeIfEmpty hterm

/-- The events that settle a key, or begin the subscriptions. -/
def Decides : FsmEvent → Prop
  | .wireUpgradeOk _ | .wireSubscribeAck _ _ _ | .wireSubscribeFailed _ _ _ | .timerSubscribeAckTimeout _ _ => True
  | _ => False

variable {e : FsmEvent}

theorem covered_handleIdle (hu : mc.url = .publicUrl) (hs : mc.state = .idle) :
    Covered L mapped (mc.handleIdle env e) := by
  cases e <;> simp only [handleIdle]
  case callStartConnect | callForceReconnect =>
    split
    · exact .leaves hu trivial
    · exact .leaves hu trivial
  case callClose => exact .leaves hu trivial
  all_goals exact .leaves hu (by simp [hs, Away])

theorem covered_handleConnecting (hu : mc.url = .publicUrl) (hs : mc.state = .connecting) (hp : ¬ Decides e) :
    Covered L mapped (mc.handleConnecting env e) := by
  have haway : Away mc.state := by simp [hs, Away]
  cases e <;> simp only [handleConnecting]
  case wireUpgradeOk => exact absurd trivial hp
  case wireUpgradeFailed | wireConnectError =>
    split_ifs
    · refine .leaves ?_ (away_of_down (down_connectFailedOrEscalate _ _))
      unfold connectFailedOrEscalate
      split_ifs <;> exact hu
    · exact .leaves hu trivial
  case timerUpgradeTimeout => exact leaves_attemptFailedOrEscalate (by exact hu) (by rfl)
  case callClose => exact .leaves hu trivial
  case callForceReconnect => split_ifs <;> exact .leaves hu haway
  all_goals exact .leaves hu haway

theorem covered_handleResubscribing (h : Covered L mapped mc) (hp : ¬ Decides e) :
    Covered L mapped (mc.handleResubscribing env e) := by
  cases e
  case wireSubscribeAck => exact absurd trivial hp
  all_goals simp only [handleResubscribing]
  case timerSubscribeAckTimeout | wireSubscribeFailed => exact absurd trivial hp
  case wireCloseReceived => exact leaves_closedDuringHandshake (by exact h.url) (by rfl)
  case wireAbnormalClose | timerStalenessElapsed => exact leaves_attemptFailedOrEscalate (by exact h.url) (by rfl)
  case callClose | callForceReconnect => exact .leaves h.url trivial
  case busTokenRefreshed | busTokenRefreshFailed => exact h.same rfl (.of_eq rfl rfl rfl) fun _ ha => ha
  all_goals exact h

theorem covered_handleOpen (h : Covered L mapped mc) (hp : ¬ Decides e) : Covered L mapped (mc.handleOpen env e) := by
  cases e <;> simp only [handleOpen]
  case timerSubscribeAckTimeout | wireSubscribeFailed | wireSubscribeAck => exact absurd trivial hp
  case wireCloseReceived =>
    split_ifs
    · exact .leaves h.url trivial
    · exact leaves_droppedOrEscalate (by exact h.url) (by rfl)
  case wireAbnormalClose | timerStalenessElapsed => exact leaves_droppedOrEscalate (by exact h.url) (by rfl)
  case callClose | callForceReconnect => exact .leaves h.url trivial
  case busTokenRefreshed | busTokenRefreshFailed | wireOrderAckTokenStale =>
    exact h.same rfl (.of_eq rfl rfl rfl) fun _ ha => ha
  all_goals exact h

theorem covered_handleBackingOff (hu : mc.url = .publicUrl) (hs : mc.state = .backingOff) :
    Covered L mapped (mc.handleBackingOff env e) := by
  have haway : Away mc.state := by simp [hs, Away]
  cases e <;> simp only [handleBackingOff]
  case timerBackoffElapsed | timerRateBudgetWindowAdvanced =>
    split
    · exact .leaves hu haway
    · exact .leaves hu trivial
  case callForceReconnect =>
    cases env.tryConsume <;> cases hl : mc.pendingConnectRequestId <;> simp only [latchConnect, hl]
    · exact .leaves hu haway
    · exact .leaves hu haway
    · exact .leaves hu trivial
    · exact .leaves hu trivial
  case callClose => exact .leaves hu trivial
  all_goals exact .leaves hu haway

theorem covered_reenterConnecting (hu : m.url = .publicUrl) (rid : Nat) :
    Covered L mapped (m.reenterConnecting env rid) := by
  unfold reenterConnecting
  split
  · exact .leaves hu trivial
  · exact .leaves hu trivial

theorem covered_enterClosedOrReconnect (hu : mc.url = .publicUrl) (reason : ClosedReason) (ack : AckSource) :
    Covered L mapped (mc.enterClosedOrReconnect env reason ack) := by
  unfold enterClosedOrReconnect
  cases mc.pendingReconnectRequestId with
  | none => exact .leaves hu trivial
  | some rid => exact covered_reenterConnecting (by exact hu) rid

theorem covered_handleClosing (hu : mc.url = .publicUrl) (hs : mc.state = .closing) :
    Covered L mapped (mc.handleClosing env e) := by
  have haway : Away mc.state := by simp [hs, Away]
  cases e <;> simp only [handleClosing]
  case wireCloseReceived | wireAbnormalClose | timerCloseTimeout => exact covered_enterClosedOrReconnect hu _ _
  case callClose | callForceReconnect => split <;> exact .leaves hu haway
  all_goals exact .leaves hu haway

theorem covered_handleFailed (hu : mc.url = .publicUrl) (hs : mc.state = .failed) :
    Covered L mapped (mc.handleFailed env e) := by
  have haway : Away mc.state := by simp [hs, Away]
  cases e <;> simp only [handleFailed]
  case callForceReconnect => split <;> exact .leaves hu trivial
  case callClose => exact .leaves hu trivial
  all_goals exact .leaves hu haway

/-- **One call of `handle_event`**, of an event that settles nothing. -/
theorem covered_handleEvent (h : Covered L mapped mc) (hp : ¬ Decides e) : Covered L mapped (mc.handleEvent env e) := by
  unfold handleEvent
  split
  · exact covered_handleIdle h.url ‹_›
  · exact covered_handleConnecting h.url ‹_› hp
  · exact absurd ‹_› h.handshake
  · exact covered_handleResubscribing h hp
  · exact covered_handleOpen h hp
  · exact covered_handleBackingOff h.url ‹_›
  · exact covered_handleClosing h.url ‹_›
  · exact h
  · exact covered_handleFailed h.url ‹_›

/-- Outside the two states that know it, an ack, a reject or an ack timeout does nothing. -/
theorem handleEvent_deciding (h : Covered L mapped mc) (hn : ¬ Active mc.state)
    (he : ∀ c, e ≠ .wireUpgradeOk c) (hp : Decides e) : mc.handleEvent env e = mc := by
  have hauth := h.handshake
  unfold handleEvent
  split
  case h_3 hs => exact absurd hs hauth
  case h_4 hs => exact absurd (by rw [hs]; trivial) hn
  case h_5 hs => exact absurd (by rw [hs]; trivial) hn
  all_goals cases e <;> first | rfl | exact absurd rfl (he _) | exact hp.elim

/-- An ack settles its key: it was handed, and where it is the last one so were all. -/
theorem covered_wireSubscribeAck (h : Covered L mapped mc) (last : Bool) (hk : mc.state = .resubscribing → L key → mc.Handed key)
    (hl : mc.state = .resubscribing → last = true → ∀ key, L key → mc.Handed key) :
    Covered L mapped (mc.handleEvent env (.wireSubscribeAck key.1 key.2 last)) := by
  have hdisarm : ∀ k, k ≠ key → mc.Armed k → (mc.disarmSubscribeAck key).Armed k := by
    intro k hkey ha
    simpa [Armed, disarmSubscribeAck, forgetSubscribeReqIdForKey, AList.lookup_erase_ne hkey] using ha
  have hg : Grows mc (mc.disarmSubscribeAck key) := .of_eq rfl rfl rfl
  by_cases hactive : Active mc.state
  · have hattached := h.attached hactive
    cases hs : mc.state <;> rw [hs] at hactive <;> first | exact hactive.elim | skip
    case resubscribing =>
      simp only [handleEvent, hs]
      cases last with
      | true =>
        refine .allHanded h.url (.inl rfl) hattached fun k hl' => ?_
        exact (hl hs rfl k hl').grow (hg.trans grows_enterOpen)
      | false =>
        refine ⟨h.url, h.handshake, fun _ => hattached, fun ho => ?_, fun _ k hl' => ?_⟩
        · exact absurd (hs.symm.trans ho) (by simp)
        · by_cases hkey : k = key
          · subst hkey
            exact .inl ((hk hs hl').grow hg)
          · exact (h.resubscribing hs k hl').imp (·.grow hg) (hdisarm k hkey)
    case opened =>
      simp only [handleEvent, hs]
      exact .allHanded h.url (.inl hs) hattached fun k hl' => (h.opened hs k hl').grow hg
  · have hsame : mc.handleEvent env (.wireSubscribeAck key.1 key.2 last) = mc :=
      handleEvent_deciding h hactive (by rintro _ ⟨⟩) trivial
    rw [hsame]
    exact h

/-- A transient reject, or an ack timeout. -/
theorem covered_transientFailure (h : Covered (Without L key) mapped mc) (hopen : mc.state = .opened → L key → mc.Handed key)
    (he : e = .timerSubscribeAckTimeout key.1 key.2 ∨
      ∃ error, e = .wireSubscribeFailed key.1 key.2 error ∧ error.transient = true) :
    Covered L mapped (mc.handleEvent env e) := by
  have hp : Decides e := by rcases he with rfl | ⟨error, rfl, -⟩ <;> trivial
  by_cases hactive : Active mc.state
  · cases hs : mc.state <;> rw [hs] at hactive <;> first | exact hactive.elim | skip
    all_goals
      rcases he with rfl | ⟨error, rfl, htransient⟩
      · simp only [handleEvent, hs, handleResubscribing, handleOpen]
        exact covered_subscribeFailure h hopen _
      · simp only [handleEvent, hs, handleResubscribing, handleOpen, htransient]
        exact covered_subscribeFailure h hopen _
  · rw [handleEvent_deciding h hactive (by rcases he with rfl | ⟨error, rfl, -⟩ <;> rintro _ ⟨⟩) hp]
    exact h.relabel hactive

/-- A non-transient reject, of an entry that is already terminated. -/
theorem covered_permanentFailure (h : Covered L mapped mc) (hk : ¬ L key) {error : SubscribeRejected}
    (htransient : error.transient = false) :
    Covered L mapped (mc.handleEvent env (.wireSubscribeFailed key.1 key.2 error)) := by
  have hless : Covered (Without L key) mapped mc := h.mono fun _ hl => hl.1
  by_cases hactive : Active mc.state
  · cases hs : mc.state <;> rw [hs] at hactive <;> first | exact hactive.elim | skip
    all_goals
      simp only [handleEvent, hs, handleResubscribing, handleOpen, htransient]
      exact covered_terminate hless hk _
  · have hsame : mc.handleEvent env (.wireSubscribeFailed key.1 key.2 error) = mc :=
      handleEvent_deciding h hactive (by rintro _ ⟨⟩) trivial
    rw [hsame]
    exact h

/-- A success: the connection has no subscriptions yet, so every key must be handed or armed. -/
theorem covered_wireUpgradeOk (h : Covered L mapped mc) (connectionId : Option Nat)
    (hmap : mc.state = .connecting → ∃ socket, mapped = some socket ∧ mc.socket = some socket)
    (hk : mc.state = .connecting → ∀ key, L key → mc.Handed key ∨ mc.Armed key) :
    Covered L mapped (mc.handleEvent env (.wireUpgradeOk connectionId)) := by
  by_cases hs : mc.state = .connecting
  · have hstate : (mc.handleEvent env (.wireUpgradeOk connectionId)).state = .resubscribing := by
      simp [handleEvent, hs, handleConnecting, h.url, armStaleness]
    have hkeeps : Grows mc (mc.handleEvent env (.wireUpgradeOk connectionId)) ∧
        ∀ key, mc.Armed key → (mc.handleEvent env (.wireUpgradeOk connectionId)).Armed key := by
      simp only [handleEvent, hs, handleConnecting]
      exact ⟨.of_eq rfl rfl rfl, fun _ ha => ha⟩
    obtain ⟨hg, harm⟩ := hkeeps
    refine ⟨hg.url.trans h.url, by simp [hstate], fun _ => ?_, fun ho => ?_, fun _ key hl => ?_⟩
    · rw [hg.socket]
      exact hmap hs
    · exact absurd (hstate.symm.trans ho) (by simp)
    · exact (hk hs key hl).imp (·.grow hg) (harm key)
  · have hsame : mc.handleEvent env (.wireUpgradeOk connectionId) = mc := by
      unfold handleEvent
      split
      case h_2 hc => exact absurd hc hs
      all_goals rfl
    rw [hsame]
    exact h

/-! ### The sends -/

/-- The two events of a lost wire. -/
def WireLost (e : FsmEvent) : Prop :=
  (∃ code reason, e = .wireCloseReceived code reason) ∨ ∃ error, e = .wireAbnormalClose error

/-- They end whatever subscriptions there were. -/
theorem covered_wireLost (hu : mc.url = .publicUrl) (hh : mc.state ≠ .authenticating) (he : WireLost e) :
    Covered L mapped (mc.handleEvent env e) := by
  have hp : ¬ Decides e := by rcases he with ⟨code, reason, rfl⟩ | ⟨error, rfl⟩ <;> exact id
  unfold handleEvent
  split
  · exact covered_handleIdle hu ‹_›
  · exact covered_handleConnecting hu ‹_› hp
  · exact absurd ‹_› hh
  · rcases he with ⟨code, reason, rfl⟩ | ⟨error, rfl⟩
    · exact leaves_closedDuringHandshake (by exact hu) (by rfl)
    · exact leaves_attemptFailedOrEscalate (by exact hu) (by rfl)
  · rcases he with ⟨code, reason, rfl⟩ | ⟨error, rfl⟩
    · simp only [handleOpen]
      split_ifs
      · exact .leaves hu trivial
      · exact leaves_droppedOrEscalate (by exact hu) (by rfl)
    · exact leaves_droppedOrEscalate (by exact hu) (by rfl)
  · exact covered_handleBackingOff hu ‹_›
  · exact covered_handleClosing hu ‹_›
  · rename_i hs
    exact .leaves hu (by simp [hs, Away])
  · exact covered_handleFailed hu ‹_›

/-- What holds under an empty socket map is not active. -/
theorem Covered.not_active (h : Covered L none mc) : ¬ Active mc.state := by
  intro ha
  obtain ⟨socket, hmap, -⟩ := h.attached ha
  cases hmap

/-- A frame on the current socket: taken, its key is handed; refused, it is to be resent, or the
connection is down. -/
theorem covered_sendSubscribeFrame {f : SubscribeFrame} (h : Covered (Without L f.key) mapped mc) {socket : SocketId}
    (hmap : mapped = some socket) (hopen : mc.state = .opened → f.sent = .error .backpressure → L f.key → mc.Handed f.key)
    (reqId : Nat) (context : String) : Covered L mapped (mc.sendSubscribeFrame env socket f reqId context).2 := by
  unfold sendSubscribeFrame
  split
  · have hg : Grows mc (mc.perform [.subscribeSent socket f.key f.params reqId]) :=
      ⟨rfl, rfl, _, rfl, by simp [Effect.isConnecting]⟩
    have hhanded : Active mc.state → (mc.perform [.subscribeSent socket f.key f.params reqId]).Handed f.key := by
      intro ha
      obtain ⟨socket', hmap', hsock⟩ := h.attached ha
      obtain rfl : socket = socket' := Option.some.inj (hmap.symm.trans hmap')
      refine ⟨socket, f.params, reqId, hsock, ?_⟩
      show _ ∈ sinceConnecting (mc.bus ++ [_])
      rw [sinceConnecting_append (by simp [Effect.isConnecting])]
      simp
    refine ⟨h.url, h.handshake, h.attached, fun hs k hk => ?_, fun hs k hk => ?_⟩
    · by_cases hkey : k = f.key
      · subst hkey
        exact hhanded (by rw [show mc.state = .opened from hs]; trivial)
      · exact (h.opened hs k ⟨hk, hkey⟩).grow hg
    · by_cases hkey : k = f.key
      · subst hkey
        exact .inl (hhanded (by rw [show mc.state = .resubscribing from hs]; trivial))
      · exact (h.resubscribing hs k ⟨hk, hkey⟩).imp (·.grow hg) fun ha => ha
  · rename_i hsent
    exact covered_subscribeFailure h (fun hs => hopen hs hsent) none
  · exact covered_wireLost h.url h.handshake (.inr ⟨_, rfl⟩)

theorem not_active_writerDead (hu : mc.url = .publicUrl) (hh : mc.state ≠ .authenticating) {f : SubscribeFrame}
    {socket : SocketId} {reqId : Nat} {context : String}
    (hd : mc.sendSubscribeFrame env socket f reqId context = (.writerDead, m)) : ¬ Active m.state := by
  unfold sendSubscribeFrame at hd
  split at hd <;> cases hd
  exact (covered_wireLost (L := fun _ => False) hu hh (.inr ⟨_, rfl⟩)).not_active

/-- A send opens nothing. -/
theorem opened_sendSubscribeFrame {f : SubscribeFrame} (hu : mc.url = .publicUrl) (hh : mc.state ≠ .authenticating)
    {socket : SocketId} {reqId : Nat} {context : String}
    (hs : (mc.sendSubscribeFrame env socket f reqId context).2.state = .opened) :
    mc.state = .opened ∧ Grows mc (mc.sendSubscribeFrame env socket f reqId context).2 := by
  revert hs
  unfold sendSubscribeFrame
  split
  · exact fun hs => ⟨hs, rfl, rfl, _, rfl, by simp [Effect.isConnecting]⟩
  · exact fun hs => opened_subscribeFailure none hs
  · intro hs
    have hdead : ¬ Active (mc.driveWriterClosedAbnormal env context).state :=
      (covered_wireLost (L := fun _ => False) hu hh (.inr ⟨_, rfl⟩)).not_active
    have hopen : (mc.driveWriterClosedAbnormal env context).state = .opened := hs
    exact absurd (by rw [hopen]; trivial) hdead

theorem covered_takeSubscribeReqId (h : Covered L mapped mc) : Covered L mapped mc.takeSubscribeReqId.2 :=
  h.same rfl (.of_eq rfl rfl rfl) fun _ ha => ha

theorem covered_armSubscribeAckTimer (h : Covered L mapped mc) (key : EntryKey) (reqId : Nat) :
    Covered L mapped (mc.armSubscribeAckTimerWithReqId env key reqId) := by
  refine h.same rfl (.of_eq rfl rfl rfl) fun k ha => ha.imp (fun ha => ?_) id
  by_cases hkey : k = key
  · subst hkey
    simp [armSubscribeAckTimerWithReqId, armSubscribeAck, recordSubscribeReqId]
  · simpa [armSubscribeAckTimerWithReqId, armSubscribeAck, recordSubscribeReqId, AList.lookup_insert_ne hkey] using ha

/-- The tail of the single sends. -/
theorem covered_sendAndArm {f : SubscribeFrame} (h : Covered (Without L f.key) mapped mc) {socket : SocketId}
    (hmap : mapped = some socket) (hopen : mc.state = .opened → f.sent = .error .backpressure → L f.key → mc.Handed f.key)
    (context : String) : Covered L mapped (mc.sendAndArm env socket f context) := by
  have hsend : Covered L mapped
      (mc.takeSubscribeReqId.2.sendSubscribeFrame env socket f mc.takeSubscribeReqId.1 context).2 :=
    covered_sendSubscribeFrame (covered_takeSubscribeReqId h) hmap hopen _ _
  unfold sendAndArm
  dsimp only
  generalize mc.takeSubscribeReqId.2.sendSubscribeFrame env socket f mc.takeSubscribeReqId.1 context = out at hsend ⊢
  obtain ⟨outcome, m⟩ := out
  cases outcome
  case sent => exact covered_armSubscribeAckTimer hsend _ _
  all_goals exact hsend

theorem opened_sendAndArm {f : SubscribeFrame} (hu : mc.url = .publicUrl) (hh : mc.state ≠ .authenticating)
    {socket : SocketId} {context : String} (hs : (mc.sendAndArm env socket f context).state = .opened) :
    mc.state = .opened ∧ Grows mc (mc.sendAndArm env socket f context) := by
  have htake : Grows mc mc.takeSubscribeReqId.2 := .of_eq rfl rfl rfl
  have hsend : (mc.takeSubscribeReqId.2.sendSubscribeFrame env socket f mc.takeSubscribeReqId.1 context).2.state = .opened →
      mc.state = .opened ∧ Grows mc.takeSubscribeReqId.2
        (mc.takeSubscribeReqId.2.sendSubscribeFrame env socket f mc.takeSubscribeReqId.1 context).2 := fun hs =>
    opened_sendSubscribeFrame (by exact hu) (by exact hh) hs
  revert hs
  unfold sendAndArm
  dsimp only
  generalize mc.takeSubscribeReqId.2.sendSubscribeFrame env socket f mc.takeSubscribeReqId.1 context = out at hsend ⊢
  obtain ⟨outcome, m⟩ := out
  cases outcome
  case sent =>
    intro hs
    obtain ⟨ho, hg⟩ := hsend hs
    exact ⟨ho, (htake.trans hg).trans (.of_eq rfl rfl rfl)⟩
  all_goals
    intro hs
    obtain ⟨ho, hg⟩ := hsend hs
    exact ⟨ho, htake.trans hg⟩

/-- Without a socket there is nothing to send on, and nothing owed. -/
theorem covered_sendSingleSubscribe {f : SubscribeFrame} (h : Covered (Without L f.key) mapped mc)
    (hopen : mc.state = .opened → f.sent = .error .backpressure → L f.key → mc.Handed f.key) :
    Covered L mapped (mc.sendSingleSubscribe env mapped f) := by
  unfold sendSingleSubscribe
  split
  · exact h.relabel h.not_active
  · exact covered_sendAndArm h rfl hopen _

theorem opened_sendSingleSubscribe {f : SubscribeFrame} (hu : mc.url = .publicUrl) (hh : mc.state ≠ .authenticating)
    (hs : (mc.sendSingleSubscribe env mapped f).state = .opened) :
    mc.state = .opened ∧ Grows mc (mc.sendSingleSubscribe env mapped f) := by
  revert hs
  unfold sendSingleSubscribe
  split
  · exact fun hs => ⟨hs, .refl mc⟩
  · exact fun hs => opened_sendAndArm hu hh hs

theorem covered_sendBookReseed {f : SubscribeFrame} (h : Covered L mapped mc) :
    Covered L mapped (mc.sendBookReseed env mapped f) := by
  have hsend : Covered L mapped (mc.sendSingleSubscribe env mapped f) :=
    covered_sendSingleSubscribe (h.mono fun _ hl => hl.1) fun hs _ hl => h.opened hs _ hl
  exact hsend.same rfl (.of_eq rfl rfl rfl) fun _ ha => ha

/-- The resend of a key whose timer has fired; `f` is its entry, if there is one. -/
theorem covered_handleSubscribeResend (h : Covered (Without L key) mapped mc) (hopen : mc.state = .opened → L key → mc.Handed key)
    {r : ReactorEnv} (hr : r.socketOf = mapped) {f : Option SubscribeFrame} (hf : ∀ x, f = some x → x.key = key)
    (hk : f = none → ¬ L key) : Covered L mapped (mc.handleSubscribeResend r .publicUrl f) := by
  unfold handleSubscribeResend
  cases f with
  | none =>
    refine h.mono fun k hl => ⟨hl, ?_⟩
    rintro rfl
    exact hk rfl hl
  | some f =>
    obtain rfl := hf f rfl
    dsimp only
    rw [if_neg (by simp), hr]
    cases mapped with
    | none => exact h.relabel h.not_active
    | some socket => exact covered_sendAndArm h rfl (fun hs _ => hopen hs) _

/-- The key's timers are given up: it is handed, or owed nothing. -/
theorem covered_disarmSubscribeAck (h : Covered L mapped mc) (hk : mc.state = .resubscribing → L key → mc.Handed key) :
    Covered L mapped (mc.disarmSubscribeAck key) := by
  have hg : Grows mc (mc.disarmSubscribeAck key) := .of_eq rfl rfl rfl
  refine ⟨h.url, h.handshake, h.attached, fun hs k hl => (h.opened hs k hl).grow hg, fun hs k hl => ?_⟩
  by_cases hkey : k = key
  · subst hkey
    exact .inl ((hk hs hl).grow hg)
  · refine (h.resubscribing hs k hl).imp (·.grow hg) fun ha => ?_
    simpa [Armed, disarmSubscribeAck, forgetSubscribeReqIdForKey, AList.lookup_erase_ne hkey] using ha

/-- The timer an event is the firing of goes; only an ack's and a resend's is anybody's. -/
theorem covered_popTimerForEvent (h : Covered L mapped mc) :
    Covered (fun key => L key ∧ e ≠ .timerSubscribeAckTimeout key.1 key.2 ∧ e ≠ .timerSubscribeResendDue key.1 key.2) mapped
      (mc.popTimerForEvent e) := by
  have hless : Covered (fun key => L key ∧ e ≠ .timerSubscribeAckTimeout key.1 key.2 ∧
      e ≠ .timerSubscribeResendDue key.1 key.2) mapped mc := h.mono fun _ hl => hl.1
  cases e
  case timerSubscribeAckTimeout channel pair | timerSubscribeResendDue channel pair =>
    refine ⟨h.url, h.handshake, h.attached, fun hs k hl => (h.opened hs k hl.1).grow (.of_eq rfl rfl rfl), fun hs k hl => ?_⟩
    have hkey : k ≠ (channel, pair) := by
      rintro rfl
      simp at hl
    refine (h.resubscribing hs k hl.1).imp (·.grow (.of_eq rfl rfl rfl)) fun ha => ?_
    simpa [Armed, popTimerForEvent, AList.lookup_erase_ne hkey] using ha
  all_goals exact hless.same rfl (.of_eq rfl rfl rfl) fun _ ha => ha

/-- The replay loop: what is left of it is what is not yet handed. -/
theorem covered_replayFrames (fs : List (SubscribeFrame × Bool)) {socket : SocketId} (hmap : mapped = some socket)
    (h : Covered (fun key => L key ∧ ∀ p ∈ fs, key ≠ p.1.key) mapped mc) (hs : mc.state ≠ .opened) :
    Covered L mapped (mc.replayFrames env socket fs) := by
  induction fs generalizing mc with
  | nil => exact h.mono fun _ hl => ⟨hl, fun _ hp => absurd hp List.not_mem_nil⟩
  | cons row fs ih =>
    obtain ⟨f, resyncing⟩ := row
    have hless : Covered (Without (fun key => L key ∧ ∀ p ∈ fs, key ≠ p.1.key) f.key) mapped mc.takeSubscribeReqId.2 := by
      refine (covered_takeSubscribeReqId h).mono ?_
      rintro key ⟨⟨hl, hfs⟩, hkey⟩
      refine ⟨hl, fun p hp => ?_⟩
      rcases List.mem_cons.1 hp with rfl | hp
      · exact hkey
      · exact hfs p hp
    have hno : mc.takeSubscribeReqId.2.state ≠ .opened := hs
    simp only [replayFrames]
    generalize hout : mc.takeSubscribeReqId.2.sendSubscribeFrame env socket f mc.takeSubscribeReqId.1
      "outbound writer task terminated (resubscribe replay)" = out
    have hsend : Covered (fun key => L key ∧ ∀ p ∈ fs, key ≠ p.1.key) mapped out.2 := by
      rw [← hout]
      exact covered_sendSubscribeFrame hless hmap (fun ho => absurd ho hno) _ _
    have hm : out.2.state ≠ .opened := by
      rw [← hout]
      exact fun ho => hno (opened_sendSubscribeFrame (by exact h.url) (by exact h.handshake) ho).1
    obtain ⟨outcome, m⟩ := out
    cases outcome
    case sent =>
      have harm : Covered (fun key => L key ∧ ∀ p ∈ fs, key ≠ p.1.key) mapped
          (m.armSubscribeAckTimerWithReqId env f.key mc.takeSubscribeReqId.1) := covered_armSubscribeAckTimer hsend _ _
      refine ih ?_ ?_
      · split
        · exact harm.same rfl (.of_eq rfl rfl rfl) fun _ ha => ha
        · exact harm
      · split <;> exact hm
    case backpressured =>
      dsimp only
      split_ifs with hres
      · exact ih hsend hm
      · refine hsend.relabel fun ha => ?_
        -- Neither of the two active states is left.
        cases hst : m.state <;> rw [hst] at ha <;> first | exact ha | exact hm hst | exact hres hst
    case writerDead =>
      have hdead : ¬ Active m.state := not_active_writerDead (by exact h.url) (by exact h.handshake) hout
      exact hsend.relabel hdead

end covered

end ManagedConnection

end KrakenSdk.Conn
