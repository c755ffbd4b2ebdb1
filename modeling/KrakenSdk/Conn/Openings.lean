import KrakenSdk.Conn.Handshake
import KrakenSdk.Conn.Pursuit
/-!
# What takes a connection to `Open` (managed_connection, io_reactor)

`enter_open` has three callers: an ack that is the last one, the short-circuit of `Resubscribing`, and the answer to a
bare order. `Shut` holds of what cannot open a connection, `Opens` of what opens it with no subscribe timer armed.
Only the ack may fail it: its `last` counts the ack timers and not the resend timers.
-/
namespace KrakenSdk.Conn.ManagedConnection

/-- It does not open the connection. -/
def Shut (mc m : ManagedConnection) : Prop := m.state = .opened → mc.state = .opened

/-- If it opens the connection, no subscribe timer is armed then. -/
def Opens (mc m : ManagedConnection) : Prop := m.state = .opened → mc.state ≠ .opened → ∀ key, ¬ m.Armed key

variable {mc m m' : ManagedConnection} {env : Env} {e : FsmEvent} {key : EntryKey}

theorem Shut.refl (mc : ManagedConnection) : Shut mc mc := id

theorem Shut.trans (h : Shut mc m) (h' : Shut m m') : Shut mc m' := fun hs => h (h' hs)

theorem shut_kept (h : m.state = mc.state) : Shut mc m := fun hs => h ▸ hs

theorem Shut.left (h : m.state ≠ .opened) : Shut mc m := fun hs => absurd hs h

theorem shut_of_inactive (h : ¬ Active m.state) : Shut mc m := .left fun hs => h (by rw [hs]; trivial)

theorem Shut.opens (h : Shut mc m) : Opens mc m := fun hs hn => absurd (h hs) hn

theorem Opens.refl (mc : ManagedConnection) : Opens mc mc := (Shut.refl mc).opens

/-- What opens nothing may come first. -/
theorem Opens.after (h : Shut mc m) (h' : Opens m m') : Opens mc m' := fun hs hn => h' hs fun ho => hn (h ho)

/-- Bookkeeping may come after. -/
theorem Opens.kept (h : Opens mc m) (hs : m'.state = m.state) (ha : ∀ key, m'.Armed key → m.Armed key) : Opens mc m' :=
  fun ho hn key hk => h (hs ▸ ho) hn key (ha key hk)

/-! ## Events -/

theorem shut_transientFailure (lastError : Option String) : Shut mc (mc.handleSubscribeFailure env key true lastError) := by
  show Shut mc ((mc.cancelEntryTimers key).retrySubscribe env key)
  unfold retrySubscribe
  dsimp only
  split_ifs
  · exact shut_kept rfl
  · exact .left (ne_opened_of_down (down_droppedOrEscalate rfl _ _))
  · exact .left (ne_opened_of_down (down_attemptFailed rfl _ _ _ _))

theorem shut_handleResubscribing (hp : ¬ Answers e) : Shut mc (mc.handleResubscribing env e) := by
  cases e
  case wireSubscribeAck => exact absurd trivial hp
  all_goals simp only [handleResubscribing]
  case wireSubscribeFailed => exact absurd trivial hp
  case timerSubscribeAckTimeout => exact shut_transientFailure _
  case wireCloseReceived => exact .left (ne_opened_of_down (down_closedDuringHandshake rfl _ _ _))
  case wireAbnormalClose | timerStalenessElapsed =>
    exact .left (ne_opened_of_down (down_attemptFailedOrEscalate rfl _ _ _ _))
  case callClose | callForceReconnect => exact .left (by rintro ⟨⟩)
  all_goals exact shut_kept rfl

/-- **An event that answers nothing** opens no connection. -/
theorem shut_event (hp : ¬ Answers e) : Shut mc (mc.handleEvent env e) := by
  have hstays : Stays mc (mc.handleEvent env e) := by
    refine stays_handleEvent ?_
    rintro connectionId rfl
    exact hp trivial
  cases hs : mc.state
  case opened => exact fun _ => hs
  case resubscribing =>
    simp only [handleEvent, hs]
    exact shut_handleResubscribing hp
  case authenticating =>
    rw [handleEvent_authenticating hs]
    exact shut_of_inactive (not_active_handleAuthenticating hs hp)
  -- Elsewhere no socket is up, and none comes up.
  all_goals
    refine .left fun ho => ?_
    have hold := (hstays.session (by rw [ho]; trivial)).1
    simp [hs, Upgraded] at hold

theorem shut_wireUpgradeOk (connectionId : Option Nat) : Shut mc (mc.handleEvent env (.wireUpgradeOk connectionId)) := by
  by_cases hs : mc.state = .connecting
  · refine .left ?_
    simp only [handleEvent, hs, handleConnecting, armStaleness]
    cases mc.url <;> simp
  · rw [handleEvent_wireUpgradeOk_of_ne hs]
    exact .refl mc

theorem shut_wireAuthHandshakeOk : Shut mc (mc.handleEvent env .wireAuthHandshakeOk) := by
  cases hs : mc.state <;> simp only [handleEvent, hs]
  case authenticating => exact .left (by rintro ⟨⟩)
  case opened => exact fun _ => hs
  all_goals exact .refl mc

/-- The short-circuit asks for both kinds of timer. -/
theorem opens_complete : Opens mc (mc.completeResubscribeIfEmpty env) := by
  intro ho hn key
  unfold completeResubscribeIfEmpty at ho ⊢
  split_ifs at ho ⊢ with hempty
  · exact @not_armed_of_empty mc hempty.2.1 hempty.2.2 key
  · exact absurd ho hn

/-- A subscribe that fails for good ends in the short-circuit. -/
theorem opens_failure (transient : Bool) (lastError : Option String) :
    Opens mc (mc.handleSubscribeFailure env key transient lastError) := by
  cases transient with
  | true => exact (shut_transientFailure lastError).opens
  | false => exact .after (shut_kept rfl) opens_complete

theorem opens_wireSubscribeFailed (error : SubscribeRejected) :
    Opens mc (mc.handleEvent env (.wireSubscribeFailed key.1 key.2 error)) := by
  cases hs : mc.state <;> simp only [handleEvent, hs]
  case resubscribing => exact opens_failure _ _
  case opened => exact fun _ hn => absurd hs hn
  all_goals exact .refl mc

/-- The bare order of a handshake leaves nothing to wait for. -/
theorem opens_wireOrderAuthOk (hs : mc.state = .authenticating) : Opens mc (mc.handleEvent env .wireOrderAuthOk) := by
  intro _ _ key
  rw [handleEvent_authenticating hs]
  simp [handleAuthenticating, clearSubscribeAckState, enterOpen, armStaleness, Armed]

/-! ## The ack -/

/-- The resends of the other keys have all gone out. -/
def ResendsOut (mc : ManagedConnection) (key : EntryKey) : Prop :=
  ∀ key', key' ≠ key → mc.timers.perEntrySubscribeResendDue.lookup key' = none

theorem pending_disarm (ha : mc.isSubscribeAckArmed key = true) :
    (mc.disarmSubscribeAck key).pendingSubscribeAckCount + 1 = mc.pendingSubscribeAckCount :=
  HashMap.len_erase_of_mem (AList.lookup_isSome.1 ha)

theorem resends_disarm : HashMap.isEmpty (mc.disarmSubscribeAck key).timers.perEntrySubscribeResendDue = true ↔
    mc.ResendsOut key := by
  have hlook : ∀ key', (mc.disarmSubscribeAck key).timers.perEntrySubscribeResendDue.lookup key' =
      if key' = key then none else mc.timers.perEntrySubscribeResendDue.lookup key' :=
    fun key' => HashMap.lookup_erase_ite _ _ _
  rw [HashMap.isEmpty_iff_lookup]
  constructor
  · intro h key' hne
    rw [← h key', hlook, if_neg hne]
  · intro h key'
    rw [hlook]
    split_ifs with heq
    · rfl
    · exact h key' heq

/-- **The short-circuit**, once the key is disarmed. -/
theorem opened_shortCircuit (hs : mc.state = .resubscribing) (ha : mc.isSubscribeAckArmed key = true) :
    ((mc.disarmSubscribeAck key).completeResubscribeIfEmpty env).state = .opened ↔
      mc.pendingSubscribeAckCount ≤ 1 ∧ mc.ResendsOut key := by
  have hcount := pending_disarm ha
  have hstate : (mc.disarmSubscribeAck key).state = .resubscribing := hs
  rw [← resends_disarm]
  unfold completeResubscribeIfEmpty
  split_ifs with hempty
  · exact iff_of_true rfl ⟨by omega, hempty.2.2⟩
  · rw [hstate]
    refine iff_of_false nofun ?_
    rintro ⟨hle, hout⟩
    exact hempty ⟨hstate, by omega, hout⟩

/-- **The ack**, with `last` as `handle_sub_ack` counts it. -/
theorem handleEvent_lastAck (hs : mc.state = .resubscribing) :
    mc.handleEvent env (.wireSubscribeAck key.1 key.2 (decide (mc.pendingSubscribeAckCount ≤ 1))) =
      if mc.pendingSubscribeAckCount ≤ 1 then (mc.disarmSubscribeAck key).enterOpen env
      else mc.disarmSubscribeAck key := by
  simp only [handleEvent, hs]
  split_ifs with hlast
  · rw [decide_eq_true hlast]
    rfl
  · rw [decide_eq_false hlast]
    rfl

/-- It leaves nothing to wait for exactly if the resends are out. -/
theorem opens_lastAck_iff (hs : mc.state = .resubscribing) (ha : mc.isSubscribeAckArmed key = true) :
    Opens mc (mc.handleEvent env (.wireSubscribeAck key.1 key.2 (decide (mc.pendingSubscribeAckCount ≤ 1)))) ↔
      (mc.pendingSubscribeAckCount ≤ 1 → mc.ResendsOut key) := by
  have hcount := pending_disarm ha
  have hne : mc.state ≠ .opened := by simp [hs]
  rw [handleEvent_lastAck hs]
  split_ifs with hlast
  · have harmed : ∀ key', ((mc.disarmSubscribeAck key).enterOpen env).Armed key' ↔ (mc.disarmSubscribeAck key).Armed key' :=
      fun _ => Iff.rfl
    constructor
    · intro h _
      rw [← resends_disarm, HashMap.isEmpty_iff_lookup]
      intro key'
      by_contra hsome
      exact h rfl hne key' (.inr (Option.isSome_iff_ne_none.2 hsome))
    · intro h _ _ key'
      rw [harmed]
      exact not_armed_of_empty (by omega) (resends_disarm.2 (h hlast)) key'
  · have hstate : (mc.disarmSubscribeAck key).state = .resubscribing := hs
    refine iff_of_true (fun ho => ?_) fun hle => absurd hle hlast
    rw [hstate] at ho
    cases ho

/-- Elsewhere an ack opens nothing. -/
theorem shut_ack (hs : mc.state ≠ .resubscribing) (last : Bool) :
    Shut mc (mc.handleEvent env (.wireSubscribeAck key.1 key.2 last)) := by
  cases hst : mc.state <;> simp only [handleEvent, hst]
  case resubscribing => exact absurd hst hs
  case opened => exact fun _ => hst
  all_goals exact .refl mc

/-! ## Sends -/

theorem shut_sendSubscribeFrame (socket : SocketId) (f : SubscribeFrame) (reqId : Nat) (context : String) :
    Shut mc (mc.sendSubscribeFrame env socket f reqId context).2 := by
  unfold sendSubscribeFrame
  split
  · exact shut_kept rfl
  · exact shut_transientFailure none
  · exact shut_event id

theorem shut_sendAndArm (socket : SocketId) (f : SubscribeFrame) (context : String) :
    Shut mc (mc.sendAndArm env socket f context) := by
  have hsend : Shut mc (mc.takeSubscribeReqId.2.sendSubscribeFrame env socket f mc.takeSubscribeReqId.1 context).2 :=
    .trans (shut_kept rfl) (shut_sendSubscribeFrame socket f _ context)
  unfold sendAndArm
  dsimp only
  generalize mc.takeSubscribeReqId.2.sendSubscribeFrame env socket f mc.takeSubscribeReqId.1 context = out at hsend ⊢
  obtain ⟨outcome, m⟩ := out
  cases outcome with
  | sent => exact hsend.trans (shut_kept rfl)
  | backpressured => exact hsend
  | writerDead => exact hsend

theorem shut_sendSingleSubscribe (socketOf : Option SocketId) (f : SubscribeFrame) :
    Shut mc (mc.sendSingleSubscribe env socketOf f) := by
  unfold sendSingleSubscribe
  split
  · exact .refl mc
  · exact shut_sendAndArm _ _ _

theorem shut_sendBookReseed (socketOf : Option SocketId) (f : SubscribeFrame) :
    Shut mc (mc.sendBookReseed env socketOf f) := (shut_sendSingleSubscribe socketOf f).trans (shut_kept rfl)

theorem shut_replayFrames (socket : SocketId) (fs : List (SubscribeFrame × Bool)) :
    Shut mc (mc.replayFrames env socket fs) := by
  induction fs generalizing mc with
  | nil => exact .refl mc
  | cons row fs ih =>
    obtain ⟨f, resyncing⟩ := row
    have hsend : Shut mc (mc.takeSubscribeReqId.2.sendSubscribeFrame env socket f mc.takeSubscribeReqId.1
        "outbound writer task terminated (resubscribe replay)").2 :=
      .trans (shut_kept rfl) (shut_sendSubscribeFrame socket f _ _)
    simp only [replayFrames]
    generalize mc.takeSubscribeReqId.2.sendSubscribeFrame env socket f mc.takeSubscribeReqId.1
      "outbound writer task terminated (resubscribe replay)" = out at hsend
    obtain ⟨outcome, m⟩ := out
    cases outcome with
    | sent =>
      refine (hsend.trans ?_).trans ih
      dsimp only
      split_ifs <;> exact shut_kept rfl
    | backpressured =>
      dsimp only
      split_ifs
      · exact hsend.trans ih
      · exact hsend
    | writerDead => exact hsend

theorem shut_sendFrames (socket : SocketId) (context : String) (fs : List SubscribeFrame) :
    Shut mc (mc.sendFrames env socket context fs) := by
  induction fs generalizing mc with
  | nil => exact .refl mc
  | cons f fs ih =>
    have hsend : Shut mc (mc.takeSubscribeReqId.2.sendSubscribeFrame env socket f mc.takeSubscribeReqId.1 context).2 :=
      .trans (shut_kept rfl) (shut_sendSubscribeFrame socket f _ _)
    simp only [sendFrames]
    generalize mc.takeSubscribeReqId.2.sendSubscribeFrame env socket f mc.takeSubscribeReqId.1 context = out at hsend
    obtain ⟨outcome, m⟩ := out
    cases outcome with
    | sent => exact (hsend.trans (shut_kept rfl)).trans ih
    | backpressured =>
      dsimp only
      split_ifs
      · exact hsend.trans ih
      · exact hsend
    | writerDead => exact hsend

section reactor

variable {r : ReactorEnv}

theorem shut_deferThenRefresh (key : EntryKey) (params : SubscribeParams) :
    Shut mc (mc.deferOpenAuthSubscribe key params).refreshOnce :=
  shut_kept ((state_refreshOnce _).trans (state_deferOpenAuthSubscribe mc key params))

theorem shut_sendSingleSignedSubscribe (f : SubscribeFrame) : Shut mc (mc.sendSingleSignedSubscribe r f) := by
  unfold sendSingleSignedSubscribe
  split
  · exact shut_deferThenRefresh _ _
  · exact .refl mc
  · exact shut_sendAndArm _ _ _

theorem shut_sendFirstSignedSubscribe : Shut mc (mc.sendFirstSignedSubscribe r) := by
  unfold sendFirstSignedSubscribe
  split
  · exact shut_kept rfl
  · exact .refl mc
  · exact .refl mc
  · exact shut_sendAndArm _ _ _

theorem shut_sendRemainingSignedSubscribes (alreadySent : Option EntryKey) :
    Shut mc (mc.sendRemainingSignedSubscribes r alreadySent) := by
  have hdefer : ∀ (fs : List SubscribeFrame) (m : ManagedConnection),
      (fs.foldl (fun mc f => mc.deferOpenAuthSubscribe f.key f.params) m).state = m.state := by
    intro fs
    induction fs with
    | nil => exact fun _ => rfl
    | cons f fs ih => exact fun m => (ih _).trans (state_deferOpenAuthSubscribe m f.key f.params)
  unfold sendRemainingSignedSubscribes
  dsimp only
  split
  · exact shut_kept ((state_refreshOnce _).trans (hdefer _ _))
  · split
    · exact .refl mc
    · exact shut_sendFrames _ _ _

/-- Without a token the resend is deferred, and the short-circuit asked again. -/
theorem opens_handleSubscribeResend (url : WsUrl) (f : Option SubscribeFrame) :
    Opens mc (mc.handleSubscribeResend r url f) := by
  unfold handleSubscribeResend
  split
  · exact .refl mc
  · rename_i f
    split_ifs
    · have hcomplete : Opens mc ((mc.deferOpenAuthSubscribe f.key f.params).completeResubscribeIfEmpty r.toEnv) :=
        .after (shut_kept (state_deferOpenAuthSubscribe mc _ _)) opens_complete
      refine hcomplete.kept (state_refreshOnce _) fun key ha => ?_
      unfold refreshOnce at ha
      split_ifs at ha <;> exact ha
    · split
      · exact .refl mc
      · exact (shut_sendAndArm _ _ _).opens

/-! ## Requests -/

theorem shut_handleWsRequestFrame (f : WsRequestFrame) : Shut mc (mc.handleWsRequestFrame r f) := by
  unfold handleWsRequestFrame
  split_ifs
  · exact shut_kept rfl
  · split
    · exact shut_kept rfl
    · dsimp only
      split <;> exact shut_kept rfl

/-- The probe's answer. -/
theorem opens_driveAuthProbe (hs : mc.state = .authenticating) (reqId : Nat) (ack : OrderAckAuth) :
    Opens mc (mc.driveAuthProbe r reqId ack) := by
  cases ack with
  | authenticated =>
    have hok : Shut mc (mc.handleEvent r.toEnv .wireAuthHandshakeOk) := shut_wireAuthHandshakeOk
    simp only [driveAuthProbe]
    split_ifs
    · exact .after (hok.trans (shut_sendRemainingSignedSubscribes _)) opens_complete
    · exact hok.opens
    · exact opens_wireOrderAuthOk hs
  | authFailed kind =>
    have hfail : Shut mc (mc.handleEvent r.toEnv (.wireAuthHandshakeFailed kind)) := shut_event id
    simp only [driveAuthProbe]
    split_ifs
    · exact (hfail.trans (shut_kept rfl)).opens
    · exact hfail.opens

theorem opens_routeResponse (resp : WsResponse) : Opens mc (mc.routeResponse r resp) := by
  have hprobe : Opens mc (if mc.state = .authenticating then
      mc.driveAuthProbe r resp.reqId (classifyOrderAckAuth resp.success resp.error) else mc) := by
    split_ifs with hs
    · exact opens_driveAuthProbe hs _ _
    · exact .refl mc
  -- What follows touches neither the state nor the timers.
  have hstale : ∀ m : ManagedConnection, m.state = .opened → (m.recoverTokenStale r resp.reqId).state = m.state ∧
      ∀ key, (m.recoverTokenStale r resp.reqId).Armed key → m.Armed key := by
    intro m hs
    unfold recoverTokenStale
    simp only [handleEvent, hs, handleOpen]
    exact ⟨rfl, fun _ => id⟩
  unfold routeResponse
  dsimp only
  generalize (if mc.state = .authenticating then
    mc.driveAuthProbe r resp.reqId (classifyOrderAckAuth resp.success resp.error) else mc) = m at hprobe
  split_ifs with hopen
  · obtain ⟨hs, ha⟩ := hstale m hopen.1
    exact (hprobe.kept hs ha).kept rfl fun _ => id
  · obtain ⟨hs, ha⟩ := hstale m hopen.1
    exact hprobe.kept hs ha
  · exact hprobe.kept rfl fun _ => id
  · exact hprobe

end reactor

end KrakenSdk.Conn.ManagedConnection
