import KrakenSdk.Conn.Handed
import KrakenSdk.Conn.Upgraded
/-!
# `Resubscribing` with something to wait for (managed_connection/mod.rs:636, io_reactor/subscribe_send.rs)

`Working` is what the public connection keeps: in `Resubscribing` an ack or a resend timer is armed. The operations
that end in `complete_resubscribe_if_empty`, or in a resend, ask for no timer before them; a send leaves its ack
timer, the resend of a full writer, or a dead connection. What does ask is an ack that is not the last, and the
entry into `Resubscribing`.
-/
namespace KrakenSdk.Conn.ManagedConnection

variable {mc m : ManagedConnection} {env : Env} {key : EntryKey}

/-- The public connection signs nothing. -/
structure Unsigned (mc : ManagedConnection) : Prop where
  url : mc.url = .publicUrl
  handshake : mc.state ≠ .authenticating

/-- And in `Resubscribing` it waits for an ack, or for a resend. -/
structure Working (mc : ManagedConnection) : Prop extends mc.Unsigned where
  work : mc.state = .resubscribing → ∃ key, mc.Armed key

theorem armed_iff : (∃ key, mc.Armed key) ↔
    ¬ (mc.pendingSubscribeAckCount = 0 ∧ HashMap.isEmpty mc.timers.perEntrySubscribeResendDue = true) := by
  constructor
  · rintro ⟨key, ha⟩ ⟨hack, hresend⟩
    exact not_armed_of_empty hack hresend key ha
  · intro hno
    by_contra hnone
    have hno' : ∀ key, ¬ mc.Armed key := fun key ha => hnone ⟨key, ha⟩
    refine hno ⟨?_, ?_⟩
    · by_contra hpos
      obtain ⟨key, hmem⟩ := HashMap.exists_mem_of_len_pos (Nat.pos_of_ne_zero hpos)
      exact hno' key (.inl (AList.lookup_isSome.2 hmem))
    · rw [HashMap.isEmpty_iff_lookup]
      intro key
      by_contra hsome
      exact hno' key (.inr (Option.isSome_iff_ne_none.2 hsome))

theorem Unsigned.working (h : m.Unsigned) (hn : m.state ≠ .resubscribing) : m.Working :=
  ⟨h, fun hs => absurd hs hn⟩

/-- What the socket map does not hold has no subscriptions. -/
theorem working_of_covered (h : Covered (fun _ => False) none m) : m.Working := by
  have hn := h.not_active
  exact Unsigned.working ⟨h.url, h.handshake⟩ fun hs => hn (by rw [hs]; trivial)

theorem working_opened (hu : m.url = .publicUrl) (hs : m.state = .opened) : m.Working :=
  Unsigned.working ⟨hu, by simp [hs]⟩ (by simp [hs])

theorem Working.same (h : mc.Working) (hu : m.url = mc.url) (hs : m.state = mc.state)
    (ha : ∀ key, mc.Armed key → m.Armed key) : m.Working where
  url := hu.trans h.url
  handshake := hs ▸ h.handshake
  work hres := (h.work (hs ▸ hres)).imp ha

theorem working_new (knobs : Knobs) : (new .publicUrl knobs).Working := working_of_covered (covered_new knobs)

theorem working_completeResubscribeIfEmpty (h : mc.Unsigned) : (mc.completeResubscribeIfEmpty env).Working := by
  unfold completeResubscribeIfEmpty
  split_ifs with hc
  · exact working_opened h.url rfl
  · exact ⟨h, fun hs => armed_iff.2 fun hempty => hc ⟨hs, hempty⟩⟩

/-! ## Failures and events -/

/-- A failure arms the resend of its key, ends the connection, or looks whether it was the last one. -/
theorem working_subscribeFailure (h : mc.Unsigned) (key : EntryKey) (transient : Bool) (lastError : Option String) :
    (mc.handleSubscribeFailure env key transient lastError).Working := by
  cases transient with
  | true =>
    show ((mc.cancelEntryTimers key).retrySubscribe env key).Working
    unfold retrySubscribe
    dsimp only
    split_ifs
    · exact ⟨⟨h.url, h.handshake⟩, fun _ => ⟨key, .inr (by simp)⟩⟩
    · exact working_of_covered (leaves_droppedOrEscalate (by exact h.url) (by rfl))
    · exact working_of_covered (.leaves h.url trivial)
  | false => exact working_completeResubscribeIfEmpty ⟨h.url, h.handshake⟩

variable {e : FsmEvent}

theorem working_handleResubscribing (h : mc.Working) (hp : ¬ Decides e) : (mc.handleResubscribing env e).Working := by
  cases e
  case wireSubscribeAck => exact absurd trivial hp
  all_goals simp only [handleResubscribing]
  case timerSubscribeAckTimeout | wireSubscribeFailed => exact absurd trivial hp
  case wireCloseReceived => exact working_of_covered (leaves_closedDuringHandshake (by exact h.url) (by rfl))
  case wireAbnormalClose | timerStalenessElapsed =>
    exact working_of_covered (leaves_attemptFailedOrEscalate (by exact h.url) (by rfl))
  case callClose | callForceReconnect => exact working_of_covered (.leaves h.url trivial)
  case busTokenRefreshed | busTokenRefreshFailed => exact h.same rfl rfl fun _ ha => ha
  all_goals exact h

theorem working_handleOpen (hu : mc.url = .publicUrl) (hs : mc.state = .opened) (hp : ¬ Decides e) :
    (mc.handleOpen env e).Working := by
  cases e <;> simp only [handleOpen]
  case timerSubscribeAckTimeout | wireSubscribeFailed | wireSubscribeAck => exact absurd trivial hp
  case wireCloseReceived =>
    split_ifs
    · exact working_of_covered (.leaves hu trivial)
    · exact working_of_covered (leaves_droppedOrEscalate (by exact hu) (by rfl))
  case wireAbnormalClose | timerStalenessElapsed =>
    exact working_of_covered (leaves_droppedOrEscalate (by exact hu) (by rfl))
  case callClose | callForceReconnect => exact working_of_covered (.leaves hu trivial)
  all_goals exact working_opened hu hs

/-- An event that settles nothing. -/
theorem working_handleEvent (h : mc.Working) (hp : ¬ Decides e) : (mc.handleEvent env e).Working := by
  unfold handleEvent
  split
  · exact working_of_covered (covered_handleIdle h.url ‹_›)
  · exact working_of_covered (covered_handleConnecting h.url ‹_› hp)
  · exact absurd ‹_› h.handshake
  · exact working_handleResubscribing h hp
  · exact working_handleOpen h.url ‹_› hp
  · exact working_of_covered (covered_handleBackingOff h.url ‹_›)
  · exact working_of_covered (covered_handleClosing h.url ‹_›)
  · exact h
  · exact working_of_covered (covered_handleFailed h.url ‹_›)

/-- A reject, or an ack timeout: whatever timer it was the firing of. -/
theorem working_failureEvent (h : mc.Unsigned)
    (he : e = .timerSubscribeAckTimeout key.1 key.2 ∨ ∃ error, e = .wireSubscribeFailed key.1 key.2 error) :
    (mc.handleEvent env e).Working := by
  have hauth := h.handshake
  unfold handleEvent
  split
  case h_3 hs => exact absurd hs hauth
  case h_4 hs =>
    rcases he with rfl | ⟨error, rfl⟩
    · exact working_subscribeFailure h (key.1, key.2) true none
    · exact working_subscribeFailure h (key.1, key.2) error.transient (some error.krakenCode)
  case h_5 hs =>
    rcases he with rfl | ⟨error, rfl⟩
    · exact working_subscribeFailure h (key.1, key.2) true none
    · exact working_subscribeFailure h (key.1, key.2) error.transient (some error.krakenCode)
  all_goals
    rename_i hs
    have hn : mc.state ≠ .resubscribing := by simp [hs]
    rcases he with rfl | ⟨error, rfl⟩ <;> exact h.working hn

/-- An ack that is not the last one leaves another armed. -/
theorem working_wireSubscribeAck (h : mc.Unsigned) {last : Bool}
    (hl : last = false → mc.state = .resubscribing → ∃ k, (mc.disarmSubscribeAck key).Armed k) :
    (mc.handleEvent env (.wireSubscribeAck key.1 key.2 last)).Working := by
  have hauth := h.handshake
  unfold handleEvent
  split
  case h_3 hs => exact absurd hs hauth
  case h_4 hs =>
    cases last with
    | true => exact working_opened h.url rfl
    | false => exact ⟨⟨h.url, h.handshake⟩, fun _ => hl rfl hs⟩
  case h_5 hs => exact working_opened h.url hs
  all_goals
    rename_i hs
    exact h.working (by simp [hs])

theorem state_wireUpgradeOk (hu : mc.url = .publicUrl) (hs : mc.state = .connecting) (connectionId : Option Nat) :
    (mc.handleEvent env (.wireUpgradeOk connectionId)).state = .resubscribing := by
  simp [handleEvent, hs, handleConnecting, hu, armStaleness]

/-- A success takes over the timers armed while `Connecting`. -/
theorem armed_wireUpgradeOk (connectionId : Option Nat) (key : EntryKey) :
    (mc.handleEvent env (.wireUpgradeOk connectionId)).Armed key ↔ mc.Armed key := by
  unfold handleEvent
  split <;> rfl

theorem unsigned_wireUpgradeOk (h : mc.Unsigned) (connectionId : Option Nat) :
    (mc.handleEvent env (.wireUpgradeOk connectionId)).Unsigned := by
  by_cases hs : mc.state = .connecting
  · refine ⟨?_, by simp [state_wireUpgradeOk h.url hs]⟩
    simp only [handleEvent, hs, handleConnecting]
    exact h.url
  · rw [handleEvent_wireUpgradeOk_of_ne hs]
    exact h

/-! ## Sends -/

theorem working_wireLost (h : mc.Unsigned) (he : WireLost e) : (mc.handleEvent env e).Working :=
  working_of_covered (covered_wireLost h.url h.handshake he)

/-- A refused frame. -/
theorem working_sendSubscribeFrame (h : mc.Unsigned) (env : Env) (socket : SocketId) {f : SubscribeFrame} (reqId : Nat)
    (context : String) (hf : f.sent ≠ .ok ()) : (mc.sendSubscribeFrame env socket f reqId context).2.Working := by
  unfold sendSubscribeFrame
  split
  · exact absurd ‹_› hf
  · exact working_subscribeFailure h f.key true none
  · exact working_wireLost h (.inr ⟨_, rfl⟩)

/-- A send leaves the state alone, or the connection at work. -/
theorem unsigned_sendSubscribeFrame (h : mc.Unsigned) (env : Env) (socket : SocketId) (f : SubscribeFrame) (reqId : Nat)
    (context : String) : (mc.sendSubscribeFrame env socket f reqId context).2.Unsigned := by
  cases hsent : f.sent with
  | ok =>
    simp only [sendSubscribeFrame, hsent]
    exact ⟨h.url, h.handshake⟩
  | error e => exact (working_sendSubscribeFrame h env socket reqId context (by simp [hsent])).toUnsigned

theorem armed_armSubscribeAckTimer (mc : ManagedConnection) (env : Env) (key : EntryKey) (reqId : Nat) :
    (mc.armSubscribeAckTimerWithReqId env key reqId).Armed key :=
  .inl (by simp [armSubscribeAckTimerWithReqId, armSubscribeAck, recordSubscribeReqId])

theorem working_sendAndArm (h : mc.Unsigned) (socket : SocketId) (f : SubscribeFrame) (context : String) :
    (mc.sendAndArm env socket f context).Working := by
  have htake : mc.takeSubscribeReqId.2.Unsigned := ⟨h.url, h.handshake⟩
  have harmed : ∀ m : ManagedConnection, m.Unsigned →
      (m.armSubscribeAckTimerWithReqId env f.key mc.takeSubscribeReqId.1).Working :=
    fun m hm => ⟨⟨hm.url, hm.handshake⟩, fun _ => ⟨f.key, armed_armSubscribeAckTimer _ _ _ _⟩⟩
  unfold sendAndArm
  dsimp only
  cases hsent : f.sent with
  | ok =>
    have hm := unsigned_sendSubscribeFrame htake env socket f mc.takeSubscribeReqId.1 context
    simp only [sendSubscribeFrame, hsent] at hm ⊢
    exact harmed _ hm
  | error e =>
    have hwork := working_sendSubscribeFrame htake env socket mc.takeSubscribeReqId.1 context (f := f) (by simp [hsent])
    cases e <;> simp only [sendSubscribeFrame, hsent] at hwork ⊢ <;> exact hwork

theorem working_sendSingleSubscribe (h : mc.Working) (socketOf : Option SocketId) (f : SubscribeFrame) :
    (mc.sendSingleSubscribe env socketOf f).Working := by
  unfold sendSingleSubscribe
  split
  · exact h
  · exact working_sendAndArm h.toUnsigned _ _ _

theorem working_sendBookReseed (h : mc.Working) (socketOf : Option SocketId) (f : SubscribeFrame) :
    (mc.sendBookReseed env socketOf f).Working :=
  (working_sendSingleSubscribe h socketOf f).same rfl rfl fun _ ha => ha

/-- The resend of a key that is still registered, on a mapped socket. -/
theorem working_handleSubscribeResend (h : mc.Unsigned) {r : ReactorEnv} {f : Option SubscribeFrame}
    (hno : f = none ∨ r.socketOf = none → mc.Working) : (mc.handleSubscribeResend r .publicUrl f).Working := by
  unfold handleSubscribeResend
  cases f with
  | none => exact hno (.inl rfl)
  | some f =>
    dsimp only
    rw [if_neg (by simp)]
    cases hs : r.socketOf with
    | none => exact hno (.inr hs)
    | some socket => exact working_sendAndArm h _ _ _

theorem unsigned_replayFrames (h : mc.Unsigned) (socket : SocketId) (fs : List (SubscribeFrame × Bool)) :
    (mc.replayFrames env socket fs).Unsigned := by
  induction fs generalizing mc with
  | nil => exact h
  | cons row fs ih =>
    obtain ⟨f, resyncing⟩ := row
    have htake : mc.takeSubscribeReqId.2.Unsigned := ⟨h.url, h.handshake⟩
    have hsend := unsigned_sendSubscribeFrame htake env socket f mc.takeSubscribeReqId.1
      "outbound writer task terminated (resubscribe replay)"
    simp only [replayFrames]
    generalize mc.takeSubscribeReqId.2.sendSubscribeFrame env socket f mc.takeSubscribeReqId.1
      "outbound writer task terminated (resubscribe replay)" = out at hsend ⊢
    obtain ⟨outcome, m⟩ := out
    cases outcome with
    | sent =>
      apply ih
      split <;> exact ⟨hsend.url, hsend.handshake⟩
    | backpressured =>
      dsimp only
      split_ifs
      · exact ih hsend
      · exact hsend
    | writerDead => exact hsend

end KrakenSdk.Conn.ManagedConnection
