import KrakenSdk.Conn.SubscribeSend
/-!
# What ends `Authenticating` (managed_connection/handle_event.rs, io_reactor/subscribe_send.rs)

The sends of the reactor do not look at the state they find. In `Authenticating` a frame the socket takes changes
nothing; a dead writer, or a full one once the retries of the key are used up, tears the handshake down (`SendEnds`).
-/
namespace KrakenSdk.Conn.ManagedConnection

variable {mc : ManagedConnection} {env : Env}

/-- Sending the frame ends `Authenticating`. -/
def SendEnds (mc : ManagedConnection) (env : Env) (f : SubscribeFrame) : Prop :=
  f.sent = .error .writerClosed ∨ f.sent = .error .backpressure ∧ mc.subscribeAckRemaining env f.key = 0

theorem state_completeResubscribe (h : mc.state = .authenticating) :
    (mc.completeResubscribeIfEmpty env).state = .authenticating := by
  have hno : ¬ (mc.state = .resubscribing ∧ mc.pendingSubscribeAckCount = 0 ∧
      HashMap.isEmpty mc.timers.perEntrySubscribeResendDue) := by simp [h]
  rw [completeResubscribeIfEmpty, if_neg hno]
  exact h

theorem state_retry (h : mc.state = .authenticating) {key : EntryKey} (hleft : mc.subscribeAckRemaining env key ≠ 0) :
    (mc.handleSubscribeFailure env key true none).state = .authenticating := by
  have hpos : (mc.cancelEntryTimers key).subscribeAckRemaining env key > 0 := Nat.pos_of_ne_zero hleft
  simp only [handleSubscribeFailure, retrySubscribe, if_true, if_pos hpos]
  exact h

theorem state_sendAndArm (h : mc.state = .authenticating) {f : SubscribeFrame} (hf : ¬ mc.SendEnds env f)
    (socket : SocketId) (context : String) : (mc.sendAndArm env socket f context).state = .authenticating := by
  unfold SendEnds at hf
  unfold sendAndArm sendSubscribeFrame
  cases hsent : f.sent with
  | ok => exact h
  | error e =>
    cases e with
    | backpressure =>
      have hleft : mc.subscribeAckRemaining env f.key ≠ 0 := by
        intro hzero
        exact hf (.inr ⟨hsent, hzero⟩)
      exact @state_retry mc.takeSubscribeReqId.2 _ h _ hleft
    | writerClosed => exact absurd (.inl hsent) hf

theorem state_sendSingleSubscribe (h : mc.state = .authenticating) {f : SubscribeFrame} {socketOf : Option SocketId}
    (hf : socketOf.isSome = true → ¬ mc.SendEnds env f) :
    (mc.sendSingleSubscribe env socketOf f).state = .authenticating := by
  cases socketOf with
  | none => exact h
  | some socket => exact state_sendAndArm h (hf rfl) _ _

theorem state_deferOpenAuthSubscribe (mc : ManagedConnection) (key : EntryKey) (params : SubscribeParams) :
    (mc.deferOpenAuthSubscribe key params).state = mc.state := by
  unfold deferOpenAuthSubscribe
  split_ifs <;> rfl

theorem state_refreshOnce (mc : ManagedConnection) : mc.refreshOnce.state = mc.state := by
  unfold refreshOnce
  split_ifs <;> rfl

theorem state_handleSubscribeResend (h : mc.state = .authenticating) {r : ReactorEnv} {url : WsUrl}
    {entry : Option SubscribeFrame}
    (hf : ∀ f, entry = some f → r.socketOf.isSome = true → (url = .authUrl → r.token.isSome = true) → ¬ mc.SendEnds r.toEnv f) :
    (mc.handleSubscribeResend r url entry).state = .authenticating := by
  cases entry with
  | none => exact h
  | some f =>
    unfold handleSubscribeResend
    dsimp only
    by_cases htoken : url = .authUrl ∧ r.token = none
    · rw [if_pos htoken, state_refreshOnce]
      apply state_completeResubscribe
      rw [state_deferOpenAuthSubscribe]
      exact h
    · rw [if_neg htoken]
      have hvalid : url = .authUrl → r.token.isSome = true := by
        intro hu
        rw [Option.isSome_iff_ne_none]
        exact fun hn => htoken ⟨hu, hn⟩
      cases hs : r.socketOf with
      | none => exact h
      | some socket => exact state_sendAndArm h (hf f rfl (by rw [hs]; rfl) hvalid) _ _

/-- The probe of a handshake with nothing registered: no frame is sent. -/
theorem state_sendFirstSignedSubscribe {r : ReactorEnv} (hempty : r.entries = []) :
    (mc.sendFirstSignedSubscribe r).state = mc.state := by
  unfold sendFirstSignedSubscribe
  rw [hempty]
  cases r.token <;> cases r.socketOf <;> rfl

theorem state_handleWsRequestFrame (mc : ManagedConnection) (r : ReactorEnv) (f : WsRequestFrame) :
    (mc.handleWsRequestFrame r f).state = mc.state := by
  unfold handleWsRequestFrame
  split_ifs
  · rfl
  · split
    · rfl
    · dsimp only
      split <;> rfl

/-- In `Authenticating` only a close, a wire loss, staleness, the answers of the handshake, a failed refresh and
the last ack timeout of a key change the state. -/
theorem state_handleEvent (h : mc.state = .authenticating) {e : FsmEvent}
    (he : match e with
      | .wireUpgradeOk _ | .wireUpgradeFailed _ | .wireConnectError _ _ | .timerBackoffElapsed | .timerUpgradeTimeout
      | .timerCloseTimeout | .timerRateBudgetWindowAdvanced | .timerTokenRefreshDue | .callStartConnect _
      | .busTokenRefreshed _ => True
      | .timerSubscribeAckTimeout channel pair => mc.subscribeAckRemaining env (channel, pair) ≠ 0
      | _ => False) : (mc.handleEvent env e).state = .authenticating := by
  unfold handleEvent
  rw [h]
  cases e with
  | timerSubscribeAckTimeout channel pair => exact state_retry h he
  | _ => first | exact h | exact he.elim

end KrakenSdk.Conn.ManagedConnection
