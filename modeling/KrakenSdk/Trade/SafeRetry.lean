import KrakenSdk.Trade.Executors
/-!
# What a retryable failure promises (api/trade/mod.rs:96, api/trade/error.rs:378, transport/mod.rs:209)

`TradeError::retryable` tells the caller whether an order may be placed again. Over WS every failure but a timeout and a
full queue reads as retryable, so also that of a frame a socket took before its connection was lost. Over REST a
transient status does, and the answer it stands for may have come after the order was placed.
-/
namespace KrakenSdk.Rest

open KrakenSdk.Conn (Json TransportErrorKind)

/-! ## One attempt over REST -/

/-- The answer is lost in a way that reads as retryable: a transient status, or a body that fails as a connect error. -/
def HttpSend.LostAnswer : HttpSend → Prop
  | .responded status body => (isSuccess status = false ∧ isTransientStatus status = true) ∨
      (isSuccess status = true ∧ ∃ e, body = .error e ∧ e.isConnect = true)
  | _ => False

/-- No connection was made. -/
def HttpSend.ConnectFailed : HttpSend → Prop
  | .failed e _ => e.isConnect = true
  | _ => False

theorem HttpSend.LostAnswer.written {send : HttpSend} (h : send.LostAnswer) : send.written = true := by
  cases send with
  | responded status body => rfl
  | failed e written => exact absurd h id
  | stalled written => exact absurd h id

/-- A transport failure that reads as retryable. -/
def RestError.Retryable (e : RestError) : Prop := ∃ kind, e = .transport kind true ∧ kind.isSentAmbiguous = false

theorem retryable_transport {kind : TransportErrorKind} {transient : Bool} :
    (RestError.transport kind transient).Retryable ↔ transient = true ∧ kind.isSentAmbiguous = false := by
  constructor
  · rintro ⟨kind', heq, hkind⟩
    injection heq with hk ht
    rw [hk, ht]
    exact ⟨rfl, hkind⟩
  · rintro ⟨rfl, hkind⟩
    exact ⟨kind, rfl, hkind⟩

/-- Of what `send()` reports only a connect error reads so. -/
theorem retryable_classifyErrorFlags {e : ReqwestError} :
    (RestError.transport (classifyErrorFlags e).kind (classifyErrorFlags e).transient).Retryable ↔ e.isConnect = true := by
  rw [retryable_transport]
  obtain ⟨connect, timeout, body, request, decode, text⟩ := e
  cases connect <;> cases timeout <;> cases body <;> cases request <;> cases decode <;>
    simp [classifyErrorFlags, TransportErrorKind.isSentAmbiguous]

/-- An envelope that is no success is a rejection, or of another shape. -/
theorem parseKrakenEnvelope_error {json : Json} {e : RestError} (h : parseKrakenEnvelope json = .error e) :
    (∃ codes, e = .kraken codes) ∨ ∃ detail, e = .unexpectedShape detail := by
  unfold parseKrakenEnvelope at h
  dsimp only at h
  split at h
  · split at h <;> cases h
    exact .inr ⟨_, rfl⟩
  · split at h <;> cases h
    exact .inr ⟨_, rfl⟩
  · split at h <;> cases h
    · exact .inr ⟨_, rfl⟩
    · exact .inl ⟨_, rfl⟩

theorem not_retryable_envelope {json : Json} {e : RestError} (h : parseKrakenEnvelope json = .error e) : ¬ e.Retryable := by
  rintro ⟨kind, rfl, -⟩
  rcases parseKrakenEnvelope_error h with ⟨_, h⟩ | ⟨_, h⟩ <;> cases h

/-- **One attempt.** -/
theorem retryable_signedPostCostedOnce {a : Attempt} :
    (∃ e, signedPostCostedOnce a = .error e ∧ e.Retryable) ↔
      a.handed = true ∧ (a.send.LostAnswer ∨ a.send.ConnectFailed) := by
  obtain ⟨headroom, sign, send⟩ := a
  cases headroom with
  | false => exact ⟨fun ⟨e, h, kind, he, _⟩ => (by cases h; cases he), fun h => (by cases h.1)⟩
  | true =>
    cases sign with
    | error e => exact ⟨fun ⟨e, h, kind, he, _⟩ => (by cases h; cases he), fun h => (by cases h.1)⟩
    | ok u =>
      cases send with
      | failed e written =>
        constructor
        · rintro ⟨_, ⟨⟩, hretry⟩
          exact ⟨rfl, .inr (retryable_classifyErrorFlags.1 hretry)⟩
        · rintro ⟨-, h | h⟩
          · exact absurd h id
          · exact ⟨_, rfl, retryable_classifyErrorFlags.2 h⟩
      | responded status body =>
        have hnot : ¬ HttpSend.ConnectFailed (.responded status body) := id
        rw [or_iff_left hnot]
        cases hsuccess : isSuccess status with
        | false =>
          have houtcome : signedPostCostedOnce ⟨true, .ok u, .responded status body⟩ =
              .error (.transport (.httpStatus status) (isTransientStatus status)) := by
            simp only [signedPostCostedOnce, postFormSigned, hsuccess]
            rfl
          rw [houtcome]
          constructor
          · rintro ⟨_, ⟨⟩, hretry⟩
            exact ⟨rfl, .inl ⟨hsuccess, (retryable_transport.1 hretry).1⟩⟩
          · rintro ⟨-, ⟨-, h⟩ | ⟨h, -⟩⟩
            · exact ⟨_, rfl, retryable_transport.2 ⟨h, rfl⟩⟩
            · rw [hsuccess] at h
              cases h
        | true =>
          cases body with
          | ok json =>
            have houtcome : signedPostCostedOnce ⟨true, .ok u, .responded status (.ok json)⟩ = parseKrakenEnvelope json := by
              simp only [signedPostCostedOnce, postFormSigned, hsuccess]
              rfl
            rw [houtcome]
            constructor
            · rintro ⟨e, h, hretry⟩
              exact absurd hretry (not_retryable_envelope h)
            · rintro ⟨-, ⟨h, -⟩ | ⟨-, e, h, -⟩⟩
              · rw [hsuccess] at h
                cases h
              · cases h
          | error e =>
            have houtcome : signedPostCostedOnce ⟨true, .ok u, .responded status (.error e)⟩ =
                .error (.transport (classifyErrorFlags e).kind (classifyErrorFlags e).transient) := by
              simp only [signedPostCostedOnce, postFormSigned, hsuccess]
              rfl
            rw [houtcome]
            constructor
            · rintro ⟨_, ⟨⟩, hretry⟩
              exact ⟨rfl, .inr ⟨hsuccess, e, rfl, retryable_classifyErrorFlags.1 hretry⟩⟩
            · rintro ⟨-, ⟨h, -⟩ | ⟨-, _, ⟨⟩, h⟩⟩
              · rw [hsuccess] at h
                cases h
              · exact ⟨_, rfl, retryable_classifyErrorFlags.2 h⟩
      | stalled written =>
        constructor
        · rintro ⟨_, ⟨⟩, hretry⟩
          exact absurd (retryable_transport.1 hretry).2 nofun
        · rintro ⟨-, h | h⟩ <;> exact absurd h id

end KrakenSdk.Rest

namespace KrakenSdk.Trade

open KrakenSdk.Conn (ConnectionError Json ManagedConnection WsOp WsResponse)
open KrakenSdk.Conn.ManagedConnection (WsLabel orderEnv submittedIds wsRun)
open KrakenSdk.Rest (Attempt HttpSend RestError RetryPolicy attemptsMade signedPostCosted signedPostCostedOnce)

/-- The call returns a `TradeError::Transport` whose `retryable` is true. -/
def OrderRun.Retryable {α : Type} (r : OrderRun α) : Prop := ∃ e, r.result = some (.error e) ∧ e.RetryableTransport

/-- A decode that fails fails as no transport. -/
theorem not_retryable_mapError {α : Type} {r : Except TradeError α} {id : String} {e : TradeError} (h : NeverTransport r)
    (heq : r.mapError (·.withRequestId id) = .error e) : ¬ e.RetryableTransport := by
  cases r with
  | ok a => cases heq
  | error e' =>
    cases heq
    rw [retryableTransport_withRequestId]
    exact h e' rfl

/-! ## REST -/

namespace RestMeets

variable (w : RestMeets) (policy : RetryPolicy)

/-- The call returns, and this is the last attempt it made. -/
def LastAttempt (a : Attempt) : Prop :=
  (signedPostCosted policy w.defaultMaxAttempts w.attempts).isSome = true ∧
    ∃ front, attemptsMade policy w.defaultMaxAttempts w.attempts = front ++ [a]

/-- An attempt was handed to the HTTP client. -/
def Handed : Prop := ∃ a ∈ attemptsMade policy w.defaultMaxAttempts w.attempts, a.handed = true

/-- An attempt reached the wire. -/
def Written : Prop := ∃ a ∈ attemptsMade policy w.defaultMaxAttempts w.attempts, a.wired = true

/-- The last attempt found no connection. -/
def ConnectFailed : Prop := ∃ a, w.LastAttempt policy a ∧ a.handed = true ∧ a.send.ConnectFailed

/-- The answer to the last attempt is lost in a way that reads as retryable, or it found no connection after one before
it had been answered. -/
def LostAfterSend : Prop :=
  (∃ a, w.LastAttempt policy a ∧ a.handed = true ∧ a.send.LostAnswer) ∨ (w.ConnectFailed policy ∧ w.Written policy)

variable {w policy}

theorem retryable_post {α : Type} {path : String} {form : List (String × String)} {guard : Option CancelEmitGuard}
    {emit : Except RestError Json → List OrderEvent} {decode : Json → Decoded α}
    (hdecode : ∀ value, NeverTransport (decode value).result) :
    (w.post path form policy guard emit decode).Retryable ↔
      ∃ a, w.LastAttempt policy a ∧ a.handed = true ∧ (a.send.LostAnswer ∨ a.send.ConnectFailed) := by
  constructor
  · rintro ⟨e, hresult, hretry⟩
    unfold RestMeets.post at hresult
    rcases hanswer : signedPostCosted policy w.defaultMaxAttempts w.attempts with _ | err | value <;>
      rw [hanswer] at hresult
    · cases hresult
    · cases hresult
      obtain ⟨front, a, hmade, hlast, -⟩ := Rest.attemptsMade_of_answered hanswer
      have herr : err.Retryable := retryableTransport_ofRestError.1 (retryableTransport_withRequestId.1 hretry)
      have hsome : (signedPostCosted policy w.defaultMaxAttempts w.attempts).isSome = true := by
        rw [hanswer]
        rfl
      exact ⟨a, ⟨hsome, front, hmade⟩, Rest.retryable_signedPostCostedOnce.1 ⟨err, hlast, herr⟩⟩
    · exact absurd hretry (not_retryable_mapError (hdecode value) (Option.some.inj hresult))
  · rintro ⟨a, ⟨hsome, front, hmade⟩, hlost⟩
    obtain ⟨r, hanswer⟩ := Option.isSome_iff_exists.1 hsome
    obtain ⟨front', a', hmade', hlast, -⟩ := Rest.attemptsMade_of_answered hanswer
    obtain rfl : a' = a := List.singleton_inj.1 (List.append_inj_right' (hmade'.symm.trans hmade) rfl)
    obtain ⟨err, houtcome, herr⟩ := Rest.retryable_signedPostCostedOnce.2 hlost
    rw [hlast.symm.trans houtcome] at hanswer
    refine ⟨(TradeError.ofRestError err).withRequestId w.requestId, ?_, ?_⟩
    · unfold RestMeets.post
      rw [hanswer]
      rfl
    · exact retryableTransport_withRequestId.2 (retryableTransport_ofRestError.2 herr)

/-- **What is retryable over REST was handed to the client**, and was written unless no connection was made. -/
theorem retryable_handed {α : Type} {path : String} {form : List (String × String)} {guard : Option CancelEmitGuard}
    {emit : Except RestError Json → List OrderEvent} {decode : Json → Decoded α}
    (hdecode : ∀ value, NeverTransport (decode value).result) :
    ((w.post path form policy guard emit decode).Retryable ∧ w.Handed policy ↔ w.LostAfterSend policy ∨ w.ConnectFailed policy) ∧
    ((w.post path form policy guard emit decode).Retryable ∧ w.Written policy ↔ w.LostAfterSend policy) := by
  have hhanded : ∀ {a}, w.LastAttempt policy a → a.handed = true → w.Handed policy := by
    rintro a ⟨-, front, hmade⟩ ha
    exact ⟨a, by rw [hmade]; exact List.mem_append_right _ (List.mem_singleton_self a), ha⟩
  have hwritten : ∀ {a}, w.LastAttempt policy a → a.handed = true → a.send.LostAnswer → w.Written policy := by
    rintro a ⟨-, front, hmade⟩ ha hlost
    refine ⟨a, by rw [hmade]; exact List.mem_append_right _ (List.mem_singleton_self a), ?_⟩
    rw [Attempt.wired, ha, HttpSend.LostAnswer.written hlost]
    rfl
  rw [retryable_post hdecode]
  constructor
  · constructor
    · rintro ⟨⟨a, hlast, ha, hlost | hconnect⟩, -⟩
      · exact .inl (.inl ⟨a, hlast, ha, hlost⟩)
      · exact .inr ⟨a, hlast, ha, hconnect⟩
    · rintro ((⟨a, hlast, ha, hlost⟩ | ⟨⟨a, hlast, ha, hconnect⟩, -⟩) | ⟨a, hlast, ha, hconnect⟩)
      · exact ⟨⟨a, hlast, ha, .inl hlost⟩, hhanded hlast ha⟩
      · exact ⟨⟨a, hlast, ha, .inr hconnect⟩, hhanded hlast ha⟩
      · exact ⟨⟨a, hlast, ha, .inr hconnect⟩, hhanded hlast ha⟩
  · constructor
    · rintro ⟨⟨a, hlast, ha, hlost | hconnect⟩, hw⟩
      · exact .inl ⟨a, hlast, ha, hlost⟩
      · exact .inr ⟨⟨a, hlast, ha, hconnect⟩, hw⟩
    · rintro (⟨a, hlast, ha, hlost⟩ | ⟨⟨a, hlast, ha, hconnect⟩, hw⟩)
      · exact ⟨⟨a, hlast, ha, .inl hlost⟩, hwritten hlast ha hlost⟩
      · exact ⟨⟨a, hlast, ha, .inr hconnect⟩, hw⟩

end RestMeets

/-! ## WS -/

namespace WsMeets

variable (w : WsMeets)

/-- The frame is posted, and a socket takes it, sooner or later. -/
def Handed : Prop :=
  w.posted = .ok () ∧ (wsRun .authUrl w.knobs (w.before ++ w.wait.after)).HandedOver w.reqId

/-- The wait ends with the request drained, or with the reactor while a socket has its frame. -/
def LostAfterSend : Prop :=
  w.posted = .ok () ∧
    ((∃ e, ConnectionError.Drained e ∧ .error e ∈ (wsRun .authUrl w.knobs w.before).resolutions w.reqId ∧
        ∀ after, w.wait ≠ .dropped after) ∨
      (w.wait = .loopGone ∧ (wsRun .authUrl w.knobs w.before).resolutions w.reqId = [] ∧
        (wsRun .authUrl w.knobs w.before).HandedOver w.reqId))

variable {w}

theorem retryable_send {α : Type} {op : WsOp} {orderOp : OrderOp} {emitClOrdId : Option ClOrdId}
    {emitAmendId : Option AmendId} {params : Json} {indexOnAccept : Option (ClOrdId × Conn.Symbol)}
    {decode : WsResponse → Decoded α} (hdecode : ∀ resp, NeverTransport (decode resp).result) :
    (w.send op orderOp emitClOrdId emitAmendId params indexOnAccept decode).Retryable ↔
      ∃ e, w.recv = some (.error e) ∧ (wsConnErrorToTrade e).RetryableTransport := by
  constructor
  · rintro ⟨e, hresult, hretry⟩
    unfold WsMeets.send at hresult
    rcases hrecv : w.recv with _ | err | resp <;> rw [hrecv] at hresult
    · cases hresult
    · cases hresult
      exact ⟨err, rfl, retryableTransport_withRequestId.1 hretry⟩
    · exact absurd hretry (not_retryable_mapError (hdecode resp) (Option.some.inj hresult))
  · rintro ⟨err, hrecv, hretry⟩
    refine ⟨(wsConnErrorToTrade err).withRequestId (toString w.reqId), ?_, retryableTransport_withRequestId.2 hretry⟩
    unfold WsMeets.send
    rw [hrecv]
    rfl

theorem retryable_wsConnErrorToTrade {e : ConnectionError} :
    (wsConnErrorToTrade e).RetryableTransport ↔ e = .notOpen ∨ e.Drained ∨ e = .loopClosed := by
  cases e <;>
    simp [wsConnErrorToTrade, TradeError.RetryableTransport, Conn.TransportErrorKind.isSentAmbiguous, ConnectionError.Drained]

theorem resolutions_after (w : WsMeets) :
    ∃ rs, (wsRun .authUrl w.knobs (w.before ++ w.wait.after)).resolutions w.reqId =
      (wsRun .authUrl w.knobs w.before).resolutions w.reqId ++ rs := by
  unfold wsRun
  rw [StepSystem.exec_append]
  exact ManagedConnection.resolutions_exec _ w.wait.after w.reqId

/-- What the wait of a posted frame returns. -/
theorem recv_eq_some (w : WsMeets) {r : Except ConnectionError WsResponse} (hposted : w.posted = .ok ())
    (h : w.recv = some r) :
    (r ∈ (wsRun .authUrl w.knobs w.before).resolutions w.reqId ∧ ∀ after, w.wait ≠ .dropped after) ∨
      (r = .error .loopClosed ∧ w.wait = .loopGone ∧ (wsRun .authUrl w.knobs w.before).resolutions w.reqId = []) ∨
      (r = .error .responseTimeout ∧ (∃ after, w.wait = .elapsed after) ∧ w.orderDeadline.isSome = true ∧
        (wsRun .authUrl w.knobs w.before).resolutions w.reqId = []) := by
  have hresolved : w.resolved = ((wsRun .authUrl w.knobs w.before).resolutions w.reqId).head? := by
    rw [WsMeets.resolved, hposted]
  unfold WsMeets.recv at h
  rw [hresolved] at h
  cases hwait : w.wait with
  | dropped after =>
    rw [hwait] at h
    cases h
  | goesOn after =>
    rw [hwait] at h
    exact .inl ⟨List.mem_of_mem_head? h, nofun⟩
  | loopGone =>
    rw [hwait] at h
    rcases Option.or_eq_some_iff.1 h with hhead | ⟨hnone, ⟨⟩⟩
    · exact .inl ⟨List.mem_of_mem_head? hhead, nofun⟩
    · exact .inr (.inl ⟨rfl, rfl, List.head?_eq_none_iff.1 hnone⟩)
  | elapsed after =>
    rw [hwait] at h
    rcases Option.or_eq_some_iff.1 h with hhead | ⟨hnone, hlate⟩
    · exact .inl ⟨List.mem_of_mem_head? hhead, nofun⟩
    · split_ifs at hlate with hdeadline
      cases hlate
      exact .inr (.inr ⟨rfl, ⟨after, rfl⟩, hdeadline, List.head?_eq_none_iff.1 hnone⟩)

theorem not_resolution_loopClosed : ¬ ManagedConnection.Resolution (.error .loopClosed) := by
  rintro (h | ⟨e, h, hdrained⟩ | h | ⟨resp, h⟩)
  · cases h
  · cases h
    rcases hdrained with h | h <;> cases h
  · cases h
  · cases h

section once

variable (hd : (submittedIds (w.before ++ w.wait.after)).Nodup)
include hd

/-- One resolution at most, so one that the wait can read is the only one. -/
theorem resolutions_eq_of_mem {r : Except ConnectionError WsResponse}
    (hm : r ∈ (wsRun .authUrl w.knobs w.before).resolutions w.reqId) :
    (wsRun .authUrl w.knobs w.before).resolutions w.reqId = [r] ∧
      (wsRun .authUrl w.knobs (w.before ++ w.wait.after)).resolutions w.reqId = [r] := by
  have hone := ManagedConnection.length_resolutions_run .authUrl w.knobs hd w.reqId
  obtain ⟨rs, hrs⟩ := w.resolutions_after
  have hpos := List.length_pos_of_mem hm
  rw [hrs, List.length_append] at hone
  obtain ⟨r', hr'⟩ := List.length_eq_one_iff.1 (Nat.le_antisymm (by omega) hpos)
  have hnil : rs = [] := List.length_eq_zero_iff.1 (by omega)
  have hbefore : (wsRun .authUrl w.knobs w.before).resolutions w.reqId = [r] := by
    rw [hr'] at hm ⊢
    rw [List.mem_singleton.1 hm]
  exact ⟨hbefore, by rw [hrs, hbefore, hnil, List.append_nil]⟩

/-- What has been resolved was handed over unless it was refused. -/
theorem handedOver_of_mem {r : Except ConnectionError WsResponse}
    (hm : r ∈ (wsRun .authUrl w.knobs w.before).resolutions w.reqId) :
    (wsRun .authUrl w.knobs (w.before ++ w.wait.after)).HandedOver w.reqId ↔ r ≠ .error .notOpen := by
  obtain ⟨honce, hlife⟩ := ManagedConnection.life_run .authUrl w.knobs hd w.reqId
  obtain ⟨-, hall⟩ := resolutions_eq_of_mem hd hm
  have haccounted : (wsRun .authUrl w.knobs (w.before ++ w.wait.after)).accounted w.reqId = 1 := by
    have hle := honce.2 w.reqId
    rw [ManagedConnection.accounted_eq, hall] at hle ⊢
    simp only [List.length_singleton] at hle ⊢
    omega
  unfold ManagedConnection.Life at hlife
  rw [hlife, and_iff_right haccounted, hall, List.mem_singleton]
  exact not_congr eq_comm

/-- **What is retryable over WS and was handed to a socket.** -/
theorem retryable_handed {α : Type} {op : WsOp} {orderOp : OrderOp} {emitClOrdId : Option ClOrdId}
    {emitAmendId : Option AmendId} {params : Json} {indexOnAccept : Option (ClOrdId × Conn.Symbol)}
    {decode : WsResponse → Decoded α} (hdecode : ∀ resp, NeverTransport (decode resp).result) :
    (w.send op orderOp emitClOrdId emitAmendId params indexOnAccept decode).Retryable ∧ w.Handed ↔ w.LostAfterSend := by
  rw [retryable_send hdecode]
  constructor
  · rintro ⟨⟨e, hrecv, hretry⟩, hposted, hhanded⟩
    refine ⟨hposted, ?_⟩
    rcases w.recv_eq_some hposted hrecv with ⟨hm, hwait⟩ | ⟨⟨⟩, hwait, hnone⟩ | ⟨⟨⟩, -⟩
    · rcases retryable_wsConnErrorToTrade.1 hretry with rfl | hdrained | rfl
      · exact absurd rfl ((handedOver_of_mem hd hm).1 hhanded)
      · exact .inl ⟨e, hdrained, hm, hwait⟩
      · exact absurd (ManagedConnection.resolution_run .authUrl w.knobs w.before _ hm) not_resolution_loopClosed
    · refine .inr ⟨hwait, hnone, ?_⟩
      rw [hwait] at hhanded
      simpa only [Wait.after, List.append_nil] using hhanded
    · exact absurd (retryable_wsConnErrorToTrade.1 hretry) (by simp [ConnectionError.Drained])
  · have hresolved (h : w.posted = .ok ()) : w.resolved = ((wsRun .authUrl w.knobs w.before).resolutions w.reqId).head? := by
      rw [WsMeets.resolved, h]
    rintro ⟨hposted, ⟨e, hdrained, hm, hwait⟩ | ⟨hwait, hnone, hhanded⟩⟩
    · have hrecv : w.recv = some (.error e) := by
        unfold WsMeets.recv
        rw [hresolved hposted, (resolutions_eq_of_mem hd hm).1]
        cases hcase : w.wait with
        | dropped after => exact absurd hcase (hwait after)
        | goesOn after => rfl
        | loopGone => rfl
        | elapsed after => rfl
      have hnot : (.error e : Except ConnectionError WsResponse) ≠ .error .notOpen := by
        rintro ⟨⟩
        rcases hdrained with h | h <;> cases h
      exact ⟨⟨e, hrecv, retryable_wsConnErrorToTrade.2 (.inr (.inl hdrained))⟩, hposted,
        (handedOver_of_mem hd hm).2 hnot⟩
    · refine ⟨⟨.loopClosed, ?_, retryable_wsConnErrorToTrade.2 (.inr (.inr rfl))⟩, hposted, ?_⟩
      · unfold WsMeets.recv
        rw [hresolved hposted, hnone, hwait]
        rfl
      · rw [hwait]
        simpa only [Wait.after, List.append_nil] using hhanded

end once

end WsMeets

/-! ## Every call -/

theorem neverTransport_indexBatch {req : AddOrderBatchRequest} {sentAt : Conn.MonotonicInstant}
    {decoded : Except TradeError AddOrderBatchResponse} (h : NeverTransport decoded) :
    NeverTransport (indexBatch req sentAt decoded).result := by
  cases decoded with
  | ok resp => exact neverTransport_ok _
  | error e => exact h

theorem neverTransport_decodeBatchRest (serde : String) (expected : Nat) (value : Json) :
    NeverTransport (decodeBatchRest serde expected value) :=
  (neverTransport_decodeAddOrderBatch serde value).bind fun _ =>
    (neverTransport_guardBatchRowCount _ _).bind fun _ => neverTransport_ok _

/-- What a posted call meets. -/
inductive Channel where
  | rest (w : RestMeets) (policy : RetryPolicy)
  | ws (w : WsMeets)

namespace Channel

def Handed : Channel → Prop
  | rest w policy => w.Handed policy
  | ws w => w.Handed

def Written : Channel → Prop
  | rest w policy => w.Written policy
  | ws w => w.Handed

def LostAfterSend : Channel → Prop
  | rest w policy => w.LostAfterSend policy
  | ws w => w.LostAfterSend

def ConnectFailed : Channel → Prop
  | rest w policy => w.ConnectFailed policy
  | ws _ => False

/-- No request id is used twice on the connection. -/
def IdsDistinct : Channel → Prop
  | rest .. => True
  | ws w => (submittedIds (w.before ++ w.wait.after)).Nodup

end Channel

namespace OrderCall

def channel : OrderCall → Channel
  | addOrderRest req w | orderBatchRest req w => .rest w (placementPolicy req.validateOnly)
  | amendOrderRest _ w => .rest w .neverRetry
  | addOrderWs _ w | amendOrderWs _ w | orderBatchWs _ w => .ws w

/-- Its bytes are handed to the HTTP client or to a socket. -/
def Handed (c : OrderCall) : Prop := c.run.write.isSome = true ∧ c.channel.Handed

/-- Its bytes go out on a connection. -/
def Written (c : OrderCall) : Prop := c.run.write.isSome = true ∧ c.channel.Written

def LostAfterSend (c : OrderCall) : Prop := c.Checked ∧ c.channel.LostAfterSend

def ConnectFailed (c : OrderCall) : Prop := c.Checked ∧ c.channel.ConnectFailed

end OrderCall

/-- A call that hands nothing over promises nothing. -/
theorem OrderRun.Reaches.retryable_and {α : Type} {r wire : OrderRun α} {checked given lost : Prop}
    (h : r.Reaches checked wire) (hwrite : given → wire.write.isSome = true) (hwire : wire.Retryable ∧ given ↔ lost) :
    r.Retryable ∧ r.write.isSome = true ∧ given ↔ checked ∧ lost := by
  rcases h with ⟨hnot, hnone, -⟩ | ⟨hchecked, rfl⟩
  · refine iff_of_false ?_ fun h => hnot h.1
    rintro ⟨-, hsome, -⟩
    rw [hnone] at hsome
    cases hsome
  · rw [and_iff_right hchecked, ← hwire]
    exact ⟨fun ⟨hr, _, hg⟩ => ⟨hr, hg⟩, fun ⟨hr, hg⟩ => ⟨hr, hwrite hg, hg⟩⟩

theorem RestMeets.isSome_write_post {α : Type} {w : RestMeets} {path : String} {form : List (String × String)}
    {policy : RetryPolicy} {guard : Option CancelEmitGuard} {emit : Except RestError Json → List OrderEvent}
    {decode : Json → Decoded α} : (w.post path form policy guard emit decode).write.isSome = true := by
  unfold RestMeets.post
  split <;> rfl

theorem WsMeets.isSome_write_send {α : Type} {w : WsMeets} {op : WsOp} {orderOp : OrderOp} {emitClOrdId : Option ClOrdId}
    {emitAmendId : Option AmendId} {params : Json} {indexOnAccept : Option (ClOrdId × Conn.Symbol)}
    {decode : WsResponse → Decoded α} (hhanded : w.Handed) :
    (w.send op orderOp emitClOrdId emitAmendId params indexOnAccept decode).write.isSome = true := by
  unfold WsMeets.send
  rw [hhanded.1]
  dsimp only
  split <;> rfl

theorem RestMeets.reaches_retryable {α : Type} {w : RestMeets} {policy : RetryPolicy} {r : OrderRun α} {checked : Prop}
    {path : String} {form : List (String × String)} {guard : Option CancelEmitGuard}
    {emit : Except RestError Json → List OrderEvent} {decode : Json → Decoded α}
    (h : r.Reaches checked (w.post path form policy guard emit decode))
    (hdecode : ∀ value, NeverTransport (decode value).result) :
    (r.Retryable ∧ r.write.isSome = true ∧ w.Handed policy ↔ checked ∧ (w.LostAfterSend policy ∨ w.ConnectFailed policy)) ∧
      (r.Retryable ∧ r.write.isSome = true ∧ w.Written policy ↔ checked ∧ w.LostAfterSend policy) := by
  obtain ⟨hhanded, hwritten⟩ := RestMeets.retryable_handed hdecode
  exact ⟨h.retryable_and (fun _ => RestMeets.isSome_write_post) hhanded,
    h.retryable_and (fun _ => RestMeets.isSome_write_post) hwritten⟩

theorem WsMeets.reaches_retryable {α : Type} {w : WsMeets} {r : OrderRun α} {checked : Prop} {op : WsOp} {orderOp : OrderOp}
    {emitClOrdId : Option ClOrdId} {emitAmendId : Option AmendId} {params : Json}
    {indexOnAccept : Option (ClOrdId × Conn.Symbol)} {decode : WsResponse → Decoded α}
    (h : r.Reaches checked (w.send op orderOp emitClOrdId emitAmendId params indexOnAccept decode))
    (hdecode : ∀ resp, NeverTransport (decode resp).result) (hd : (submittedIds (w.before ++ w.wait.after)).Nodup) :
    (r.Retryable ∧ r.write.isSome = true ∧ w.Handed ↔ checked ∧ (w.LostAfterSend ∨ False)) ∧
      (r.Retryable ∧ r.write.isSome = true ∧ w.Handed ↔ checked ∧ w.LostAfterSend) := by
  rw [or_false, and_self]
  exact h.retryable_and WsMeets.isSome_write_send (WsMeets.retryable_handed hd hdecode)

/-- What is retryable and was handed over, and what is retryable and was written. -/
theorem OrderCall.retryable_and (c : OrderCall) (hd : c.channel.IdsDistinct) :
    (c.run.Retryable ∧ c.Handed ↔ c.LostAfterSend ∨ c.ConnectFailed) ∧
      (c.run.Retryable ∧ c.Written ↔ c.LostAfterSend) := by
  unfold LostAfterSend ConnectFailed
  rw [← and_or_left]
  cases c with
  | addOrderRest req w =>
    obtain ⟨path, h⟩ := addOrderRest_reaches req w
    exact RestMeets.reaches_retryable h fun value => neverTransport_decodeAddOrder w.serde value req.clOrdId
  | amendOrderRest req w =>
    obtain ⟨path, h⟩ := amendOrderRest_reaches req w
    exact RestMeets.reaches_retryable h fun value => neverTransport_decodeAmendOrder w.serde value
  | orderBatchRest req w =>
    obtain ⟨path, h⟩ := orderBatchRest_reaches req w
    exact RestMeets.reaches_retryable h fun value =>
      neverTransport_indexBatch (neverTransport_decodeBatchRest w.serde _ value)
  | addOrderWs req w =>
    exact WsMeets.reaches_retryable (addOrderWs_reaches req w) (fun resp => neverTransport_decodeWsAddOrder _ resp) hd
  | amendOrderWs req w =>
    exact WsMeets.reaches_retryable (amendOrderWs_reaches req w) (fun resp => neverTransport_decodeWsAmendOrder resp) hd
  | orderBatchWs req w =>
    obtain ⟨params, h⟩ := orderBatchWs_reaches req w
    exact WsMeets.reaches_retryable h
      (fun resp => neverTransport_indexBatch (neverTransport_decodeAndGuardWsBatch _ resp)) hd

/-- **Retryable means never sent**, exactly if no answer is lost after the request has gone out; and never even handed to
the HTTP client, exactly if besides no connection failed. -/
theorem retryable_never_sent_iff (c : OrderCall) (hd : c.channel.IdsDistinct) :
    ((c.run.Retryable → ¬ c.Handed) ↔ ¬ c.LostAfterSend ∧ ¬ c.ConnectFailed) ∧
      ((c.run.Retryable → ¬ c.Written) ↔ ¬ c.LostAfterSend) := by
  obtain ⟨hhanded, hwritten⟩ := c.retryable_and hd
  constructor
  · rw [← not_and, hhanded, not_or]
  · rw [← not_and, hwritten]

/-! ## An order on a connection that is lost -/

def postOnlyAmend : OrderAmendRequest where
  clOrdId := ⟨"order"⟩
  orderVolume := none
  limitPrice := none
  postOnly := some true
  triggerPrice := none
  displayQty := none

/-- A fresh connection takes the frame, and then `last` happens. -/
def amendOnConnection (last : List WsLabel) : WsMeets where
  bus := true
  systemStatus := { status := "online", timestamp := "" }
  orderDeadline := none
  surface := true
  loopFailed := false
  ensured := some (.ok ())
  reqId := 7
  charged := true
  posted := .ok ()
  calledAt := 0
  sentAt := 0
  knobs := orderEnv.knobs
  before :=
    [⟨orderEnv, .event (.callStartConnect 1)⟩, ⟨orderEnv, .event (.wireUpgradeOk none)⟩,
      ⟨orderEnv, .wsRequestFrame ⟨7, "amend_order", .amendOrder, composeAmendOrderParams postOnlyAmend⟩⟩] ++
      last
  wait := .goesOn []

/-- The socket dies before the answer. -/
def connectionDropped : WsMeets :=
  amendOnConnection [⟨orderEnv, .event (.wireAbnormalClose ⟨.socketReset, true⟩)⟩]

theorem idsDistinct_waiting : (OrderCall.amendOrderWs postOnlyAmend (amendOnConnection [])).channel.IdsDistinct := by
  show (submittedIds _).Nodup
  decide

theorem retryable_never_sent_iff_waiting :
    let c : OrderCall := .amendOrderWs postOnlyAmend (amendOnConnection [])
    c.run.Retryable → ¬ c.Handed := by
  refine (retryable_never_sent_iff _ idsDistinct_waiting).1.2 ⟨fun h => ?_, fun h => h.2⟩
  have hlost : (amendOnConnection []).LostAfterSend := h.2
  rcases hlost with ⟨-, ⟨e, -, hm, -⟩ | ⟨hwait, -⟩⟩
  · revert hm
    have hnone : (wsRun .authUrl orderEnv.knobs (amendOnConnection []).before).resolutions 7 = [] := by decide
    exact hnone ▸ List.not_mem_nil
  · cases hwait

/-- It was written and reads as retryable. -/
theorem retryable_though_sent : ¬ ∀ c : OrderCall, c.channel.IdsDistinct → c.run.Retryable → ¬ c.Written := by
  intro h
  have hids : (OrderCall.amendOrderWs postOnlyAmend connectionDropped).channel.IdsDistinct := by
    show (submittedIds _).Nodup
    decide
  have hchecked : postOnlyAmend.WsChecked connectionDropped := ⟨rfl, rfl, by decide, rfl, rfl, rfl, rfl⟩
  have hdrained : (wsRun .authUrl orderEnv.knobs connectionDropped.before).resolutions 7 =
      [.error .requestInFlightWhenDropped] := rfl
  have hlost : connectionDropped.LostAfterSend :=
    ⟨rfl, .inl ⟨.requestInFlightWhenDropped, .inl rfl, hdrained ▸ List.mem_cons_self, nofun⟩⟩
  obtain ⟨hretry, hwritten⟩ := (OrderCall.retryable_and _ hids).2.2 ⟨hchecked, hlost⟩
  exact h _ hids hretry hwritten

end KrakenSdk.Trade
