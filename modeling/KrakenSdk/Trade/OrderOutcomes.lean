import KrakenSdk.Trade.SafeRetry
/-!
# One event for each order (api/trade/events.rs, executors.rs:115-203, 861-995)

An order write that went out has one lifecycle event: `OrderSubmittedEvent` for a definitive answer,
`OrderPlacementAmbiguousEvent` if there is none, `OrderCancellationAttempted` if its future is dropped. The executors
choose by the error of the transport, which does not always tell what became of the request (`Told`).
-/
namespace KrakenSdk.Rest

open KrakenSdk.Conn (Json)

/-- A definitive answer of Kraken. -/
inductive Answer where
  | success (result : Json)
  | rejection

/-- What Kraken answered, if the response is an envelope that says so. -/
def HttpSend.answer : HttpSend → Option Answer
  | .responded status (.ok json) =>
    if isSuccess status then
      match parseKrakenEnvelope json with
      | .ok value => some (.success value)
      | .error (.kraken _) => some .rejection
      | .error _ => none
    else none
  | _ => none

/-- A rejection, or a success that carries its id. -/
def Answer.WellFormed (carriesId : Json → Bool) : Answer → Prop
  | success result => carriesId result = true
  | rejection => True

/-- The outcome tells what became of the request: a failed send is ambiguous exactly if it was written, and a response
is an answer or cannot be read. -/
def HttpSend.Told : HttpSend → Prop
  | .failed e written => (classifyErrorFlags e).kind.isSentAmbiguous = written
  | .responded status (.ok json) => (HttpSend.responded status (.ok json)).answer.isSome = true
  | .responded status (.error e) => isSuccess status = true ∧ (classifyErrorFlags e).kind.isSentAmbiguous = true
  | .stalled written => written = true

/-- What an attempt is answered with. -/
def Attempt.answer (a : Attempt) : Option Answer := if a.handed then a.send.answer else none

/-- An attempt that the transport does not get. -/
theorem signedPostCostedOnce_of_not_handed {a : Attempt} (h : a.handed = false) :
    signedPostCostedOnce a = .error .rateLimit ∨ ∃ e, signedPostCostedOnce a = .error (.auth e) := by
  obtain ⟨headroom, sign, send⟩ := a
  cases headroom with
  | false => exact .inl rfl
  | true =>
    cases sign with
    | error e => exact .inr ⟨e, rfl⟩
    | ok u => cases h

/-- What an attempt makes of its send. -/
def HttpSend.outcome (send : HttpSend) : Except RestError Json :=
  match postFormSigned send with
  | some (.ok response) => parseKrakenEnvelope response
  | some (.error e) => .error (.transport e.kind e.transient)
  | none => .error (.transport .requestSentNoResponse true)

theorem signedPostCostedOnce_of_handed {a : Attempt} (h : a.handed = true) : signedPostCostedOnce a = a.send.outcome := by
  obtain ⟨headroom, sign, send⟩ := a
  cases headroom with
  | false => cases h
  | true =>
    cases sign with
    | error e => cases h
    | ok u => rfl

theorem attemptsMade_neverRetry (defaultMaxAttempts : Nat) (attempts : List Attempt) :
    attemptsMade .neverRetry defaultMaxAttempts attempts = attempts.take 1 := by
  cases attempts with
  | nil => rfl
  | cons a rest =>
    have hfirst : answeredBy .neverRetry defaultMaxAttempts (a :: rest) 0 = true := by
      rw [answeredBy, signedPostCosted_neverRetry]
      rfl
    unfold attemptsMade
    rw [List.length_cons, List.range_succ_eq_map, List.findIdx_cons, hfirst]
    rfl

end KrakenSdk.Rest

namespace KrakenSdk.Trade

open KrakenSdk.Conn (ConnectionError Json ManagedConnection WsOp WsResponse)
open KrakenSdk.Conn.ManagedConnection (WsLabel orderEnv submittedIds wsRun)
open KrakenSdk.Rest (Answer Attempt HttpSend RestError RetryPolicy attemptsMade parseKrakenEnvelope signedPostCosted
  signedPostCostedOnce)

/-- What an event tells of its order. -/
inductive OrderEvent.Kind where
  | submitted | ambiguous | cancellation
  deriving DecidableEq, Repr

def OrderEvent.kind : OrderEvent → Kind
  | .orderSubmittedEvent .. => .submitted
  | .orderPlacementAmbiguousEvent .. => .ambiguous
  | .orderCancellationAttempted .. => .cancellation

def OrderEvent.clOrdId : OrderEvent → ClOrdId
  | .orderSubmittedEvent c .. | .orderPlacementAmbiguousEvent c .. | .orderCancellationAttempted c .. => c

/-- The orders that events of one kind are about. -/
def published (kind : OrderEvent.Kind) (events : List OrderEvent) : List ClOrdId :=
  (events.filter (·.kind = kind)).map (·.clOrdId)

/-- One event of this kind, about this order. -/
def OneEvent (kind : OrderEvent.Kind) (cl : ClOrdId) (events : List OrderEvent) : Prop :=
  ∃ e, events = [e] ∧ e.kind = kind ∧ e.clOrdId = cl

theorem OneEvent.published_eq {kind : OrderEvent.Kind} {cl : ClOrdId} {events : List OrderEvent}
    (h : OneEvent kind cl events) (k : OrderEvent.Kind) : published k events = if kind = k then [cl] else [] := by
  obtain ⟨e, rfl, rfl, rfl⟩ := h
  by_cases hk : e.kind = k <;> simp [published, hk]

/-- The events account for the order `cl`, by what has become of it. -/
structure Accounted (events : List OrderEvent) (cl : ClOrdId) (written completed answered definitive dropped : Prop) :
    Prop where
  ambiguous : written → completed → ¬ answered → published .ambiguous events = [cl] ∧ published .submitted events = []
  submitted : definitive → published .submitted events = [cl] ∧ published .ambiguous events = []
  unsent : ¬ written → completed → published .submitted events = [] ∧ published .ambiguous events = []
  cancelled : dropped → published .cancellation events = [cl] ∧ published .submitted events = [] ∧
    published .ambiguous events = []

namespace Accounted

variable {cl : ClOrdId} {events : List OrderEvent} {written completed answered definitive dropped : Prop}

/-- No event. -/
theorem silent_iff (hevents : events = []) (hcompleted : completed) (hdropped : ¬ dropped) :
    Accounted events cl written completed answered definitive dropped ↔ (written → answered) ∧ ¬ definitive := by
  subst hevents
  constructor
  · intro h
    refine ⟨fun hwritten => by_contra fun hnot => ?_, fun hdefinitive => ?_⟩
    · cases (h.ambiguous hwritten hcompleted hnot).1
    · cases (h.submitted hdefinitive).1
  · rintro ⟨hanswered, hdefinitive⟩
    exact ⟨fun hwritten _ hnot => absurd (hanswered hwritten) hnot, fun h => absurd h hdefinitive,
      fun _ _ => ⟨rfl, rfl⟩, fun h => absurd h hdropped⟩

/-- The event of an unknown outcome. -/
theorem ambiguous_iff (hevents : OneEvent .ambiguous cl events) (hcompleted : completed) (hdropped : ¬ dropped) :
    Accounted events cl written completed answered definitive dropped ↔ written ∧ ¬ definitive := by
  have hambiguous : published .ambiguous events = [cl] := hevents.published_eq .ambiguous
  have hsubmitted : published .submitted events = [] := hevents.published_eq .submitted
  constructor
  · intro h
    refine ⟨by_contra fun hnot => ?_, fun hdefinitive => ?_⟩
    · cases hambiguous.symm.trans (h.unsent hnot hcompleted).2
    · cases hambiguous.symm.trans (h.submitted hdefinitive).2
  · rintro ⟨hwritten, hdefinitive⟩
    exact ⟨fun _ _ _ => ⟨hambiguous, hsubmitted⟩, fun h => absurd h hdefinitive, fun h => absurd hwritten h,
      fun h => absurd h hdropped⟩

/-- The event of a definitive answer. -/
theorem submitted_iff (hevents : OneEvent .submitted cl events) (hcompleted : completed) (hdropped : ¬ dropped) :
    Accounted events cl written completed answered definitive dropped ↔ written ∧ answered := by
  have hsubmitted : published .submitted events = [cl] := hevents.published_eq .submitted
  have hambiguous : published .ambiguous events = [] := hevents.published_eq .ambiguous
  constructor
  · intro h
    have hwritten : written := by_contra fun hnot => by cases hsubmitted.symm.trans (h.unsent hnot hcompleted).1
    exact ⟨hwritten, by_contra fun hnot => by cases hsubmitted.symm.trans (h.ambiguous hwritten hcompleted hnot).2⟩
  · rintro ⟨hwritten, hanswered⟩
    exact ⟨fun _ _ h => absurd hanswered h, fun _ => ⟨hsubmitted, hambiguous⟩, fun h => absurd hwritten h,
      fun h => absurd h hdropped⟩

end Accounted

/-! ## REST -/

/-- Whether a success over REST carries the id of the op. -/
def restCarriesId (op : OrderOp) (result : Json) : Bool :=
  match op with
  | .amendOrder => (amendIdInResult result).isSome
  | _ => (firstTxidInRestResult result).isSome

section

variable {cl : ClOrdId} {op : OrderOp} {sentAt : Conn.MonotonicInstant} {rid : String}

theorem emitRest_ok (hop : op = .addOrder ∨ op = .amendOrder) (value : Json) :
    OneEvent .submitted cl (emitRestSubmitOutcome true (.ok value) cl none op sentAt rid) ∨
      (emitRestSubmitOutcome true (.ok value) cl none op sentAt rid = [] ∧ restCarriesId op value = false) := by
  rcases hop with rfl | rfl
  · cases htxid : firstTxidInRestResult value with
    | some txid =>
      refine .inl ⟨.orderSubmittedEvent cl none .addOrder (.wireSent txid) (some rid), ?_, rfl, rfl⟩
      simp only [emitRestSubmitOutcome, htxid]
      rfl
    | none => exact .inr ⟨by simp only [emitRestSubmitOutcome, htxid], by simp only [restCarriesId, htxid, Option.isSome_none]⟩
  · exact .inl ⟨.orderSubmittedEvent cl _ .amendOrder .wireAccepted (some rid), rfl, rfl, rfl⟩

theorem emitRest_transport (hop : op = .addOrder ∨ op = .amendOrder) (kind : Conn.TransportErrorKind) (transient : Bool) :
    (kind.isSentAmbiguous = true ∧
        OneEvent .ambiguous cl (emitRestSubmitOutcome true (.error (.transport kind transient)) cl none op sentAt rid)) ∨
      (kind.isSentAmbiguous = false ∧
        emitRestSubmitOutcome true (.error (.transport kind transient)) cl none op sentAt rid = []) := by
  have hambiguous : opEmitsAmbiguous op = true := by rcases hop with rfl | rfl <;> rfl
  cases hkind : kind.isSentAmbiguous with
  | true =>
    refine .inl ⟨rfl, .orderPlacementAmbiguousEvent cl none op sentAt (some rid), ?_, rfl, rfl⟩
    simp only [emitRestSubmitOutcome, hambiguous, hkind, Bool.and_self, if_true]
    rfl
  | false => exact .inr ⟨rfl, by simp only [emitRestSubmitOutcome, hkind, Bool.and_false, Bool.false_eq_true, if_false]⟩

variable {written completed answered definitive dropped : Prop}

theorem accounted_transport (hop : op = .addOrder ∨ op = .amendOrder) (kind : Conn.TransportErrorKind) (transient : Bool)
    (hcompleted : completed) (hdropped : ¬ dropped) (hanswered : ¬ answered) (hdefinitive : ¬ definitive) :
    Accounted (emitRestSubmitOutcome true (.error (.transport kind transient)) cl none op sentAt rid) cl written completed
      answered definitive dropped ↔ (kind.isSentAmbiguous = true ↔ written) := by
  rcases emitRest_transport hop kind transient with ⟨hkind, hevents⟩ | ⟨hkind, hevents⟩
  · rw [Accounted.ambiguous_iff hevents hcompleted hdropped, and_iff_left hdefinitive, hkind, iff_true_left rfl]
  · rw [Accounted.silent_iff hevents hcompleted hdropped, and_iff_left hdefinitive, hkind,
      iff_false_left Bool.false_ne_true]
    exact ⟨fun h hwritten => hanswered (h hwritten), fun h hwritten => absurd hwritten h⟩

theorem accounted_ok (hop : op = .addOrder ∨ op = .amendOrder) {value : Json} (hcompleted : completed)
    (hdropped : ¬ dropped) (hwritten : written)
    (hdefinitive : definitive ↔ restCarriesId op value = true) :
    Accounted (emitRestSubmitOutcome true (.ok value) cl none op sentAt rid) cl written completed answered definitive
      dropped ↔ answered := by
  rcases emitRest_ok hop value with hevents | ⟨hevents, hcarries⟩
  · rw [Accounted.submitted_iff hevents hcompleted hdropped, and_iff_right hwritten]
  · have hnot : ¬ definitive := by
      rw [hdefinitive, hcarries]
      exact Bool.false_ne_true
    rw [Accounted.silent_iff hevents hcompleted hdropped, and_iff_left hnot, forall_prop_of_true hwritten]

/-- What a send publishes, whether or not a success must carry its id to count as an answer. -/
theorem accounted_send (hop : op = .addOrder ∨ op = .amendOrder) (needsId : Bool) (hcompleted : completed)
    (hdropped : ¬ dropped) (send : HttpSend) :
    Accounted (emitRestSubmitOutcome true send.outcome cl none op sentAt rid) cl (send.written = true) completed
        (∃ ans, send.answer = some ans ∧ (needsId = true → ans.WellFormed (restCarriesId op)))
        (∃ ans, send.answer = some ans ∧ ans.WellFormed (restCarriesId op)) dropped ↔
      send.Told ∧ ∀ ans, send.answer = some ans → needsId = true → ans.WellFormed (restCarriesId op) := by
  have hunanswered {p : Answer → Prop} (h : send.answer = none) : ¬ ∃ ans, send.answer = some ans ∧ p ans := by
    rintro ⟨ans, hans, -⟩
    cases h.symm.trans hans
  have hvacuous (h : send.answer = none) :
      ∀ ans, send.answer = some ans → needsId = true → ans.WellFormed (restCarriesId op) := by
    intro ans hans
    cases h.symm.trans hans
  cases send with
  | failed e written =>
    rw [and_iff_left (hvacuous rfl)]
    refine (accounted_transport hop _ _ hcompleted hdropped (hunanswered rfl) (hunanswered rfl)).trans ?_
    exact Bool.coe_iff_coe
  | stalled written =>
    rw [and_iff_left (hvacuous rfl)]
    refine (accounted_transport hop _ _ hcompleted hdropped (hunanswered rfl) (hunanswered rfl)).trans ?_
    exact iff_true_left rfl
  | responded status body =>
    have hwritten : (HttpSend.responded status body).written = true := rfl
    cases hsuccess : Rest.isSuccess status with
    | false =>
      have houtcome : (HttpSend.responded status body).outcome =
          .error (.transport (.httpStatus status) (Rest.isTransientStatus status)) := by
        simp only [HttpSend.outcome, Rest.postFormSigned, hsuccess]
        rfl
      have hnone : (HttpSend.responded status body).answer = none := by
        cases body with
        | ok json => simp only [HttpSend.answer, hsuccess, Bool.false_eq_true, if_false]
        | error e => rfl
      have huntold : ¬ (HttpSend.responded status body).Told := by
        cases body with
        | ok json =>
          intro htold
          cases (congrArg Option.isSome hnone).symm.trans htold
        | error e => exact fun htold => by cases hsuccess.symm.trans htold.1
      rw [houtcome]
      refine (accounted_transport hop _ _ hcompleted hdropped (hunanswered hnone) (hunanswered hnone)).trans ?_
      exact iff_of_false (fun h => by cases h.2 hwritten) fun h => huntold h.1
    | true =>
      cases body with
      | error e =>
        have houtcome : (HttpSend.responded status (.error e)).outcome =
            .error (.transport (Rest.classifyErrorFlags e).kind (Rest.classifyErrorFlags e).transient) := by
          simp only [HttpSend.outcome, Rest.postFormSigned, hsuccess]
          rfl
        rw [houtcome, and_iff_left (hvacuous rfl)]
        refine (accounted_transport hop _ _ hcompleted hdropped (hunanswered rfl) (hunanswered rfl)).trans ?_
        rw [iff_true_right hwritten]
        exact (and_iff_right hsuccess).symm
      | ok json =>
        have houtcome : (HttpSend.responded status (.ok json)).outcome = parseKrakenEnvelope json := by
          simp only [HttpSend.outcome, Rest.postFormSigned, hsuccess]
          rfl
        rw [houtcome]
        cases henvelope : parseKrakenEnvelope json with
        | ok value =>
          have hanswer : (HttpSend.responded status (.ok json)).answer = some (.success value) := by
            simp only [HttpSend.answer, hsuccess, if_true, henvelope]
          have htold : (HttpSend.responded status (.ok json)).Told := congrArg Option.isSome hanswer
          rw [hanswer]
          refine (accounted_ok hop hcompleted hdropped hwritten ?_).trans ?_
          · simp [Answer.WellFormed]
          · simp [htold]
        | error e =>
          rcases Rest.parseKrakenEnvelope_error henvelope with ⟨codes, rfl⟩ | ⟨detail, rfl⟩
          · have hanswer : (HttpSend.responded status (.ok json)).answer = some .rejection := by
              simp only [HttpSend.answer, hsuccess, if_true, henvelope]
            have htold : (HttpSend.responded status (.ok json)).Told := congrArg Option.isSome hanswer
            rw [hanswer]
            refine (Accounted.submitted_iff ⟨_, rfl, rfl, rfl⟩ hcompleted hdropped).trans ?_
            simp [htold, hwritten, Answer.WellFormed]
          · have hnone : (HttpSend.responded status (.ok json)).answer = none := by
              simp only [HttpSend.answer, hsuccess, if_true, henvelope]
            have huntold : ¬ (HttpSend.responded status (.ok json)).Told := by
              intro htold
              cases (congrArg Option.isSome hnone).symm.trans htold
            refine (Accounted.submitted_iff ⟨_, rfl, rfl, rfl⟩ hcompleted hdropped).trans ?_
            exact iff_of_false (fun h => hunanswered hnone h.2) fun h => huntold h.1

/-- An attempt that the transport does not get publishes nothing. -/
theorem emitRest_of_not_handed {a : Attempt} (h : a.handed = false) :
    emitRestSubmitOutcome true (signedPostCostedOnce a) cl none op sentAt rid = [] := by
  rcases Rest.signedPostCostedOnce_of_not_handed h with houtcome | ⟨e, houtcome⟩ <;> rw [houtcome] <;> rfl

theorem accounted_attempt (hop : op = .addOrder ∨ op = .amendOrder) (needsId : Bool) (hcompleted : completed)
    (hdropped : ¬ dropped) (a : Attempt) :
    Accounted (emitRestSubmitOutcome true (signedPostCostedOnce a) cl none op sentAt rid) cl (a.wired = true) completed
        (∃ ans, a.answer = some ans ∧ (needsId = true → ans.WellFormed (restCarriesId op)))
        (∃ ans, a.answer = some ans ∧ ans.WellFormed (restCarriesId op)) dropped ↔
      (a.handed = true → a.send.Told) ∧
        ∀ ans, a.answer = some ans → needsId = true → ans.WellFormed (restCarriesId op) := by
  cases hhanded : a.handed with
  | true =>
    have hanswer : a.answer = a.send.answer := if_pos hhanded
    have hwired : a.wired = a.send.written := by rw [Attempt.wired, hhanded, Bool.true_and]
    rw [Rest.signedPostCostedOnce_of_handed hhanded, hanswer, hwired, forall_prop_of_true rfl]
    exact accounted_send hop needsId hcompleted hdropped a.send
  | false =>
    have hnone : a.answer = none := by rw [Attempt.answer, hhanded]; rfl
    have hwired : a.wired = false := by rw [Attempt.wired, hhanded, Bool.false_and]
    refine (Accounted.silent_iff (emitRest_of_not_handed hhanded) hcompleted hdropped).trans ?_
    simp [hnone, hwired]

end

namespace RestMeets

variable (w : RestMeets)

/-- What the one attempt of an order that is no test is answered with. -/
def answer : Option Answer := w.attempts.head?.bind (·.answer)

/-- Its outcome tells what became of it. -/
def Told : Prop := ∀ a, w.attempts.head? = some a → a.handed = true → a.send.Told

/-- The future is dropped while it waits. -/
def Dropped (policy : RetryPolicy) : Prop :=
  signedPostCosted policy w.defaultMaxAttempts w.attempts = none ∧ w.dropped = true

variable {w}

theorem accounted_post {α : Type} {cl : ClOrdId} {op : OrderOp} (hop : op = .addOrder ∨ op = .amendOrder)
    (hbus : w.bus = true) (needsId : Bool) (path : String) (form : List (String × String)) (decode : Json → Decoded α) :
    let run := w.post path form .neverRetry (some (.arm cl op (some w.requestId)))
      (emitRestSubmitOutcome w.bus · cl none op w.sentAt w.requestId) decode
    Accounted run.events cl (w.Written .neverRetry) (run.result.isSome = true)
        (∃ ans, w.answer = some ans ∧ (needsId = true → ans.WellFormed (restCarriesId op)))
        (∃ ans, w.answer = some ans ∧ ans.WellFormed (restCarriesId op)) (w.Dropped .neverRetry) ↔
      w.Told ∧ ∀ ans, w.answer = some ans → needsId = true → ans.WellFormed (restCarriesId op) := by
  intro run
  have hpost : signedPostCosted .neverRetry w.defaultMaxAttempts w.attempts = w.attempts.head?.map signedPostCostedOnce :=
    Rest.signedPostCosted_neverRetry _ _
  cases hattempts : w.attempts with
  | nil =>
    have hnone : signedPostCosted .neverRetry w.defaultMaxAttempts w.attempts = none := by rw [hpost, hattempts]; rfl
    have hrun : run.result = none ∧ (w.dropped = true → OneEvent .cancellation cl run.events) := by
      show (RestMeets.post ..).result = none ∧ (_ → OneEvent _ _ (RestMeets.post ..).events)
      unfold RestMeets.post
      rw [hnone, hbus]
      refine ⟨rfl, fun hdropped => ⟨.orderCancellationAttempted cl op (some w.requestId), ?_, rfl, rfl⟩⟩
      simp only [hdropped, if_true]
      rfl
    have hanswer : w.answer = none := by rw [answer, hattempts]; rfl
    have hincomplete : ¬ run.result.isSome = true := by
      rw [hrun.1]
      exact Bool.false_ne_true
    refine iff_of_true ⟨fun _ h => absurd h hincomplete, ?_, fun _ h => absurd h hincomplete, ?_⟩ ⟨?_, ?_⟩
    · rintro ⟨ans, hans, -⟩
      cases hanswer.symm.trans hans
    · rintro ⟨-, hdropped⟩
      have hevents := hrun.2 hdropped
      exact ⟨hevents.published_eq .cancellation, hevents.published_eq .submitted, hevents.published_eq .ambiguous⟩
    · intro a ha
      rw [hattempts] at ha
      cases ha
    · intro ans hans
      cases hanswer.symm.trans hans
  | cons a rest =>
    have hsome : signedPostCosted .neverRetry w.defaultMaxAttempts w.attempts = some (signedPostCostedOnce a) := by
      rw [hpost, hattempts]
      rfl
    have hrun : run.result.isSome = true ∧
        run.events = emitRestSubmitOutcome true (signedPostCostedOnce a) cl none op w.sentAt w.requestId := by
      show (RestMeets.post ..).result.isSome = true ∧ (RestMeets.post ..).events = _
      unfold RestMeets.post
      rw [hsome, hbus]
      exact ⟨rfl, List.append_nil _⟩
    have hanswer : w.answer = a.answer := by rw [answer, hattempts]; rfl
    have hwritten : w.Written .neverRetry ↔ a.wired = true := by
      rw [Written, Rest.attemptsMade_neverRetry, hattempts]
      simp
    have hdropped : ¬ w.Dropped .neverRetry := by
      rintro ⟨hnone, -⟩
      cases hsome.symm.trans hnone
    have htold : w.Told ↔ (a.handed = true → a.send.Told) := by
      rw [Told, hattempts]
      exact ⟨fun h => h a rfl, fun h b hb => by cases hb; exact h⟩
    rw [hrun.2, hanswer, hwritten, htold]
    exact accounted_attempt hop needsId hrun.1 hdropped a

end RestMeets

/-! ## WS -/

/-- Whether a success over WS carries the id of the op. -/
def wsCarriesId (op : OrderOp) (result : Json) : Bool :=
  match op with
  | .amendOrder => (amendIdInResult result).isSome
  | _ => (wsTxidInResult result).isSome

/-- The answer in a reply. -/
def answerOfReply (resp : WsResponse) : Answer := if resp.success then .success resp.result else .rejection

section

variable {cl : ClOrdId} {op : OrderOp} {sentAt : Conn.MonotonicInstant} {rid : String}

theorem emitWs_ok (hop : op = .addOrder ∨ op = .amendOrder) (resp : WsResponse) :
    OneEvent .submitted cl (emitWsOutcome true (.ok resp) cl none op sentAt rid) ∨
      (emitWsOutcome true (.ok resp) cl none op sentAt rid = [] ∧ ¬ (answerOfReply resp).WellFormed (wsCarriesId op)) := by
  have hemits : opEmitsSubmitted op = true := by rcases hop with rfl | rfl <;> rfl
  cases hsuccess : resp.success with
  | false =>
    refine .inl ⟨.orderSubmittedEvent cl none op (wsWireErrorStatus resp.error) (some rid), ?_, rfl, rfl⟩
    simp only [emitWsOutcome, hemits, hsuccess, Bool.not_true, Bool.false_eq_true, if_false]
    rfl
  | true =>
    rcases hop with rfl | rfl
    · cases htxid : wsTxidInResult resp.result with
      | some txid =>
        refine .inl ⟨.orderSubmittedEvent cl none .addOrder (.wireSent txid) (some rid), ?_, rfl, rfl⟩
        simp only [emitWsOutcome, hemits, hsuccess, htxid, Bool.not_true, Bool.false_eq_true, if_false, if_true]
        rfl
      | none =>
        refine .inr ⟨?_, ?_⟩
        · simp only [emitWsOutcome, hsuccess, htxid, if_true, ite_self]
        · simp [answerOfReply, hsuccess, Answer.WellFormed, wsCarriesId, htxid]
    · refine .inl ⟨.orderSubmittedEvent cl ((amendIdInResult resp.result).or none) .amendOrder .wireAccepted (some rid), ?_, rfl,
        rfl⟩
      simp only [emitWsOutcome, hemits, hsuccess, Bool.not_true, Bool.false_eq_true, if_false, if_true]
      rfl

theorem emitWs_error (hop : op = .addOrder ∨ op = .amendOrder) (e : ConnectionError) :
    (e.isDefinitelyNotSent = true ∧ emitWsOutcome true (.error e) cl none op sentAt rid = []) ∨
      (e.isDefinitelyNotSent = false ∧ OneEvent .ambiguous cl (emitWsOutcome true (.error e) cl none op sentAt rid)) := by
  have hemits : opEmitsAmbiguous op = true := by rcases hop with rfl | rfl <;> rfl
  cases hsent : e.isDefinitelyNotSent with
  | true => exact .inl ⟨rfl, by simp only [emitWsOutcome, hsent, if_true]⟩
  | false =>
    refine .inr ⟨rfl, .orderPlacementAmbiguousEvent cl none op sentAt (some rid), ?_, rfl, rfl⟩
    simp only [emitWsOutcome, hsent, hemits, Bool.false_eq_true, if_false, if_true]
    rfl

end

namespace WsMeets

variable (w : WsMeets)

/-- What the request is answered with. -/
def answer : Option Answer :=
  match w.recv with
  | some (.ok resp) => some (answerOfReply resp)
  | _ => none

/-- The future is dropped while it waits. -/
def Dropped : Prop := ∃ after, w.wait = .dropped after

/-- The wait ends on its own, with the reactor or by the deadline. -/
def EndsAlone : Prop :=
  w.wait = .loopGone ∨ ((∃ after, w.wait = .elapsed after) ∧ w.orderDeadline.isSome = true)

/-- An unresolved wait that ends on its own ends with a socket that has the frame, or gets it. -/
def Told : Prop :=
  w.posted = .ok () → (wsRun .authUrl w.knobs w.before).resolutions w.reqId = [] → w.EndsAlone →
    (wsRun .authUrl w.knobs (w.before ++ w.wait.after)).HandedOver w.reqId

variable {w}

/-- A frame that the queue refuses fails as not sent. -/
theorem recv_of_refused {reject : PostReject} {r : Except ConnectionError WsResponse} (h : w.posted = .error reject)
    (hrecv : w.recv = some r) : ∃ e, r = .error e ∧ e.isDefinitelyNotSent = true := by
  have hresolved : ∃ e : ConnectionError, w.resolved = some (.error e) ∧ e.isDefinitelyNotSent = true := by
    rw [WsMeets.resolved, h]
    cases reject with
    | full => exact ⟨.queueFull, rfl, rfl⟩
    | closed => exact ⟨.notOpen, rfl, rfl⟩
  obtain ⟨e, hresolved, hsent⟩ := hresolved
  unfold WsMeets.recv at hrecv
  rw [hresolved] at hrecv
  cases hwait : w.wait <;> rw [hwait] at hrecv <;> cases hrecv <;> exact ⟨e, rfl, hsent⟩

/-- The request was handed over exactly if what the wait returns does not say that it was not. -/
theorem told_iff (hd : (submittedIds (w.before ++ w.wait.after)).Nodup) {r : Except ConnectionError WsResponse}
    (hrecv : w.recv = some r) : w.Told ↔ (w.Handed ↔ ∀ e, r = .error e → e.isDefinitelyNotSent = false) := by
  have halone {e : ConnectionError} (hsent : e.isDefinitelyNotSent = false) (hr : r = .error e) (hposted : w.posted = .ok ())
      (hnone : (wsRun .authUrl w.knobs w.before).resolutions w.reqId = []) (hends : w.EndsAlone) :
      w.Told ↔ (w.Handed ↔ ∀ e, r = .error e → e.isDefinitelyNotSent = false) := by
    have hmay : ∀ e, r = .error e → e.isDefinitelyNotSent = false := by
      rintro e' he'
      cases hr.symm.trans he'
      exact hsent
    rw [iff_true_right hmay]
    exact ⟨fun h => ⟨hposted, h hposted hnone hends⟩, fun h _ _ _ => h.2⟩
  cases hposted : w.posted with
  | error reject =>
    have hunposted : w.posted ≠ .ok () := by
      rw [hposted]
      exact nofun
    obtain ⟨e, rfl, hsent⟩ := recv_of_refused hposted hrecv
    refine iff_of_true (fun h => absurd h hunposted) (iff_of_false (fun h => hunposted h.1) fun h => ?_)
    cases hsent.symm.trans (h e rfl)
  | ok u =>
    rcases w.recv_eq_some hposted hrecv with ⟨hm, -⟩ | ⟨hr, hwait, hnone⟩ | ⟨hr, hwait, hdeadline, hnone⟩
    · refine iff_of_true (fun _ hnone => ?_) ?_
      · rw [hnone] at hm
        cases hm
      · have hhanded : w.Handed ↔ r ≠ .error .notOpen := by
          rw [← handedOver_of_mem hd hm]
          exact and_iff_right hposted
        rw [hhanded]
        rcases ManagedConnection.resolution_run .authUrl w.knobs w.before r hm with rfl | ⟨e, rfl, hdrained⟩ | rfl | ⟨resp, rfl⟩
        · exact iff_of_false (fun h => h rfl) fun h => by cases h .notOpen rfl
        · rcases hdrained with rfl | rfl
          · exact iff_of_true nofun (by rintro _ ⟨⟩; rfl)
          · exact iff_of_true nofun (by rintro _ ⟨⟩; rfl)
        · exact iff_of_true nofun (by rintro _ ⟨⟩; rfl)
        · exact iff_of_true nofun nofun
    · exact halone rfl hr hposted hnone (.inl hwait)
    · exact halone rfl hr hposted hnone (.inr ⟨hwait, hdeadline⟩)

theorem told_of_recv_none (hrecv : w.recv = none) : w.Told := by
  rintro hposted - hends
  have hsome : w.recv.isSome = true := by
    unfold WsMeets.recv
    rcases hends with hwait | ⟨⟨after, hwait⟩, hdeadline⟩
    · rw [hwait]
      cases w.resolved <;> rfl
    · rw [hwait, hdeadline]
      cases w.resolved <;> rfl
  rw [hrecv] at hsome
  cases hsome

/-- A request that is answered was handed over. -/
theorem handed_of_reply (hd : (submittedIds (w.before ++ w.wait.after)).Nodup) {resp : WsResponse}
    (hrecv : w.recv = some (.ok resp)) : w.Handed := by
  cases hposted : w.posted with
  | error reject =>
    obtain ⟨e, he, -⟩ := recv_of_refused hposted hrecv
    cases he
  | ok u =>
    rcases w.recv_eq_some hposted hrecv with ⟨hm, -⟩ | ⟨hr, -⟩ | ⟨hr, -⟩
    · exact ⟨hposted, (handedOver_of_mem hd hm).2 nofun⟩
    · cases hr
    · cases hr

theorem accounted_send {α : Type} {cl : ClOrdId} {orderOp : OrderOp} (hop : orderOp = .addOrder ∨ orderOp = .amendOrder)
    (hbus : w.bus = true) (hd : (submittedIds (w.before ++ w.wait.after)).Nodup) (needsId : Bool) (op : WsOp) (params : Json)
    (indexOnAccept : Option (ClOrdId × Conn.Symbol)) (decode : WsResponse → Decoded α) :
    let run := w.send op orderOp (some cl) none params indexOnAccept decode
    Accounted run.events cl w.Handed (run.result.isSome = true)
        (∃ ans, w.answer = some ans ∧ (needsId = true → ans.WellFormed (wsCarriesId orderOp)))
        (∃ ans, w.answer = some ans ∧ ans.WellFormed (wsCarriesId orderOp)) w.Dropped ↔
      w.Told ∧ ∀ ans, w.answer = some ans → needsId = true → ans.WellFormed (wsCarriesId orderOp) := by
  intro run
  have hcancels : opEmitsCancellation orderOp = true := by rcases hop with rfl | rfl <;> rfl
  cases hrecv : w.recv with
  | none =>
    have hanswer : w.answer = none := by rw [answer, hrecv]
    have hrun : run.result = none ∧ (w.Dropped → OneEvent .cancellation cl run.events) := by
      show (WsMeets.send ..).result = none ∧ (_ → OneEvent _ _ (WsMeets.send ..).events)
      unfold WsMeets.send
      rw [hrecv, hbus, hcancels]
      refine ⟨rfl, ?_⟩
      rintro ⟨after, hwait⟩
      rw [hwait]
      exact ⟨.orderCancellationAttempted cl orderOp (some (toString w.reqId)), rfl, rfl, rfl⟩
    have hincomplete : ¬ run.result.isSome = true := by
      rw [hrun.1]
      exact Bool.false_ne_true
    refine iff_of_true ⟨fun _ h => absurd h hincomplete, ?_, fun _ h => absurd h hincomplete, fun hdropped => ?_⟩
      ⟨told_of_recv_none hrecv, ?_⟩
    · rintro ⟨ans, hans, -⟩
      cases hanswer.symm.trans hans
    · have hevents := hrun.2 hdropped
      exact ⟨hevents.published_eq .cancellation, hevents.published_eq .submitted, hevents.published_eq .ambiguous⟩
    · intro ans hans
      cases hanswer.symm.trans hans
  | some r =>
    have hrun : run.result.isSome = true ∧
        run.events = emitWsOutcome true r cl none orderOp w.sentAt (toString w.reqId) := by
      show (WsMeets.send ..).result.isSome = true ∧ (WsMeets.send ..).events = _
      unfold WsMeets.send
      rw [hrecv, hbus, hcancels]
      exact ⟨rfl, List.append_nil _⟩
    have hdropped : ¬ w.Dropped := by
      rintro ⟨after, hwait⟩
      rw [WsMeets.recv, hwait] at hrecv
      cases hrecv
    have htold := told_iff hd hrecv
    rw [hrun.2]
    cases r with
    | ok resp =>
      have hanswer : w.answer = some (answerOfReply resp) := by rw [answer, hrecv]
      have hhanded : w.Handed := handed_of_reply hd hrecv
      have hall : w.Told := htold.2 (iff_of_true hhanded nofun)
      rw [hanswer, and_iff_right hall]
      rcases emitWs_ok hop resp with hevents | ⟨hevents, hnot⟩
      · rw [Accounted.submitted_iff hevents hrun.1 hdropped, and_iff_right hhanded]
        simp
      · rw [Accounted.silent_iff hevents hrun.1 hdropped, forall_prop_of_true hhanded]
        simp [hnot]
    | error e =>
      have hnone : w.answer = none := by rw [answer, hrecv]
      have hunanswered {p : Answer → Prop} : ¬ ∃ ans, w.answer = some ans ∧ p ans := by
        rintro ⟨ans, hans, -⟩
        cases hnone.symm.trans hans
      have hvacuous : ∀ ans, w.answer = some ans → needsId = true → ans.WellFormed (wsCarriesId orderOp) := by
        intro ans hans
        cases hnone.symm.trans hans
      rw [and_iff_left hvacuous, htold]
      rcases emitWs_error hop e with ⟨hsent, hevents⟩ | ⟨hsent, hevents⟩
      · have hnotSent : ¬ ∀ e', (.error e : Except ConnectionError WsResponse) = .error e' →
            e'.isDefinitelyNotSent = false := fun h => by cases hsent.symm.trans (h e rfl)
        rw [Accounted.silent_iff hevents hrun.1 hdropped, and_iff_left hunanswered, iff_false_right hnotSent]
        exact ⟨fun h hhanded => hunanswered (h hhanded), fun h hhanded => absurd hhanded h⟩
      · have hmay : ∀ e', (.error e : Except ConnectionError WsResponse) = .error e' → e'.isDefinitelyNotSent = false := by
          rintro e' ⟨⟩
          exact hsent
        rw [Accounted.ambiguous_iff hevents hrun.1 hdropped, and_iff_left hunanswered, iff_true_right hmay]

end WsMeets

/-! ## Every single order -/

namespace Channel

def answer : Channel → Option Answer
  | rest w _ => w.answer
  | ws w => w.answer

def Dropped : Channel → Prop
  | rest w policy => w.Dropped policy
  | ws w => w.Dropped

def Told : Channel → Prop
  | rest w _ => w.Told
  | ws w => w.Told

def bus : Channel → Bool
  | rest w _ => w.bus
  | ws w => w.bus

/-- Whether a success carries the id of the op. -/
def carriesId (op : OrderOp) : Channel → Json → Bool
  | rest .. => restCarriesId op
  | ws _ => wsCarriesId op

end Channel

namespace OrderCall

/-- The order that a call which is no test and no batch is about. -/
def placed : OrderCall → Option ClOrdId
  | addOrderRest req _ | addOrderWs req _ => if req.validateOnly then none else req.clOrdId
  | amendOrderRest req _ | amendOrderWs req _ => some req.clOrdId
  | orderBatchRest .. | orderBatchWs .. => none

def op : OrderCall → OrderOp
  | addOrderRest .. | addOrderWs .. => .addOrder
  | amendOrderRest .. | amendOrderWs .. => .amendOrder
  | orderBatchRest .. | orderBatchWs .. => .orderBatch

/-- Its answer, if any, is a rejection or carries the id. -/
def WellAnswered (c : OrderCall) (ans : Answer) : Prop := ans.WellFormed (c.channel.carriesId c.op)

/-- Every outcome has its event; `needsId` says whether a success without its id is no answer. -/
def AccountedFor (c : OrderCall) (needsId : Bool) (cl : ClOrdId) : Prop :=
  Accounted c.run.events cl c.Written (c.run.result.isSome = true)
    (c.Checked ∧ ∃ ans, c.channel.answer = some ans ∧ (needsId = true → c.WellAnswered ans))
    (c.Checked ∧ ∃ ans, c.channel.answer = some ans ∧ c.WellAnswered ans) (c.Checked ∧ c.channel.Dropped)

end OrderCall

/-- A call that hands nothing over publishes nothing. -/
theorem OrderRun.Reaches.accounted_iff {α : Type} {r wire : OrderRun α} {cl : ClOrdId}
    {checked given answered definitive dropped told : Prop} (h : r.Reaches checked wire)
    (hwrite : given → wire.write.isSome = true)
    (hwire : Accounted wire.events cl given (wire.result.isSome = true) answered definitive dropped ↔ told) :
    Accounted r.events cl (r.write.isSome = true ∧ given) (r.result.isSome = true) (checked ∧ answered)
      (checked ∧ definitive) (checked ∧ dropped) ↔ (checked → told) := by
  rcases h with ⟨hnot, hnone, hevents, -⟩ | ⟨hchecked, rfl⟩
  · refine iff_of_true ⟨?_, fun h => absurd h.1 hnot, fun _ _ => ?_, fun h => absurd h.1 hnot⟩ fun h => absurd h hnot
    · rintro ⟨hsome, -⟩
      rw [hnone] at hsome
      cases hsome
    · rw [hevents]
      exact ⟨rfl, rfl⟩
  · rw [forall_prop_of_true hchecked, and_iff_right hchecked, and_iff_right hchecked, and_iff_right hchecked,
      and_iff_right_of_imp hwrite]
    exact hwire

/-- **Every single order has its event** exactly if the outcome of its transport tells what became of it. -/
theorem accountedFor_iff (needsId : Bool) (c : OrderCall) (cl : ClOrdId) (hplaced : c.placed = some cl)
    (hbus : c.channel.bus = true) (hd : c.channel.IdsDistinct) :
    c.AccountedFor needsId cl ↔ (c.Checked →
      c.channel.Told ∧ ∀ ans, c.channel.answer = some ans → needsId = true → c.WellAnswered ans) := by
  cases c with
  | addOrderRest req w =>
    obtain ⟨path, h⟩ := addOrderRest_reaches req w
    rw [OrderCall.placed] at hplaced
    split_ifs at hplaced with hvalidate
    have hpolicy : placementPolicy req.validateOnly = .neverRetry := by
      rw [Bool.eq_false_of_not_eq_true hvalidate]
      rfl
    have hchannel : (OrderCall.addOrderRest req w).channel = .rest w .neverRetry := by rw [OrderCall.channel, hpolicy]
    rw [hplaced, hpolicy] at h
    unfold OrderCall.AccountedFor OrderCall.Written OrderCall.WellAnswered
    rw [hchannel] at hbus ⊢
    exact h.accounted_iff (fun _ => RestMeets.isSome_write_post) (RestMeets.accounted_post (.inl rfl) hbus needsId _ _ _)
  | amendOrderRest req w =>
    cases hplaced
    obtain ⟨path, h⟩ := amendOrderRest_reaches req w
    exact h.accounted_iff (fun _ => RestMeets.isSome_write_post) (RestMeets.accounted_post (.inr rfl) hbus needsId _ _ _)
  | addOrderWs req w =>
    rw [OrderCall.placed] at hplaced
    split_ifs at hplaced with hvalidate
    have h := addOrderWs_reaches req w
    rw [hplaced] at h
    exact h.accounted_iff WsMeets.isSome_write_send (WsMeets.accounted_send (.inl rfl) hbus hd needsId _ _ _ _)
  | amendOrderWs req w =>
    cases hplaced
    exact (amendOrderWs_reaches req w).accounted_iff WsMeets.isSome_write_send
      (WsMeets.accounted_send (.inr rfl) hbus hd needsId _ _ _ _)
  | orderBatchRest req w => cases hplaced
  | orderBatchWs req w => cases hplaced

/-- The socket dies before the answer to an amend: an event says that its outcome is unknown. -/
theorem accountedFor_iff_dropped :
    (OrderCall.amendOrderWs postOnlyAmend connectionDropped).AccountedFor true postOnlyAmend.clOrdId := by
  have hd : (OrderCall.amendOrderWs postOnlyAmend connectionDropped).channel.IdsDistinct := by
    show (submittedIds _).Nodup
    decide
  refine (accountedFor_iff true _ _ rfl rfl hd).2 fun _ => ⟨?_, ?_⟩
  · have hdrained : (wsRun .authUrl orderEnv.knobs connectionDropped.before).resolutions 7 ≠ [] := by decide
    exact fun _ hnone => absurd hnone hdrained
  · intro ans hans
    have hnone : connectionDropped.answer = none := rfl
    cases hnone.symm.trans hans

/-- An amend over REST that is answered with status 503. -/
def amendUnavailable : RestMeets where
  bus := true
  route := .ok "/0/private/AmendOrder"
  requestId := "id"
  charged := true
  sentAt := 0
  defaultMaxAttempts := 3
  attempts := [{ headroom := true, sign := .ok (), send := .responded 503 (.ok .null) }]
  dropped := false
  serde := ""

/-- It was written, it has no answer, and nothing is published. -/
theorem unanswered_without_event :
    ¬ ∀ (c : OrderCall) (cl : ClOrdId), c.placed = some cl → c.channel.bus = true → c.channel.IdsDistinct →
      c.AccountedFor false cl := by
  intro h
  have hwritten : (OrderCall.amendOrderRest postOnlyAmend amendUnavailable).Written :=
    ⟨rfl, _, List.mem_cons_self, rfl⟩
  have hevents : (OrderCall.amendOrderRest postOnlyAmend amendUnavailable).run.events = [] := rfl
  have hunanswered : amendUnavailable.answer = none := rfl
  have haccounted := h (.amendOrderRest postOnlyAmend amendUnavailable) postOnlyAmend.clOrdId rfl rfl trivial
  have hambiguous := (haccounted.ambiguous hwritten rfl fun ⟨_, ans, hans, _⟩ => by cases hunanswered.symm.trans hans).1
  rw [hevents] at hambiguous
  cases hambiguous

end KrakenSdk.Trade
