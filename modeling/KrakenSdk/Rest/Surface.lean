import KrakenSdk.Conn.Types
/-!
# The REST pipeline (rest/surface.rs, rest/retry.rs, transport/http.rs)

One signed POST: the rate limit, the signature, the send with its transport classification, the
envelope, and the retry loop around them. What the world answers at each stage of an attempt is an
`Attempt`; a call reads one attempt after the other, and `none` is a call whose last attempt is
still out.
-/
namespace KrakenSdk.Rest

open KrakenSdk.Conn (Json AuthError TransportError TransportErrorKind strStartsWith)

/-! ## Transport (transport/http.rs) -/

/-- What `classify_reqwest_error` reads of a `reqwest::Error`. -/
structure ReqwestError where
  isConnect : Bool
  isTimeout : Bool
  isBody : Bool
  isRequest : Bool
  isDecode : Bool
  text : String
  deriving DecidableEq, Repr

/-- `classify_error_flags` (http.rs:185): a connect error was not sent, a decode error was. -/
def classifyErrorFlags (e : ReqwestError) : TransportError :=
  { kind :=
      if e.isConnect then
        if e.isTimeout then .tcpConnectTimeout else .tcpRefused
      else if e.isTimeout || e.isBody || e.isRequest || e.isDecode then .requestSentNoResponse
      else .other e.text
    transient := e.isTimeout || e.isConnect || e.isBody || e.isRequest }

/-- `StatusCode::is_success`. -/
def isSuccess (status : Nat) : Bool := 200 ≤ status && status < 300

/-- `is_transient_status` (http.rs:166): 5xx and 408/425/429. -/
def isTransientStatus (status : Nat) : Bool :=
  (500 ≤ status && status < 600) || status = 408 || status = 425 || status = 429

/-- What becomes of the HTTP request of one attempt; `written` says whether its bytes reached the
wire. -/
inductive HttpSend where
  /-- `send()` failed. -/
  | failed (e : ReqwestError) (written : Bool)
  /-- A response came; `body` is its JSON, or the failure to read it. -/
  | responded (status : Nat) (body : Except ReqwestError Json)
  /-- The gate's backstop ran out first. -/
  | stalled (written : Bool)

/-- The bytes of the request reached the wire. -/
def HttpSend.written : HttpSend → Bool
  | .failed _ written | .stalled written => written
  | .responded _ _ => true

/-- `post_form_signed` (http.rs:127) under its backstop, which is the `none`. -/
def postFormSigned : HttpSend → Option (Except TransportError Json)
  | .failed e _ => some (.error (classifyErrorFlags e))
  | .responded status body =>
    if !isSuccess status then
      some (.error { kind := .httpStatus status, transient := isTransientStatus status })
    else match body with
      | .ok json => some (.ok json)
      | .error e => some (.error (classifyErrorFlags e))
  | .stalled _ => none

/-! ## One attempt (rest/surface.rs) -/

/-- `RestError` (surface.rs:645); what a rate-limit rejection reports is not read further on. -/
inductive RestError where
  | transport (kind : TransportErrorKind) (transient : Bool)
  | auth (e : AuthError)
  | kraken (codes : List String)
  | unexpectedShape (detail : String)
  | rateLimit

/-- `parse_kraken_envelope` (surface.rs:603). -/
def parseKrakenEnvelope (json : Json) : Except RestError Json :=
  let result := match json.get? "result" with
    | some result => .ok result
    | none => .error (.unexpectedShape "missing `result` field")
  match (json.get? "error").bind Json.asArray? with
  | none | some [] => result
  | some (e :: es) =>
    match (e :: es).filterMap Json.asStr? with
    | [] =>
      .error (.unexpectedShape ("kraken error array contained no string elements: [" ++
        ", ".intercalate (Json.debugItems (e :: es)) ++ "]"))
    | codes => .error (.kraken codes)

/-- What one attempt meets: the tracker's verdict on its cost, the signer's and the transport's. -/
structure Attempt where
  headroom : Bool
  sign : Except AuthError Unit
  send : HttpSend

/-- The attempt got as far as the transport. -/
def Attempt.handed (a : Attempt) : Bool :=
  a.headroom && match a.sign with
    | .ok () => true
    | .error _ => false

/-- The attempt put bytes on the wire. -/
def Attempt.wired (a : Attempt) : Bool := a.handed && a.send.written

/-- `signed_post_costed_once` (surface.rs:198). -/
def signedPostCostedOnce (a : Attempt) : Except RestError Json :=
  if !a.headroom then .error .rateLimit
  else match a.sign with
    | .error e => .error (.auth e)
    | .ok () =>
      match postFormSigned a.send with
      | some (.ok response) => parseKrakenEnvelope response
      | some (.error e) => .error (.transport e.kind e.transient)
      | none => .error (.transport .requestSentNoResponse true)

/-! ## Retry (rest/retry.rs) -/

/-- `RetryReason` (retry.rs:18). -/
inductive RetryReason where
  | transportError | httpServerError | rateLimitExceeded | serviceThrottled | serviceUnavailable | invalidNonce
  deriving DecidableEq, Repr

/-- `RetryPolicy` (retry.rs:46); `backoff_class` is not read. -/
structure RetryPolicy where
  maxAttempts : Option Nat
  transient : Bool
  nonceHeal : Bool
  deriving DecidableEq, Repr

/-- `RetryPolicy::idempotent` (retry.rs:61). -/
def RetryPolicy.idempotent : RetryPolicy := { maxAttempts := none, transient := true, nonceHeal := true }

/-- `RetryPolicy::never_retry` (retry.rs:72). -/
def RetryPolicy.neverRetry : RetryPolicy := { maxAttempts := some 1, transient := false, nonceHeal := false }

/-- `RetryPolicy::never_retry_except_nonce` (retry.rs:83). -/
def RetryPolicy.neverRetryExceptNonce : RetryPolicy := { maxAttempts := some 1, transient := false, nonceHeal := true }

/-- `RetryDecision` (retry.rs:97). -/
inductive RetryDecision where
  | retry (reason : RetryReason)
  | nonTransient
  | ambiguousOrderPlacement
  deriving DecidableEq, Repr

/-- `classify_kraken` (retry.rs:209). -/
def classifyKraken : Option String → RetryDecision
  | none => .nonTransient
  | some code =>
    if strStartsWith code "EAPI:Rate limit exceeded" || strStartsWith code "EAuth:Rate limit exceeded" then
      .retry .rateLimitExceeded
    else if strStartsWith code "EOrder:Rate limit exceeded" ||
        strStartsWith code "EOrder:Domain rate limit exceeded" then .retry .rateLimitExceeded
    else if strStartsWith code "EGeneral:Too many requests" then .retry .rateLimitExceeded
    else if strStartsWith code "EService:Throttled" then .retry .serviceThrottled
    else if strStartsWith code "EService:Unavailable" || strStartsWith code "EService:Busy" then
      .retry .serviceUnavailable
    else if strStartsWith code "EAPI:Invalid nonce" then .retry .invalidNonce
    else .nonTransient

/-- `is_http_status_kind` (retry.rs:238). -/
def isHttpStatusKind : TransportErrorKind → Bool
  | .httpStatus _ => true
  | _ => false

/-- `RetryEngine::classify` (retry.rs:146). -/
def classify (err : RestError) (policy : RetryPolicy) : RetryDecision :=
  if !policy.transient then
    match err with
    | .kraken codes =>
      if policy.nonceHeal && classifyKraken codes.head? = .retry .invalidNonce then .retry .invalidNonce
      else .nonTransient
    | _ => .nonTransient
  else match err with
    | .transport kind transient =>
      if !transient then .nonTransient
      else if isHttpStatusKind kind then .retry .httpServerError
      else .retry .transportError
    | .kraken codes => classifyKraken codes.head?
    | .rateLimit | .auth _ | .unexpectedShape _ => .nonTransient

/-- `run_retry_loop` (surface.rs:281), reading the outcome of one `run_once` after the other: `attempt` of them are
over (a `u32`) and `nonceRetries` of these healed a nonce. -/
def runRetryLoop (policy : RetryPolicy) (maxAttempts : Nat) :
    (attempt nonceRetries : Nat) → List (Except RestError Json) → Option (Except RestError Json)
  | _, _, [] => none
  | attempt, nonceRetries, outcome :: rest =>
    let attempt := (attempt + 1) % 2 ^ 32
    match outcome with
    | .ok value => some (.ok value)
    | .error err =>
      match classify err policy with
      | .nonTransient | .ambiguousOrderPlacement => some (.error err)
      | .retry reason =>
        if reason = .invalidNonce then
          if 1 ≤ nonceRetries then some (.error err)
          else runRetryLoop policy maxAttempts attempt (nonceRetries + 1) rest
        else if maxAttempts ≤ attempt then some (.error err)
        else runRetryLoop policy maxAttempts attempt nonceRetries rest

/-- The loop under a policy; `defaultMaxAttempts` is the engine's. -/
def retried (policy : RetryPolicy) (defaultMaxAttempts : Nat) (outcomes : List (Except RestError Json)) :
    Option (Except RestError Json) :=
  runRetryLoop policy (max (policy.maxAttempts.getD defaultMaxAttempts) 1) 0 0 outcomes

/-- `signed_post_costed` (surface.rs:182). -/
def signedPostCosted (policy : RetryPolicy) (defaultMaxAttempts : Nat) (attempts : List Attempt) :
    Option (Except RestError Json) :=
  retried policy defaultMaxAttempts (attempts.map signedPostCostedOnce)

/-! ## What the retry policies of an order mean -/

theorem classify_neverRetry (err : RestError) : classify err .neverRetry = .nonTransient := by
  cases err <;> rfl

/-- An order is attempted once. -/
theorem signedPostCosted_neverRetry (defaultMaxAttempts : Nat) (attempts : List Attempt) :
    signedPostCosted .neverRetry defaultMaxAttempts attempts = attempts.head?.map signedPostCostedOnce := by
  cases attempts with
  | nil => rfl
  | cons a rest =>
    simp only [signedPostCosted, retried, List.map_cons, runRetryLoop, List.head?_cons, Option.map_some]
    cases signedPostCostedOnce a with
    | ok value => rfl
    | error err => simp only [classify_neverRetry]

/-- A call that answers answers with the outcome of one of its attempts. -/
theorem runRetryLoop_mem {policy : RetryPolicy} {maxAttempts : Nat} {outcomes : List (Except RestError Json)}
    {r : Except RestError Json} {attempt nonceRetries : Nat}
    (h : runRetryLoop policy maxAttempts attempt nonceRetries outcomes = some r) : r ∈ outcomes := by
  induction outcomes generalizing attempt nonceRetries with
  | nil => cases h
  | cons outcome rest ih =>
    simp only [runRetryLoop] at h
    have hstop : some outcome = some r → r ∈ outcome :: rest := by
      intro h
      rw [Option.some.inj h]
      exact List.mem_cons_self
    cases outcome with
    | ok value => exact hstop h
    | error err =>
      dsimp only at h
      split at h
      · exact hstop h
      · exact hstop h
      · split at h
        · split at h
          · exact hstop h
          · exact List.mem_cons_of_mem _ (ih h)
        · split at h
          · exact hstop h
          · exact List.mem_cons_of_mem _ (ih h)

/-! ## The attempts a call makes -/

/-- The call has its answer by attempt `n`, counted from 0. -/
def answeredBy (policy : RetryPolicy) (defaultMaxAttempts : Nat) (attempts : List Attempt) (n : Nat) : Bool :=
  (signedPostCosted policy defaultMaxAttempts (attempts.take (n + 1))).isSome

/-- The attempts up to the one whose outcome the call returns. -/
def attemptsMade (policy : RetryPolicy) (defaultMaxAttempts : Nat) (attempts : List Attempt) : List Attempt :=
  attempts.take ((List.range attempts.length).findIdx (answeredBy policy defaultMaxAttempts attempts) + 1)

/-- An answered call does not read on. -/
theorem runRetryLoop_append {policy : RetryPolicy} {maxAttempts : Nat} {outcomes : List (Except RestError Json)}
    {r : Except RestError Json} {attempt nonceRetries : Nat}
    (h : runRetryLoop policy maxAttempts attempt nonceRetries outcomes = some r) (more : List (Except RestError Json)) :
    runRetryLoop policy maxAttempts attempt nonceRetries (outcomes ++ more) = some r := by
  induction outcomes generalizing attempt nonceRetries with
  | nil => cases h
  | cons outcome rest ih =>
    simp only [runRetryLoop, List.cons_append] at h ⊢
    cases outcome with
    | ok value => exact h
    | error err =>
      dsimp only at h ⊢
      split
      · rename_i hc
        rw [hc] at h
        exact h
      · rename_i hc
        rw [hc] at h
        exact h
      · rename_i reason hc
        rw [hc] at h
        dsimp only at h
        split_ifs at h ⊢
        · exact h
        · exact ih h
        · exact h
        · exact ih h

/-- The outcome that ends the loop is the one it returns, and every one before it asked for another attempt. -/
theorem runRetryLoop_last {policy : RetryPolicy} {maxAttempts : Nat} {front : List (Except RestError Json)}
    {o r : Except RestError Json} {attempt nonceRetries : Nat}
    (hfront : runRetryLoop policy maxAttempts attempt nonceRetries front = none)
    (h : runRetryLoop policy maxAttempts attempt nonceRetries (front ++ [o]) = some r) :
    o = r ∧ ∀ o' ∈ front, ∃ err reason, o' = .error err ∧ classify err policy = .retry reason := by
  induction front generalizing attempt nonceRetries with
  | nil =>
    refine ⟨?_, fun _ hm => absurd hm List.not_mem_nil⟩
    exact (List.mem_singleton.1 (runRetryLoop_mem h)).symm
  | cons outcome rest ih =>
    simp only [runRetryLoop, List.cons_append] at hfront h
    cases outcome with
    | ok value => cases hfront
    | error err =>
      dsimp only at hfront h
      split at hfront
      · cases hfront
      · cases hfront
      · rename_i reason hc
        rw [hc] at h
        dsimp only at h
        have hcons : ∀ {k n : Nat}, runRetryLoop policy maxAttempts k n rest = none →
            runRetryLoop policy maxAttempts k n (rest ++ [o]) = some r →
            o = r ∧ ∀ o' ∈ Except.error err :: rest, ∃ err reason, o' = .error err ∧ classify err policy = .retry reason := by
          intro k n hnone hsome
          obtain ⟨ho, hall⟩ := ih hnone hsome
          refine ⟨ho, fun o' hm => ?_⟩
          rcases List.mem_cons.1 hm with rfl | hm
          · exact ⟨err, reason, rfl, hc⟩
          · exact hall o' hm
        split_ifs at hfront h
        · exact hcons hfront h
        · exact hcons hfront h

/-- The first number below `k` that passes a test. -/
theorem findIdx_range {p : Nat → Bool} {k i : Nat} (hi : i < k) (hp : p i = true) :
    ∃ n, (List.range k).findIdx p = n ∧ n < k ∧ p n = true ∧ ∀ m < n, p m = false := by
  have hlt : (List.range k).findIdx p < (List.range k).length :=
    List.findIdx_lt_length.2 ⟨i, List.mem_range.2 hi, hp⟩
  refine ⟨_, rfl, by simpa using hlt, by simpa using List.findIdx_getElem (w := hlt), fun m hm => ?_⟩
  simpa using List.not_of_lt_findIdx hm

/-- An answered call returns the outcome of its last attempt. -/
theorem attemptsMade_of_answered {policy : RetryPolicy} {defaultMaxAttempts : Nat} {attempts : List Attempt}
    {r : Except RestError Json} (h : signedPostCosted policy defaultMaxAttempts attempts = some r) :
    ∃ front a, attemptsMade policy defaultMaxAttempts attempts = front ++ [a] ∧ signedPostCostedOnce a = r ∧
      ∀ b ∈ front, ∃ err reason, signedPostCostedOnce b = .error err ∧ classify err policy = .retry reason := by
  have hne : attempts ≠ [] := by
    rintro rfl
    cases h
  have hpos : 0 < attempts.length := List.length_pos_iff.2 hne
  -- The last attempt at the latest answers.
  have hlast : answeredBy policy defaultMaxAttempts attempts (attempts.length - 1) = true := by
    rw [answeredBy, Nat.sub_add_cancel hpos, List.take_length, h]
    rfl
  obtain ⟨n, hn, hlt, hanswered, hbefore⟩ := findIdx_range (Nat.sub_lt hpos Nat.one_pos) hlast
  rw [attemptsMade, hn]
  obtain ⟨r', hr'⟩ := Option.isSome_iff_exists.1 hanswered
  have hr : r' = r := by
    have hlong := runRetryLoop_append hr' ((attempts.drop (n + 1)).map signedPostCostedOnce)
    rw [← List.map_append, List.take_append_drop] at hlong
    exact Option.some.inj (hlong.symm.trans h)
  subst hr
  have hfront : signedPostCosted policy defaultMaxAttempts (attempts.take n) = none := by
    cases n with
    | zero => rfl
    | succ m => simpa [answeredBy] using hbefore m (by omega)
  rw [List.take_succ_eq_append_getElem hlt]
  rw [List.take_succ_eq_append_getElem hlt] at hr'
  simp only [signedPostCosted, retried, List.map_append, List.map_cons, List.map_nil] at hfront hr'
  obtain ⟨ho, hall⟩ := runRetryLoop_last hfront hr'
  exact ⟨_, _, rfl, ho, fun b hb => hall _ (List.mem_map_of_mem hb)⟩

end KrakenSdk.Rest
