import Mathlib.Tactic.Push
import Mathlib.Tactic.SplitIfs
import KrakenSdk.Lib.StepSystem
import KrakenSdk.Rest.Surface
import KrakenSdk.Trade.Error
/-!
# The websocket token and its refreshes (auth/token_lifecycle.rs)

A refresh is a spawned task: it posts `GetWebSocketsToken`, puts the token it decodes into the shared cache,
publishes one credential event and hands its outcome to the reactor over a bounded bridge. Any number of them run
beside each other, so a run here is any order of the steps of any tasks, of the callers that start them and of the
reactor that receives; a task can be dropped between two of its steps.

| here | source |
| --- | --- |
| `decodeTokenResult`, `mapRestToAuth`, `classifyAuthError` | the functions of these names (`:214`, `:240`, `:412`) |
| `RefreshTask.act` | `TokenRefreshTask::run`, `fetch` and the spawned blocks (`:289`-`:399`) |
| `TokenLifecycle.reactiveRefresh`, `proactiveRefresh` | the methods (`:343`, `:367`) |
| `TokenLifecycle.recv`, `closeReceiver` | the reactor's end of the bridge (io_reactor/mod.rs:142) |

`refreshes_accounted`: each refresh publishes at most one event and delivers at most one outcome, the event first
and both about the same result. `handles_identify`: a handle names one outcome, and at most one proactive refresh
is out.
-/
namespace KrakenSdk.Auth

open KrakenSdk.Conn (AuthError Json strContains)
open KrakenSdk.Rest (RestError)
open StepSystem

/-! ## The token -/

/-- `WS_TOKEN_TTL` (token_lifecycle.rs:15), in milliseconds. -/
def wsTokenTtl : Nat := 15 * 60 * 1000

/-- `WS_TOKEN_REFRESH_AT` (token_lifecycle.rs:18). -/
def wsTokenRefreshAt : Nat := (7 * 60 + 30) * 1000

/-- `WsToken` (token_lifecycle.rs:23): the cache never holds an empty one. -/
structure WsToken where
  value : String
  fetchedAt : Nat
  nonempty : value ≠ ""
  deriving DecidableEq

/-- `is_expired` (token_lifecycle.rs:47). -/
def WsToken.isExpired (token : WsToken) (now : Nat) : Bool := wsTokenTtl ≤ now - token.fetchedAt

/-- `refresh_due_at` (token_lifecycle.rs:52). -/
def WsToken.refreshDueAt (token : WsToken) : Nat := token.fetchedAt + wsTokenRefreshAt

/-- `decode_token_result` (token_lifecycle.rs:215). -/
def decodeTokenResult (result : Json) (now : Nat) : Except AuthError WsToken :=
  match (result.get? "token").bind Json.asStr? with
  | none => .error (.unknown "INTERNAL" "GetWebSocketsToken response missing string `token`")
  | some token =>
    if h : token = "" then .error (.unknown "INTERNAL" "GetWebSocketsToken returned an empty `token`")
    else .ok ⟨token, now, h⟩

/-- `map_rest_to_auth` (token_lifecycle.rs:240). -/
def mapRestToAuth : RestError → AuthError
  | .auth a => a
  | .kraken codes =>
    let joined := ",".intercalate codes
    if strContains joined "Invalid key" then .invalidKey
    else if strContains joined "Invalid signature" then .invalidSignature
    else if strContains joined "Invalid nonce" then .invalidNonce
    else if strContains joined "Permission denied" then .permissionDenied none
    -- An auth lockout, not an escalation of a rate limit.
    else if strContains joined "Temporary lockout" then .temporaryLockout
    else if Trade.isKrakenRateLimit joined || strContains joined "EService:" then .tokenRefreshTransient
    else .unknown joined "GetWebSocketsToken rejected"
  | .transport _ true => .tokenRefreshTransient
  | .transport _ false => .tokenRefreshFailed
  | .rateLimit => .tokenRefreshTransient
  | .unexpectedShape detail =>
    .unknown "INTERNAL" ("token fetch transport/shape error: Unexpected shape: " ++ detail ++ ".")

/-- What the fetch makes of the reply (`fetch_and_cache`, token_lifecycle.rs:195). -/
def decodeReply (reply : Except RestError Json) (now : Nat) : Except AuthError WsToken :=
  match reply with
  | .error e => .error (mapRestToAuth e)
  | .ok result => decodeTokenResult result now

/-! ## The credential events (event_bus/events.rs) -/

/-- `RefreshReason` (token_lifecycle.rs:60). -/
inductive RefreshReason where
  | scheduled | authHandshakeFailed | manual
  deriving DecidableEq, Repr

/-- `RefreshReasonPayload` (events.rs:875). -/
inductive RefreshReasonPayload where
  | proactive | reactive | manual
  deriving DecidableEq, Repr

/-- `From<RefreshReason>` (events.rs:881). -/
def RefreshReason.payload : RefreshReason → RefreshReasonPayload
  | .scheduled => .proactive
  | .authHandshakeFailed => .reactive
  | .manual => .manual

/-- `ErrorClass` (events.rs:860). -/
inductive ErrorClass where
  | auth | clientClosed | network | unknown
  deriving DecidableEq, Repr

/-- `classify_auth_error` (token_lifecycle.rs:413). -/
def classifyAuthError : AuthError → ErrorClass
  | .invalidKey | .invalidSignature | .invalidNonce | .permissionDenied _ | .temporaryLockout | .tokenStale => .auth
  | .tokenRefreshFailed | .tokenRefreshTransient => .network
  | .clientClosed => .clientClosed
  | .unknown _ _ => .unknown

/-- `CredentialRefreshedEvent` and `CredentialRefreshFailedEvent` (events.rs:344, 354). -/
inductive CredentialPayload where
  | refreshed (keyIdFingerprint : String) (tokenExpiresAtMonotonic : Nat) (refreshReason : RefreshReasonPayload)
  | refreshFailed (keyIdFingerprint : String) (attempt : Nat) (errorClass : ErrorClass) (retryInMs : Option Nat)
  deriving DecidableEq, Repr

/-- The envelope around it. -/
structure CredentialEvent where
  timestampMonotonic : Nat
  payload : CredentialPayload
  deriving DecidableEq, Repr

/-- The event `TokenRefreshTask::run` publishes for a result (token_lifecycle.rs:299-325). -/
def credentialEvent (keyIdFingerprint : String) (reason : RefreshReason) (result : Except AuthError WsToken)
    (now : Nat) : CredentialEvent where
  timestampMonotonic := now
  payload := match result with
    | .ok token => .refreshed keyIdFingerprint (token.fetchedAt + wsTokenTtl) reason.payload
    | .error e => .refreshFailed keyIdFingerprint 1 (classifyAuthError e) none

/-! ## One refresh -/

/-- `RefreshOutcome` (token_lifecycle.rs:78). -/
structure RefreshOutcome where
  requestId : Nat
  result : Except AuthError WsToken

/-- How far a refresh has come: what it has done last. -/
inductive RefreshPhase where
  /-- The id is drawn, or the flag taken; the task is not spawned. -/
  | claimed
  | spawned
  /-- The signed POST is out. -/
  | posted
  | decoded (token : WsToken)
  | fetched (result : Except AuthError WsToken)
  | published (result : Except AuthError WsToken) (now : Nat)
  /-- `tx.send` is through: `delivered` unless there is no bridge or its receiver is gone. -/
  | sent (result : Except AuthError WsToken) (now : Nat) (delivered : Bool)

/-- A refresh: `TokenRefreshTask` with the spawned block around it. -/
structure RefreshTask where
  requestId : Nat
  reason : RefreshReason
  /-- It holds the `SingleFlightGuard`. -/
  guarded : Bool
  /-- The sender its block captured. -/
  outcomeTx : Bool
  phase : RefreshPhase
  /-- Neither returned nor dropped. -/
  alive : Bool

/-- What a step of a task does to what it shares with the others. -/
inductive RefreshEffect where
  | store (token : WsToken)
  | publish (event : CredentialEvent)
  | send (outcome : RefreshOutcome)
  /-- `SingleFlightGuard::drop` (token_lifecycle.rs:402). -/
  | clearFlag

/-- The steps of a task, with what the world answers at each. -/
inductive RefreshAct where
  | spawn
  /-- `rest.upgrade()`, and whether the surface is still there. -/
  | upgrade (found : Bool)
  /-- The reply to the POST, and the clock read after it. -/
  | reply (reply : Except RestError Json) (now : Nat)
  | store
  | publish (now : Nat)
  | send
  /-- The block returns. -/
  | finish
  /-- The task is dropped where it stands, by a panic or with the runtime. -/
  | drop

namespace RefreshTask

/-- The bridge as a task meets it. -/
structure Bridge where
  isSet : Bool
  hasRoom : Bool
  receiverGone : Bool

/-- The guard goes with the task that holds it. -/
def ended (t : RefreshTask) : RefreshTask × List RefreshEffect :=
  ({ t with alive := false }, if t.guarded then [.clearFlag] else [])

/-- One step of a task that is neither returned nor dropped; `none` where it is not at that step, or must wait. -/
def act (t : RefreshTask) (keyIdFingerprint : String) (bridge : Bridge) (a : RefreshAct) :
    Option (RefreshTask × List RefreshEffect) :=
  if !t.alive then none
  else match a, t.phase with
    | .spawn, .claimed => some ({ t with outcomeTx := bridge.isSet, phase := .spawned }, [])
    | .upgrade found, .spawned =>
      some ({ t with phase := if found then .posted else .fetched (.error .clientClosed) }, [])
    | .reply reply now, .posted =>
      match decodeReply reply now with
      | .ok token => some ({ t with phase := .decoded token }, [])
      | .error e => some ({ t with phase := .fetched (.error e) }, [])
    | .store, .decoded token => some ({ t with phase := .fetched (.ok token) }, [.store token])
    | .publish now, .fetched result =>
      some ({ t with phase := .published result now }, [.publish (credentialEvent keyIdFingerprint t.reason result now)])
    | .send, .published result now =>
      if !t.outcomeTx || bridge.receiverGone then some ({ t with phase := .sent result now false }, [])
      -- `.await` on the bounded channel: a full bridge holds up this task only.
      else if bridge.hasRoom then some ({ t with phase := .sent result now true }, [.send ⟨t.requestId, result⟩])
      else none
    | .finish, .sent _ _ _ => some t.ended
    | .drop, _ => some t.ended
    | _, _ => none

/-- The event it has published. -/
def event (t : RefreshTask) (keyIdFingerprint : String) : Option CredentialEvent :=
  match t.phase with
  | .published result now | .sent result now _ => some (credentialEvent keyIdFingerprint t.reason result now)
  | _ => none

/-- The outcome it has put on the bridge. -/
def outcome (t : RefreshTask) : Option RefreshOutcome :=
  match t.phase with
  | .sent result _ true => some ⟨t.requestId, result⟩
  | _ => none

/-- What its fetch came to. -/
def result (t : RefreshTask) : Option (Except AuthError WsToken) :=
  match t.phase with
  | .fetched result | .published result _ | .sent result _ _ => some result
  | _ => none

end RefreshTask

/-! ## The manager -/

/-- `TokenLifecycleManager` with its tasks, numbered in the order they were claimed, its bridge, and what it has
published and delivered under the number of the task. -/
structure TokenLifecycle where
  cachedToken : Option WsToken
  refreshHandleSeq : Nat
  refreshTx : Bool
  keyIdFingerprint : String
  proactiveInflight : Bool
  tasks : List RefreshTask
  published : List (Nat × CredentialEvent)
  sent : List (Nat × RefreshOutcome)
  bridge : List (Nat × RefreshOutcome)
  received : List (Nat × RefreshOutcome)
  /-- What was on the bridge when its receiver went. -/
  lost : List (Nat × RefreshOutcome)
  receiverGone : Bool

namespace TokenLifecycle

/-- The capacity of the bridge (io_reactor/mod.rs:142). -/
def bridgeCapacity : Nat := 16

/-- `new` (token_lifecycle.rs:132). -/
def new (keyIdFingerprint : String) : TokenLifecycle where
  cachedToken := none
  refreshHandleSeq := 1
  refreshTx := false
  keyIdFingerprint := keyIdFingerprint
  proactiveInflight := false
  tasks := []
  published := []
  sent := []
  bridge := []
  received := []
  lost := []
  receiverGone := false

variable (s : TokenLifecycle)

/-- `set_refresh_tx` (token_lifecycle.rs:156). -/
def setRefreshTx : TokenLifecycle := { s with refreshTx := true }

/-- `invalidate_cached_token` (token_lifecycle.rs:188). -/
def invalidateCachedToken : TokenLifecycle := { s with cachedToken := none }

/-- A task that is claimed and not yet spawned. -/
def claim (requestId : Nat) (reason : RefreshReason) (guarded : Bool) : TokenLifecycle :=
  { s with tasks := s.tasks ++ [⟨requestId, reason, guarded, false, .claimed, true⟩] }

/-- `reactive_refresh` (token_lifecycle.rs:343), up to the spawn: its handle is the id it draws. -/
def reactiveRefresh (reason : RefreshReason) : TokenLifecycle × Nat :=
  ({ s.claim s.refreshHandleSeq reason false with refreshHandleSeq := (s.refreshHandleSeq + 1) % 2 ^ 64 },
    s.refreshHandleSeq)

/-- `proactive_refresh` (token_lifecycle.rs:367), up to the spawn. -/
def proactiveRefresh : TokenLifecycle :=
  if s.proactiveInflight then s else { s.claim 0 .scheduled true with proactiveInflight := true }

/-- The bridge as a task finds it. -/
def bridgeView : RefreshTask.Bridge where
  isSet := s.refreshTx
  hasRoom := s.bridge.length < bridgeCapacity
  receiverGone := s.receiverGone

/-- An effect of task `i`. -/
def perform (i : Nat) (s : TokenLifecycle) : RefreshEffect → TokenLifecycle
  | .store token => { s with cachedToken := some token }
  | .publish event => { s with published := s.published ++ [(i, event)] }
  | .send outcome => { s with sent := s.sent ++ [(i, outcome)], bridge := s.bridge ++ [(i, outcome)] }
  | .clearFlag => { s with proactiveInflight := false }

/-- A step of task `i`. -/
def runTask (i : Nat) (a : RefreshAct) : TokenLifecycle :=
  match s.tasks[i]?.bind (·.act s.keyIdFingerprint s.bridgeView a) with
  | none => s
  | some (t, effects) => effects.foldl (perform i) { s with tasks := s.tasks.set i t }

/-- The reactor takes the next outcome. -/
def recv : TokenLifecycle :=
  match s.bridge with
  | [] => s
  | o :: rest => { s with bridge := rest, received := s.received ++ [o] }

/-- The reactor exits: what is on the bridge goes with its receiver. -/
def closeReceiver : TokenLifecycle := { s with receiverGone := true, lost := s.lost ++ s.bridge, bridge := [] }

/-- What callers, tasks and the reactor do. -/
inductive Act where
  | setRefreshTx
  | invalidateCachedToken
  | reactiveRefresh (reason : RefreshReason)
  | proactiveRefresh
  | task (i : Nat) (a : RefreshAct)
  | recv
  | closeReceiver

/-- One step, of any of them. -/
def step (s : TokenLifecycle) : Act → TokenLifecycle
  | .setRefreshTx => s.setRefreshTx
  | .invalidateCachedToken => s.invalidateCachedToken
  | .reactiveRefresh reason => (s.reactiveRefresh reason).1
  | .proactiveRefresh => s.proactiveRefresh
  | .task i a => s.runTask i a
  | .recv => s.recv
  | .closeReceiver => s.closeReceiver

/-- The events of task `i`. -/
def publishedBy (i : Nat) : List CredentialEvent := (s.published.filter (·.1 = i)).map (·.2)

/-- The outcomes of task `i`. -/
def sentBy (i : Nat) : List RefreshOutcome := (s.sent.filter (·.1 = i)).map (·.2)

end TokenLifecycle

/-! ## What a step of a task can do -/

namespace RefreshEffect

def event? : RefreshEffect → Option CredentialEvent
  | .publish event => some event
  | _ => none

def outcome? : RefreshEffect → Option RefreshOutcome
  | .send outcome => some outcome
  | _ => none

def token? : RefreshEffect → Option WsToken
  | .store token => some token
  | _ => none

def clears : RefreshEffect → Bool
  | .clearFlag => true
  | _ => false

end RefreshEffect

/-- What a step took `t` to, and what it did on the way: all that the invariants need of `act`. -/
structure Acted (keyIdFingerprint : String) (bridge : RefreshTask.Bridge) (t t' : RefreshTask)
    (effects : List RefreshEffect) : Prop where
  alive : t.alive = true
  requestId : t'.requestId = t.requestId
  guarded : t'.guarded = t.guarded
  event : (t'.event keyIdFingerprint).toList = (t.event keyIdFingerprint).toList ++ effects.filterMap (·.event?)
  outcome : t'.outcome.toList = t.outcome.toList ++ effects.filterMap (·.outcome?)
  /-- The bridge had room for what went on it. -/
  room : (effects.filterMap (·.outcome?)).length ≤ if bridge.hasRoom && !bridge.receiverGone then 1 else 0
  token : ∀ token ∈ effects.filterMap (·.token?), t'.result = some (.ok token)
  result : ∀ r, t.result = some r → t'.result = some r
  clears : effects.any (·.clears) = (t.guarded && !t'.alive)

namespace RefreshTask

variable {t t' : RefreshTask} {keyIdFingerprint : String} {bridge : Bridge} {a : RefreshAct}
  {effects : List RefreshEffect}

/-- A task that ends does nothing else. -/
theorem acted_ended (halive : t.alive = true) (h : t.ended = (t', effects)) :
    Acted keyIdFingerprint bridge t t' effects := by
  unfold ended at h
  obtain ⟨rfl, rfl⟩ := Prod.mk.inj h
  cases hg : t.guarded <;> constructor <;>
    simp [hg, halive, event, outcome, result, RefreshEffect.event?, RefreshEffect.outcome?, RefreshEffect.token?,
      RefreshEffect.clears]

theorem acted_of_act (h : t.act keyIdFingerprint bridge a = some (t', effects)) :
    Acted keyIdFingerprint bridge t t' effects := by
  obtain ⟨requestId, reason, guarded, outcomeTx, phase, alive⟩ := t
  cases alive with
  | false => simp [act] at h
  | true =>
    cases a with
    | drop => exact acted_ended rfl (by simpa [act] using h)
    | finish =>
      cases phase <;> simp only [act, Bool.not_true, Bool.false_eq_true, if_false, reduceCtorEq, Option.some.injEq] at h
      exact acted_ended rfl h
    | reply reply now =>
      cases phase <;> simp only [act, Bool.not_true, Bool.false_eq_true, if_false, reduceCtorEq] at h
      cases hreply : decodeReply reply now <;> rw [hreply] at h <;> obtain ⟨rfl, rfl⟩ := Prod.mk.inj (Option.some.inj h) <;>
        constructor <;> simp [event, outcome, result]
    | send =>
      cases phase <;> simp only [act, Bool.not_true, Bool.false_eq_true, if_false, reduceCtorEq] at h
      split_ifs at h with hgone hroom
      · obtain ⟨rfl, rfl⟩ := Prod.mk.inj (Option.some.inj h)
        constructor <;> simp [event, outcome, result]
      · obtain ⟨rfl, rfl⟩ := Prod.mk.inj (Option.some.inj h)
        have hopen : bridge.receiverGone = false := by grind
        constructor <;> simp [hroom, hopen, event, outcome, result, RefreshEffect.event?, RefreshEffect.outcome?,
          RefreshEffect.token?, RefreshEffect.clears]
    | upgrade found =>
      cases phase <;> simp only [act, Bool.not_true, Bool.false_eq_true, if_false, reduceCtorEq] at h
      obtain ⟨rfl, rfl⟩ := Prod.mk.inj (Option.some.inj h)
      cases found <;> constructor <;> simp [event, outcome, result]
    | spawn | store | publish =>
      cases phase <;> simp only [act, Bool.not_true, Bool.false_eq_true, if_false, reduceCtorEq] at h
      obtain ⟨rfl, rfl⟩ := Prod.mk.inj (Option.some.inj h)
      constructor <;> simp [event, outcome, result, RefreshEffect.event?, RefreshEffect.outcome?, RefreshEffect.token?,
        RefreshEffect.clears]

end RefreshTask

/-! ## What a run keeps -/

namespace TokenLifecycle

variable {s : TokenLifecycle}

/-- The effects of a step, on each part of the state. -/
theorem foldl_perform (i : Nat) (effects : List RefreshEffect) (s : TokenLifecycle) :
    ∃ cachedToken, (∀ token, cachedToken = some token → s.cachedToken = some token ∨ token ∈ effects.filterMap (·.token?)) ∧
      effects.foldl (perform i) s = { s with
        cachedToken := cachedToken
        published := s.published ++ (effects.filterMap (·.event?)).map (i, ·)
        sent := s.sent ++ (effects.filterMap (·.outcome?)).map (i, ·)
        bridge := s.bridge ++ (effects.filterMap (·.outcome?)).map (i, ·)
        proactiveInflight := s.proactiveInflight && !effects.any (·.clears) } := by
  induction effects generalizing s with
  | nil => exact ⟨s.cachedToken, fun _ h => .inl h, by simp⟩
  | cons e effects ih =>
    obtain ⟨cachedToken, hcached, h⟩ := ih (perform i s e)
    refine ⟨cachedToken, fun token htoken => ?_, ?_⟩
    · rcases hcached token htoken with h' | h'
      · cases e <;> simp_all [perform, RefreshEffect.token?]
      · exact .inr (by cases e <;> simp_all [RefreshEffect.token?])
    · rw [List.foldl_cons, h]
      cases e <;> simp [perform, RefreshEffect.event?, RefreshEffect.outcome?, RefreshEffect.clears]

/-- A step of a task: either nothing, or the step of a live task with its effects. -/
theorem runTask_cases (s : TokenLifecycle) (i : Nat) (a : RefreshAct) :
    s.runTask i a = s ∨ ∃ t t' effects, s.tasks[i]? = some t ∧ Acted s.keyIdFingerprint s.bridgeView t t' effects ∧
      s.runTask i a = effects.foldl (perform i) { s with tasks := s.tasks.set i t' } := by
  cases ht : s.tasks[i]? with
  | none => exact .inl (by simp [runTask, ht])
  | some t =>
    cases hact : t.act s.keyIdFingerprint s.bridgeView a with
    | none => exact .inl (by simp [runTask, ht, hact])
    | some r =>
      obtain ⟨t', effects⟩ := r
      exact .inr ⟨t, t', effects, rfl, RefreshTask.acted_of_act hact, by simp [runTask, ht, hact]⟩

/-- The request ids in the order they were issued: 0 for a proactive refresh, else the next of the sequence. -/
def Issued (ids : List (Bool × Nat)) : Prop :=
  ∀ (i : Nat) (guarded : Bool) (id : Nat), ids[i]? = some (guarded, id) →
    id = if guarded then 0 else (1 + (ids.take i).countP (!·.1)) % 2 ^ 64

/-- The guard and the id of a task, which its steps leave alone. -/
def ids (s : TokenLifecycle) : List (Bool × Nat) := s.tasks.map fun t => (t.guarded, t.requestId)

/-- The proactive refreshes that are out. -/
def guardedOut (s : TokenLifecycle) : Nat := s.tasks.countP fun t => t.guarded && t.alive

structure Inv (keyIdFingerprint : String) (s : TokenLifecycle) : Prop where
  fingerprint : s.keyIdFingerprint = keyIdFingerprint
  events : ∀ i, s.publishedBy i = (s.tasks[i]?.bind (·.event keyIdFingerprint)).toList
  outcomes : ∀ i, s.sentBy i = (s.tasks[i]?.bind (·.outcome)).toList
  queue : s.sent = s.received ++ s.lost ++ s.bridge
  noneLost : s.receiverGone = false → s.lost = []
  noneQueued : s.receiverGone = true → s.bridge = []
  capacity : s.bridge.length ≤ bridgeCapacity
  cache : ∀ token, s.cachedToken = some token → ∃ t ∈ s.tasks, t.result = some (.ok token)
  seq : s.refreshHandleSeq = (1 + s.ids.countP (!·.1)) % 2 ^ 64
  issued : Issued s.ids
  flight : s.guardedOut = s.proactiveInflight.toNat

theorem inv_new (keyIdFingerprint : String) : Inv keyIdFingerprint (new keyIdFingerprint) := by
  constructor <;> simp [new, publishedBy, sentBy, ids, Issued, guardedOut, bridgeCapacity]

theorem issued_concat {l : List (Bool × Nat)} {guarded : Bool} {id : Nat} (h : Issued l)
    (hid : id = if guarded then 0 else (1 + l.countP (!·.1)) % 2 ^ 64) : Issued (l ++ [(guarded, id)]) := by
  intro i guarded' id' hi
  rcases Nat.lt_trichotomy i l.length with hlt | rfl | hgt
  · rw [List.getElem?_append_left hlt] at hi
    rw [List.take_append_of_le_length (Nat.le_of_lt hlt)]
    exact h i _ _ hi
  · rw [List.getElem?_concat_length] at hi
    obtain ⟨rfl, rfl⟩ := Prod.mk.inj (Option.some.inj hi)
    rw [List.take_left]
    exact hid
  · rw [List.getElem?_eq_none (by simp; omega)] at hi
    cases hi

theorem getElem?_claim {α : Type} {f : RefreshTask → Option α} {tasks : List RefreshTask} {t : RefreshTask}
    (ht : f t = none) (i : Nat) : (tasks ++ [t])[i]?.bind f = tasks[i]?.bind f := by
  rcases Nat.lt_trichotomy i tasks.length with hlt | rfl | hgt
  · rw [List.getElem?_append_left hlt]
  · simp [ht]
  · rw [List.getElem?_eq_none (by simp; omega), List.getElem?_eq_none (by omega)]

variable {keyIdFingerprint : String}

/-- A claim: the id is the one that is due, and the flag of a guarded one was free. -/
theorem inv_claim (h : Inv keyIdFingerprint s) (guarded : Bool) {requestId : Nat} {reason : RefreshReason} {seq : Nat}
    {inflight : Bool} (hid : requestId = if guarded then 0 else (1 + s.ids.countP (!·.1)) % 2 ^ 64)
    (hseq : seq = (1 + (s.ids ++ [(guarded, requestId)]).countP (!·.1)) % 2 ^ 64)
    (hflight : inflight.toNat = s.proactiveInflight.toNat + guarded.toNat) :
    Inv keyIdFingerprint
      { s.claim requestId reason guarded with refreshHandleSeq := seq, proactiveInflight := inflight } := by
  have hids : (s.claim requestId reason guarded).ids = s.ids ++ [(guarded, requestId)] := by simp [ids, claim]
  constructor
  case fingerprint => exact h.fingerprint
  case events =>
    intro i
    rw [claim, getElem?_claim (by rfl)]
    exact h.events i
  case outcomes =>
    intro i
    rw [claim, getElem?_claim (by rfl)]
    exact h.outcomes i
  case queue => exact h.queue
  case noneLost => exact h.noneLost
  case noneQueued => exact h.noneQueued
  case capacity => exact h.capacity
  case cache =>
    intro token htoken
    obtain ⟨t, ht, hr⟩ := h.cache token htoken
    exact ⟨t, List.mem_append_left _ ht, hr⟩
  case seq => exact hseq.trans (by rw [← hids]; rfl)
  case issued =>
    have hissued := issued_concat h.issued hid
    rw [← hids] at hissued
    exact hissued
  case flight =>
    have := h.flight
    cases guarded <;> simp_all [guardedOut, claim]

theorem inv_reactiveRefresh (h : Inv keyIdFingerprint s) (reason : RefreshReason) :
    Inv keyIdFingerprint (s.reactiveRefresh reason).1 := by
  refine inv_claim h false ?_ ?_ ?_
  · exact h.seq
  · rw [h.seq, List.countP_append, List.countP_singleton, Nat.mod_add_mod]
    rfl
  · simp [claim]

theorem inv_proactiveRefresh (h : Inv keyIdFingerprint s) : Inv keyIdFingerprint s.proactiveRefresh := by
  unfold proactiveRefresh
  split_ifs with hflight
  · exact h
  · refine inv_claim h true rfl ?_ ?_
    · rw [List.countP_append]
      simpa [claim] using h.seq
    · simp [hflight]

/-- What one task says, after a step of task `i`. -/
theorem bind_set {α : Type} {f : RefreshTask → Option α} {tasks : List RefreshTask} {i : Nat} {t t' : RefreshTask}
    (hi : tasks[i]? = some t) (j : Nat) :
    ((tasks.set i t')[j]?.bind f) = if i = j then f t' else tasks[j]?.bind f := by
  obtain ⟨hlt, -⟩ := List.getElem?_eq_some_iff.1 hi
  rw [List.getElem?_set]
  split_ifs with hij
  · simp
  · rfl

/-- The log of one task, after entries of task `i`. -/
theorem filter_log_append {α : Type} (log : List (Nat × α)) (i j : Nat) (new : List α) :
    ((log ++ new.map (i, ·)).filter (·.1 = j)).map (·.2) =
      (log.filter (·.1 = j)).map (·.2) ++ if i = j then new else [] := by
  rw [List.filter_append, List.map_append]
  congr 1
  split_ifs with hij
  · subst hij
    induction new with
    | nil => rfl
    | cons a new ih => simpa using ih
  · induction new with
    | nil => rfl
    | cons a new ih => simp [hij]

theorem inv_acted (h : Inv keyIdFingerprint s) {i : Nat} {t t' : RefreshTask} {effects : List RefreshEffect}
    (hi : s.tasks[i]? = some t) (hacted : Acted keyIdFingerprint s.bridgeView t t' effects) :
    Inv keyIdFingerprint (effects.foldl (perform i) { s with tasks := s.tasks.set i t' }) := by
  obtain ⟨cachedToken, hcached, heq⟩ := foldl_perform i effects { s with tasks := s.tasks.set i t' }
  dsimp only at heq
  rw [heq]
  obtain ⟨hlt, hget⟩ := List.getElem?_eq_some_iff.1 hi
  have hids : (s.tasks.set i t').map (fun t => (t.guarded, t.requestId)) = s.ids := by
    have hilt : i < s.ids.length := by simpa [ids] using hlt
    have hsame : (t'.guarded, t'.requestId) = s.ids[i] := by
      simp [ids, hget, hacted.guarded, hacted.requestId]
    rw [List.map_set, hsame]
    exact List.set_getElem_self hilt
  constructor
  case fingerprint => exact h.fingerprint
  case events =>
    intro j
    rw [bind_set hi, publishedBy, filter_log_append]
    have hj := h.events j
    rw [publishedBy] at hj
    rw [hj]
    split_ifs with hij
    · subst hij
      rw [hi, Option.bind_some, hacted.event]
    · rw [List.append_nil]
  case outcomes =>
    intro j
    rw [bind_set hi, sentBy, filter_log_append]
    have hj := h.outcomes j
    rw [sentBy] at hj
    rw [hj]
    split_ifs with hij
    · subst hij
      rw [hi, Option.bind_some, hacted.outcome]
    · rw [List.append_nil]
  case queue =>
    have := h.queue
    simp_all
  case noneLost => exact h.noneLost
  case noneQueued =>
    intro hgone
    have hroom := hacted.room
    have hview : s.bridgeView.receiverGone = true := hgone
    have hnone : effects.filterMap (·.outcome?) = [] := by simpa [hview] using hroom
    simpa [hnone] using h.noneQueued hgone
  case capacity =>
    have hroom := hacted.room
    have hcap := h.capacity
    rw [List.length_append, List.length_map]
    split_ifs at hroom with hfree
    · have hlt : s.bridge.length < bridgeCapacity := by
        rw [Bool.and_eq_true] at hfree
        exact of_decide_eq_true hfree.1
      exact Nat.le_trans (Nat.add_le_add_left hroom _) hlt
    · omega
  case cache =>
    intro token htoken
    rcases hcached token htoken with hold | hnew
    · obtain ⟨u, hu, hr⟩ := h.cache token hold
      by_cases hut : u = t
      · exact ⟨t', List.mem_set hlt t', hacted.result _ (hut ▸ hr)⟩
      · obtain ⟨j, hj⟩ := List.mem_iff_getElem?.1 hu
        have hij : i ≠ j := by
          rintro rfl
          exact hut (Option.some.inj (hj.symm.trans hi))
        refine ⟨u, List.mem_iff_getElem?.2 ⟨j, ?_⟩, hr⟩
        rw [← hj]
        exact List.getElem?_set_ne hij
    · exact ⟨t', List.mem_set hlt t', hacted.token token hnew⟩
  case seq =>
    refine h.seq.trans ?_
    rw [← hids]
    rfl
  case issued =>
    have hissued := h.issued
    rw [← hids] at hissued
    exact hissued
  case flight =>
    have hflight := h.flight
    have hclears := hacted.clears
    have hguarded := hacted.guarded
    have halive := hacted.alive
    simp only [guardedOut] at hflight ⊢
    rw [List.countP_set hlt, hget, hclears, hguarded, halive]
    have hpos : t.guarded = true → 0 < s.tasks.countP fun t => t.guarded && t.alive := fun hg =>
      List.countP_pos_iff.2 ⟨t, List.mem_iff_getElem?.2 ⟨i, hi⟩, by simp [hg, halive]⟩
    generalize (s.tasks.countP fun t => t.guarded && t.alive) = out at hflight hpos ⊢
    clear heq hcached
    cases hg : t.guarded <;> cases ha : t'.alive <;> cases hp : s.proactiveInflight <;> simp_all

theorem inv_runTask (h : Inv keyIdFingerprint s) (i : Nat) (a : RefreshAct) :
    Inv keyIdFingerprint (s.runTask i a) := by
  rcases runTask_cases s i a with heq | ⟨t, t', effects, hi, hacted, heq⟩
  · rw [heq]
    exact h
  · rw [heq]
    rw [h.fingerprint] at hacted
    exact inv_acted h hi hacted

theorem inv_step (h : Inv keyIdFingerprint s) (a : Act) : Inv keyIdFingerprint (s.step a) := by
  cases a with
  | setRefreshTx => exact { h with }
  | invalidateCachedToken => exact { h with cache := by simp [step, invalidateCachedToken] }
  | reactiveRefresh reason => exact inv_reactiveRefresh h reason
  | proactiveRefresh => exact inv_proactiveRefresh h
  | task i a => exact inv_runTask h i a
  | recv =>
    unfold step recv
    cases hb : s.bridge with
    | nil => simpa [hb] using h
    | cons o rest =>
      have hcap := h.capacity
      have hopen : s.receiverGone = false := by
        cases hgone : s.receiverGone with
        | false => rfl
        | true => simp [h.noneQueued hgone] at hb
      refine { h with queue := ?_, noneQueued := ?_, capacity := ?_ }
      · have hqueue := h.queue
        simp_all [h.noneLost hopen]
      · intro hgone
        simp [hopen] at hgone
      · rw [hb] at hcap
        exact Nat.le_of_succ_le hcap
  | closeReceiver =>
    refine { h with queue := ?_, noneLost := ?_, noneQueued := ?_, capacity := ?_ }
    · have hqueue := h.queue
      simp_all [step, closeReceiver]
    · intro hopen
      simp [step, closeReceiver] at hopen
    · intro _
      rfl
    · exact Nat.zero_le _

theorem inv_reach (h : Reach step anyStep (new keyIdFingerprint) s) : Inv keyIdFingerprint s :=
  h.invariant (inv_new _) fun _ a hinv _ => inv_step hinv a

/-! ## The results -/

/-- An outcome is put on the bridge by a task that has published its event. -/
theorem published_of_outcome (keyIdFingerprint : String) {t : RefreshTask} {o : RefreshOutcome} (h : t.outcome = some o) :
    o.requestId = t.requestId ∧
      ∃ now, t.event keyIdFingerprint = some (credentialEvent keyIdFingerprint t.reason o.result now) := by
  unfold RefreshTask.outcome at h
  split at h
  · next result now hphase =>
    obtain rfl := Option.some.inj h
    exact ⟨rfl, now, by simp [RefreshTask.event, hphase]⟩
  · cases h

theorem outcome_of_mem_sent (h : Inv keyIdFingerprint s) {i : Nat} {o : RefreshOutcome} (ho : (i, o) ∈ s.sent) :
    ∃ t, s.tasks[i]? = some t ∧ t.outcome = some o := by
  have hmem : o ∈ s.sentBy i := List.mem_map.2 ⟨(i, o), List.mem_filter.2 ⟨ho, by simp⟩, rfl⟩
  rw [h.outcomes i, Option.mem_toList] at hmem
  exact Option.bind_eq_some_iff.1 hmem

/-- **Every refresh is reported once and about what it did**, whatever order the steps of the refreshes, of their
callers and of the reactor come in and whichever of them are dropped: the events and the outcomes of a refresh are
those of the point it has come to, an outcome is only on the bridge after its event, with the handle of its own
refresh and the result the event speaks of, the reactor receives outcomes in the order they were sent and loses none
while it listens, and a token in the cache is one that a refresh fetched. -/
theorem refreshes_accounted (h : Reach step anyStep (new keyIdFingerprint) s) :
    (∀ (i : Nat) (t : RefreshTask), s.tasks[i]? = some t →
      s.publishedBy i = (t.event keyIdFingerprint).toList ∧ s.sentBy i = t.outcome.toList) ∧
    (∀ (i : Nat) (o : RefreshOutcome), (i, o) ∈ s.sent → ∃ t now, s.tasks[i]? = some t ∧
      o.requestId = t.requestId ∧ s.sentBy i = [o] ∧
      s.publishedBy i = [credentialEvent keyIdFingerprint t.reason o.result now]) ∧
    s.sent = s.received ++ s.lost ++ s.bridge ∧ (s.receiverGone = false → s.lost = []) ∧
    s.bridge.length ≤ bridgeCapacity ∧
    ∀ token, s.cachedToken = some token → ∃ t ∈ s.tasks, t.result = some (.ok token) := by
  have hinv := inv_reach h
  have hlogs : ∀ (i : Nat) (t : RefreshTask), s.tasks[i]? = some t →
      s.publishedBy i = (t.event keyIdFingerprint).toList ∧ s.sentBy i = t.outcome.toList := by
    intro i t hi
    constructor
    · rw [hinv.events, hi, Option.bind_some]
    · rw [hinv.outcomes, hi, Option.bind_some]
  refine ⟨hlogs, ?_, hinv.queue, hinv.noneLost, hinv.capacity, hinv.cache⟩
  intro i o ho
  obtain ⟨t, hi, hout⟩ := outcome_of_mem_sent hinv ho
  obtain ⟨hevents, hsent⟩ := hlogs i t hi
  obtain ⟨hid, now, hevent⟩ := published_of_outcome keyIdFingerprint hout
  refine ⟨t, now, hi, hid, ?_, ?_⟩
  · rw [hsent, hout]
    rfl
  · rw [hevents, hevent]
    rfl

/-- A refresh that finds the surface gone, delivered beside a proactive one that is dropped. -/
def closedRun : List Act :=
  [.setRefreshTx, .reactiveRefresh .authHandshakeFailed, .proactiveRefresh, .task 0 .spawn, .task 1 .spawn,
    .task 0 (.upgrade false), .task 0 (.publish 7), .task 1 .drop, .task 0 .send, .recv]

theorem refreshes_accounted_closed :
    ∃ t now, (exec step (new "fp") closedRun).tasks[0]? = some t ∧ 1 = t.requestId ∧
      (exec step (new "fp") closedRun).sentBy 0 = [⟨1, .error .clientClosed⟩] ∧
      (exec step (new "fp") closedRun).publishedBy 0 =
        [credentialEvent "fp" t.reason (.error .clientClosed) now] :=
  (refreshes_accounted (reach_anyStep (new "fp") closedRun)).2.1 0 ⟨1, .error .clientClosed⟩ (List.mem_singleton.2 rfl)

theorem Issued.next_ne {l : List (Bool × Nat)} (h : Issued l) (hlen : l.length < 2 ^ 64 - 1) {i id : Nat}
    (hi : l[i]? = some (false, id)) : id ≠ 0 ∧ id = 1 + (l.take i).countP (!·.1) := by
  have hid := h i false id hi
  have hle : (l.take i).countP (!·.1) ≤ l.length :=
    Nat.le_trans List.countP_le_length (List.length_take_le' ..)
  rw [if_neg (by decide), Nat.mod_eq_of_lt (by omega)] at hid
  omega

/-- The reactive tasks before a later one include an earlier one. -/
theorem countP_take_lt {l : List (Bool × Nat)} {i j id : Nat} (hij : i < j) (hi : l[i]? = some (false, id)) :
    (l.take i).countP (!·.1) < (l.take j).countP (!·.1) := by
  have hsub : l.take (i + 1) <+: l.take j := List.take_prefix_take_left (by omega)
  have hstep : (l.take (i + 1)).countP (!·.1) = (l.take i).countP (!·.1) + 1 := by
    rw [List.take_add_one, hi, List.countP_append]
    rfl
  have := hsub.sublist.countP_le (p := (!·.1))
  omega

/-- **A handle names one refresh, and one proactive refresh is out at most**, in every run that has started fewer
than `2 ^ 64 - 1` refreshes: the id a caller is given next is no task's, two outcomes with one id other than 0 are of
one refresh, an outcome has id 0 exactly if it is a proactive one's, and the flag is set exactly while a proactive
refresh is out, however it ends. -/
theorem handles_identify (h : Reach step anyStep (new keyIdFingerprint) s) (hlen : s.tasks.length < 2 ^ 64 - 1) :
    (∀ reason, ∀ t ∈ s.tasks, t.requestId ≠ (s.reactiveRefresh reason).2) ∧
    (∀ i j o o', (i, o) ∈ s.sent → (j, o') ∈ s.sent → o.requestId = o'.requestId → o.requestId ≠ 0 → i = j) ∧
    (∀ i o, (i, o) ∈ s.sent → ∃ t, s.tasks[i]? = some t ∧ (o.requestId = 0 ↔ t.guarded = true)) ∧
    (s.tasks.countP fun t => t.guarded && t.alive) = s.proactiveInflight.toNat := by
  have hinv := inv_reach h
  have hissued := hinv.issued
  have hidsLen : s.ids.length < 2 ^ 64 - 1 := by simpa [ids] using hlen
  have hids : ∀ {i : Nat} {t : RefreshTask}, s.tasks[i]? = some t → s.ids[i]? = some (t.guarded, t.requestId) := by
    intro i t hi
    simp [ids, hi]
  have hzero : ∀ {i : Nat} {t : RefreshTask}, s.tasks[i]? = some t → (t.requestId = 0 ↔ t.guarded = true) := by
    intro i t hi
    have hi' := hids hi
    cases hg : t.guarded with
    | true => simpa [hg] using hissued i _ _ hi'
    | false =>
      rw [hg] at hi'
      simpa using (hissued.next_ne hidsLen hi').1
  refine ⟨?_, ?_, ?_, hinv.flight⟩
  · intro reason t ht heq
    have hle : s.ids.countP (!·.1) ≤ s.ids.length := List.countP_le_length
    have hnext : t.requestId = 1 + s.ids.countP (!·.1) := by
      rw [heq]
      exact hinv.seq.trans (Nat.mod_eq_of_lt (by omega))
    obtain ⟨i, hi⟩ := List.mem_iff_getElem?.1 ht
    have hg : t.guarded = false := by
      by_contra hg
      have := (hzero hi).2 (by simpa using hg)
      omega
    have hi' := hids hi
    rw [hg] at hi'
    have hlt := countP_take_lt (j := s.ids.length) (List.getElem?_eq_some_iff.1 hi').1 hi'
    rw [List.take_length] at hlt
    have := (hissued.next_ne hidsLen hi').2
    omega
  · intro i j o o' ho ho' heq hne
    obtain ⟨t, hi, hout⟩ := outcome_of_mem_sent hinv ho
    obtain ⟨t', hj, hout'⟩ := outcome_of_mem_sent hinv ho'
    have hid := (published_of_outcome keyIdFingerprint hout).1
    have hid' := (published_of_outcome keyIdFingerprint hout').1
    have hi' := hids hi
    have hj' := hids hj
    have hg : t.guarded = false := by grind
    have hg' : t'.guarded = false := by grind
    rw [hg] at hi'
    rw [hg'] at hj'
    have h1 := (hissued.next_ne hidsLen hi').2
    have h2 := (hissued.next_ne hidsLen hj').2
    rcases Nat.lt_trichotomy i j with hlt | rfl | hlt
    · have := countP_take_lt hlt hi'
      omega
    · rfl
    · have := countP_take_lt hlt hj'
      omega
  · intro i o ho
    obtain ⟨t, hi, hout⟩ := outcome_of_mem_sent hinv ho
    refine ⟨t, hi, ?_⟩
    rw [(published_of_outcome keyIdFingerprint hout).1]
    exact hzero hi

theorem handles_identify_closed :
    (∀ reason, ∀ t ∈ (exec step (new "fp") closedRun).tasks,
      t.requestId ≠ ((exec step (new "fp") closedRun).reactiveRefresh reason).2) ∧
    ((exec step (new "fp") closedRun).tasks.countP fun t => t.guarded && t.alive) = false.toNat :=
  have h := handles_identify (reach_anyStep (new "fp") closedRun) (by decide)
  ⟨h.1, h.2.2.2⟩

end TokenLifecycle

end KrakenSdk.Auth
