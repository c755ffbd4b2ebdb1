import KrakenSdk.Conn.Closing
import KrakenSdk.Dispatch.Refinement
/-!
# `Client::close()` (dispatch/io_reactor/mod.rs, build/client/accessors.rs)

`close()` posts one marker. The reactor closes both connections on it and from then on looks, after each arm, whether
both are `Closed`; once they are it answers the waiter with one `ClientClosedEvent` and leaves its loop. Three timers
are served with a `continue`, which skips the look: `Continues`.

With no `force_reconnect()` in the run and no subscribe frame refused after the marker, each connection is closed or
has its close timer armed; when both timers have fired both are closed, and the waiter has its answer unless one of
the three timers came between (`client_closes`).

Left out: the loop's other exits, a dropped bus and a closed caller channel, which answer no one.
-/
namespace KrakenSdk.Dispatch

open KrakenSdk.Conn KrakenSdk.Conn.ManagedConnection

/-- `CallerInbound::ClientClose`, with what its two closes read. -/
structure CloseMarker where
  requestId : Nat
  initiatedAt : MonotonicInstant
  publicEnv : ArmEnv
  authEnv : ArmEnv

/-- The copy of `ClientClosedEvent` that resolves the `close()` waiter (mod.rs:584-596). -/
structure ClientClosed where
  requestId : Nat
  initiatedAtMonotonic : MonotonicInstant
  timestampMonotonic : MonotonicInstant
  deriving DecidableEq, Repr

/-- The task around the reactor's arms. -/
structure ReactorTask where
  reactor : IoReactor
  pendingClientClose : Option (Nat × MonotonicInstant)
  reported : List ClientClosed
  exited : Bool

/-- An arm, or the marker of `close()`. -/
inductive TaskLabel where
  | arm (l : ArmLabel)
  | clientClose (m : CloseMarker)

namespace IoReactor

/-- `conns.values().all(|mc| mc.state() == ConnectionState::Closed)`. -/
def allClosed (s : IoReactor) : Bool := [WsUrl.publicUrl, .authUrl].all fun url => (s.conns url).state = .closed

/-- The timers the reactor serves with a `continue`. -/
def continued : FsmEvent → Bool
  | .timerSubscribeResendDue _ _ | .timerBookReseedSnapshot _ _ | .timerTokenRefreshDue => true
  | _ => false

/-- The arm reaches the look at the end of the loop: the reactor takes it, and no `continue` ends it. The bridges are
tasks of their own. -/
def reachesCheck (s : IoReactor) : Arm → Bool
  | .reportOk .. | .reportFallback | .reportFailed .. => false
  | .takeOutcome => !s.upgradeRx.isEmpty
  | .textFrame url _ | .otherFrame url | .closeFrame url _ _ | .recvError url _ => (s.sockets url).isSome
  | .timer url event => timerArmed (s.conns url) event && !continued event
  | _ => true

/-- One of the three timers that skip the look. -/
def Continues (arm : Arm) : Prop := ∃ url event, arm = .timer url event ∧ continued event = true

end IoReactor

namespace ReactorTask

open IoReactor

/-- The task as it starts. -/
def init (knobs : Knobs) : ReactorTask where
  reactor := .init knobs
  pendingClientClose := none
  reported := []
  exited := false

/-- The look after an arm (mod.rs:577-612). -/
def checkClosed (t : ReactorTask) (now : MonotonicInstant) : ReactorTask :=
  match t.pendingClientClose with
  | some (requestId, initiatedAt) =>
    if t.reactor.allClosed then
      { t with reported := t.reported ++ [⟨requestId, initiatedAt, now⟩], exited := true }
    else t
  | none => t

/-- The `ClientClose` arm: the marker, and one `close` for each connection (mod.rs:200-230). -/
def clientClose (t : ReactorTask) (m : CloseMarker) : ReactorTask :=
  { t with
    pendingClientClose := some (m.requestId, m.initiatedAt)
    reactor :=
      (t.reactor.callerEvent m.publicEnv .publicUrl (.close m.publicEnv.connectRequestId)).callerEvent
        m.authEnv .authUrl (.close m.authEnv.connectRequestId) }

/-- One turn of the loop. -/
def step (t : ReactorTask) (l : TaskLabel) : ReactorTask :=
  if t.exited then t
  else
    match l with
    | .arm l =>
      let next := { t with reactor := t.reactor.step l }
      if t.reactor.reachesCheck l.arm then next.checkClosed l.env.now else next
    | .clientClose m => (t.clientClose m).checkClosed m.authEnv.now

/-- The task after a list of labels. -/
def run (knobs : Knobs) (ls : List TaskLabel) : ReactorTask := StepSystem.exec step (init knobs) ls

/-- The task after a `close()` among the arms. -/
def afterClose (knobs : Knobs) (before : List ArmLabel) (m : CloseMarker) (after : List ArmLabel) : ReactorTask :=
  run knobs (before.map .arm ++ .clientClose m :: after.map .arm)

/-- The waiter of the marker has its one answer when the task has exited, which is with both connections closed; until
then it has none, and each connection is closed or has its close timer armed. -/
structure Answers (m : CloseMarker) (t : ReactorTask) : Prop where
  exited : t.exited = true → (∀ url, (t.reactor.conns url).state = .closed) ∧
    ∃ now, t.reported = [⟨m.requestId, m.initiatedAt, now⟩]
  waiting : t.exited = false → t.reported = [] ∧ ∀ url, (t.reactor.conns url).state = .closed ∨
    (t.reactor.conns url).state = .closing ∧ (t.reactor.conns url).timers.closeTimeoutDueAt.isSome

end ReactorTask

/-! ## The connections under the arms -/

namespace IoReactor

theorem allClosed_iff (s : IoReactor) : s.allClosed = true ↔ ∀ url, (s.conns url).state = .closed := by
  constructor
  · intro h url
    simp only [allClosed, List.all_cons, List.all_nil, Bool.and_true, Bool.and_eq_true, decide_eq_true_eq] at h
    cases url
    · exact h.1
    · exact h.2
  · intro h
    simp [allClosed, h]

variable {s : IoReactor} {l : ArmLabel}

/-- What an arm drives that forces no reconnect. -/
theorem driven_step (hforce : ¬ Forces l.arm) (url : WsUrl) :
    Driven ⟨False, Refuses l.env⟩ l.env.toEnv (s.conns url) ((s.step l).conns url) :=
  drives_step s l hforce id url

theorem closeArmed_step (hforce : ¬ Forces l.arm) (h : ∀ url, (s.conns url).CloseArmed) (url : WsUrl) :
    ((s.step l).conns url).CloseArmed := (driven_step hforce url).closeArmed id (h url)

/-- Every run that forces no reconnect, whatever its frames met. -/
theorem closeArmed_run (knobs : Knobs) (ls : List ArmLabel) (hforce : ∀ l ∈ ls, ¬ Forces l.arm) (url : WsUrl) :
    ((run knobs ls).conns url).CloseArmed := by
  induction ls using List.reverseRecOn generalizing url with
  | nil => exact closeArmed_new url knobs
  | append_singleton ls l ih =>
    have hrun : run knobs (ls ++ [l]) = (run knobs ls).step l := StepSystem.exec_append _ _ _
    rw [hrun]
    exact closeArmed_step (hforce l (by simp)) (ih fun l' hl' => hforce l' (List.mem_append_left _ hl')) url

/-- The close timer of a connection that shuts down closes it. -/
theorem closed_timer {env : ArmEnv} {url : WsUrl} (ha : (s.conns url).CloseArmed) (hd : (s.conns url).ShuttingDown) :
    ((s.step ⟨env, .timer url .timerCloseTimeout⟩).conns url).state = .closed := by
  have hpop : ∀ mc : ManagedConnection, (mc.popTimerForEvent .timerCloseTimeout).pendingReconnectRequestId =
      mc.pendingReconnectRequestId := fun _ => rfl
  show ((s.timer env url .timerCloseTimeout).conns url).state = .closed
  unfold timer
  split_ifs with harmed
  · dsimp only
    rw [conns_project, conns_updateConn, conns_updateConn, handleEvent_timerCloseTimeout]
    split_ifs with hc
    · exact state_enterClosedOrReconnect ((hpop _).trans ha.reconnect) _ _
    · exact hd.resolve_left hc
  · refine hd.resolve_left fun hc => harmed ?_
    exact ha.timer hc

/-- A close drives the connections. -/
theorem drives_close (s : IoReactor) (env : ArmEnv) (url : WsUrl) (id : Nat) :
    Drives ⟨False, False⟩ env s (s.callerEvent env url (.close id)) := by
  refine drives_callerEvent _ ?_
  rintro ⟨id', h⟩
  cases h

theorem shuttingDown_callerEvent (s : IoReactor) (env : ArmEnv) (url : WsUrl) (id : Nat) :
    ((s.callerEvent env url (.close id)).conns url).ShuttingDown := by
  rw [callerEvent, conns_project, conns_updateConn]
  exact shuttingDown_callClose _ _ id

/-- An arm that is not looked at, and no `continue`: the reactor did not take it, or it is a bridge's. -/
theorem conns_step_of_unchecked (hcheck : s.reachesCheck l.arm = false) (hc : ¬ Continues l.arm) :
    (s.step l).conns = s.conns := by
  obtain ⟨env, arm⟩ := l
  unfold step
  cases arm
  case reportOk =>
    simp only [reportOk, trySend]
    split_ifs <;> rfl
  case reportFallback =>
    simp only [reportFallback]
    split
    · rfl
    · simp only [trySend]
      split_ifs <;> rfl
  case reportFailed =>
    simp only [reportFailed, trySend]
    split_ifs <;> rfl
  case takeOutcome =>
    simp only [reachesCheck, Bool.not_eq_false', List.isEmpty_iff] at hcheck
    simp only [takeOutcome, hcheck]
  case textFrame | otherFrame | closeFrame | recvError =>
    simp only [reachesCheck] at hcheck
    simp only [whenMapped, hcheck, Bool.false_eq_true, if_false]
  case timer url event =>
    simp only [reachesCheck, Bool.and_eq_false_iff, Bool.not_eq_false'] at hcheck
    rcases hcheck with harmed | hcont
    · simp only [timer, harmed, Bool.false_eq_true, if_false]
    · exact absurd ⟨url, event, rfl, hcont⟩ hc
  all_goals simp [reachesCheck] at hcheck

end IoReactor

/-! ## The task -/

namespace ReactorTask

open IoReactor

variable {t : ReactorTask} {m : CloseMarker} {l : ArmLabel}

/-- Before the marker the task only runs the reactor. -/
theorem run_arms (knobs : Knobs) (ls : List ArmLabel) :
    run knobs (ls.map .arm) = { init knobs with reactor := IoReactor.run knobs ls } := by
  induction ls using List.reverseRecOn with
  | nil => rfl
  | append_singleton ls l ih =>
    have hrun : IoReactor.run knobs (ls ++ [l]) = (IoReactor.run knobs ls).step l := StepSystem.exec_append _ _ _
    rw [hrun, List.map_append, run, StepSystem.exec_append]
    rw [run] at ih
    rw [ih]
    simp only [List.map_cons, List.map_nil, StepSystem.exec_cons, StepSystem.exec_nil, step, init, checkClosed]
    simp

/-- A close is under way: what every turn after the marker keeps. -/
structure Draining (m : CloseMarker) (t : ReactorTask) : Prop where
  marker : t.pendingClientClose = some (m.requestId, m.initiatedAt)
  armed : ∀ url, (t.reactor.conns url).CloseArmed
  down : ∀ url, (t.reactor.conns url).ShuttingDown
  waiting : t.exited = false → t.reported = []
  exited : t.exited = true → (∀ url, (t.reactor.conns url).state = .closed) ∧
    ∃ now, t.reported = [⟨m.requestId, m.initiatedAt, now⟩]

theorem Draining.answers (h : Draining m t) : t.Answers m where
  exited := h.exited
  waiting hw := by
    refine ⟨h.waiting hw, fun url => ?_⟩
    rcases h.down url with hc | hc
    · exact .inr ⟨hc, (h.armed url).timer hc⟩
    · exact .inl hc

/-- The look keeps the connections. -/
@[simp] theorem reactor_checkClosed (t : ReactorTask) (now : MonotonicInstant) :
    (t.checkClosed now).reactor = t.reactor := by
  unfold checkClosed
  split
  · split_ifs <;> rfl
  · rfl

/-- The look answers the waiter exactly when both connections are closed. -/
theorem Draining.checkClosed (h : Draining m t) (hw : t.exited = false) (now : MonotonicInstant) :
    Draining m (t.checkClosed now) := by
  simp only [ReactorTask.checkClosed, h.marker]
  split_ifs with hall
  · refine ⟨rfl, h.armed, h.down, by rintro ⟨⟩, fun _ => ⟨(allClosed_iff _).1 hall, now, ?_⟩⟩
    simp [h.waiting hw]
  · exact h

/-- With the marker set and no exit, the look exits when both connections are closed. -/
theorem exited_checkClosed (hm : t.pendingClientClose = some (m.requestId, m.initiatedAt))
    (hall : ∀ url, (t.reactor.conns url).state = .closed) (now : MonotonicInstant) :
    (t.checkClosed now).exited = true := by
  simp only [checkClosed, hm]
  rw [if_pos ((allClosed_iff _).2 hall)]

theorem step_arm (hw : t.exited = false) (l : ArmLabel) : t.step (.arm l) =
    if t.reactor.reachesCheck l.arm = true then { t with reactor := t.reactor.step l }.checkClosed l.env.now
    else { t with reactor := t.reactor.step l } := by
  rw [step, if_neg (by simp [hw])]

/-- The reactor's arms take no notice of the marker. -/
theorem reactor_step_arm (hw : t.exited = false) (l : ArmLabel) :
    (t.step (.arm l)).reactor = t.reactor.step l := by
  rw [step_arm hw]
  split_ifs
  · exact reactor_checkClosed ..
  · rfl

theorem step_of_exited (hx : t.exited = true) (l : TaskLabel) : t.step l = t := by
  simp only [step, hx, if_true]

/-- **The marker begins the close**, whatever the states of the connections. -/
theorem draining_clientClose (hx : t.exited = false) (hr : t.reported = [])
    (h : ∀ url, (t.reactor.conns url).CloseArmed) (m : CloseMarker) : Draining m (t.clientClose m) := by
  have hfirst := drives_close t.reactor m.publicEnv .publicUrl m.publicEnv.connectRequestId
  have hsecond := drives_close (t.reactor.callerEvent m.publicEnv .publicUrl (.close m.publicEnv.connectRequestId))
    m.authEnv .authUrl m.authEnv.connectRequestId
  have hbetween : ∀ url, _ := fun url => (hfirst url).closeArmed id (h url)
  refine ⟨rfl, fun url => (hsecond url).closeArmed id (hbetween url), fun url => ?_, fun _ => hr, fun hx' => ?_⟩
  · cases url with
    | publicUrl =>
      refine (hsecond .publicUrl).shuttingDown id id (hbetween .publicUrl) ?_
      exact shuttingDown_callerEvent ..
    | authUrl => exact shuttingDown_callerEvent ..
  · have hexited : t.exited = true := hx'
    rw [hx] at hexited
    cases hexited

/-- **Every turn after the marker**. -/
theorem Draining.step (h : Draining m t) (hforce : ¬ Forces l.arm) (hsent : ¬ Refuses l.env) :
    Draining m (t.step (.arm l)) := by
  cases hx : t.exited with
  | true => rwa [step_of_exited hx]
  | false =>
    have hnext : Draining m { t with reactor := t.reactor.step l } := by
      refine ⟨h.marker, closeArmed_step hforce h.armed, fun url => ?_, h.waiting, fun hx' => ?_⟩
      · exact (driven_step hforce url).shuttingDown id hsent (h.armed url) (h.down url)
      · rw [hx] at hx'
        cases hx'
    rw [step_arm hx]
    split_ifs
    · exact hnext.checkClosed hx _
    · exact hnext

/-- What is closed stays closed. -/
theorem closed_step {url : WsUrl} (hsent : ¬ Refuses l.env) (hforce : ¬ Forces l.arm)
    (hc : (t.reactor.conns url).state = .closed) : ((t.step (.arm l)).reactor.conns url).state = .closed := by
  cases hx : t.exited with
  | true => rwa [step_of_exited hx]
  | false =>
    rw [reactor_step_arm hx]
    exact (driven_step hforce url).closed hsent hc

/-- The close timer closes its connection. -/
theorem Draining.fired (h : Draining m t) {url : WsUrl} (harm : l.arm = .timer url .timerCloseTimeout) :
    ((t.step (.arm l)).reactor.conns url).state = .closed := by
  cases hx : t.exited with
  | true =>
    rw [step_of_exited hx]
    exact (h.exited hx).1 url
  | false =>
    obtain ⟨env, arm⟩ := l
    obtain rfl := harm
    rw [reactor_step_arm hx]
    exact closed_timer (h.armed url) (h.down url)

/-- Both connections closed, the task has exited. -/
def Prompt (t : ReactorTask) : Prop := (∀ url, (t.reactor.conns url).state = .closed) → t.exited = true

/-- The next look exits. -/
theorem Draining.exits (h : Draining m t) (hall : ∀ url, ((t.step (.arm l)).reactor.conns url).state = .closed)
    (hcheck : t.reactor.reachesCheck l.arm = true) : (t.step (.arm l)).exited = true := by
  cases hx : t.exited with
  | true => rwa [step_of_exited hx]
  | false =>
    rw [reactor_step_arm hx] at hall
    rw [step_arm hx, if_pos hcheck]
    exact exited_checkClosed (t := { t with reactor := t.reactor.step l }) h.marker hall _

/-- Only a `continue` leaves both connections closed and the waiter without its answer. -/
theorem Draining.prompt (h : Draining m t) (hp : t.Prompt) (hc : ¬ Continues l.arm) : (t.step (.arm l)).Prompt := by
  intro hall
  cases hcheck : t.reactor.reachesCheck l.arm with
  | true => exact h.exits hall hcheck
  | false =>
    cases hx : t.exited with
    | true => rwa [step_of_exited hx]
    | false =>
      rw [reactor_step_arm hx, conns_step_of_unchecked hcheck hc] at hall
      exact absurd (hp hall) (by simp [hx])

/-! ## Every run -/

section after

variable {knobs : Knobs} {before after : List ArmLabel} {m : CloseMarker}

theorem afterClose_append (l : ArmLabel) :
    afterClose knobs before m (after ++ [l]) = (afterClose knobs before m after).step (.arm l) := by
  have hlabels : before.map TaskLabel.arm ++ .clientClose m :: (after ++ [l]).map .arm =
      (before.map .arm ++ .clientClose m :: after.map .arm) ++ [.arm l] := by simp
  rw [afterClose, hlabels, run, StepSystem.exec_append]
  rfl

/-- The turn of the marker. -/
theorem afterClose_nil (hbefore : ∀ l ∈ before, ¬ Forces l.arm) :
    Draining m (afterClose knobs before m []) ∧ (afterClose knobs before m []).Prompt := by
  have hmarker : afterClose knobs before m [] =
      ((run knobs (before.map .arm)).clientClose m).checkClosed m.authEnv.now := by
    rw [afterClose, run, StepSystem.exec_append]
    change (run knobs (before.map .arm)).step (.clientClose m) = _
    rw [run_arms]
    rfl
  have hdraining : Draining m ((run knobs (before.map .arm)).clientClose m) := by
    rw [run_arms]
    exact draining_clientClose rfl rfl (closeArmed_run knobs before hbefore) m
  have hx : ((run knobs (before.map .arm)).clientClose m).exited = false := by rw [run_arms]; rfl
  rw [hmarker]
  refine ⟨hdraining.checkClosed hx _, fun hall => ?_⟩
  rw [reactor_checkClosed] at hall
  exact exited_checkClosed hdraining.marker hall _

/-- **The run rule of a close**: what the marker leaves, and every turn after it. -/
theorem draining_afterClose (hbefore : ∀ l ∈ before, ¬ Forces l.arm)
    (hcalm : ∀ l ∈ after, ¬ Forces l.arm ∧ ¬ Refuses l.env) : Draining m (afterClose knobs before m after) := by
  induction after using List.reverseRecOn with
  | nil => exact (afterClose_nil hbefore).1
  | append_singleton after l ih =>
    obtain ⟨hforce, hsent⟩ := hcalm l (by simp)
    rw [afterClose_append]
    exact (ih fun l' hl' => hcalm l' (List.mem_append_left _ hl')).step hforce hsent

/-- A close timer that has fired since. -/
theorem closed_afterClose (hbefore : ∀ l ∈ before, ¬ Forces l.arm)
    (hcalm : ∀ l ∈ after, ¬ Forces l.arm ∧ ¬ Refuses l.env) {url : WsUrl}
    (hfired : ∃ l ∈ after, l.arm = .timer url .timerCloseTimeout) :
    ((afterClose knobs before m after).reactor.conns url).state = .closed := by
  induction after using List.reverseRecOn with
  | nil =>
    obtain ⟨l, hl, -⟩ := hfired
    cases hl
  | append_singleton after l ih =>
    have hcalm' : ∀ l' ∈ after, ¬ Forces l'.arm ∧ ¬ Refuses l'.env :=
      fun l' hl' => hcalm l' (List.mem_append_left _ hl')
    obtain ⟨hforce, hsent⟩ := hcalm l (by simp)
    obtain ⟨l', hl', harm⟩ := hfired
    rw [afterClose_append]
    rcases List.mem_append.1 hl' with hmem | hmem
    · exact closed_step hsent hforce (ih hcalm' ⟨l', hmem, harm⟩)
    · obtain rfl := List.mem_singleton.1 hmem
      exact (draining_afterClose hbefore hcalm').fired harm

/-- No timer with a `continue` has fired since. -/
theorem prompt_afterClose (hbefore : ∀ l ∈ before, ¬ Forces l.arm)
    (hcalm : ∀ l ∈ after, ¬ Forces l.arm ∧ ¬ Refuses l.env) (hcont : ∀ l ∈ after, ¬ Continues l.arm) :
    (afterClose knobs before m after).Prompt := by
  induction after using List.reverseRecOn with
  | nil => exact (afterClose_nil hbefore).2
  | append_singleton after l ih =>
    have hcalm' : ∀ l' ∈ after, ¬ Forces l'.arm ∧ ¬ Refuses l'.env :=
      fun l' hl' => hcalm l' (List.mem_append_left _ hl')
    have hprompt := ih hcalm' fun l' hl' => hcont l' (List.mem_append_left _ hl')
    rw [afterClose_append]
    exact (draining_afterClose hbefore hcalm').prompt hprompt (hcont l (by simp))

end after

/-- **A close is answered once**: with no reconnect forced, and no frame refused after the marker, the waiter has its
answer exactly when the task has exited, and until then each connection is closed or waits for its close timer. When
both timers have fired both connections are closed; the task has exited then, unless one of the timers that end in a
`continue` came after the marker, and in that case the next arm that is looked at exits. -/
theorem client_closes (knobs : Knobs) (before after : List ArmLabel) (m : CloseMarker)
    (hforce : ∀ l ∈ before ++ after, ¬ Forces l.arm) (hsent : ∀ l ∈ after, ¬ Refuses l.env) :
    (afterClose knobs before m after).Answers m ∧
      ((∀ url, ∃ l ∈ after, l.arm = .timer url .timerCloseTimeout) →
        (∀ url, ((afterClose knobs before m after).reactor.conns url).state = .closed) ∧
          ((∀ l ∈ after, ¬ Continues l.arm) → (afterClose knobs before m after).exited = true) ∧
          ∀ l, ¬ Forces l.arm → ¬ Refuses l.env →
            (afterClose knobs before m after).reactor.reachesCheck l.arm = true →
            (afterClose knobs before m (after ++ [l])).exited = true) := by
  have hbefore : ∀ l ∈ before, ¬ Forces l.arm := fun l hl => hforce l (List.mem_append_left _ hl)
  have hcalm : ∀ l ∈ after, ¬ Forces l.arm ∧ ¬ Refuses l.env :=
    fun l hl => ⟨hforce l (List.mem_append_right _ hl), hsent l hl⟩
  have hdraining : Draining m (afterClose knobs before m after) := draining_afterClose hbefore hcalm
  refine ⟨hdraining.answers, fun hfired => ?_⟩
  have hall : ∀ url, ((afterClose knobs before m after).reactor.conns url).state = .closed :=
    fun url => closed_afterClose hbefore hcalm (hfired url)
  refine ⟨hall, fun hcont => prompt_afterClose hbefore hcalm hcont hall, fun l hl hr hcheck => ?_⟩
  rw [afterClose_append]
  exact hdraining.exits (fun url => closed_step hr hl (hall url)) hcheck

/-- The public connection is in its upgrade when the client closes; the auth connection was never started. -/
def closedInUpgrade : CloseMarker where
  requestId := 2
  initiatedAt := 0
  publicEnv := bringUpEnv 1
  authEnv := bringUpEnv 1

theorem client_closes_inUpgrade : (afterClose (bringUpEnv 1).knobs
    [⟨bringUpEnv 1, .callerEvent .publicUrl (.startConnect 1)⟩] closedInUpgrade
    [⟨bringUpEnv 1, .timer .publicUrl .timerCloseTimeout⟩, ⟨bringUpEnv 1, .timer .authUrl .timerCloseTimeout⟩]).exited =
      true := by
  refine ((client_closes _ _ _ closedInUpgrade ?_ ?_).2 ?_).2.1 ?_
  · simp [Forces]
  · simp [Refuses, bringUpEnv]
  · rintro (_ | _) <;> simp
  · simp [Continues, continued]

end ReactorTask

end KrakenSdk.Dispatch
