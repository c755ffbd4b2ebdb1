import KrakenSdk.Dispatch.FanOut
/-!
# What the bus counts and what it says about itself (dispatch/event_bus/mod.rs:340-408, 1126-1220)

Every eviction is counted once, at the push that made it; the `QueueFullWarning`s are those let
through the debounce, a whole interval apart; and what the loop reports about callbacks never
reports about a report.

* `drops_accounted`: the counter against the evictions, and the warnings on the ring.
* `reports_bounded`: at most two reports a callback, none for a callback on a report.
-/
namespace KrakenSdk.Dispatch

open StepSystem

/-- The warning a push under way is about to make. -/
def PushCall.toWarn? (c : PushCall) : Option (Nat × Nat) :=
  match c.phase with
  | .toWarn total now => some (now, total)
  | _ => none

/-- What a report is about. -/
def BusPayload.about : BusPayload → Option CallbackSource
  | .callbackLatency source _ _ => some source
  | .slowCallbackWarning source _ _ => some source
  | .handlerPanicWarning source _ _ => some source
  | _ => none

namespace FanOut

/-! ## Drops -/

/-- The stamp and the count of a `QueueFullWarning`. -/
def warningOf : DispatchItem → Option (Nat × Nat)
  | .event e =>
    match e.payload with
    | .queueFullWarning droppedCount _ => some (e.timestampMonotonic, droppedCount)
    | _ => none
  | .data .. => none

/-- How many evictions are counted next. -/
def uncounted (s : FanOut) : Nat := s.calls.countP PushCall.uncounted

/-- A warning after `prev`: an interval has passed. -/
def Spaced (intervalMs : Nat) (prev next : Nat × Nat) : Prop := intervalMs ≤ next.1 - prev.1

/-- What the accounting keeps. -/
structure Accounted (s : FanOut) : Prop where
  capacity : 0 < s.ring.ring.capacity
  counted : (s.droppedCount + s.uncounted) % 2 ^ 64 = s.ring.evicted.length % 2 ^ 64
  warnings : (s.ring.pushed.filterMap warningOf ++ s.calls.filterMap PushCall.toWarn?).Perm s.warned
  last : s.lastWarningAt = s.warned.getLast?.map (·.1)
  spaced : s.warned.Pairwise (Spaced s.intervalMs)
  /-- The loop reports nothing as a `QueueFullWarning`. -/
  emits : ∀ e ∈ s.emits, warningOf (.event e) = none

/-- What callers promise: the warning is the bus's own. -/
def OwnWarnings (_ : FanOut) (a : FanOutAct) : Prop := ∀ item, a = .publish item → warningOf item = none

theorem evicted_pushStep {r : RingSystem DispatchItem} (hcap : 0 < r.ring.capacity) (item : DispatchItem) :
    (r.step (.push item)).evicted.length = r.evicted.length + if r.ring.capacity ≤ r.ring.inner.length then 1 else 0 := by
  simp only [RingSystem.step, RingSystem.pushStep, DropOldestRing.pushLocked]
  by_cases hfull : r.ring.capacity ≤ r.ring.inner.length
  · cases hq : r.ring.inner with
    | nil =>
      rw [hq] at hfull
      simp at hfull
      omega
    | cons old queue =>
      rw [hq] at hfull
      rw [if_pos hfull, if_pos hfull]
      simp
  · rw [if_neg hfull, if_neg hfull]
    simp

theorem capacity_ringStep (r : RingSystem DispatchItem) (a : RingAct DispatchItem) :
    (r.step a).ring.capacity = r.ring.capacity := by
  cases a with
  | push item =>
    simp only [RingSystem.step, RingSystem.pushStep, DropOldestRing.pushLocked]
    split <;> rfl
  | pushNotify ticket =>
    by_cases h : ticket ∈ r.toNotify <;> simp [RingSystem.step, h, ring_notifyOne]
  | closeStore => by_cases h : r.close = .notCalled <;> simp [RingSystem.step, h]
  | closeNotify => by_cases h : r.close = .stored <;> simp [RingSystem.step, h, ring_notifyOne]
  | recvPop =>
    simp only [RingSystem.step, RingSystem.popStep, DropOldestRing.popLocked]
    split <;> [split; skip] <;> rfl
  | recvCheck => by_cases h : r.recv = .check <;> simp [RingSystem.step, h]
  | recvWait =>
    simp only [RingSystem.step]
    split <;> [split; skip; skip] <;> rfl

/-- Only a push evicts or pushes. -/
theorem evicted_ringStep (r : RingSystem DispatchItem) {a : RingAct DispatchItem} (ha : ∀ item, a ≠ .push item) :
    (r.step a).evicted = r.evicted ∧ (r.step a).pushed = r.pushed := by
  cases a with
  | push item => exact absurd rfl (ha item)
  | pushNotify ticket =>
    by_cases h : ticket ∈ r.toNotify <;> simp [RingSystem.step, h, evicted_notifyOne, pushed_notifyOne]
  | closeStore => by_cases h : r.close = .notCalled <;> simp [RingSystem.step, h]
  | closeNotify => by_cases h : r.close = .stored <;> simp [RingSystem.step, h, evicted_notifyOne, pushed_notifyOne]
  | recvPop =>
    simp only [RingSystem.step, RingSystem.popStep]
    split <;> [split; skip] <;> exact ⟨rfl, rfl⟩
  | recvCheck => by_cases h : r.recv = .check <;> simp [RingSystem.step, h]
  | recvWait =>
    simp only [RingSystem.step]
    split <;> [split; skip; skip] <;> exact ⟨rfl, rfl⟩

/-- A step that only takes the ring through steps that push nothing. -/
theorem accounted_quiet {s s' : FanOut} (h : Accounted s) (hevicted : s'.ring.evicted = s.ring.evicted)
    (hpushed : s'.ring.pushed = s.ring.pushed) (hcap : s'.ring.ring.capacity = s.ring.ring.capacity)
    (hdropped : s'.droppedCount = s.droppedCount) (hcalls : s'.calls = s.calls) (hlast : s'.lastWarningAt = s.lastWarningAt)
    (hwarned : s'.warned = s.warned) (hinterval : s'.intervalMs = s.intervalMs)
    (hemits : ∀ e ∈ s'.emits, warningOf (.event e) = none) : Accounted s' := by
  refine ⟨?_, ?_, ?_, ?_, ?_, hemits⟩
  · rw [hcap]
    exact h.capacity
  · have hc := h.counted
    unfold uncounted at hc ⊢
    rw [hdropped, hcalls, hevicted, hc]
  · rw [hpushed, hcalls, hwarned]
    exact h.warnings
  · rw [hlast, hwarned, h.last]
  · rw [hwarned, hinterval]
    exact h.spaced

/-- A push evicts what its call goes on to count. -/
theorem counted_push {s : FanOut} (hcap : 0 < s.ring.ring.capacity)
    (hc : (s.droppedCount + s.uncounted) % 2 ^ 64 = s.ring.evicted.length % 2 ^ 64) (item : DispatchItem)
    (byLoop warns : Bool) : ((s.push item byLoop warns).droppedCount + (s.push item byLoop warns).uncounted) % 2 ^ 64 =
      (s.push item byLoop warns).ring.evicted.length % 2 ^ 64 := by
  have hev := evicted_pushStep hcap item
  simp only [push, uncounted, List.countP_cons, PushCall.uncounted] at hc ⊢
  rw [hev]
  by_cases hfull : s.ring.ring.capacity ≤ s.ring.ring.inner.length
  · simp [hfull]
    omega
  · simp [hfull]
    omega

theorem accounted_pushed {s : FanOut} {item : DispatchItem} (hcap : 0 < s.ring.ring.capacity)
    (hc : (s.droppedCount + s.uncounted) % 2 ^ 64 = s.ring.evicted.length % 2 ^ 64)
    (hwarn : (s.ring.pushed.filterMap warningOf ++ (warningOf item).toList ++
      s.calls.filterMap PushCall.toWarn?).Perm s.warned)
    (hlast : s.lastWarningAt = s.warned.getLast?.map (·.1)) (hspaced : s.warned.Pairwise (Spaced s.intervalMs))
    (hemits : ∀ e ∈ s.emits, warningOf (.event e) = none) (byLoop warns : Bool) :
    Accounted (s.push item byLoop warns) := by
  have hpushed : (s.ring.step (.push item)).pushed.filterMap warningOf =
      s.ring.pushed.filterMap warningOf ++ (warningOf item).toList := by
    rw [show (s.ring.step (.push item)).pushed = s.ring.pushed ++ [item] from rfl, List.filterMap_append]
    cases hw : warningOf item <;> simp [hw]
  refine ⟨?_, counted_push hcap hc item byLoop warns, ?_, hlast, hspaced, hemits⟩
  · simpa only [push, capacity_ringStep] using hcap
  · simp only [push, hpushed, List.filterMap_cons, PushCall.toWarn?]
    exact hwarn

theorem accounted_push {s : FanOut} (h : Accounted s) {item : DispatchItem} (hitem : warningOf item = none)
    (byLoop warns : Bool) : Accounted (s.push item byLoop warns) := by
  refine accounted_pushed h.capacity h.counted ?_ h.last h.spaced h.emits byLoop warns
  simpa [hitem] using h.warnings

/-- The counting of the call that goes on next, taken out of the calls under way. -/
theorem uncounted_erase {s : FanOut} {call : PushCall} (hmem : call ∈ s.calls) :
    s.uncounted = uncounted { s with calls := s.calls.erase call } + if call.uncounted then 1 else 0 := by
  have hperm := (List.perm_cons_erase hmem).countP_eq PushCall.uncounted
  simpa [uncounted, List.countP_cons] using hperm

theorem warnings_erase {s : FanOut} (h : Accounted s) {call : PushCall} (hmem : call ∈ s.calls) :
    (s.ring.pushed.filterMap warningOf ++ (call :: s.calls.erase call).filterMap PushCall.toWarn?).Perm s.warned :=
  (((List.perm_cons_erase hmem).symm.filterMap _).append_left _).trans h.warnings

/-- An interval after the last warning is an interval after each. -/
theorem spaced_last {intervalMs : Nat} {warned : List (Nat × Nat)} (h : warned.Pairwise (Spaced intervalMs))
    {last next : Nat × Nat} (hlast : warned.getLast? = some last) (hnext : Spaced intervalMs last next) :
    ∀ prev ∈ warned, Spaced intervalMs prev next := by
  obtain ⟨init, rfl⟩ := List.getLast?_eq_some_iff.1 hlast
  intro prev hprev
  rcases List.mem_append.1 hprev with hprev | hprev
  · have hprior : Spaced intervalMs prev last := (List.pairwise_append.1 h).2.2 prev hprev last (by simp)
    unfold Spaced at hprior hnext ⊢
    omega
  · rw [List.mem_singleton.1 hprev]
    exact hnext

theorem spaced_of_elapsedOk {s : FanOut} (h : Accounted s) {now total : Nat} (hok : s.elapsedOk now = true) :
    (s.warned ++ [(now, total)]).Pairwise (Spaced s.intervalMs) := by
  refine List.pairwise_append.2 ⟨h.spaced, by simp, fun prev hprev next hnext => ?_⟩
  rw [List.mem_singleton.1 hnext]
  cases hlast : s.warned.getLast? with
  | none =>
    rw [List.getLast?_eq_none_iff] at hlast
    simp [hlast] at hprev
  | some last =>
    have hsome : s.lastWarningAt = some last.1 := by rw [h.last, hlast, Option.map_some]
    simp only [elapsedOk, hsome, decide_eq_true_eq] at hok
    have hnext' : Spaced s.intervalMs last (now, total) := hok
    exact spaced_last h.spaced hlast hnext' prev hprev

theorem accounted_advance {s : FanOut} (h : Accounted s) (call : PushCall) (now : Nat) :
    Accounted (s.advance call now) := by
  unfold advance
  split
  next hmem =>
    have hcount := uncounted_erase hmem
    have hcounted := h.counted
    have hwarn := warnings_erase h hmem
    obtain ⟨byLoop, phase⟩ := call
    rw [hcount] at hcounted
    cases phase with
    | toNotify ticket dropped warns =>
      have hq := evicted_ringStep s.ring (a := .pushNotify ticket) (by simp)
      have hcap : 0 < (s.ring.step (.pushNotify ticket)).ring.capacity := by
        rw [capacity_ringStep]
        exact h.capacity
      cases dropped with
      | false =>
        refine ⟨hcap, ?_, ?_, h.last, h.spaced, h.emits⟩
        · simpa [advancePhase, uncounted, PushCall.uncounted, hq.1] using hcounted
        · simpa [advancePhase, hq.2, PushCall.toWarn?, List.filterMap_cons] using hwarn
      | true =>
        refine ⟨hcap, ?_, ?_, h.last, h.spaced, h.emits⟩
        · simpa [advancePhase, uncounted, PushCall.uncounted, hq.1, List.countP_cons] using hcounted
        · simpa [advancePhase, hq.2, PushCall.toWarn?, List.filterMap_cons] using hwarn
    | toCount warns =>
      have hmod : ((s.droppedCount + 1) % 2 ^ 64 + uncounted { s with calls := s.calls.erase ⟨byLoop, .toCount warns⟩ }) % 2 ^ 64 =
          s.ring.evicted.length % 2 ^ 64 := by
        simp only [PushCall.uncounted, if_true] at hcounted
        omega
      cases warns with
      | false =>
        refine ⟨h.capacity, ?_, ?_, h.last, h.spaced, h.emits⟩
        · simpa [advancePhase, uncounted] using hmod
        · simpa [advancePhase, PushCall.toWarn?, List.filterMap_cons] using hwarn
      | true =>
        refine ⟨h.capacity, ?_, ?_, h.last, h.spaced, h.emits⟩
        · simpa [advancePhase, uncounted, PushCall.uncounted, List.countP_cons] using hmod
        · simpa [advancePhase, PushCall.toWarn?, List.filterMap_cons] using hwarn
    | toClock total =>
      refine ⟨h.capacity, ?_, ?_, h.last, h.spaced, h.emits⟩
      · simpa [advancePhase, uncounted, PushCall.uncounted, List.countP_cons] using hcounted
      · simpa [advancePhase, PushCall.toWarn?, List.filterMap_cons] using hwarn
    | toDebounce total at_ =>
      simp only [advancePhase]
      split
      next hok =>
        have hok' : s.elapsedOk at_ = true := hok
        refine ⟨h.capacity, ?_, ?_, ?_, spaced_of_elapsedOk h hok', h.emits⟩
        · simpa [uncounted, PushCall.uncounted, List.countP_cons] using hcounted
        · simp only [List.filterMap_cons, PushCall.toWarn?] at hwarn ⊢
          exact List.perm_middle.trans ((hwarn.cons (at_, total)).trans (List.perm_append_singleton _ _).symm)
        · simp
      next hok =>
        refine ⟨h.capacity, ?_, ?_, h.last, h.spaced, h.emits⟩
        · simpa [uncounted, PushCall.uncounted] using hcounted
        · simpa [PushCall.toWarn?, List.filterMap_cons] using hwarn
    | toWarn total at_ =>
      refine accounted_pushed (s := { s with calls := s.calls.erase ⟨byLoop, .toWarn total at_⟩ }) h.capacity ?_ ?_ h.last
        h.spaced h.emits byLoop false
      · simpa [PushCall.uncounted] using hcounted
      · simpa [queueFullWarning, warningOf, PushCall.toWarn?, List.filterMap_cons] using hwarn
  next => exact h

/-! ## What the loop pushes -/

/-- Each of the loop's reports and samples. -/
theorem emits_loopStep {s : FanOut} (h : ∀ e ∈ s.emits, warningOf (.event e) = none) (a : LoopAct) :
    ∀ e ∈ (s.loopStep a).emits, warningOf (.event e) = none := by
  have hreports : ∀ source handlerId latency slow elapsedUs thresholdMs latencyAt slowAt,
      ∀ e ∈ returnReports source handlerId latency slow elapsedUs thresholdMs latencyAt slowAt,
        warningOf (.event e) = none := by
    intro source handlerId latency slow elapsedUs thresholdMs latencyAt slowAt e he
    rcases List.mem_append.1 he with he | he
    · cases latency
      · simp at he
      · rw [List.mem_singleton.1 he]
        rfl
    · split at he
      · rw [List.mem_singleton.1 he]
        rfl
      · simp at he
  cases a with
  | upgrade alive elapsedMs now =>
    simp only [loopStep]
    split
    · split
      · split
        · intro e he
          rw [List.mem_singleton.1 he]
          rfl
        · exact h
      · exact h
    · exact h
  | matchItem panics =>
    simp only [loopStep]
    split
    · exact h
    · split
      · intro e he
        obtain ⟨p, -, rfl⟩ := List.mem_map.1 he
        rfl
      · exact h
    · exact h
  | hasSubs | snapshot | invoke =>
    simp only [loopStep]
    split <;> exact h
  | returned elapsedUs thresholdMs latencyAt slowAt =>
    simp only [loopStep]
    split
    · exact hreports _ _ _ _ _ _ _ _
    · exact hreports _ _ _ _ _ _ _ _
    · exact h
  | panicked panicMessage now =>
    simp only [loopStep]
    split
    · split
      · simp
      · intro e he
        rw [List.mem_singleton.1 he]
        rfl
    · intro e he
      rw [List.mem_singleton.1 he]
      rfl
    · exact h

/-- What the loop moves besides its own phase and reports. -/
theorem loopStep_rest (s : FanOut) (a : LoopAct) : (s.loopStep a).ring = s.ring ∧ (s.loopStep a).calls = s.calls ∧
    (s.loopStep a).droppedCount = s.droppedCount ∧ (s.loopStep a).lastWarningAt = s.lastWarningAt ∧
    (s.loopStep a).warned = s.warned ∧ (s.loopStep a).intervalMs = s.intervalMs := by
  cases a <;> simp only [loopStep] <;> split <;> (try split) <;> (try split) <;> exact ⟨rfl, rfl, rfl, rfl, rfl, rfl⟩

theorem intervalMs_push (s : FanOut) (item : DispatchItem) (byLoop warns : Bool) :
    (s.push item byLoop warns).intervalMs = s.intervalMs := rfl

theorem intervalMs_step (s : FanOut) (a : FanOutAct) : (s.step a).intervalMs = s.intervalMs := by
  cases a with
  | advance call now =>
    simp only [step, advance]
    split
    · cases call.phase <;> simp only [advancePhase] <;> (try split) <;> rfl
    · rfl
  | emit =>
    simp only [step]
    split
    · rfl
    · split <;> rfl
  | loop a =>
    simp only [step]
    split
    · exact (loopStep_rest s a).2.2.2.2.2
    · rfl
  | insert record | recvPop | recvCheck | recvWait | abort =>
    simp only [step]
    split <;> rfl
  | _ => rfl

theorem accounted_step {s : FanOut} (h : Accounted s) (a : FanOutAct) (ha : OwnWarnings s a) : Accounted (s.step a) := by
  have hring : ∀ (b : RingAct DispatchItem) (s' : FanOut), (∀ item, b ≠ .push item) → s'.ring = s.ring.step b →
      s'.droppedCount = s.droppedCount → s'.calls = s.calls → s'.lastWarningAt = s.lastWarningAt → s'.warned = s.warned →
      s'.intervalMs = s.intervalMs → s'.emits = s.emits → Accounted s' := by
    intro b s' hb hr h1 h2 h3 h4 h5 h6
    obtain ⟨hev, hpushed⟩ := evicted_ringStep s.ring hb
    refine accounted_quiet h (by rw [hr, hev]) (by rw [hr, hpushed]) (by rw [hr, capacity_ringStep]) h1 h2 h3 h4 h5 ?_
    rw [h6]
    exact h.emits
  cases a with
  | publish item => exact accounted_push h (ha item rfl) false true
  | advance call now => exact accounted_advance h call now
  | nextId eventType maxVersion => exact accounted_quiet h rfl rfl rfl rfl rfl rfl rfl rfl h.emits
  | insert record =>
    simp only [step]
    split
    · exact accounted_quiet h rfl rfl rfl rfl rfl rfl rfl rfl h.emits
    · exact h
  | unsubscribe handle => exact accounted_quiet h rfl rfl rfl rfl rfl rfl rfl rfl h.emits
  | closeStore => exact hring .closeStore _ (by simp) rfl rfl rfl rfl rfl rfl rfl
  | closeNotify => exact hring .closeNotify _ (by simp) rfl rfl rfl rfl rfl rfl rfl
  | recvPop =>
    simp only [step]
    split
    · exact hring .recvPop _ (by simp) rfl rfl rfl rfl rfl rfl rfl
    · exact h
  | recvCheck =>
    simp only [step]
    split
    · exact hring .recvCheck _ (by simp) rfl rfl rfl rfl rfl rfl rfl
    · exact h
  | recvWait =>
    simp only [step]
    split
    · exact hring .recvWait _ (by simp) rfl rfl rfl rfl rfl rfl rfl
    · exact h
  | abort =>
    simp only [step]
    split
    · exact accounted_quiet h rfl rfl rfl rfl rfl rfl rfl rfl h.emits
    · exact h
  | emit =>
    simp only [step]
    split
    next => exact h
    next e rest hemits =>
      have hall := h.emits
      rw [hemits] at hall
      split
      · refine accounted_push ?_ (hall e (by simp)) true false
        exact accounted_quiet h rfl rfl rfl rfl rfl rfl rfl rfl fun e' he' => hall e' (by simp [he'])
      · exact h
  | loop a =>
    simp only [step]
    split
    · obtain ⟨h1, h2, h3, h4, h5, h6⟩ := loopStep_rest s a
      exact accounted_quiet h (by rw [h1]) (by rw [h1]) (by rw [h1]) h3 h2 h4 h5 h6 (emits_loopStep h.emits a)
    · exact h

theorem accounted_new {capacity : Nat} (hcap : 0 < capacity) (intervalMs : Nat) : Accounted (new capacity intervalMs) where
  capacity := hcap
  counted := rfl
  warnings := .nil
  last := rfl
  spaced := .nil
  emits := by simp [new]

/-- **Drops are accounted for.** In every run over a ring with room, in which only the bus makes
`QueueFullWarning`s: the counter and the evictions its pushes have not counted yet are the evictions,
modulo the counter's width; the warnings pushed, with those about to be, are the ones the debounce
let through; and any two of these are at least an interval apart. -/
theorem drops_accounted (capacity intervalMs : Nat) (acts : List FanOutAct) (hcap : 0 < capacity)
    (hown : ∀ item, .publish item ∈ acts → warningOf item = none) :
    let s := run capacity intervalMs acts
    (s.droppedCount + s.uncounted) % 2 ^ 64 = s.ring.evicted.length % 2 ^ 64 ∧
      (s.ring.pushed.filterMap warningOf ++ s.calls.filterMap PushCall.toWarn?).Perm s.warned ∧
      s.warned.Pairwise (Spaced intervalMs) := by
  intro s
  have hallowed : Allowed step OwnWarnings (new capacity intervalMs) acts := by
    refine allowed_of_forall (p := fun a => ∀ item, a = FanOutAct.publish item → warningOf item = none) ?_ _
    rintro a ha item rfl
    exact hown item ha
  have h : Accounted s ∧ s.intervalMs = intervalMs := by
    refine @Reach.invariant _ _ step OwnWarnings _ _ (fun s => Accounted s ∧ s.intervalMs = intervalMs)
      ⟨accounted_new hcap intervalMs, rfl⟩ (fun s a h ha => ?_) (Reach.exec hallowed)
    exact ⟨accounted_step h.1 a ha, by rw [intervalMs_step, h.2]⟩
  refine ⟨h.1.counted, h.1.warnings, ?_⟩
  rw [← h.2]
  exact h.1.spaced

/-- Three pushes into a ring of one, the second and third evicting. -/
theorem drops_accounted_full :
    let s := run 1 100 [.publish (.data 0 1 2), .publish (.data 1 1 2), .publish (.data 2 1 2),
      .advance ⟨false, .toNotify 1 true true⟩ 0, .advance ⟨false, .toCount true⟩ 0]
    (s.droppedCount + s.uncounted) % 2 ^ 64 = 2 := by
  intro s
  have h := (drops_accounted 1 100 [.publish (.data 0 1 2), .publish (.data 1 1 2), .publish (.data 2 1 2),
    .advance ⟨false, .toNotify 1 true true⟩ 0, .advance ⟨false, .toCount true⟩ 0] (by decide) (by
      intro item hitem
      simp only [List.mem_cons, FanOutAct.publish.injEq, reduceCtorEq, List.not_mem_nil, or_false] at hitem
      rcases hitem with rfl | rfl | rfl <;> rfl)).1
  exact h.trans (by decide)

/-! ## Reports -/

/-- A callback worth reporting: on an event that is not itself a report, or on data. -/
def reportable (s : FanOut) : Nat :=
  s.delivered.countP (fun d => isObservabilityEvent d.envelope.eventType = false) + s.dataRuns.length

/-- What the callback running may still be reported by. -/
def inCall (s : FanOut) : Nat :=
  match s.loop with
  | .calling e _ _ _ => if isObservabilityEvent e.eventType = false then 2 else 0
  | .callingData _ _ => 2
  | _ => 0

/-- The item in the loop's hand is not sampled yet. -/
def unsampled (s : FanOut) : Nat :=
  match s.loop with
  | .dequeued _ _ => 1
  | _ => 0

/-- A report: of an observability type, and not about one. -/
def IsReport (e : BusEnvelope) : Prop :=
  isObservabilityEvent e.eventType = true ∧ ∀ t, e.payload.about = some (CallbackSource.event t) → isObservabilityEvent t = false

/-- What the loop's pushes keep. -/
structure Reported (s : FanOut) : Prop where
  bound : s.emitted.length + s.emits.length + s.inCall ≤ s.samples + s.correlatedPanics + 2 * s.reportable
  sampled : s.samples + s.unsampled ≤ s.ring.received.length
  reports : ∀ e ∈ s.emitted ++ s.emits, IsReport e

theorem eventType_toDeliver (e : BusEnvelope) (maxVersion : Nat) : (e.toDeliver maxVersion).eventType = e.eventType := by
  unfold BusEnvelope.toDeliver
  split <;> rfl

/-- A callback that returned makes at most two reports, and none if nothing is to be reported of it. -/
theorem length_returnReports (source : CallbackSource) (handlerId : Nat) (latency slow : Bool)
    (elapsedUs thresholdMs latencyAt slowAt : Nat) :
    (returnReports source handlerId latency slow elapsedUs thresholdMs latencyAt slowAt).length ≤
      (if latency then 1 else 0) + if slow then 1 else 0 := by
  unfold returnReports
  by_cases hslow : thresholdMs * 1000 ≤ elapsedUs <;> cases latency <;> cases slow <;> simp [hslow]

theorem isReport_returnReports {source : CallbackSource} (hsource : ∀ t, source = .event t → isObservabilityEvent t = false)
    (handlerId : Nat) (latency slow : Bool) (elapsedUs thresholdMs latencyAt slowAt : Nat) :
    ∀ e ∈ returnReports source handlerId latency slow elapsedUs thresholdMs latencyAt slowAt, IsReport e := by
  intro e he
  have habout : ∀ t, some source = some (CallbackSource.event t) → isObservabilityEvent t = false :=
    fun t ht => hsource t (Option.some.inj ht)
  rcases List.mem_append.1 he with he | he
  · cases latency
    · simp at he
    · rw [List.mem_singleton.1 he]
      exact ⟨rfl, habout⟩
  · split at he
    · rw [List.mem_singleton.1 he]
      exact ⟨rfl, habout⟩
    · simp at he

/-- A step of the loop, entered with nothing to emit. -/
theorem reported_loopStep {s : FanOut} (h : Reported s) (hnil : s.emits = []) (a : LoopAct) : Reported (s.loopStep a) := by
  obtain ⟨hbound, hsampled, hreports⟩ := h
  have hemitted : ∀ e ∈ s.emitted, IsReport e := fun e he => hreports e (List.mem_append_left _ he)
  rw [hnil] at hbound
  simp only [List.length_nil, Nat.add_zero] at hbound
  cases a with
  | upgrade alive elapsedMs now =>
    simp only [loopStep]
    split
    next item ticket hloop =>
      simp only [inCall, unsampled, hloop] at hbound hsampled
      split
      · split
        · refine ⟨?_, ?_, ?_⟩
          · simp only [inCall, reportable, List.length_singleton] at hbound ⊢
            omega
          · simpa [unsampled] using hsampled
          · intro e he
            rcases List.mem_append.1 he with he | he
            · exact hemitted e he
            · rw [List.mem_singleton.1 he]
              exact ⟨rfl, by simp [queueDepthSample, BusPayload.about]⟩
        · refine ⟨by simpa [inCall, hnil, reportable] using hbound, ?_, hreports⟩
          simp only [unsampled]
          omega
      · refine ⟨by simpa [inCall, hnil, reportable] using hbound, ?_, hreports⟩
        simp only [unsampled]
        omega
    next => exact ⟨by simpa [hnil] using hbound, hsampled, hreports⟩
  | matchItem panics =>
    simp only [loopStep]
    split
    next delivery channel handlerId ticket hloop =>
      simp only [inCall, unsampled, hloop] at hbound hsampled
      refine ⟨?_, by simpa [unsampled] using hsampled, hreports⟩
      simp only [inCall, reportable, hnil, List.length_append, List.length_nil, List.length_singleton] at hbound ⊢
      omega
    next e ticket hloop =>
      simp only [inCall, unsampled, hloop] at hbound hsampled
      split
      next hobs =>
        refine ⟨?_, by simpa [unsampled] using hsampled, ?_⟩
        · simp only [inCall, reportable, List.length_map] at hbound ⊢
          omega
        · intro e' he'
          rcases List.mem_append.1 he' with he' | he'
          · exact hemitted e' he'
          · obtain ⟨p, -, rfl⟩ := List.mem_map.1 he'
            refine ⟨rfl, fun t ht => ?_⟩
            simp only [handlerPanicWarning, BusPayload.about, Option.some.injEq, CallbackSource.event.injEq] at ht
            rw [← ht]
            exact hobs.2
      next => exact ⟨by simpa [inCall, hnil, reportable] using hbound, by simpa [unsampled] using hsampled, hreports⟩
    next => exact ⟨by simpa [hnil] using hbound, hsampled, hreports⟩
  | hasSubs =>
    simp only [loopStep]
    split
    next e ticket hloop =>
      simp only [inCall, unsampled, hloop] at hbound hsampled
      by_cases hnone : s.subscribers e.eventType = []
      · exact ⟨by simpa [inCall, hnil, reportable, hnone] using hbound, by simpa [unsampled, hnone] using hsampled, hreports⟩
      · exact ⟨by simpa [inCall, hnil, reportable, hnone] using hbound, by simpa [unsampled, hnone] using hsampled, hreports⟩
    next => exact ⟨by simpa [hnil] using hbound, hsampled, hreports⟩
  | snapshot =>
    simp only [loopStep]
    split
    next e ticket hloop =>
      simp only [inCall, unsampled, hloop] at hbound hsampled
      exact ⟨by simpa [inCall, hnil, reportable] using hbound, by simpa [unsampled] using hsampled, hreports⟩
    next => exact ⟨by simpa [hnil] using hbound, hsampled, hreports⟩
  | invoke =>
    simp only [loopStep]
    split
    next e ticket hloop =>
      simp only [inCall, unsampled, hloop] at hbound hsampled
      exact ⟨by simpa [inCall, hnil, reportable] using hbound, by simpa [unsampled] using hsampled, hreports⟩
    next e ticket cb hs hloop =>
      simp only [inCall, unsampled, hloop] at hbound hsampled
      refine ⟨?_, by simpa [unsampled] using hsampled, hreports⟩
      by_cases hobs : isObservabilityEvent e.eventType = false
      · simp [inCall, hnil, reportable, hobs, eventType_toDeliver] at hbound ⊢
        omega
      · simp [inCall, hnil, reportable, hobs, eventType_toDeliver] at hbound ⊢
        exact hbound
    next => exact ⟨by simpa [hnil] using hbound, hsampled, hreports⟩
  | returned elapsedUs thresholdMs latencyAt slowAt =>
    simp only [loopStep]
    split
    next e ticket cb hs hloop =>
      simp only [inCall, unsampled, hloop] at hbound hsampled
      have hlen := length_returnReports (.event e.eventType) cb.handle (isObservabilityEvent e.eventType = false)
        (isObservabilityEvent e.eventType = false) elapsedUs thresholdMs latencyAt slowAt
      have htwo : (if decide (isObservabilityEvent e.eventType = false) then 1 else 0) +
          (if decide (isObservabilityEvent e.eventType = false) then 1 else 0) ≤
          if isObservabilityEvent e.eventType = false then 2 else 0 := by
        cases isObservabilityEvent e.eventType <;> simp
      refine ⟨?_, by simpa [unsampled] using hsampled, ?_⟩
      · simp only [inCall, reportable] at hbound ⊢
        omega
      · intro e' he'
        rcases List.mem_append.1 he' with he' | he'
        · exact hemitted e' he'
        · by_cases hobs : isObservabilityEvent e.eventType = false
          · refine isReport_returnReports ?_ _ _ _ _ _ _ _ e' he'
            intro t ht
            rw [← CallbackSource.event.inj ht]
            exact hobs
          · simp [hobs, returnReports] at he'
    next channel handlerId hloop =>
      simp only [inCall, unsampled, hloop] at hbound hsampled
      have hlen := length_returnReports (.dataChannel channel) handlerId (s.subscribers .callbackLatency ≠ []) true
        elapsedUs thresholdMs latencyAt slowAt
      have hone : (if decide (s.subscribers .callbackLatency ≠ []) then 1 else 0) ≤ 1 := by
        split <;> simp
      refine ⟨?_, by simpa [unsampled] using hsampled, ?_⟩
      · simp only [inCall, reportable, if_true] at hbound hlen ⊢
        omega
      · intro e' he'
        rcases List.mem_append.1 he' with he' | he'
        · exact hemitted e' he'
        · exact isReport_returnReports (by simp) _ _ _ _ _ _ _ e' he'
    next => exact ⟨by simpa [hnil] using hbound, hsampled, hreports⟩
  | panicked panicMessage now =>
    simp only [loopStep]
    split
    next e ticket cb hs hloop =>
      simp only [inCall, unsampled, hloop] at hbound hsampled
      cases hobs : isObservabilityEvent e.eventType with
      | true =>
        rw [hobs] at hbound
        refine ⟨by simpa [inCall, reportable] using hbound, by simpa [unsampled] using hsampled, ?_⟩
        simpa using hemitted
      | false =>
        rw [hobs] at hbound
        refine ⟨?_, by simpa [unsampled] using hsampled, ?_⟩
        · simp [inCall, reportable] at hbound ⊢
          omega
        · intro e' he'
          rcases List.mem_append.1 he' with he' | he'
          · exact hemitted e' he'
          · rw [if_neg (by simp)] at he'
            rw [List.mem_singleton.1 he']
            refine ⟨rfl, fun t ht => ?_⟩
            simp only [handlerPanicWarning, BusPayload.about, Option.some.injEq, CallbackSource.event.injEq] at ht
            rw [← ht]
            exact hobs
    next channel handlerId hloop =>
      simp only [inCall, unsampled, hloop] at hbound hsampled
      refine ⟨?_, by simpa [unsampled] using hsampled, ?_⟩
      · simp only [inCall, reportable, List.length_singleton] at hbound ⊢
        omega
      · intro e' he'
        rcases List.mem_append.1 he' with he' | he'
        · exact hemitted e' he'
        · rw [List.mem_singleton.1 he']
          exact ⟨rfl, by simp [handlerPanicWarning, BusPayload.about]⟩
    next => exact ⟨by simpa [hnil] using hbound, hsampled, hreports⟩

/-- A push under way makes no report. -/
theorem advance_rest (s : FanOut) (call : PushCall) (now : Nat) : (s.advance call now).emitted = s.emitted ∧
    (s.advance call now).emits = s.emits ∧ (s.advance call now).samples = s.samples ∧
    (s.advance call now).correlatedPanics = s.correlatedPanics := by
  unfold advance
  split
  · cases call.phase <;> simp only [advancePhase, push] <;> (try split) <;> simp
  · simp

theorem reported_step {s : FanOut} (h : Reported s) (a : FanOutAct) : Reported (s.step a) := by
  obtain ⟨hbound, hsampled, hreports⟩ := h
  have hframe : ∀ s' : FanOut, Frame s s' → s'.emitted ++ s'.emits = s.emitted ++ s.emits → s'.samples = s.samples →
      s'.correlatedPanics = s.correlatedPanics → Reported s' := by
    intro s' hf hemit hsamples hpanics
    have hlen := congrArg List.length hemit
    simp only [List.length_append] at hlen
    refine ⟨?_, ?_, ?_⟩
    · unfold inCall reportable at hbound ⊢
      rw [hf.loop, hf.delivered, hf.dataRuns, hsamples, hpanics]
      omega
    · unfold unsampled at hsampled ⊢
      rw [hf.loop, hf.received, hsamples]
      exact hsampled
    · rw [hemit]
      exact hreports
  have hrecv : ∀ b, Reported (if s.loop = .recv ∧ s.emits = [] ∧ s.loopIdle then s.recvStep b else s) := by
    intro b
    split
    next hc =>
      have hcall : (s.recvStep b).inCall = 0 := by
        unfold inCall
        rcases loop_recvStep s b with ⟨item, ticket, hl, -⟩ | hl | hl <;> rw [hl]
      have hle : s.ring.received.length + (s.recvStep b).unsampled ≤ (s.recvStep b).ring.received.length := by
        have hgrow : s.ring.received.length ≤ (s.ring.step b).received.length := by
          by_cases hb : b = .recvPop
          · subst hb
            simp only [RingSystem.step, RingSystem.popStep]
            split <;> [split; skip] <;> simp
          · rw [received_ringStep _ hb]
        unfold unsampled
        rcases loop_recvStep s b with ⟨item, ticket, hl, hlt⟩ | hl | hl <;> rw [hl]
        · exact hlt
        · exact hgrow
        · exact hgrow
      refine ⟨?_, ?_, hreports⟩
      · rw [hcall]
        unfold inCall at hbound
        unfold reportable at hbound ⊢
        rw [hc.1] at hbound
        exact hbound
      · have hsame : (s.recvStep b).samples = s.samples := rfl
        rw [hsame]
        omega
    next => exact ⟨hbound, hsampled, hreports⟩
  cases a with
  | publish item => exact hframe _ (frame_push s item false true) rfl rfl rfl
  | advance call now =>
    obtain ⟨h1, h2, h3, h4⟩ := advance_rest s call now
    exact hframe (s.advance call now) (frame_advance s call now) (by rw [h1, h2]) h3 h4
  | nextId eventType maxVersion => exact ⟨hbound, hsampled, hreports⟩
  | insert record =>
    simp only [step]
    split <;> exact ⟨hbound, hsampled, hreports⟩
  | unsubscribe handle => exact ⟨hbound, hsampled, hreports⟩
  | closeStore => exact hframe _ (frame_closeStore s) rfl rfl rfl
  | closeNotify => exact hframe _ (frame_closeNotify s) rfl rfl rfl
  | recvPop => exact hrecv .recvPop
  | recvCheck => exact hrecv .recvCheck
  | recvWait => exact hrecv .recvWait
  | abort =>
    simp only [step]
    split
    next hc =>
      refine ⟨?_, ?_, hreports⟩
      · unfold inCall reportable at hbound ⊢
        rw [hc.1] at hbound
        exact hbound
      · unfold unsampled at hsampled ⊢
        rw [hc.1] at hsampled
        exact hsampled
    next => exact ⟨hbound, hsampled, hreports⟩
  | emit =>
    refine hframe _ (frame_emit s) ?_ ?_ ?_
    all_goals
      simp only [step]
      split
      · rfl
      next e rest hemits =>
        split
        · simp [push, hemits]
        · rfl
  | loop a =>
    simp only [step]
    split
    next hc => exact reported_loopStep ⟨hbound, hsampled, hreports⟩ hc.1 a
    next => exact ⟨hbound, hsampled, hreports⟩

/-- **The bus does not feed on itself.** In every run the loop takes at most one depth sample a
dequeue and makes at most two reports a callback on an event or on data, besides one for each
correlated waiter that panicked; a callback on a report is not counted, and no report is about one. -/
theorem reports_bounded (capacity intervalMs : Nat) (acts : List FanOutAct) :
    let s := run capacity intervalMs acts
    s.emitted.length ≤ s.samples + s.correlatedPanics + 2 * s.reportable ∧
      s.samples ≤ s.ring.received.length ∧ ∀ e ∈ s.emitted, IsReport e := by
  intro s
  have hinit : Reported (new capacity intervalMs) := ⟨by simp [new, inCall], by simp [new, unsampled], by simp [new]⟩
  have h : Reported s := (reach_anyStep _ acts).invariant hinit fun _ a h _ => reported_step h a
  obtain ⟨hbound, hsampled, hreports⟩ := h
  exact ⟨by omega, by omega, fun e he => hreports e (List.mem_append_left _ he)⟩

end FanOut

end KrakenSdk.Dispatch
