import KrakenSdk.Dispatch.CorrelatedRegistry
import Mathlib.Data.List.Basic
/-!
# No await hangs across a death (api/await_handle.rs, dispatch/event_bus/mod.rs)

Three invariants of every interleaving. `Local`: an await is answered at most once, and with what
it is keyed by. `Flags`: a death drains only after it stored `loop_death_observed`, and one that
returns early leaves the drain to the one that latched `loop_failed`. `Held`: an await that can
still be answered has its success waiter in the map or in the hands of a call, and after a drain
no longer in the map, since whoever registers later finds the flag set.

`resolved_once` follows. Between the step that takes a waiter out of the map and the one that
fires it the await is still pending, and a second death can return meanwhile.
-/
namespace KrakenSdk.Dispatch

open StepSystem

variable {handle : Nat → RequestHandle} {s s' : BusSystem}

/-! ## What an await may be answered with -/

/-- The key an arm is registered under. -/
def armKey (handle : Nat → RequestHandle) (w : Waiter) : Option CorrelationKey :=
  ((handle w.await).armType w.failureArm).map (·, (handle w.await).id)

/-- Its own completion or failure event, the terminal of a death, or its own `LoopDead`. -/
def Correlated (h : RequestHandle) : AwaitOutcome → Prop
  | .loopDead => True
  | .envelope e =>
    e.requestId = some h.id ∧
      (some e.eventType = h.armType false ∨ some e.eventType = h.armType true ∨ e.eventType = .loopFailedEvent)

theorem armKey_some {w : Waiter} {key : CorrelationKey} (h : armKey handle w = some key) :
    (handle w.await).armType w.failureArm = some key.1 ∧ (handle w.await).id = key.2 := by
  obtain ⟨ty, hty, rfl⟩ := Option.map_eq_some_iff.1 h
  exact ⟨hty, rfl⟩

theorem key_some {e : CompletionEnvelope} {key : CorrelationKey} (h : e.key = some key) :
    e.eventType = key.1 ∧ e.requestId = some key.2 := by
  obtain ⟨id, hid, rfl⟩ := Option.map_eq_some_iff.1 h
  exact ⟨rfl, hid⟩

/-- An envelope fits an arm when both have the same key. -/
def Fits (handle : Nat → RequestHandle) (e : CompletionEnvelope) (w : Waiter) : Prop :=
  ∃ key, armKey handle w = some key ∧ e.key = some key

theorem Fits.correlated {e : CompletionEnvelope} {w : Waiter} (h : Fits handle e w) :
    Correlated (handle w.await) (.envelope e) := by
  obtain ⟨key, hw, he⟩ := h
  obtain ⟨hty, hid⟩ := armKey_some hw
  obtain ⟨hety, heid⟩ := key_some he
  refine ⟨heid.trans (congrArg some hid.symm), ?_⟩
  rw [hety, ← hty]
  cases w.failureArm with
  | false => exact .inl rfl
  | true => exact .inr (.inl rfl)

/-- A `ClientReady` await has a failure arm, so the `ClientFailed` of a death is among its types. -/
theorem correlated_terminal {w : Waiter} {key : CorrelationKey} (d : Death) (h : armKey handle w = some key) :
    Correlated (handle w.await) (.envelope (d.terminal key)) := by
  obtain ⟨hty, hid⟩ := armKey_some h
  have hwait : ∀ ty, key.1 = ty → ty = .clientReady ∨ ty = .clientFailed →
      some EventType.clientFailed = (handle w.await).armType false ∨
        some EventType.clientFailed = (handle w.await).armType true := by
    rintro ty rfl hready
    revert hty
    cases w.failureArm <;> cases hexp : (handle w.await).expectedCompletion <;>
      rcases hready with hk | hk <;>
      simp [RequestHandle.armType, hexp, hk, ExpectedCompletionEvent.toEventType,
        ExpectedCompletionEvent.failureEventType]
  unfold Death.terminal
  split
  · rename_i hk
    exact ⟨congrArg some hid.symm, (hwait _ hk (.inl rfl)).imp_right .inl⟩
  · rename_i hk
    exact ⟨congrArg some hid.symm, (hwait _ hk (.inr rfl)).imp_right .inl⟩
  · exact ⟨congrArg some hid.symm, .inr (.inr rfl)⟩

/-! ## Each party on its own -/

/-- The await has left `rx.await`, or was dropped before it. -/
def AwaitPhase.Leaving : AwaitPhase → Prop
  | .unsubscribe _ | .drop | .dropped => True
  | _ => False

/-- Answered at most once, by what it is keyed by; it leaves when answered, or cancelled. -/
structure Await.Sound (handle : Nat → RequestHandle) (a : Nat) (w : Await) : Prop where
  fire : ∀ f event, w.phase = .fire f event → Fits handle event ⟨a, f⟩
  correlated : ∀ o ∈ w.outcomes, Correlated (handle a) o
  atMostOnce : w.outcomes.length + w.tx.toNat ≤ 1
  exactlyOnce : w.rxDropped = false → w.outcomes.length + w.tx.toNat = 1
  dropped : w.rxDropped = true → w.phase = .dropped
  answered : w.phase.Leaving → w.cancelled = false → w.outcomes ≠ []
  cancelled : w.cancelled = true → w.phase.Leaving

/-- What a call holds fits the waiters it holds it for. -/
def Call.Sound (handle : Nat → RequestHandle) : Call → Prop
  | .firing event left _ => ∀ w ∈ left, Fits handle event w
  | .draining _ left => ∀ kw ∈ left, armKey handle kw.2 = some kw.1
  | _ => True

structure CorrelatedRegistry.Sound (handle : Nat → RequestHandle) (r : CorrelatedRegistry) : Prop where
  live : ∀ kw ∈ r.live, armKey handle kw.2 = some kw.1
  missed : ∀ ke ∈ r.missed, ke.2.key = some ke.1

namespace Await.Sound

variable {a : Nat} {w : Await}

theorem offer {event : CompletionEnvelope} (h : w.Sound handle a) (he : Correlated (handle a) (.envelope event)) :
    (w.offer event).Sound handle a := by
  unfold Await.offer
  split_ifs with htx hrx
  · have hone := h.atMostOnce
    rw [htx] at hone
    have hnil : w.outcomes.length = 0 := by simpa using hone
    exact {
      fire := h.fire
      correlated := h.correlated
      atMostOnce := by simp [hnil]
      exactlyOnce := fun hno => absurd hrx (by simpa using hno)
      dropped := h.dropped
      answered := h.answered
      cancelled := h.cancelled }
  · have hone := h.atMostOnce
    rw [htx] at hone
    have hnil : w.outcomes = [] := by simpa using hone
    exact {
      fire := h.fire
      correlated := by
        intro o ho
        obtain rfl : o = .envelope event := by simpa [hnil] using ho
        exact he
      atMostOnce := by simp [hnil]
      exactlyOnce := fun _ => by simp [hnil]
      dropped := h.dropped
      answered := fun _ _ => by simp
      cancelled := h.cancelled }
  · exact h

/-- A step of the await itself to a phase it does not leave by. -/
theorem stays {phase : AwaitPhase} (h : w.Sound handle a) (hf : ∀ f event, phase = .fire f event → Fits handle event ⟨a, f⟩)
    (hl : ¬ w.phase.Leaving) (hl' : ¬ phase.Leaving) : Await.Sound handle a { w with phase } where
  fire := hf
  correlated := h.correlated
  atMostOnce := h.atMostOnce
  exactlyOnce := h.exactlyOnce
  dropped hd := absurd (show w.phase.Leaving by rw [h.dropped hd]; trivial) hl
  answered hlv := absurd hlv hl'
  cancelled hc := absurd (h.cancelled hc) hl

/-- A step of the await itself to a phase it leaves by. -/
theorem leaves {phase : AwaitPhase} (h : w.Sound handle a) (hf : ∀ f event, phase ≠ .fire f event)
    (hd : w.phase ≠ .dropped) (hl' : phase.Leaving) (ho : w.cancelled = false → w.outcomes ≠ []) :
    Await.Sound handle a { w with phase } where
  fire f event he := absurd he (hf f event)
  correlated := h.correlated
  atMostOnce := h.atMostOnce
  exactlyOnce := h.exactlyOnce
  dropped hrx := absurd (h.dropped hrx) hd
  answered _ := ho
  cancelled _ := hl'

end Await.Sound

namespace CorrelatedRegistry

variable {r : CorrelatedRegistry} {key : CorrelationKey} {event : CompletionEnvelope}

theorem Sound.unsubscribe (h : r.Sound handle) (w : Waiter) : (r.unsubscribe w).Sound handle where
  live kw hkw := h.live kw (List.mem_of_mem_filter hkw)
  missed := h.missed

theorem Sound.commitDeath (h : r.Sound handle) (shuttingDown : Bool) : (r.commitDeath shuttingDown).Sound handle := by
  unfold CorrelatedRegistry.commitDeath
  split_ifs
  · exact ⟨h.live, h.missed⟩
  · exact ⟨h.live, fun _ hmem => absurd hmem List.not_mem_nil⟩

theorem Sound.latchMissed (h : r.Sound handle) (he : event.key = some key) : (r.latchMissed key event).Sound handle := by
  refine ⟨h.live, fun ke hke => ?_⟩
  rcases List.mem_append.1 hke with hold | hnew
  · split_ifs at hold
    · exact h.missed ke (List.mem_of_mem_tail hold)
    · exact h.missed ke hold
  · obtain rfl := List.mem_singleton.1 hnew
    exact he

/-- The locked section that takes the waiters of a key: what it takes it had, what it leaves it had,
and nobody is lost. -/
structure Takes (r : CorrelatedRegistry) (key : CorrelationKey) (locked : CorrelatedRegistry × List Waiter) : Prop where
  had : ∀ w ∈ locked.2, (key, w) ∈ r.live
  left : ∀ kw ∈ locked.1.live, kw ∈ r.live
  kept : ∀ kw ∈ r.live, kw ∈ locked.1.live ∨ kw.2 ∈ locked.2

theorem takes_nothing (key : CorrelationKey) : r.Takes key (r, []) := ⟨nofun, fun _ h => h, fun _ h => .inl h⟩

theorem takes_removeOrLatch (key : CorrelationKey) (event : CompletionEnvelope) :
    r.Takes key (r.removeOrLatch key event) := by
  unfold removeOrLatch
  split
  · exact ⟨nofun, fun _ h => h, fun _ h => .inl h⟩
  · refine ⟨fun w hw => ?_, fun kw hkw => List.mem_of_mem_filter hkw, fun kw hkw => ?_⟩
    · obtain ⟨⟨k, w'⟩, hkw, rfl⟩ := List.mem_map.1 hw
      obtain ⟨hlive, hk⟩ := List.mem_filter.1 hkw
      obtain rfl := of_decide_eq_true hk
      exact hlive
    · by_cases hk : kw.1 = key
      · exact .inr (List.mem_map.2 ⟨kw, List.mem_filter.2 ⟨hkw, by simpa using hk⟩, rfl⟩)
      · exact .inl (List.mem_filter.2 ⟨hkw, by simpa using hk⟩)

theorem takes_deliverCorrelated (key : CorrelationKey) (event : CompletionEnvelope) :
    r.Takes key (r.deliverCorrelated key event) := by
  unfold deliverCorrelated
  split_ifs
  · exact takes_nothing key
  · exact takes_removeOrLatch key event

theorem takes_relatchCorrelated (key : CorrelationKey) (event : CompletionEnvelope) :
    r.Takes key (r.relatchCorrelated key event) := by
  unfold relatchCorrelated
  split_ifs
  · exact takes_nothing key
  · exact takes_removeOrLatch key event

theorem Sound.removeOrLatch (h : r.Sound handle) (he : event.key = some key) :
    (r.removeOrLatch key event).1.Sound handle := by
  unfold CorrelatedRegistry.removeOrLatch
  split
  · exact h.latchMissed he
  · exact ⟨fun kw hkw => h.live kw (List.mem_of_mem_filter hkw), h.missed⟩

theorem Sound.deliverCorrelated (h : r.Sound handle) (he : event.key = some key) :
    (r.deliverCorrelated key event).1.Sound handle := by
  unfold CorrelatedRegistry.deliverCorrelated
  split_ifs
  · exact h
  · exact h.removeOrLatch he

theorem Sound.relatchCorrelated (h : r.Sound handle) (he : event.key = some key) :
    (r.relatchCorrelated key event).1.Sound handle := by
  unfold CorrelatedRegistry.relatchCorrelated
  split_ifs
  · exact h
  · exact h.removeOrLatch he

/-- The locked section of `subscribe_correlated`: a miss of the key, or a new waiter under it. -/
theorem subscribeCorrelated_cases (r : CorrelatedRegistry) (key : CorrelationKey) (w : Waiter) :
    (∃ event missed, (key, event) ∈ r.missed ∧ missed ⊆ r.missed ∧
      r.subscribeCorrelated key w = ({ r with missed }, some event)) ∨
    r.subscribeCorrelated key w = ({ r with live := r.live ++ [(key, w)] }, none) := by
  unfold subscribeCorrelated takeMissed
  cases hfind : r.missed.find? (·.1 = key) with
  | none => exact .inr rfl
  | some ke =>
    obtain ⟨key', event⟩ := ke
    obtain rfl : key' = key := by simpa using List.find?_some hfind
    exact .inl ⟨event, _, List.mem_of_find?_eq_some hfind, List.eraseP_subset, rfl⟩

end CorrelatedRegistry

namespace BusSystem

@[simp] theorem phase_offer (w : Await) (event : CompletionEnvelope) : (w.offer event).phase = w.phase := by
  unfold Await.offer
  split_ifs <;> rfl

@[simp] theorem tx_offer (w : Await) (event : CompletionEnvelope) : (w.offer event).tx = false := by
  unfold Await.offer
  split_ifs with htx
  · rfl
  · rfl
  · simpa using htx

@[simp] theorem awaits_updateAwait (s : BusSystem) (a b : Nat) (f : Await → Await) :
    (s.updateAwait a f).awaits b = if b = a then f (s.awaits a) else s.awaits b := by
  simp [updateAwait, Function.update_apply]

@[simp] theorem calls_setCall (s : BusSystem) (c d : Nat) (call : Call) :
    (s.setCall c call).calls d = if d = c then call else s.calls d := by
  simp [setCall, Function.update_apply]

/-! ## `Local` -/

structure Local (handle : Nat → RequestHandle) (s : BusSystem) : Prop where
  reg : s.reg.Sound handle
  awaits : ∀ a, (s.awaits a).Sound handle a
  calls : ∀ c, (s.calls c).Sound handle

theorem local_new (missedCap : Nat) : (new missedCap).Local handle where
  reg := ⟨fun _ hmem => absurd hmem List.not_mem_nil, fun _ hmem => absurd hmem List.not_mem_nil⟩
  awaits _ := {
    fire := nofun
    correlated := nofun
    atMostOnce := Nat.le_refl 1
    exactlyOnce := fun _ => rfl
    dropped := nofun
    answered := nofun
    cancelled := nofun }
  calls _ := trivial

namespace Local

theorem setReg (h : s.Local handle) {reg : CorrelatedRegistry} (hr : reg.Sound handle) :
    Local handle { s with reg } := ⟨hr, h.awaits, h.calls⟩

theorem setCall (h : s.Local handle) (c : Nat) {call : Call} (hc : call.Sound handle) :
    (s.setCall c call).Local handle := by
  refine ⟨h.reg, h.awaits, fun c' => ?_⟩
  rw [calls_setCall]
  split_ifs
  · exact hc
  · exact h.calls c'

theorem updateAwait (h : s.Local handle) {a : Nat} {f : Await → Await} (hf : (f (s.awaits a)).Sound handle a) :
    (s.updateAwait a f).Local handle := by
  refine ⟨h.reg, fun a' => ?_, h.calls⟩
  rw [awaits_updateAwait]
  split_ifs with haa
  · exact haa ▸ hf
  · exact h.awaits a'

theorem fireCorrelated (h : s.Local handle) {w : Waiter} {event : CompletionEnvelope}
    (he : Correlated (handle w.await) (.envelope event)) : (s.fireCorrelated w event).Local handle :=
  h.updateAwait ((h.awaits w.await).offer he)

theorem afterLock (h : s.Local handle) (c : Nat) {event : CompletionEnvelope} {key : CorrelationKey}
    {locked : CorrelatedRegistry × List Waiter} (he : event.key = some key) (ht : s.reg.Takes key locked)
    (hr : locked.1.Sound handle) : (s.afterLock c event locked).Local handle := by
  unfold BusSystem.afterLock
  refine (h.setReg hr).setCall c ?_
  cases hl : locked.2 with
  | nil => trivial
  | cons w left =>
    intro w' hw'
    exact ⟨key, h.reg.live _ (ht.had w' (hl ▸ hw')), he⟩

/-- The flags are not part of it. -/
theorem flags (h : s.Local handle) (hr : s'.reg = s.reg) (ha : s'.awaits = s.awaits) (hc : s'.calls = s.calls) :
    s'.Local handle := ⟨hr ▸ h.reg, ha ▸ h.awaits, hc ▸ h.calls⟩

theorem deathStep (h : s.Local handle) (c : Nat) (d : Death) (next : DeathStep) :
    (s.deathStep c d next).Local handle := by
  have hobs : Local handle { s with loopDeathObserved := true } := h.flags rfl rfl rfl
  cases next with
  | readShuttingDown | readState => exact h.setCall c trivial
  | storeIntendedStop | storeObserved => exact hobs.setCall c trivial
  | commit => exact (h.setReg (h.reg.commitDeath d.shuttingDown)).setCall c trivial
  | swapLoopFailed =>
    have hfail : Local handle { s with loopFailed := true } := h.flags rfl rfl rfl
    rw [BusSystem.deathStep]
    split
    · exact h.setCall c trivial
    · exact hfail.setCall c trivial
  | markState =>
    have hmark : Local handle { s with dispatchReactorState := .failed d.cause } := h.flags rfl rfl rfl
    exact hmark.setCall c trivial
  | drain =>
    have hdrain : Local handle { s with reg := s.reg.drainLive.1, drained := true } :=
      ⟨⟨fun _ hmem => absurd hmem List.not_mem_nil, h.reg.missed⟩, h.awaits, h.calls⟩
    exact hdrain.setCall c h.reg.live

theorem callStep (h : s.Local handle) (c choice : Nat) : (s.callStep c choice).Local handle := by
  have hcall := h.calls c
  unfold BusSystem.callStep
  split
  · split
    · exact h.setCall c trivial
    · rename_i key he
      exact h.afterLock c he (CorrelatedRegistry.takes_deliverCorrelated key _) (h.reg.deliverCorrelated he)
  · split
    · exact h.setCall c trivial
    · rename_i key he
      exact h.afterLock c he (CorrelatedRegistry.takes_relatchCorrelated key _) (h.reg.relatchCorrelated he)
  · split_ifs <;> exact h.setCall c trivial
  · rename_i event w left accepted hc
    rw [hc] at hcall
    refine (h.fireCorrelated (hcall w List.mem_cons_self).correlated).setCall c fun w' hw' => ?_
    exact hcall w' (List.mem_cons_of_mem w hw')
  · exact h.deathStep c _ _
  · exact h.setCall c trivial
  · rename_i d kw left hc
    rw [hc] at hcall
    split
    · rename_i key w hget
      have hmem := List.mem_of_getElem? hget
      refine (h.fireCorrelated (correlated_terminal d (hcall _ hmem))).setCall c fun kw' hkw' => ?_
      exact hcall kw' (List.mem_of_mem_erase hkw')
    · exact h
  · exact h
  · exact h
  · exact h

/-- An await moving on to a phase that holds no envelope and that it does not leave by. -/
theorem setPhase (h : s.Local handle) {a : Nat} {phase : AwaitPhase} (hf : ∀ f event, phase ≠ .fire f event)
    (hl : ¬ (s.awaits a).phase.Leaving) (hl' : ¬ phase.Leaving) : (s.setPhase a phase).Local handle :=
  h.updateAwait ((h.awaits a).stays (fun f event he => absurd he (hf f event)) hl hl')

theorem afterArm (h : s.Local handle) {a : Nat} (failureArm : Bool) (hl : ¬ (s.awaits a).phase.Leaving) :
    (s.setPhase a (afterArm failureArm)).Local handle := by
  cases failureArm with
  | false => exact h.setPhase (fun _ _ => nofun) hl not_false
  | true => exact h.setPhase (fun _ _ => nofun) hl not_false

theorem armStep (h : s.Local handle) {a : Nat} (failureArm : Bool) (hl : ¬ (s.awaits a).phase.Leaving) :
    (s.armStep handle a failureArm).Local handle := by
  unfold BusSystem.armStep
  split
  · exact h.afterArm failureArm hl
  · rename_i eventType hty
    have hkey : armKey handle ⟨a, failureArm⟩ = some (eventType, (handle a).id) := by simp [armKey, hty]
    rcases s.reg.subscribeCorrelated_cases (eventType, (handle a).id) ⟨a, failureArm⟩ with
      ⟨event, missed, hmem, hsub, heq⟩ | heq
    · rw [heq]
      have hreg : CorrelatedRegistry.Sound handle { s.reg with missed } :=
        ⟨h.reg.live, fun ke hke => h.reg.missed ke (hsub hke)⟩
      refine (h.setReg hreg).updateAwait ?_
      refine (h.awaits a).stays ?_ hl not_false
      rintro f event' hfire
      cases hfire
      exact ⟨_, hkey, h.reg.missed _ hmem⟩
    · rw [heq]
      suffices hreg : CorrelatedRegistry.Sound handle
          { s.reg with live := s.reg.live ++ [((eventType, (handle a).id), ⟨a, failureArm⟩)] } from
        (h.setReg hreg).afterArm failureArm hl
      refine ⟨fun kw hkw => ?_, h.reg.missed⟩
      rcases List.mem_append.1 hkw with hold | hnew
      · exact h.reg.live kw hold
      · obtain rfl := List.mem_singleton.1 hnew
        exact hkey

theorem awaitStep (h : s.Local handle) (a relatch : Nat) : (s.awaitStep handle a relatch).Local handle := by
  have hw := h.awaits a
  unfold BusSystem.awaitStep
  split
  · rename_i failureArm hphase
    exact h.armStep failureArm (by simp [hphase, AwaitPhase.Leaving])
  · rename_i failureArm event hphase
    have hl : ¬ (s.awaits a).phase.Leaving := by simp [hphase, AwaitPhase.Leaving]
    have hoff : (s.updateAwait a (·.offer event)).Local handle :=
      h.updateAwait (hw.offer (hw.fire failureArm event hphase).correlated)
    have hl' : ¬ ((s.updateAwait a (·.offer event)).awaits a).phase.Leaving := by
      simpa using hl
    split_ifs
    · exact hoff.afterArm failureArm hl'
    · have hcall : Call.Sound handle (.relatch event) := trivial
      exact (hoff.setCall relatch hcall).setPhase (fun _ _ => nofun) hl' not_false
    · exact h
  · rename_i failureArm c hphase
    split_ifs
    · exact h.afterArm failureArm (by simp [hphase, AwaitPhase.Leaving])
    · exact h
  · rename_i hphase
    refine h.setPhase (fun _ _ => ?_) (by simp [hphase, AwaitPhase.Leaving]) ?_
    · split_ifs <;> nofun
    · split_ifs <;> exact not_false
  · rename_i hphase
    split_ifs with htx
    · have hone := hw.atMostOnce
      rw [htx] at hone
      have hnil : (s.awaits a).outcomes = [] := by simpa using hone
      refine h.updateAwait {
        fire := nofun
        correlated := ?_
        atMostOnce := by simp [hnil]
        exactlyOnce := fun _ => by simp [hnil]
        dropped := fun hd => ?_
        answered := fun _ _ => by simp
        cancelled := fun _ => trivial }
      · intro o ho
        obtain rfl : o = .loopDead := by simpa [hnil] using ho
        trivial
      · have hdropped := hw.dropped hd
        rw [hphase] at hdropped
        cases hdropped
    · exact h.setPhase (fun _ _ => nofun) (by simp [hphase, AwaitPhase.Leaving]) not_false
  · rename_i hphase
    split_ifs with hnil
    · exact h
    · exact h.updateAwait (hw.leaves (fun _ _ => nofun) (by simp [hphase]) trivial fun _ => hnil)
  · rename_i hphase
    have ho := hw.answered (by rw [hphase]; trivial)
    exact (h.setReg (h.reg.unsubscribe _)).updateAwait (hw.leaves (fun _ _ => nofun) (by simp [hphase]) trivial ho)
  · rename_i hphase
    have ho := hw.answered (by rw [hphase]; trivial)
    exact (h.setReg (h.reg.unsubscribe _)).updateAwait (hw.leaves (fun _ _ => nofun) (by simp [hphase]) trivial ho)
  · rename_i hphase
    have ho := hw.answered (by rw [hphase]; trivial)
    exact h.updateAwait {
      fire := nofun
      correlated := hw.correlated
      atMostOnce := hw.atMostOnce
      exactlyOnce := nofun
      dropped := fun _ => rfl
      answered := fun _ => ho
      cancelled := fun _ => trivial }
  · exact h

theorem step (h : s.Local handle) (act : BusAct) : (s.step handle act).Local handle := by
  cases act with
  | startDeliver c event | startRelatch c event | startDeath c loopName cause =>
    unfold BusSystem.step
    dsimp only
    split_ifs
    · exact h.setCall c trivial
    · exact h
  | call c choice => exact h.callStep c choice
  | await a relatch => exact h.awaitStep a relatch
  | cancel a =>
    unfold BusSystem.step
    dsimp only
    split_ifs with hphase
    · have hw := h.awaits a
      exact h.updateAwait {
        fire := nofun
        correlated := hw.correlated
        atMostOnce := hw.atMostOnce
        exactlyOnce := hw.exactlyOnce
        dropped := fun hd => by
          rw [hw.dropped hd] at hphase
          rcases hphase with hp | hp <;> cases hp
        answered := nofun
        cancelled := fun _ => trivial }
    · exact h
  | beginShutdown | setDispatchState state => exact h.flags rfl rfl rfl

end Local

theorem local_run (missedCap : Nat) (acts : List BusAct) : (run handle missedCap acts).Local handle :=
  (reach_anyStep _ _).invariant (local_new missedCap) fun _ act h _ => h.step act

/-! ## `Flags` -/

/-- The steps of a death after it stored `loop_death_observed`. -/
def afterStore : DeathStep → Bool
  | .swapLoopFailed | .markState | .drain => true
  | _ => false

/-- The steps of a death that is bound to drain. -/
def aboutToDrain : Call → Bool
  | .death _ .markState | .death _ .drain => true
  | _ => false

/-- The drain has happened, or the death that will do it has passed its swap. -/
def DrainSure (s : BusSystem) : Prop := s.drained = true ∨ ∃ c, aboutToDrain (s.calls c) = true

/-- What one call says about the flags. -/
def CallFlags (s : BusSystem) : Call → Prop
  | .death _ next => afterStore next = true → s.loopDeathObserved = true
  | .draining _ _ | .deathReturned => s.DrainSure
  | _ => True

structure Flags (s : BusSystem) : Prop where
  observed : s.drained = true → s.loopDeathObserved = true
  failed : s.loopFailed = true → s.DrainSure
  calls : ∀ c, s.CallFlags (s.calls c)

theorem flags_new (missedCap : Nat) : (new missedCap).Flags := ⟨nofun, nofun, fun _ => trivial⟩

/-- One call moved on, and no flag went down. -/
structure Advances (c : Nat) (call : Call) (s s' : BusSystem) : Prop where
  calls : s'.calls = Function.update s.calls c call
  observed : s.loopDeathObserved = true → s'.loopDeathObserved = true
  drained : s.drained = true → s'.drained = true
  /-- A call bound to drain goes on to drain. -/
  bound : aboutToDrain (s.calls c) = true → aboutToDrain call = true ∨ s'.drained = true

theorem Advances.drainSure {c : Nat} {call : Call} (h : Advances c call s s') (hs : s.DrainSure) : s'.DrainSure := by
  rcases hs with hd | ⟨c', hc'⟩
  · exact .inl (h.drained hd)
  · by_cases hcc : c' = c
    · subst hcc
      rcases h.bound hc' with hb | hd
      · exact .inr ⟨c', by simpa [h.calls] using hb⟩
      · exact .inl hd
    · exact .inr ⟨c', by simpa [h.calls, hcc] using hc'⟩

theorem Advances.callFlags {c : Nat} {call other : Call} (h : Advances c call s s') (ho : s.CallFlags other) :
    s'.CallFlags other := by
  cases other with
  | death d next => exact fun ha => h.observed (ho ha)
  | draining | deathReturned => exact h.drainSure ho
  | idle | deliver | relatch | firing | returned => trivial

theorem Flags.advances {c : Nat} {call : Call} (h : s.Flags) (ha : Advances c call s s')
    (hd : s'.drained = true → s'.loopDeathObserved = true) (hf : s'.loopFailed = true → s'.DrainSure)
    (hc : s'.CallFlags call) : s'.Flags := by
  refine ⟨hd, hf, fun c' => ?_⟩
  rw [ha.calls, Function.update_apply]
  split_ifs
  · exact hc
  · exact ha.callFlags (h.calls c')

/-- A call that neither drains nor changes a flag. -/
theorem Flags.setCall (h : s.Flags) {c : Nat} {call : Call} (hr : s'.calls = Function.update s.calls c call)
    (ho : s'.loopDeathObserved = s.loopDeathObserved) (hd : s'.drained = s.drained) (hf : s'.loopFailed = s.loopFailed)
    (hb : aboutToDrain (s.calls c) = true → aboutToDrain call = true) (hc : s.CallFlags call) : s'.Flags := by
  have ha : Advances c call s s' := ⟨hr, fun hx => ho ▸ hx, fun hx => hd ▸ hx, fun hx => .inl (hb hx)⟩
  refine h.advances ha (fun hx => ?_) (fun hx => ?_) (ha.callFlags hc)
  · exact ho ▸ h.observed (hd ▸ hx)
  · exact ha.drainSure (h.failed (hf ▸ hx))

/-- Nothing of it has changed. -/
theorem Flags.same (h : s.Flags) (hr : s'.calls = s.calls) (ho : s'.loopDeathObserved = s.loopDeathObserved)
    (hd : s'.drained = s.drained) (hf : s'.loopFailed = s.loopFailed) : s'.Flags := by
  have hr' : s'.calls = Function.update s.calls 0 (s.calls 0) := by rw [hr, Function.update_eq_self]
  exact h.setCall hr' ho hd hf (fun hx => hx) (h.calls 0)

theorem Flags.deathStep (h : s.Flags) {c : Nat} {d : Death} {next : DeathStep} (hcall : s.calls c = .death d next) :
    (s.deathStep c d next).Flags := by
  have hcf := h.calls c
  rw [hcall] at hcf
  cases next with
  | readShuttingDown =>
    refine h.setCall rfl rfl rfl rfl (fun hb => ?_) ?_
    · rw [hcall] at hb
      cases hb
    · split_ifs <;> nofun
  | readState =>
    refine h.setCall rfl rfl rfl rfl (fun hb => ?_) ?_
    · rw [hcall] at hb
      cases hb
    · split_ifs <;> nofun
  | storeIntendedStop =>
    have ha : Advances c .returned s ({ s with loopDeathObserved := true }.setCall c .returned) :=
      ⟨rfl, fun _ => rfl, fun hx => hx, fun hb => by rw [hcall] at hb; cases hb⟩
    exact h.advances ha (fun _ => rfl) (fun hx => ha.drainSure (h.failed hx)) trivial
  | commit =>
    refine h.setCall rfl rfl rfl rfl (fun hb => ?_) nofun
    rw [hcall] at hb
    cases hb
  | storeObserved =>
    have ha : ∀ call, Advances c call s ({ s with loopDeathObserved := true }.setCall c call) := fun call =>
      ⟨rfl, fun _ => rfl, fun hx => hx, fun hb => by rw [hcall] at hb; cases hb⟩
    exact h.advances (ha _) (fun _ => rfl) (fun hx => (ha _).drainSure (h.failed hx)) fun _ => rfl
  | swapLoopFailed =>
    have hobs : s.loopDeathObserved = true := hcf rfl
    rw [BusSystem.deathStep]
    split
    · rename_i hfailed
      refine h.setCall rfl rfl rfl rfl (fun hb => ?_) (h.failed hfailed)
      rw [hcall] at hb
      cases hb
    · have hb : ∀ next', aboutToDrain (.death d next') = true →
          ({ s with loopFailed := true }.setCall c (.death d next') : BusSystem).Flags := by
        intro next' hn
        have ha : Advances c (.death d next') s ({ s with loopFailed := true }.setCall c (.death d next')) :=
          ⟨rfl, fun hx => hx, fun hx => hx, fun _ => .inl hn⟩
        exact h.advances ha h.observed (fun _ => .inr ⟨c, by simpa using hn⟩) fun _ => hobs
      split_ifs
      · exact hb _ rfl
      · exact hb _ rfl
  | markState => exact h.setCall rfl rfl rfl rfl (fun _ => rfl) fun _ => hcf rfl
  | drain =>
    have ha : Advances c (.draining d s.reg.drainLive.2) s (s.deathStep c d .drain) :=
      ⟨rfl, fun hx => hx, fun _ => rfl, fun _ => .inr rfl⟩
    exact h.advances ha (fun _ => hcf rfl) (fun _ => .inl rfl) (.inl rfl)

theorem Flags.callStep (h : s.Flags) (c choice : Nat) : (s.callStep c choice).Flags := by
  have hcf := h.calls c
  have hmove : ∀ {t : BusSystem} {call : Call}, t.calls = Function.update s.calls c call →
      t.loopDeathObserved = s.loopDeathObserved → t.drained = s.drained → t.loopFailed = s.loopFailed →
      aboutToDrain (s.calls c) = false → s.CallFlags call → t.Flags := fun hr ho hd hf hb hc =>
    h.setCall hr ho hd hf (fun hb' => absurd hb' (by simp [hb])) hc
  have hlock : ∀ {event : CompletionEnvelope} {locked : CorrelatedRegistry × List Waiter},
      aboutToDrain (s.calls c) = false → (s.afterLock c event locked).Flags := by
    intro event locked hb
    refine hmove rfl rfl rfl rfl hb ?_
    cases locked.2 <;> trivial
  unfold BusSystem.callStep
  split
  · rename_i hcall
    split
    · exact hmove rfl rfl rfl rfl (by rw [hcall]; rfl) trivial
    · exact hlock (by rw [hcall]; rfl)
  · rename_i hcall
    split
    · exact hmove rfl rfl rfl rfl (by rw [hcall]; rfl) trivial
    · exact hlock (by rw [hcall]; rfl)
  · rename_i hcall
    refine hmove rfl rfl rfl rfl (by rw [hcall]; rfl) ?_
    split_ifs <;> trivial
  · rename_i hcall
    exact hmove rfl rfl rfl rfl (by rw [hcall]; rfl) trivial
  · rename_i hcall
    exact h.deathStep hcall
  · rename_i hcall
    rw [hcall] at hcf
    exact hmove rfl rfl rfl rfl (by rw [hcall]; rfl) hcf
  · rename_i hcall
    rw [hcall] at hcf
    split
    · exact hmove rfl rfl rfl rfl (by rw [hcall]; rfl) hcf
    · exact h
  · exact h
  · exact h
  · exact h

theorem Flags.armStep (h : s.Flags) (a : Nat) (failureArm : Bool) : (s.armStep handle a failureArm).Flags := by
  unfold BusSystem.armStep
  split
  · exact h.same rfl rfl rfl rfl
  · dsimp only
    split <;> exact h.same rfl rfl rfl rfl

theorem Flags.awaitStep (h : s.Flags) (a relatch : Nat) : (s.awaitStep handle a relatch).Flags := by
  unfold BusSystem.awaitStep
  split
  · exact h.armStep a _
  · split_ifs with hacc hidle
    · exact h.same rfl rfl rfl rfl
    · have hrelatch : ∀ event, s.CallFlags (.relatch event) := fun _ => trivial
      exact h.setCall rfl rfl rfl rfl (fun hb => by rw [hidle] at hb; cases hb) (hrelatch _)
    · exact h
  · split_ifs
    · exact h.same rfl rfl rfl rfl
    · exact h
  · exact h.same rfl rfl rfl rfl
  · split_ifs <;> exact h.same rfl rfl rfl rfl
  · split_ifs
    · exact h
    · exact h.same rfl rfl rfl rfl
  · exact h.same rfl rfl rfl rfl
  · exact h.same rfl rfl rfl rfl
  · exact h.same rfl rfl rfl rfl
  · exact h

theorem Flags.step (h : s.Flags) (act : BusAct) : (s.step handle act).Flags := by
  cases act with
  | startDeliver c event | startRelatch c event | startDeath c loopName cause =>
    unfold BusSystem.step
    dsimp only
    split_ifs with hidle
    · refine h.setCall rfl rfl rfl rfl (fun hb => ?_) ?_
      · rw [hidle] at hb
        cases hb
      · first | trivial | nofun
    · exact h
  | call c choice => exact h.callStep c choice
  | await a relatch => exact h.awaitStep a relatch
  | cancel a =>
    unfold BusSystem.step
    dsimp only
    split_ifs
    · exact h.same rfl rfl rfl rfl
    · exact h
  | beginShutdown | setDispatchState state => exact h.same rfl rfl rfl rfl

/-! ## `Held` -/

/-- The waiters a call has taken out of the map and not fired yet. -/
def inHand : Call → List Waiter
  | .firing _ left _ => left
  | .draining _ left => left.map (·.2)
  | _ => []

@[simp] theorem inHand_fireAll (event : CompletionEnvelope) (ws : List Waiter) : inHand (fireAll event ws) = ws := by
  cases ws <;> rfl

/-- The success arm is registered, or has been, and the await has not left. -/
def registered : AwaitPhase → Bool
  | .arm true | .fire true _ | .relatching _ _ | .armed | .claim | .waiting => true
  | _ => false

/-- The waiter is in the map, or in the hands of a call. -/
def Holds (s : BusSystem) (w : Waiter) : Prop := (∃ key, (key, w) ∈ s.reg.live) ∨ ∃ c, w ∈ inHand (s.calls c)

/-- What is held for one await that can still be answered. -/
structure HeldAt (s : BusSystem) (a : Nat) : Prop where
  holds : registered (s.awaits a).phase = true → s.Holds ⟨a, false⟩
  /-- It found the flag clear, so a drain came after it had registered. -/
  taken : (s.awaits a).phase = .waiting → s.drained = true → ∀ key, (key, ⟨a, false⟩) ∉ s.reg.live

def Held (s : BusSystem) : Prop := ∀ a, (s.awaits a).tx = true → s.HeldAt a

theorem held_new (missedCap : Nat) : (new missedCap).Held := fun _ _ => ⟨nofun, nofun⟩

/-- Nothing that is held for `a` is lost, and nothing is registered for it. -/
theorem HeldAt.frame {a : Nat} (h : s.HeldAt a) (ha : (s'.awaits a).phase = (s.awaits a).phase)
    (hh : s.Holds ⟨a, false⟩ → s'.Holds ⟨a, false⟩)
    (hl : ∀ key, (key, ⟨a, false⟩) ∈ s'.reg.live → (key, ⟨a, false⟩) ∈ s.reg.live)
    (hd : s'.drained = true → s.drained = true) : s'.HeldAt a := by
  refine ⟨fun hr => hh (h.holds (ha ▸ hr)), fun hw hd' key hkey => ?_⟩
  exact h.taken (ha ▸ hw) (hd hd') key (hl key hkey)

/-- A call changes hands of waiters only: those it gives up are fired. -/
theorem Holds.setCall {w : Waiter} {c : Nat} {call : Call} (h : s.Holds w)
    (hr : s'.calls = Function.update s.calls c call) (hl : ∀ key, (key, w) ∈ s.reg.live → s'.Holds w)
    (hk : w ∈ inHand (s.calls c) → w ∈ inHand call) : s'.Holds w := by
  rcases h with ⟨key, hkey⟩ | ⟨c', hc'⟩
  · exact hl key hkey
  · by_cases hcc : c' = c
    · subst hcc
      exact .inr ⟨c', by simpa [hr] using hk hc'⟩
    · exact .inr ⟨c', by simpa [hr, hcc] using hc'⟩

theorem holds_of_live {w : Waiter} {key : CorrelationKey} (h : (key, w) ∈ s.reg.live) : s.Holds w := .inl ⟨key, h⟩

/-- A call that leaves the map alone and fires nobody. -/
theorem Held.setCall (h : s.Held) {c : Nat} {call : Call} (ha : s'.awaits = s.awaits)
    (hr : s'.calls = Function.update s.calls c call) (hl : s'.reg.live = s.reg.live)
    (hd : s'.drained = s.drained) (hk : ∀ w ∈ inHand (s.calls c), w ∈ inHand call) : s'.Held := by
  intro a htx
  rw [ha] at htx
  refine (h a htx).frame (by rw [ha]) (fun hh => ?_) (fun key hkey => hl ▸ hkey) (fun hd' => hd ▸ hd')
  exact hh.setCall hr (fun key hkey => holds_of_live (hl ▸ hkey)) (hk _)

/-- A locked section hands the waiters it takes to its call. -/
theorem Held.afterLock (h : s.Held) {c : Nat} {event : CompletionEnvelope} {key : CorrelationKey}
    {locked : CorrelatedRegistry × List Waiter} (ht : s.reg.Takes key locked) (hn : inHand (s.calls c) = []) :
    (s.afterLock c event locked).Held := by
  intro a htx
  refine (h a htx).frame rfl (fun hh => ?_) (fun key' hkey' => ht.left _ hkey') (fun hd => hd)
  refine hh.setCall rfl (fun key' hkey' => ?_) (fun hw => ?_)
  · rcases ht.kept _ hkey' with hlive | hw
    · exact .inl ⟨key', hlive⟩
    · exact .inr ⟨c, by simpa [BusSystem.afterLock] using hw⟩
  · rw [hn] at hw
    cases hw

/-- Whoever is fired can not be answered again, the others stay in the hands of the call. -/
theorem Held.fire (h : s.Held) {c : Nat} {w : Waiter} {event : CompletionEnvelope} {call : Call}
    (hk : ∀ w' ∈ inHand (s.calls c), w' ≠ w → w' ∈ inHand call) :
    ((s.fireCorrelated w event).setCall c call).Held := by
  intro a htx
  have haw : ((s.fireCorrelated w event).setCall c call).awaits a =
      if a = w.await then (s.awaits w.await).offer event else s.awaits a := awaits_updateAwait ..
  rw [haw] at htx
  split_ifs at htx with hfired
  · simp at htx
  · rw [if_neg hfired] at haw
    refine (h a htx).frame (by rw [haw]) (fun hh => ?_) (fun _ hkey => hkey) (fun hd => hd)
    refine hh.setCall rfl (fun key hkey => .inl ⟨key, hkey⟩) (fun hw => hk _ hw ?_)
    rintro rfl
    exact hfired rfl

theorem Held.deathStep (h : s.Held) {c : Nat} {d : Death} {next : DeathStep} (hcall : s.calls c = .death d next) :
    (s.deathStep c d next).Held := by
  have hn : ∀ {call : Call}, ∀ w ∈ inHand (s.calls c), w ∈ inHand call := by
    intro call w hw
    rw [hcall] at hw
    cases hw
  cases next with
  | readShuttingDown | readState | storeIntendedStop | storeObserved | markState =>
    exact h.setCall rfl rfl rfl rfl hn
  | commit =>
    refine h.setCall rfl rfl ?_ rfl hn
    show (s.reg.commitDeath d.shuttingDown).live = s.reg.live
    unfold CorrelatedRegistry.commitDeath
    split_ifs <;> rfl
  | swapLoopFailed =>
    rw [BusSystem.deathStep]
    split <;> exact h.setCall rfl rfl rfl rfl hn
  | drain =>
    intro a htx
    refine ⟨fun hr => ?_, fun _ _ _ => nofun⟩
    refine ((h a htx).holds hr).setCall rfl (fun key hkey => .inr ⟨c, ?_⟩) (hn _)
    simp only [BusSystem.deathStep, calls_setCall, if_true]
    exact List.mem_map_of_mem (f := (·.2)) hkey

theorem Held.callStep (h : s.Held) (c choice : Nat) : (s.callStep c choice).Held := by
  unfold BusSystem.callStep
  split
  · rename_i hcall
    have hn : inHand (s.calls c) = [] := by rw [hcall]; rfl
    split
    · exact h.setCall rfl rfl rfl rfl (by simp [hn])
    · exact h.afterLock (CorrelatedRegistry.takes_deliverCorrelated _ _) hn
  · rename_i hcall
    have hn : inHand (s.calls c) = [] := by rw [hcall]; rfl
    split
    · exact h.setCall rfl rfl rfl rfl (by simp [hn])
    · exact h.afterLock (CorrelatedRegistry.takes_relatchCorrelated _ _) hn
  · rename_i hcall
    exact h.setCall rfl rfl rfl rfl (by simp [hcall, inHand])
  · rename_i event w left accepted hcall
    refine h.fire fun w' hw' hne => ?_
    rw [hcall] at hw'
    exact (List.mem_cons.1 hw').resolve_left hne
  · rename_i hcall
    exact h.deathStep hcall
  · rename_i hcall
    exact h.setCall rfl rfl rfl rfl (by simp [hcall, inHand])
  · rename_i d kw left hcall
    split
    · rename_i key w hget
      refine h.fire fun w' hw' hne => ?_
      rw [hcall] at hw'
      obtain ⟨kw', hmem, rfl⟩ := List.mem_map.1 hw'
      refine List.mem_map.2 ⟨kw', (List.mem_erase_of_ne ?_).2 hmem, rfl⟩
      rintro rfl
      exact hne rfl
    · exact h
  · exact h
  · exact h
  · exact h

/-- A step of the await `a`: the others keep their waiters and their places. -/
theorem Held.own (h : s.Held) {a : Nat} (ho : ∀ b, b ≠ a → s'.awaits b = s.awaits b)
    (hl : ∀ key b, b ≠ a → ((key, (⟨b, false⟩ : Waiter)) ∈ s'.reg.live ↔ (key, (⟨b, false⟩ : Waiter)) ∈ s.reg.live))
    (hc : ∀ c w, w ∈ inHand (s.calls c) → w ∈ inHand (s'.calls c)) (hd : s'.drained = s.drained)
    (ha : (s'.awaits a).tx = true → s'.HeldAt a) : s'.Held := by
  intro b htx
  by_cases hb : b = a
  · subst hb
    exact ha htx
  · rw [ho b hb] at htx
    refine (h b htx).frame (by rw [ho b hb]) (fun hh => ?_) (fun key hkey => (hl key b hb).1 hkey) (fun hd' => hd ▸ hd')
    exact hh.imp (fun ⟨key, hkey⟩ => ⟨key, (hl key b hb).2 hkey⟩) (fun ⟨c, hw⟩ => ⟨c, hc c _ hw⟩)

/-- The phase of `a` alone changes. -/
theorem Held.setPhase (h : s.Held) {a : Nat} {phase : AwaitPhase}
    (hr : (s.awaits a).tx = true → registered phase = true → registered (s.awaits a).phase = true)
    (hw : (s.awaits a).tx = true → phase = .waiting → s.drained = false) : (s.setPhase a phase).Held := by
  have haw : ∀ b, (s.setPhase a phase).awaits b = if b = a then { s.awaits a with phase } else s.awaits b :=
    fun b => awaits_updateAwait ..
  refine h.own (fun b hb => by rw [haw, if_neg hb]) (fun _ _ _ => Iff.rfl) (fun _ _ hw' => hw') rfl fun htx => ?_
  rw [haw, if_pos rfl] at htx
  refine ⟨fun hreg => ?_, fun hwait hd key _ => ?_⟩
  · rw [haw, if_pos rfl] at hreg
    exact (h a htx).holds (hr htx hreg)
  · rw [haw, if_pos rfl] at hwait
    exact absurd (show s.drained = true from hd) (Bool.eq_false_iff.1 (hw htx hwait))

/-- An await that can not be answered any more holds nothing. -/
theorem Held.answered (h : s.Held) (a : Nat) (ho : ∀ b, b ≠ a → s'.awaits b = s.awaits b)
    (hl : ∀ key b, b ≠ a → ((key, (⟨b, false⟩ : Waiter)) ∈ s'.reg.live ↔ (key, (⟨b, false⟩ : Waiter)) ∈ s.reg.live))
    (hc : ∀ c w, w ∈ inHand (s.calls c) → w ∈ inHand (s'.calls c)) (hd : s'.drained = s.drained)
    (ha : (s'.awaits a).tx = false ∨ registered (s'.awaits a).phase = false) : s'.Held := by
  refine h.own ho hl hc hd fun htx => ?_
  have hreg := ha.resolve_left (by simp [htx])
  refine ⟨fun hr => absurd hr (by simp [hreg]), fun hw => ?_⟩
  rw [hw] at hreg
  cases hreg

theorem Held.armStep (h : s.Held) {a : Nat} {failureArm : Bool} (hphase : (s.awaits a).phase = .arm failureArm) :
    (s.armStep handle a failureArm).Held := by
  -- The waiters of the others are registered under other handles.
  have hother : ∀ key key' b, b ≠ a → ((key, (⟨b, false⟩ : Waiter)) ∈ s.reg.live ++ [(key', ⟨a, failureArm⟩)] ↔
      (key, (⟨b, false⟩ : Waiter)) ∈ s.reg.live) := by
    intro key key' b hb
    simp [hb]
  have hafter : afterArm failureArm ≠ .waiting := by cases failureArm <;> nofun
  unfold BusSystem.armStep
  split
  · rename_i hty
    obtain rfl : failureArm = true := by
      cases failureArm with
      | false => simp [RequestHandle.armType] at hty
      | true => rfl
    exact h.setPhase (fun _ _ => by rw [hphase]; rfl) (fun _ hw => absurd hw hafter)
  · rename_i eventType hty
    rcases s.reg.subscribeCorrelated_cases (eventType, (handle a).id) ⟨a, failureArm⟩ with
      ⟨event, missed, -, -, heq⟩ | heq
    · rw [heq]
      have hreg : Held { s with reg := { s.reg with missed } } := fun b htx =>
        (h b htx).frame rfl (fun hh => hh) (fun _ hkey => hkey) (fun hd => hd)
      refine hreg.setPhase (fun _ hr => ?_) (fun _ => nofun)
      cases failureArm with
      | false => cases hr
      | true =>
        show registered (s.awaits a).phase = true
        rw [hphase]
        rfl
    · rw [heq]
      dsimp only
      refine h.own (fun b hb => by simp [BusSystem.setPhase, hb]) (fun key b hb => hother key _ b hb)
        (fun _ _ hw => hw) rfl fun htx => ⟨fun _ => ?_, fun hw => ?_⟩
      · cases failureArm with
        | false => exact holds_of_live (List.mem_append_right _ (List.mem_singleton.2 rfl))
        | true =>
          have hh := (h a (by simpa [BusSystem.setPhase] using htx)).holds (by rw [hphase]; rfl)
          exact hh.imp (fun ⟨key, hkey⟩ => ⟨key, List.mem_append_left _ hkey⟩) (fun hw => hw)
      · exact absurd (by simpa [BusSystem.setPhase] using hw) hafter

theorem Held.awaitStep (h : s.Held) (hf : s.Flags) (a relatch : Nat) : (s.awaitStep handle a relatch).Held := by
  have hlive : ∀ f key b, b ≠ a → ((key, (⟨b, false⟩ : Waiter)) ∈ (s.reg.unsubscribe ⟨a, f⟩).live ↔
      (key, (⟨b, false⟩ : Waiter)) ∈ s.reg.live) := by
    intro f key b hb
    simp [CorrelatedRegistry.unsubscribe, hb]
  unfold BusSystem.awaitStep
  split
  · rename_i hphase
    exact h.armStep hphase
  · rename_i failureArm event hphase
    split_ifs with hacc hidle
    · refine h.answered a (fun b hb => ?_) (fun _ _ _ => Iff.rfl) (fun _ _ hw => hw) rfl (.inl ?_)
      · simp [BusSystem.setPhase, hb]
      · simp [BusSystem.setPhase]
    · refine h.answered a (fun b hb => ?_) (fun _ _ _ => Iff.rfl) (fun c w hw => ?_) rfl (.inl ?_)
      · simp [BusSystem.setPhase, BusSystem.setCall, BusSystem.updateAwait, hb]
      · show w ∈ inHand (((s.updateAwait a (·.offer event)).setCall relatch (.relatch event)).calls c)
        rw [calls_setCall]
        split_ifs with hc
        · rw [hc, hidle] at hw
          cases hw
        · exact hw
      · simp [BusSystem.setPhase, BusSystem.setCall, BusSystem.updateAwait]
    · exact h
  · rename_i failureArm c hphase
    split_ifs
    · refine h.setPhase (fun _ _ => by rw [hphase]; rfl) (fun _ hw => ?_)
      cases failureArm <;> cases hw
    · exact h
  · rename_i hphase
    refine h.setPhase (fun _ _ => by rw [hphase]; rfl) (fun _ hw => ?_)
    -- The flag was clear, so no death has drained yet.
    split_ifs at hw with hobs
    exact Bool.eq_false_iff.2 fun hd => hobs (hf.observed hd)
  · rename_i hphase
    split_ifs with htx
    · refine h.answered a (fun b hb => ?_) (fun _ _ _ => Iff.rfl) (fun _ _ hw => hw) rfl (.inl ?_)
      · simp [hb]
      · simp
    · exact h.setPhase (fun htx' => absurd htx' htx) (fun htx' => absurd htx' htx)
  · rename_i hphase
    split_ifs
    · exact h
    · exact h.setPhase (fun _ => nofun) (fun _ => nofun)
  · rename_i hphase
    refine h.answered a (fun b hb => ?_) (hlive false) (fun _ _ hw => hw) rfl (.inr ?_)
    · simp [BusSystem.setPhase, hb]
    · simp [BusSystem.setPhase, registered]
  · rename_i hphase
    refine h.answered a (fun b hb => ?_) (hlive true) (fun _ _ hw => hw) rfl (.inr ?_)
    · simp [BusSystem.setPhase, hb]
    · simp [BusSystem.setPhase, registered]
  · refine h.answered a (fun b hb => ?_) (fun _ _ _ => Iff.rfl) (fun _ _ hw => hw) rfl (.inr ?_)
    · simp [hb]
    · simp [registered]
  · exact h

theorem Held.step (h : s.Held) (hf : s.Flags) (act : BusAct) : (s.step handle act).Held := by
  cases act with
  | startDeliver c event | startRelatch c event | startDeath c loopName cause =>
    unfold BusSystem.step
    dsimp only
    split_ifs with hidle
    · exact h.setCall rfl rfl rfl rfl (by simp [hidle, inHand])
    · exact h
  | call c choice => exact h.callStep c choice
  | await a relatch => exact h.awaitStep hf a relatch
  | cancel a =>
    unfold BusSystem.step
    dsimp only
    split_ifs
    · refine h.answered a (fun b hb => ?_) (fun _ _ _ => Iff.rfl) (fun _ _ hw => hw) rfl (.inr ?_)
      · simp [hb]
      · simp [registered]
    · exact h
  | beginShutdown | setDispatchState state =>
    exact fun a htx => (h a htx).frame rfl (fun hh => hh) (fun _ hkey => hkey) (fun hd => hd)

theorem flags_held_of_reach {missedCap : Nat} (h : Reach (step handle) anyStep (new missedCap) s) :
    s.Flags ∧ s.Held := by
  induction h with
  | init => exact ⟨flags_new missedCap, held_new missedCap⟩
  | step act _ _ ih => exact ⟨ih.1.step act, ih.2.step ih.1 act⟩

/-! ## The await and whoever will resolve it -/

/-- `resolve_armed` has executed its check. -/
def checked : AwaitPhase → Bool
  | .claim | .waiting | .unsubscribe _ | .drop | .dropped => true
  | _ => false

/-- The steps that are under way for `a`: its own claim, the next one of a call that has taken its
success waiter, or of the death that is bound to drain. -/
def UnderWay (s : BusSystem) (a : Nat) : BusAct → Prop
  | .await b _ => b = a ∧ (s.awaits a).phase = .claim
  | .call c _ => ⟨a, false⟩ ∈ inHand (s.calls c) ∨ aboutToDrain (s.calls c) = true
  | _ => False

/-- One party that is under way resolves `a`, if it goes on alone. -/
def Resolving (handle : Nat → RequestHandle) (s : BusSystem) (a : Nat) : Prop :=
  ∃ act n, s.UnderWay a act ∧
    ∃ o, ((exec (step handle) s (List.replicate n act)).awaits a).outcomes = [o] ∧ Correlated (handle a) o

/-- An await that no longer has its sender and still has its receiver has been answered, once. -/
theorem Local.resolved (h : s.Local handle) {a : Nat} (htx : (s.awaits a).tx = false)
    (hd : (s.awaits a).phase ≠ .dropped) :
    ∃ o, (s.awaits a).outcomes = [o] ∧ Correlated (handle a) o := by
  have hrx : (s.awaits a).rxDropped = false := Bool.eq_false_iff.2 fun hrx => hd ((h.awaits a).dropped hrx)
  have hone := (h.awaits a).exactlyOnce hrx
  rw [htx] at hone
  obtain ⟨o, ho⟩ := List.length_eq_one_iff.1 hone
  exact ⟨o, ho, (h.awaits a).correlated o (by simp [ho])⟩

/-- The next step of a call with waiters in hand fires the first of them. -/
theorem callStep_inHand {c : Nat} {w : Waiter} {left : List Waiter} (h : inHand (s.calls c) = w :: left) :
    (∃ event, ∀ b, (s.callStep c 0).awaits b = if b = w.await then (s.awaits w.await).offer event else s.awaits b) ∧
      inHand ((s.callStep c 0).calls c) = left := by
  unfold callStep
  cases hcall : s.calls c with
  | firing event ws accepted =>
    obtain rfl : ws = w :: left := by simpa [hcall, inHand] using h
    exact ⟨⟨event, fun b => awaits_updateAwait ..⟩, by simp [inHand]⟩
  | draining d kws =>
    cases kws with
    | nil => simp [hcall, inHand] at h
    | cons kw kws =>
      obtain ⟨rfl, rfl⟩ : kw.2 = w ∧ kws.map (·.2) = left := by simpa [hcall, inHand] using h
      exact ⟨⟨d.terminal kw.1, fun b => awaits_updateAwait ..⟩, by simp [inHand]⟩
  | idle | deliver | relatch | death | returned | deathReturned => simp [hcall, inHand] at h

/-- A call that goes on alone resolves every await it has in hand. -/
theorem inHand_resolves (hl : s.Local handle) {a c : Nat} (hd : (s.awaits a).phase ≠ .dropped)
    (hw : ⟨a, false⟩ ∈ inHand (s.calls c)) :
    ∃ n o, ((exec (step handle) s (List.replicate n (.call c 0))).awaits a).outcomes = [o] ∧ Correlated (handle a) o := by
  generalize hws : inHand (s.calls c) = ws at hw
  induction ws generalizing s with
  | nil => cases hw
  | cons w left ih =>
    obtain ⟨⟨event, hawaits⟩, hleft⟩ := callStep_inHand hws
    have hl1 : (s.callStep c 0).Local handle := hl.callStep c 0
    by_cases ha : a = w.await
    · have hphase : ((s.callStep c 0).awaits a).phase ≠ .dropped := by
        rw [hawaits, if_pos ha, ← ha, phase_offer]
        exact hd
      obtain ⟨o, ho⟩ := hl1.resolved (by rw [hawaits, if_pos ha, tx_offer]) hphase
      exact ⟨1, o, ho⟩
    · have hmem : (⟨a, false⟩ : Waiter) ∈ left := by
        refine (List.mem_cons.1 hw).resolve_left ?_
        rintro rfl
        exact ha rfl
      obtain ⟨n, o, ho⟩ := ih hl1 (by rw [hawaits, if_neg ha]; exact hd) hleft hmem
      exact ⟨n + 1, o, ho⟩

/-- A death bound to drain takes what is in the map. -/
theorem aboutToDrain_takes (hl : s.Local handle) {c : Nat} {w : Waiter} {key : CorrelationKey}
    (hc : aboutToDrain (s.calls c) = true) (hw : (key, w) ∈ s.reg.live) :
    ∃ n, (exec (step handle) s (List.replicate n (.call c 0))).Local handle ∧
      (exec (step handle) s (List.replicate n (.call c 0))).awaits = s.awaits ∧
      w ∈ inHand ((exec (step handle) s (List.replicate n (.call c 0))).calls c) := by
  have hdrain : ∀ {t : BusSystem} {d : Death}, t.calls c = .death d .drain → (key, w) ∈ t.reg.live →
      (t.callStep c 0).awaits = t.awaits ∧ w ∈ inHand ((t.callStep c 0).calls c) := by
    intro t d ht hlive
    rw [callStep, ht]
    refine ⟨rfl, ?_⟩
    simp only [deathStep, calls_setCall, if_true]
    exact List.mem_map_of_mem (f := (·.2)) hlive
  cases hcall : s.calls c with
  | death d next =>
    rw [hcall] at hc
    cases next with
    | drain => exact ⟨1, hl.callStep c 0, hdrain hcall hw⟩
    | markState =>
      have hl1 : (s.callStep c 0).Local handle := hl.callStep c 0
      have hs1 : s.callStep c 0 = s.deathStep c d .markState := by rw [callStep, hcall]
      have hcall1 : (s.callStep c 0).calls c = .death d .drain := by simp [hs1, deathStep]
      obtain ⟨hawaits, hmem⟩ := hdrain hcall1 (by rw [hs1]; exact hw)
      exact ⟨2, hl1.callStep c 0, hawaits.trans (by rw [hs1]; rfl), hmem⟩
    | readShuttingDown | readState | storeIntendedStop | commit | storeObserved | swapLoopFailed => cases hc
  | idle | deliver | relatch | firing | draining | returned | deathReturned =>
    rw [hcall] at hc
    cases hc

/-- A waiting await is in the hands of a call, or in the map that a death is bound to drain. -/
theorem resolving_of_waiting (hl : s.Local handle) {a : Nat} (hh : s.HeldAt a) (hs : s.DrainSure)
    (hphase : (s.awaits a).phase = .waiting) : s.Resolving handle a := by
  have hd : (s.awaits a).phase ≠ .dropped := by simp [hphase]
  rcases hh.holds (by rw [hphase]; rfl) with ⟨key, hkey⟩ | ⟨c, hc⟩
  · rcases hs with hdrained | ⟨c, hc⟩
    · exact absurd hkey (hh.taken hphase hdrained key)
    · obtain ⟨n, hl', hawaits, hmem⟩ := aboutToDrain_takes hl hc hkey
      obtain ⟨m, o, ho⟩ := inHand_resolves hl' (by rw [hawaits]; exact hd) hmem
      rw [← exec_append, List.replicate_append_replicate] at ho
      exact ⟨.call c 0, n + m, .inr hc, o, ho⟩
  · obtain ⟨n, o, ho⟩ := inHand_resolves hl hd hc
    exact ⟨.call c 0, n, .inl hc, o, ho⟩

/-- An await at its claim that still has its sender resolves itself. -/
theorem resolving_of_claim {a : Nat} (hphase : (s.awaits a).phase = .claim) (htx : (s.awaits a).tx = true)
    (hnil : (s.awaits a).outcomes = []) : s.Resolving handle a := by
  refine ⟨.await a 0, 1, ⟨rfl, hphase⟩, .loopDead, ?_, trivial⟩
  show ((s.awaitStep handle a 0).awaits a).outcomes = [.loopDead]
  simp [awaitStep, hphase, htx, hnil]

theorem resolved_of_drainSure (hl : s.Local handle) (hh : s.Held) (hs : s.DrainSure) {a : Nat}
    (hchecked : checked (s.awaits a).phase = true) (hcancelled : (s.awaits a).cancelled = false) :
    (∃ o, (s.awaits a).outcomes = [o] ∧ Correlated (handle a) o) ∨
      (s.awaits a).outcomes = [] ∧ s.Resolving handle a := by
  have hsound := hl.awaits a
  have hleft : (s.awaits a).phase.Leaving → ∃ o, (s.awaits a).outcomes = [o] ∧ Correlated (handle a) o := by
    intro hleaving
    have hpos := List.length_pos_iff.2 (hsound.answered hleaving hcancelled)
    have hone := hsound.atMostOnce
    obtain ⟨o, ho⟩ := List.length_eq_one_iff.1 (show (s.awaits a).outcomes.length = 1 by omega)
    exact ⟨o, ho, hsound.correlated o (by simp [ho])⟩
  cases htx : (s.awaits a).tx with
  | false =>
    by_cases hd : (s.awaits a).phase = .dropped
    · exact .inl (hleft (by rw [hd]; trivial))
    · exact .inl (hl.resolved htx hd)
  | true =>
    have hnil : (s.awaits a).outcomes = [] := by
      have hone := hsound.atMostOnce
      rw [htx] at hone
      simpa using hone
    cases hphase : (s.awaits a).phase with
    | claim => exact .inr ⟨hnil, resolving_of_claim hphase htx hnil⟩
    | waiting => exact .inr ⟨hnil, resolving_of_waiting hl (hh a htx) hs hphase⟩
    | unsubscribe | drop | dropped => exact .inl (hleft (by rw [hphase]; trivial))
    | arm | fire | relatching | armed =>
      rw [hphase] at hchecked
      cases hchecked

/-- **Once a death has returned, a checked await that was not cancelled is resolved exactly once**, or
is being resolved: it has no outcome yet, and a step under way leads to the one it gets. -/
theorem resolved_once (missedCap : Nat) (acts : List BusAct) (a : Nat)
    (hret : ∃ c, (run handle missedCap acts).calls c = .deathReturned)
    (hchecked : checked ((run handle missedCap acts).awaits a).phase = true)
    (hcancelled : ((run handle missedCap acts).awaits a).cancelled = false) :
    (∃ o, ((run handle missedCap acts).awaits a).outcomes = [o] ∧ Correlated (handle a) o) ∨
      ((run handle missedCap acts).awaits a).outcomes = [] ∧ (run handle missedCap acts).Resolving handle a := by
  have hlocal : (run handle missedCap acts).Local handle := local_run missedCap acts
  have hreach : Reach (step handle) anyStep (new missedCap) (run handle missedCap acts) := reach_anyStep _ _
  obtain ⟨hflags, hheld⟩ := flags_held_of_reach hreach
  obtain ⟨c, hc⟩ := hret
  have hsure : (run handle missedCap acts).DrainSure := by
    have hcall := hflags.calls c
    rwa [hc] at hcall
  exact resolved_of_drainSure hlocal hheld hsure hchecked hcancelled

/-- One await on the opening of a connection. -/
def oneOpening (_ : Nat) : RequestHandle := { id := 7, expectedCompletion := .connectionOpen }

/-- Await `0` registers, checks the flag and waits. -/
def armedAndChecked : List BusAct := [.await 0 0, .await 0 0, .await 0 0]

/-- The I/O loop panics; call `1` is its death, from its entry to its return. -/
def ioDeath : List BusAct := .startDeath 1 .io .panic :: List.replicate 8 (.call 1 0)

theorem resolved_once_panic :
    (∃ o, ((run oneOpening 256 (armedAndChecked ++ ioDeath)).awaits 0).outcomes = [o] ∧ Correlated (oneOpening 0) o) ∨
      ((run oneOpening 256 (armedAndChecked ++ ioDeath)).awaits 0).outcomes = [] ∧
        (run oneOpening 256 (armedAndChecked ++ ioDeath)).Resolving oneOpening 0 :=
  resolved_once 256 (armedAndChecked ++ ioDeath) 0 ⟨1, by decide⟩ (by decide) (by decide)

/-- Its opening, as a delivery hands it over. -/
def opening : CompletionEnvelope := { eventType := .connectionOpenEvent, requestId := some 7, payload := .other 0 }

/-- A delivery has taken the waiter and not fired it yet when a death drains and returns. -/
theorem captured_stillPending :
    ¬ ∀ (handle : Nat → RequestHandle) (missedCap : Nat) (acts : List BusAct) (a : Nat),
      (∃ c, (run handle missedCap acts).calls c = .deathReturned) →
      checked ((run handle missedCap acts).awaits a).phase = true →
      ((run handle missedCap acts).awaits a).cancelled = false →
      ∃ o, ((run handle missedCap acts).awaits a).outcomes = [o] ∧ Correlated (handle a) o := by
  intro h
  have hpending : ((run oneOpening 256 (armedAndChecked ++ [.startDeliver 0 opening, .call 0 0] ++ ioDeath)).awaits
      0).outcomes = [] := by decide
  obtain ⟨o, ho, -⟩ := h oneOpening 256 (armedAndChecked ++ [.startDeliver 0 opening, .call 0 0] ++ ioDeath) 0
    ⟨1, by decide⟩ (by decide) (by decide)
  rw [hpending] at ho
  cases ho

/-- With every call returned nothing is pending any more, an await before its claim apart. -/
theorem resolved_of_idle (hl : s.Local handle) (hh : s.Held) (hs : s.DrainSure) {a : Nat}
    (hidle : ∀ c, inHand (s.calls c) = [] ∧ aboutToDrain (s.calls c) = false)
    (hphase : (s.awaits a).phase ≠ .claim) (hchecked : checked (s.awaits a).phase = true)
    (hcancelled : (s.awaits a).cancelled = false) :
    ∃ o, (s.awaits a).outcomes = [o] ∧ Correlated (handle a) o := by
  refine (resolved_of_drainSure hl hh hs hchecked hcancelled).resolve_right ?_
  rintro ⟨-, act, n, hunder, -⟩
  cases act with
  | await b relatch => exact hphase hunder.2
  | call c choice =>
    rcases hunder with hin | hbound
    · rw [(hidle c).1] at hin
      cases hin
    · rw [(hidle c).2] at hbound
      cases hbound
  | startDeliver | startRelatch | startDeath | cancel | beginShutdown | setDispatchState => exact hunder

end BusSystem

end KrakenSdk.Dispatch
