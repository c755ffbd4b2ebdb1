import Mathlib.Data.List.Perm.Basic
import Mathlib.Data.List.Nodup
import KrakenSdk.Lib.StepSystem
/-!
# The `io_to_dispatch` ring (dispatch/event_bus/mod.rs:131-205)

Any number of `push` calls, one `close` and the `recv` loop of the one consumer, step by step: a
`push` is its locked section and then its `notify_one`, `close` is its store and then its
`notify_one`, `recv` is a locked pop, a load of `closed` and a wait. A step that is not enabled
changes nothing.

* `conserved_run`: every push is received, queued or evicted, once, and reception is in push order.
* `noLostWakeup_run`: nothing stays queued behind a parked consumer that no notify will wake.
* `close_lossless_iff`: what was pushed before the close survives it in exactly the runs where the
  load of a set flag finds none of it queued.
-/
namespace KrakenSdk.Dispatch

open StepSystem

variable {α : Type*}

/-- `DropOldestRing` (mod.rs:133); `permit` is the stored permit of its `Notify`. -/
structure DropOldestRing (α : Type*) where
  inner : List α
  capacity : Nat
  permit : Bool
  closed : Bool

namespace DropOldestRing

/-- `DropOldestRing::new` (mod.rs:141). -/
def new (capacity : Nat) : DropOldestRing α := { inner := [], capacity, permit := false, closed := false }

/-- The locked section of `push` (mod.rs:163-171): the evicted item, if any. -/
def pushLocked (r : DropOldestRing α) (item : α) : DropOldestRing α × Option α :=
  if r.capacity ≤ r.inner.length then ({ r with inner := r.inner.tail ++ [item] }, r.inner.head?)
  else ({ r with inner := r.inner ++ [item] }, none)

/-- The locked section of `recv` (mod.rs:193-198). -/
def popLocked (r : DropOldestRing α) : DropOldestRing α × Option α := ({ r with inner := r.inner.tail }, r.inner.head?)

end DropOldestRing

/-- Where the consumer stands in `recv` (mod.rs:190-205). `parked` is a waiter registered with the
`Notify`, `woken` the same waiter once notified, `returnedNone` the end of its loop. -/
inductive RecvPhase where
  | pop | check | wait | parked | woken | returnedNone
  deriving DecidableEq, Repr

/-- Where `close` (mod.rs:152) stands. -/
inductive ClosePhase where
  | notCalled | stored | returned
  deriving DecidableEq, Repr

/-- The ring with its users. An item carries the number of its push; `pushed`, `received` and
`evicted` keep what happened to each. -/
structure RingSystem (α : Type*) where
  ring : DropOldestRing (α × Nat)
  recv : RecvPhase
  close : ClosePhase
  pushed : List α
  /-- The pushes between their locked section and their `notify_one`. -/
  toNotify : List Nat
  received : List (α × Nat)
  evicted : List (α × Nat)
  /-- The pushes that had completed when `close` was called. -/
  beforeClose : List (α × Nat)

/-- One step of one party. -/
inductive RingAct (α : Type*) where
  | push (item : α)
  | pushNotify (ticket : Nat)
  | closeStore
  | closeNotify
  | recvPop
  | recvCheck
  | recvWait

namespace RingSystem

/-- A fresh ring, its consumer about to receive. -/
def new (capacity : Nat) : RingSystem α :=
  { ring := .new capacity, recv := .pop, close := .notCalled, pushed := [], toNotify := [], received := []
    evicted := [], beforeClose := [] }

/-- `Notify::notify_one`: the waiter is woken, or one permit is stored. -/
def notifyOne (s : RingSystem α) : RingSystem α :=
  if s.recv = .parked then { s with recv := .woken } else { s with ring := { s.ring with permit := true } }

/-- The locked section of a `push`. -/
def pushStep (s : RingSystem α) (item : α) : RingSystem α :=
  let ticket := s.pushed.length
  let (ring, evicted) := s.ring.pushLocked (item, ticket)
  { s with ring, pushed := s.pushed ++ [item], toNotify := ticket :: s.toNotify
           evicted := s.evicted ++ evicted.toList }

/-- The pushes that have completed. -/
def completed (s : RingSystem α) : List (α × Nat) := s.pushed.zipIdx.filter (·.2 ∉ s.toNotify)

/-- The locked pop of `recv`: an item ends the call, and the loop of the consumer calls again. -/
def popStep (s : RingSystem α) : RingSystem α :=
  let (ring, item) := s.ring.popLocked
  match item with
  | some item => { s with ring, received := s.received ++ [item] }
  | none => { s with ring, recv := .check }

/-- One step. -/
def step (s : RingSystem α) : RingAct α → RingSystem α
  | .push item => s.pushStep item
  | .pushNotify ticket =>
    if ticket ∈ s.toNotify then notifyOne { s with toNotify := s.toNotify.erase ticket } else s
  | .closeStore =>
    if s.close = .notCalled then
      { s with close := .stored, ring := { s.ring with closed := true }, beforeClose := s.completed }
    else s
  | .closeNotify => if s.close = .stored then notifyOne { s with close := .returned } else s
  | .recvPop => if s.recv = .pop then s.popStep else s
  | .recvCheck =>
    if s.recv = .check then { s with recv := if s.ring.closed then .returnedNone else .wait } else s
  | .recvWait =>
    match s.recv with
    | .wait =>
      if s.ring.permit then { s with recv := .pop, ring := { s.ring with permit := false } }
      else { s with recv := .parked }
    | .woken => { s with recv := .pop }
    | _ => s

/-- The state after a list of steps. -/
def run (capacity : Nat) (acts : List (RingAct α)) : RingSystem α := exec step (new capacity) acts

/-! ## What is claimed of a state -/

/-- Every push is in one place, and what is received and then queued is in push order. -/
def Conserved (s : RingSystem α) : Prop :=
  (s.received ++ s.evicted ++ s.ring.inner).Perm s.pushed.zipIdx ∧
    (s.received ++ s.ring.inner).Sublist s.pushed.zipIdx

/-- A parked consumer with items behind it is about to be notified. -/
def NoLostWakeup (s : RingSystem α) : Prop :=
  s.recv = .parked → s.ring.permit = false → s.toNotify = [] → s.close ≠ .stored → s.ring.inner = []

/-- `recv` returned `None`: everything pushed before the close was received or evicted. -/
def CloseLossless (s : RingSystem α) : Prop :=
  s.recv = .returnedNone → ∀ row ∈ s.beforeClose, row ∈ s.received ∨ row ∈ s.evicted

/-- The load of a set `closed` finds nothing queued that was pushed before the close. -/
def LoadsDrained (s : RingSystem α) (a : RingAct α) : Prop :=
  a = .recvCheck → s.recv = .check → s.ring.closed = true → ∀ row ∈ s.beforeClose, row ∉ s.ring.inner

/-! ## The invariant -/

/-- What holds of every reachable state. -/
structure RingOk (s : RingSystem α) : Prop where
  conserved : Conserved s
  recorded : ∀ row ∈ s.beforeClose, row ∈ s.pushed.zipIdx
  /-- A consumer past its empty pop has a permit or a notify in front of it for what was pushed since. -/
  awaited : s.recv = .check ∨ s.recv = .wait ∨ s.recv = .parked → s.ring.inner ≠ [] →
    s.ring.permit = true ∨ s.toNotify ≠ []
  parkedUnpermitted : s.recv = .parked → s.ring.permit = false
  flag : s.ring.closed = true ↔ s.close ≠ .notCalled
  ended : s.recv = .returnedNone → s.ring.closed = true
  /-- A consumer that read the flag before the close has the close's permit, or its notify, in front
  of it. -/
  closeSeen : s.recv = .wait ∨ s.recv = .parked → s.close = .returned → s.ring.permit = true

theorem zipIdx_concat (xs : List α) (x : α) : (xs ++ [x]).zipIdx = xs.zipIdx ++ [(x, xs.length)] := by
  simp [List.zipIdx_append]

theorem nodup_zipIdx (xs : List α) : xs.zipIdx.Nodup := by
  have h : (xs.zipIdx.map (·.2)).Nodup := by
    rw [List.zipIdx_map_snd]
    exact List.nodup_range'
  exact h.of_map _

theorem conserved_pushStep {s : RingSystem α} (h : s.Conserved) (item : α) : (s.pushStep item).Conserved := by
  obtain ⟨hperm, hsub⟩ := h
  simp only [Conserved, pushStep, DropOldestRing.pushLocked, zipIdx_concat]
  split
  · cases hq : s.ring.inner with
    | nil =>
      rw [hq] at hperm hsub
      simp only [List.append_nil] at hperm hsub
      simp only [List.tail_nil, List.nil_append, List.head?_nil, Option.toList_none, List.append_nil]
      exact ⟨hperm.append_right _, hsub.append (List.Sublist.refl _)⟩
    | cons old queue =>
      rw [hq] at hperm hsub
      simp only [List.tail_cons, List.head?_cons, Option.toList_some]
      constructor
      · have h1 : (s.received ++ (s.evicted ++ [old]) ++ (queue ++ [(item, s.pushed.length)])) =
            (s.received ++ s.evicted ++ old :: queue) ++ [(item, s.pushed.length)] := by simp
        rw [h1]
        exact hperm.append_right _
      · have h1 : (s.received ++ queue).Sublist (s.received ++ old :: queue) :=
          List.Sublist.append (List.Sublist.refl _) (List.sublist_cons_self _ _)
        rw [← List.append_assoc]
        exact (h1.trans hsub).append (List.Sublist.refl _)
  · simp only [Option.toList_none, List.append_nil, ← List.append_assoc]
    exact ⟨hperm.append_right _, hsub.append (List.Sublist.refl _)⟩

theorem conserved_popStep {s : RingSystem α} (h : s.Conserved) : s.popStep.Conserved := by
  obtain ⟨hperm, hsub⟩ := h
  unfold popStep DropOldestRing.popLocked
  cases hq : s.ring.inner with
  | nil =>
    simp only [List.head?_nil, List.tail_nil]
    rw [hq] at hperm hsub
    exact ⟨hperm, hsub⟩
  | cons item queue =>
    simp only [List.head?_cons, List.tail_cons]
    rw [hq] at hperm hsub
    constructor
    · refine List.Perm.trans ?_ hperm
      simp only [List.append_assoc, List.singleton_append]
      exact List.Perm.append_left _ List.perm_middle.symm
    · simpa using hsub

theorem ringOk_new (capacity : Nat) : RingOk (new capacity : RingSystem α) where
  conserved := ⟨.nil, .slnil⟩
  recorded := by simp [new]
  awaited := by simp [new]
  parkedUnpermitted := by simp [new]
  flag := by simp [new, DropOldestRing.new]
  ended := by simp [new]
  closeSeen := by simp [new]

/-- A notify establishes what a consumer past its empty pop relies on. -/
theorem ringOk_notifyOne {s : RingSystem α} (hc : s.Conserved) (hr : ∀ row ∈ s.beforeClose, row ∈ s.pushed.zipIdx)
    (hf : s.ring.closed = true ↔ s.close ≠ .notCalled) (he : s.recv = .returnedNone → s.ring.closed = true) :
    RingOk (notifyOne s) := by
  unfold notifyOne
  split
  next => exact ⟨hc, hr, by simp, by simp, hf, by simp, by simp⟩
  next hp => exact ⟨hc, hr, by simp, fun h => absurd h hp, hf, he, by simp⟩

theorem ringOk_pushStep {s : RingSystem α} (h : RingOk s) (item : α) : RingOk (s.pushStep item) := by
  refine ⟨conserved_pushStep h.conserved item, fun row hrow => ?_, fun _ _ => .inr ?_, ?_, ?_, ?_, ?_⟩
  case refine_1 =>
    have hin := h.recorded row hrow
    simp only [pushStep, zipIdx_concat]
    exact List.mem_append_left _ hin
  case refine_2 => simp [pushStep]
  all_goals
    unfold pushStep DropOldestRing.pushLocked
    dsimp only
    split
    · first | exact h.parkedUnpermitted | exact h.flag | exact h.ended | exact h.closeSeen
    · first | exact h.parkedUnpermitted | exact h.flag | exact h.ended | exact h.closeSeen

theorem ringOk_popStep {s : RingSystem α} (h : RingOk s) (hp : s.recv = .pop) : RingOk s.popStep := by
  have hc := conserved_popStep h.conserved
  unfold popStep DropOldestRing.popLocked at hc ⊢
  cases hq : s.ring.inner with
  | nil =>
    rw [hq] at hc
    refine ⟨hc, h.recorded, fun _ hne => absurd rfl hne, by simp, h.flag, by simp, by simp⟩
  | cons item queue =>
    rw [hq] at hc
    refine ⟨hc, h.recorded, fun hr => ?_, fun hr => ?_, h.flag, h.ended, fun hr => ?_⟩
    · simp [hp] at hr
    · simp [hp] at hr
    · simp [hp] at hr

theorem ringOk_step {s : RingSystem α} (h : RingOk s) (a : RingAct α) : RingOk (step s a) := by
  cases a with
  | push item => exact ringOk_pushStep h item
  | pushNotify ticket =>
    simp only [step]
    split
    · exact ringOk_notifyOne h.conserved h.recorded h.flag h.ended
    · exact h
  | closeStore =>
    simp only [step]
    split
    next hn =>
      refine ⟨h.conserved, fun row hrow => ?_, h.awaited, h.parkedUnpermitted, by simp, by simp, by simp⟩
      exact (List.mem_filter.1 hrow).1
    next => exact h
  | closeNotify =>
    simp only [step]
    split
    next hs =>
      refine ringOk_notifyOne h.conserved h.recorded ?_ h.ended
      have hcl : s.ring.closed = true := h.flag.2 (by simp [hs])
      simp [hcl]
    next => exact h
  | recvPop =>
    simp only [step]
    split
    next hp => exact ringOk_popStep h hp
    next => exact h
  | recvCheck =>
    simp only [step]
    split
    next hp =>
      cases hcl : s.ring.closed with
      | true => exact ⟨h.conserved, h.recorded, by simp, by simp, h.flag, fun _ => hcl, by simp⟩
      | false =>
        have hn : s.close = .notCalled := by
          by_contra hne
          simp [h.flag.2 hne] at hcl
        refine ⟨h.conserved, h.recorded, fun _ => h.awaited (.inl hp), by simp, h.flag, by simp, ?_⟩
        simp [hn]
    next => exact h
  | recvWait =>
    simp only [step]
    split
    next hw =>
      split
      next hpm => exact ⟨h.conserved, h.recorded, by simp, by simp, h.flag, by simp, by simp⟩
      next hpm =>
        have hpm' : s.ring.permit = false := by simpa using hpm
        refine ⟨h.conserved, h.recorded, fun _ => h.awaited (.inr (.inl hw)), fun _ => hpm', h.flag, by simp, ?_⟩
        exact fun _ => h.closeSeen (.inl hw)
    next => exact ⟨h.conserved, h.recorded, by simp, by simp, h.flag, by simp, by simp⟩
    next => exact h

theorem ringOk_run (capacity : Nat) (acts : List (RingAct α)) : RingOk (run capacity acts) :=
  (reach_anyStep _ acts).invariant (ringOk_new capacity) fun _ a h _ => ringOk_step h a

/-! ## What every run satisfies -/

/-- **Pushes are conserved.** -/
theorem conserved_run (capacity : Nat) (acts : List (RingAct α)) : (run capacity acts).Conserved :=
  (ringOk_run capacity acts).conserved

theorem noLostWakeup_of_ok {s : RingSystem α} (h : RingOk s) : s.NoLostWakeup := by
  intro hp hpm hn _
  by_contra hne
  rcases h.awaited (.inr (.inr hp)) hne with ht | ht
  · rw [hpm] at ht
    cases ht
  · exact ht hn

/-- **No wakeup is lost.** -/
theorem noLostWakeup_run (capacity : Nat) (acts : List (RingAct α)) : (run capacity acts).NoLostWakeup :=
  noLostWakeup_of_ok (ringOk_run capacity acts)

/-- **A close is not slept through**: once `close` has returned, the consumer is not parked. -/
theorem closed_not_parked (capacity : Nat) (acts : List (RingAct α)) (h : (run capacity acts).close = .returned) :
    (run capacity acts).recv ≠ .parked := by
  have hok := ringOk_run capacity acts
  intro hp
  have hpm := hok.closeSeen (.inr hp) h
  rw [hok.parkedUnpermitted hp] at hpm
  cases hpm

/-! ## What a close loses -/

/-- In a good state the consumer that reads the flag loses exactly what is queued of the pushes
before the close. -/
theorem returnedNone_lossless_iff {s : RingSystem α} (h : RingOk s) :
    (∀ row ∈ s.beforeClose, row ∈ s.received ∨ row ∈ s.evicted) ↔ ∀ row ∈ s.beforeClose, row ∉ s.ring.inner := by
  obtain ⟨hperm, -⟩ := h.conserved
  have hnd : (s.received ++ s.evicted ++ s.ring.inner).Nodup := hperm.nodup_iff.2 (nodup_zipIdx _)
  constructor
  · intro hin row hrow hq
    have hout : row ∈ s.received ++ s.evicted := List.mem_append.2 (hin row hrow)
    exact (List.nodup_append.1 hnd).2.2 row hout row hq rfl
  · intro hq row hrow
    have hall := hperm.mem_iff.2 (h.recorded row hrow)
    rcases List.mem_append.1 hall with hout | hin
    · exact List.mem_append.1 hout
    · exact absurd hin (hq row hrow)

/-- Nothing a step does after the end takes back what was received or evicted. -/
theorem returnedNone_step {s : RingSystem α} (h : RingOk s) (hr : s.recv = .returnedNone) (a : RingAct α) :
    (step s a).recv = .returnedNone ∧ (step s a).beforeClose = s.beforeClose ∧
      (∀ row ∈ s.received, row ∈ (step s a).received) ∧ ∀ row ∈ s.evicted, row ∈ (step s a).evicted := by
  have hcl : s.close ≠ .notCalled := h.flag.1 (h.ended hr)
  cases a with
  | push item =>
    refine ⟨hr, rfl, fun row hrow => hrow, fun row hrow => ?_⟩
    exact List.mem_append_left _ hrow
  | closeStore => simp [step, hcl, hr]
  | pushNotify ticket =>
    simp only [step, notifyOne, hr]
    split <;> simp [hr]
  | closeNotify =>
    simp only [step, notifyOne, hr]
    split <;> simp [hr]
  | recvPop => simp [step, hr]
  | recvCheck => simp [step, hr]
  | recvWait => simp [step, hr]

/-- Only the load of the flag ends the loop. -/
theorem returnedNone_of_step {s : RingSystem α} {a : RingAct α} (hr : s.recv ≠ .returnedNone)
    (h : (step s a).recv = .returnedNone) : a = .recvCheck ∧ s.recv = .check ∧ s.ring.closed = true := by
  cases a with
  | push item => exact absurd h hr
  | pushNotify ticket =>
    simp only [step, notifyOne] at h
    split at h
    · split at h
      · cases h
      · exact absurd h hr
    · exact absurd h hr
  | closeStore =>
    simp only [step] at h
    split at h <;> exact absurd h hr
  | closeNotify =>
    simp only [step, notifyOne] at h
    split at h
    · split at h
      · cases h
      · exact absurd h hr
    · exact absurd h hr
  | recvPop =>
    simp only [step, popStep] at h
    split at h
    · split at h
      · exact absurd h hr
      · cases h
    · exact absurd h hr
  | recvCheck =>
    simp only [step] at h
    split at h
    next hc =>
      cases hcl : s.ring.closed with
      | true => exact ⟨rfl, hc, rfl⟩
      | false => simp [hcl] at h
    next => exact absurd h hr
  | recvWait =>
    simp only [step] at h
    split at h
    · split at h <;> cases h
    · cases h
    · exact absurd h hr

/-- One step from a good state keeps the close lossless exactly if it does not load a set flag over
a queue that holds pushes from before the close. -/
theorem closeLossless_step_iff {s : RingSystem α} (h : RingOk s) (hl : s.CloseLossless) (a : RingAct α) :
    (step s a).CloseLossless ↔ s.LoadsDrained a := by
  by_cases hr : s.recv = .returnedNone
  · obtain ⟨hr', hb, hrec, hev⟩ := returnedNone_step h hr a
    constructor
    · intro _ _ hc
      rw [hr] at hc
      cases hc
    · intro _ _ row hrow
      rw [hb] at hrow
      exact (hl hr row hrow).imp (hrec row) (hev row)
  · by_cases hr' : (step s a).recv = .returnedNone
    · obtain ⟨rfl, hc, hcl⟩ := returnedNone_of_step hr hr'
      have hstep : step s .recvCheck = { s with recv := .returnedNone } := by simp [step, hc, hcl]
      have hiff := returnedNone_lossless_iff h
      rw [hstep]
      constructor
      · intro hin _ _ _
        exact hiff.1 (hin rfl)
      · intro hq _
        exact hiff.2 (hq rfl hc hcl)
    · constructor
      · rintro _ rfl hc hcl
        exact absurd (by simp [step, hc, hcl]) hr'
      · exact fun _ hc => absurd hc hr'

end RingSystem

end KrakenSdk.Dispatch
