import KrakenSdk.Dispatch.CompletionLedger
/-!
# Teardowns that wait for room in the channel (dispatch/event_bus/mod.rs:592-698)

A teardown that finds `caller_to_io` full is put aside, and later calls flush what was put aside. A call is a chain of
atomic steps: the load of the flag, each read of the capacity, each `try_send`, each section under the lock. Any number
of calls interleave at these steps, with a receiver that reads and other callers that fill the channel.

`teardowns_kept`: whatever the interleaving, what was posted is in one place, and the flag says whether the list is
empty.
-/
namespace KrakenSdk.Dispatch

open StepSystem

/-- What `caller_to_io` carries: a teardown, or what another caller posts. -/
inductive CallerInbound (α : Type) where
  | teardown (item : α)
  | other
  deriving DecidableEq, Repr

/-- Where a call is in `flush_pending_teardowns_leaving`. -/
inductive FlushPoint (α : Type) where
  /-- Before it loads the flag. -/
  | gate (reserve : Nat)
  | room (reserve : Nat)
  | drain (reserve : Nat)
  | loop (reserve : Nat) (batch : List α)
  | send (reserve : Nat) (item : α) (batch : List α)
  | requeue (items : List α)
  | flushed
  deriving DecidableEq, Repr

/-- A call between two of its steps; one of `post_teardown` has its own item to send after the flush. -/
structure TeardownCall (α : Type) where
  point : FlushPoint α
  own : Option α
  deriving DecidableEq, Repr

/-- The channel, what is put aside, and the calls. -/
structure TeardownBus (α : Type) where
  capacity : Nat
  pendingTeardowns : List α
  hasPendingTeardowns : Bool
  callerToIo : List (CallerInbound α)
  received : List (CallerInbound α)
  calls : List (TeardownCall α)

/-- A call starts or takes its next step, the receiver reads, or another caller posts. -/
inductive TeardownAct (α : Type) where
  | postTeardown (item : α)
  | flushPendingTeardownsLeaving (reserve : Nat)
  | proceed (call : Nat)
  | receive
  | postOther
  deriving DecidableEq, Repr

variable {α : Type}

/-- The teardowns among them. -/
def teardowns (xs : List (CallerInbound α)) : List α :=
  xs.filterMap fun
    | .teardown item => some item
    | .other => none

/-- The batch a call has taken and not sent. -/
def FlushPoint.batch : FlushPoint α → List α
  | .loop _ batch => batch
  | .send _ item batch => item :: batch
  | .requeue items => items
  | .gate _ | .room _ | .drain _ | .flushed => []

/-- What a call has in hand. -/
def TeardownCall.inHand (c : TeardownCall α) : List α := c.point.batch ++ c.own.toList

/-- What a step posts. -/
def TeardownAct.posted : TeardownAct α → List α
  | .postTeardown item => [item]
  | _ => []

namespace TeardownBus

/-- The bus with an empty channel. -/
def new (capacity : Nat) : TeardownBus α :=
  { capacity, pendingTeardowns := [], hasPendingTeardowns := false, callerToIo := [], received := [], calls := [] }

/-- `caller_to_io_tx.capacity()`. -/
def free (s : TeardownBus α) : Nat := s.capacity - s.callerToIo.length

def start (s : TeardownBus α) (c : TeardownCall α) : TeardownBus α := { s with calls := s.calls ++ [c] }

def setCall (s : TeardownBus α) (i : Nat) (c : TeardownCall α) : TeardownBus α := { s with calls := s.calls.set i c }

/-- A `try_send` that finds room. -/
def push (s : TeardownBus α) (x : CallerInbound α) : TeardownBus α := { s with callerToIo := s.callerToIo ++ [x] }

/-- `requeue_pending_teardowns`, under the lock. -/
def requeuePendingTeardowns (s : TeardownBus α) (items : List α) : TeardownBus α :=
  let pendingTeardowns := s.pendingTeardowns ++ items
  { s with pendingTeardowns, hasPendingTeardowns := !pendingTeardowns.isEmpty }

/-- The next step of a call. -/
def proceed (s : TeardownBus α) (i : Nat) : TeardownBus α :=
  match s.calls[i]? with
  | none => s
  | some ⟨.gate reserve, own⟩ => s.setCall i ⟨if s.hasPendingTeardowns then .room reserve else .flushed, own⟩
  | some ⟨.room reserve, own⟩ => s.setCall i ⟨if s.free ≤ reserve then .flushed else .drain reserve, own⟩
  | some ⟨.drain reserve, own⟩ =>
    match s.pendingTeardowns with
    | [] => { s with hasPendingTeardowns := false }.setCall i ⟨.flushed, own⟩
    | item :: rest =>
      { s with pendingTeardowns := [], hasPendingTeardowns := false }.setCall i ⟨.loop reserve (item :: rest), own⟩
  | some ⟨.loop _ [], own⟩ => s.setCall i ⟨.flushed, own⟩
  | some ⟨.loop reserve (item :: batch), own⟩ =>
    s.setCall i ⟨if s.free ≤ reserve then .requeue (item :: batch) else .send reserve item batch, own⟩
  | some ⟨.send reserve item batch, own⟩ =>
    if 0 < s.free then (s.push (.teardown item)).setCall i ⟨.loop reserve batch, own⟩
    else s.setCall i ⟨.requeue (item :: batch), own⟩
  | some ⟨.requeue items, own⟩ => (s.requeuePendingTeardowns items).setCall i ⟨.flushed, own⟩
  -- The flush has returned: `post_teardown` sends its own item.
  | some ⟨.flushed, some item⟩ =>
    if 0 < s.free then (s.push (.teardown item)).setCall i ⟨.flushed, none⟩
    else s.setCall i ⟨.requeue [item], none⟩
  | some ⟨.flushed, none⟩ => s

/-- The receiver takes the oldest. -/
def receive (s : TeardownBus α) : TeardownBus α :=
  match s.callerToIo with
  | [] => s
  | x :: rest => { s with callerToIo := rest, received := s.received ++ [x] }

/-- One step. -/
def step (s : TeardownBus α) : TeardownAct α → TeardownBus α
  | .postTeardown item => s.start ⟨.gate 0, some item⟩
  | .flushPendingTeardownsLeaving reserve => s.start ⟨.gate reserve, none⟩
  | .proceed i => s.proceed i
  | .receive => s.receive
  | .postOther => if 0 < s.free then s.push .other else s

/-- The bus after a list of steps. -/
def run (capacity : Nat) (acts : List (TeardownAct α)) : TeardownBus α := exec step (new capacity) acts

/-! ## What is kept -/

/-- What the calls have in hand. -/
def inHand (s : TeardownBus α) : List α := s.calls.flatMap TeardownCall.inHand

/-- The places a posted teardown may be in. -/
def places (s : TeardownBus α) : List α :=
  s.pendingTeardowns ++ s.inHand ++ teardowns s.callerToIo ++ teardowns s.received

/-- The flag says whether the list is empty. -/
def FlagTrue (s : TeardownBus α) : Prop := s.hasPendingTeardowns = true ↔ s.pendingTeardowns ≠ []

variable {s : TeardownBus α} {i : Nat} {c c' : TeardownCall α}

theorem flagTrue_requeue (items : List α) : (s.requeuePendingTeardowns items).FlagTrue := by
  simp [FlagTrue, requeuePendingTeardowns]

/-- Only the sections under the lock touch the list and the flag. -/
theorem flagTrue_proceed (h : s.FlagTrue) (i : Nat) : (s.proceed i).FlagTrue := by
  unfold proceed
  split
  case h_4 =>
    split
    · rename_i hnil
      simp [FlagTrue, setCall, hnil]
    · simp [FlagTrue, setCall]
  case h_8 => exact flagTrue_requeue _
  case h_7 | h_9 => split_ifs <;> exact h
  all_goals exact h

theorem flagTrue_step (s : TeardownBus α) (act : TeardownAct α) (h : s.FlagTrue) : (s.step act).FlagTrue := by
  cases act with
  | postTeardown item => exact h
  | flushPendingTeardownsLeaving reserve => exact h
  | proceed i => exact flagTrue_proceed h i
  | receive =>
    simp only [step, receive]
    split <;> exact h
  | postOther =>
    simp only [step]
    split_ifs <;> exact h

variable [DecidableEq α]

theorem count_teardowns_append (xs ys : List (CallerInbound α)) (a : α) :
    (teardowns (xs ++ ys)).count a = (teardowns xs).count a + (teardowns ys).count a := by
  simp [teardowns, List.filterMap_append, List.count_append]

theorem count_teardowns_push (s : TeardownBus α) (item a : α) :
    (teardowns (s.push (.teardown item)).callerToIo).count a = (teardowns s.callerToIo).count a + [item].count a :=
  count_teardowns_append s.callerToIo [.teardown item] a

/-- A call that moves on: what it has in hand changes by what the list and the channel change. -/
theorem count_places_setCall {t : TeardownBus α} (hi : s.calls[i]? = some c) (hcalls : t.calls = s.calls)
    (hreceived : t.received = s.received) (a : α)
    (hmove : t.pendingTeardowns.count a + c'.inHand.count a + (teardowns t.callerToIo).count a =
      s.pendingTeardowns.count a + c.inHand.count a + (teardowns s.callerToIo).count a) :
    (t.setCall i c').places.count a = s.places.count a := by
  have hset := count_flatMap_set TeardownCall.inHand c' hi a
  have hplaces : (t.setCall i c').places.count a = t.pendingTeardowns.count a +
      ((s.calls.set i c').flatMap TeardownCall.inHand).count a + (teardowns t.callerToIo).count a +
        (teardowns s.received).count a := by
    simp only [places, inHand, setCall, hcalls, hreceived, List.count_append]
  rw [hplaces]
  simp only [places, inHand, List.count_append]
  omega

/-- **One step of a call** moves teardowns, and that is all. -/
theorem count_places_proceed (s : TeardownBus α) (i : Nat) (a : α) : (s.proceed i).places.count a = s.places.count a := by
  unfold proceed
  split
  case h_1 => rfl
  case h_2 reserve own hi =>
    refine count_places_setCall hi rfl rfl a ?_
    split_ifs <;> rfl
  case h_3 reserve own hi =>
    refine count_places_setCall hi rfl rfl a ?_
    split_ifs <;> rfl
  case h_4 reserve own hi =>
    split
    · exact count_places_setCall hi rfl rfl a rfl
    · rename_i item rest hpending
      refine count_places_setCall (t := { s with pendingTeardowns := [], hasPendingTeardowns := false }) hi rfl rfl a ?_
      simp only [hpending, TeardownCall.inHand, FlushPoint.batch, List.count_append, List.count_nil]
      omega
  case h_5 reserve own hi => exact count_places_setCall hi rfl rfl a rfl
  case h_6 reserve item batch own hi =>
    refine count_places_setCall hi rfl rfl a ?_
    split_ifs <;> rfl
  case h_7 reserve item batch own hi =>
    split_ifs
    · refine count_places_setCall (t := s.push (.teardown item)) hi rfl rfl a ?_
      have hpush := count_teardowns_push s item a
      simp only [push, TeardownCall.inHand, FlushPoint.batch, List.count_append, List.count_cons,
        List.count_nil] at hpush ⊢
      omega
    · exact count_places_setCall hi rfl rfl a rfl
  case h_8 items own hi =>
    refine count_places_setCall (t := s.requeuePendingTeardowns items) hi rfl rfl a ?_
    simp only [requeuePendingTeardowns, TeardownCall.inHand, FlushPoint.batch, List.count_append, List.count_nil]
    omega
  case h_9 item hi =>
    split_ifs
    · refine count_places_setCall (t := s.push (.teardown item)) hi rfl rfl a ?_
      have hpush := count_teardowns_push s item a
      simp only [push, TeardownCall.inHand, FlushPoint.batch, List.nil_append, Option.toList, List.count_nil] at hpush ⊢
      omega
    · exact count_places_setCall hi rfl rfl a rfl
  case h_10 => rfl

/-- **One step** adds what it posts. -/
theorem count_places_step (s : TeardownBus α) (act : TeardownAct α) (a : α) :
    (s.step act).places.count a = s.places.count a + act.posted.count a := by
  cases act with
  | postTeardown item =>
    simp only [step, start, places, inHand, TeardownAct.posted, TeardownCall.inHand, FlushPoint.batch, List.flatMap_append,
      List.flatMap_cons, List.flatMap_nil, List.count_append, List.count_nil, Option.toList, List.append_nil]
    omega
  | flushPendingTeardownsLeaving reserve =>
    simp only [step, start, places, inHand, TeardownAct.posted, TeardownCall.inHand, FlushPoint.batch, List.flatMap_append,
      List.flatMap_cons, List.flatMap_nil, List.count_append, List.count_nil, Option.toList, List.append_nil]
    omega
  | proceed i => exact count_places_proceed s i a
  | receive =>
    simp only [step, receive, TeardownAct.posted, List.count_nil]
    split
    · rfl
    · rename_i x rest hchannel
      have hsplit := count_teardowns_append [x] rest a
      rw [List.singleton_append, ← hchannel] at hsplit
      simp only [places, inHand, List.count_append, count_teardowns_append]
      omega
  | postOther =>
    simp only [step, TeardownAct.posted, List.count_nil]
    split_ifs
    · simp [push, places, inHand, teardowns, List.filterMap_append]
    · rfl

/-- **Neither lost nor duplicated.** In every interleaving each post of a teardown is in one place: the list, the hand
of a call, the channel or what was received; and the flag is set exactly when the list is not empty. -/
theorem teardowns_kept (capacity : Nat) (acts : List (TeardownAct α)) :
    (∀ item, (run capacity acts).pendingTeardowns.count item + (run capacity acts).inHand.count item +
        (teardowns (run capacity acts).callerToIo).count item + (teardowns (run capacity acts).received).count item =
      (acts.flatMap TeardownAct.posted).count item) ∧
    ((run capacity acts).hasPendingTeardowns = true ↔ (run capacity acts).pendingTeardowns ≠ []) := by
  constructor
  · intro item
    have hsum := @conserved _ _ step (new capacity) α _ (fun _ _ => True) places (fun _ act => act.posted)
      (fun _ _ => []) (fun _ _ _ _ => trivial)
      (fun s act _ _ a => by rw [count_places_step]; rfl) acts trivial item
    rw [along_nil, along_const] at hsum
    have hnew : (new capacity : TeardownBus α).places.count item = 0 := rfl
    have hplaces : (run capacity acts).places.count item = (run capacity acts).pendingTeardowns.count item +
        (run capacity acts).inHand.count item + (teardowns (run capacity acts).callerToIo).count item +
          (teardowns (run capacity acts).received).count item := by
      simp only [places, List.count_append]
    have hrun : exec step (new capacity) acts = run capacity acts := rfl
    rw [hrun, hnew, hplaces] at hsum
    simpa using hsum
  · have hflag : (new capacity : TeardownBus α).FlagTrue := by simp [FlagTrue, new]
    have h : (run capacity acts).FlagTrue :=
      (reach_anyStep (new capacity) acts).invariant hflag fun s act h _ => flagTrue_step s act h
    exact h

end TeardownBus

end KrakenSdk.Dispatch
