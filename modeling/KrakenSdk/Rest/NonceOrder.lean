import KrakenSdk.Conn.Types
import KrakenSdk.Lib.StepSystem
/-!
# Nonces in order (auth/nonce.rs:54-73, rest/surface.rs:197-258)

Any number of concurrent `signed_post` calls through one `RestSurface`. A call makes attempts; an
attempt takes the send gate, allocates a nonce under it (a reading of the wall clock, then a load
and a `compare_exchange_weak` until one succeeds), hands the signed request to the transport and
keeps the gate until the answer, the timeout or an error. A call can be dropped at any point; the
gate goes with it. A step that is not enabled changes nothing.

* `gate_exclusive`: one call at a time is past the gate.
* `nonces_in_order`: allocation is strictly increasing, no nonce is sent twice, and the requests
  reach the transport in nonce order, whatever the wall clock reads.
-/
namespace KrakenSdk.Rest

open KrakenSdk.Conn (u64Max satAdd64)
open StepSystem

/-- One `signed_post` call. -/
abbrev CallId := Nat

/-- Where a call stands in its current attempt. -/
inductive AttemptPhase where
  /-- Before the gate: rate limiting, a backoff, or no attempt at all. -/
  | idle
  /-- `self.nonce_send_gate.lock().await` (surface.rs:233). -/
  | awaitGate
  /-- The gate is held, nothing signed. -/
  | gated
  /-- `next_nonce` has its wall candidate. -/
  | candidate (wall : Nat)
  /-- `next_nonce` has loaded the counter. -/
  | loaded (wall current : Nat)
  /-- The nonce is allocated, the request not handed over. -/
  | signed (nonce : Nat)
  /-- The transport has the request. -/
  | sending (nonce : Nat)
  deriving DecidableEq, Repr

/-- The phases inside the gate. -/
def AttemptPhase.holdsGate : AttemptPhase → Bool
  | .idle | .awaitGate => false
  | _ => true

/-- The nonce source, the gate and the calls; `allocated` and `handed` keep what happened, in order. -/
structure NonceSystem where
  /-- `SystemClockNonceSource::counter`. -/
  counter : Nat
  /-- The call that holds `nonce_send_gate`. -/
  gate : Option CallId
  phase : CallId → AttemptPhase
  allocated : List Nat
  handed : List (CallId × Nat)

/-- One atomic step of a call. -/
inductive NonceAct where
  | start (call : CallId)
  | acquire (call : CallId)
  /-- `SystemTime::now()`, in nanoseconds since the epoch (0 before it). -/
  | readClock (call : CallId) (nanos : Nat)
  | load (call : CallId)
  /-- `compare_exchange_weak`, which may fail spuriously. -/
  | compareExchange (call : CallId) (spurious : Bool)
  | handOver (call : CallId)
  /-- The attempt ends, by an answer, an error or a drop of the future. -/
  | leave (call : CallId)
  deriving DecidableEq, Repr

/-- `wall_candidate` (nonce.rs:39): the cast saturates. -/
def wallCandidate (nanos : Nat) : Nat := min nanos u64Max

/-- The nonce `next_nonce` tries to install over `current` (nonce.rs:62). -/
def nextNonce (current wall : Nat) : Nat := max (satAdd64 current 1) wall

namespace NonceSystem

/-- `SystemClockNonceSource::new` and a fresh surface. -/
def new : NonceSystem :=
  { counter := 0, gate := none, phase := fun _ => .idle, allocated := [], handed := [] }

/-- Move one call. -/
def moveTo (s : NonceSystem) (call : CallId) (p : AttemptPhase) : NonceSystem :=
  { s with phase := fun c => if c = call then p else s.phase c }

/-- One step. -/
def step (s : NonceSystem) : NonceAct → NonceSystem
  | .start call => if s.phase call = .idle then s.moveTo call .awaitGate else s
  | .acquire call =>
    if s.phase call = .awaitGate ∧ s.gate = none then { s.moveTo call .gated with gate := some call } else s
  | .readClock call nanos => if s.phase call = .gated then s.moveTo call (.candidate (wallCandidate nanos)) else s
  | .load call =>
    match s.phase call with
    | .candidate wall => s.moveTo call (.loaded wall s.counter)
    | _ => s
  | .compareExchange call spurious =>
    match s.phase call with
    | .loaded wall current =>
      if s.counter = current ∧ ¬ spurious then
        let nonce := nextNonce current wall
        { s.moveTo call (.signed nonce) with counter := nonce, allocated := s.allocated ++ [nonce] }
      else s.moveTo call (.candidate wall)
    | _ => s
  | .handOver call =>
    match s.phase call with
    | .signed nonce => { s.moveTo call (.sending nonce) with handed := s.handed ++ [(call, nonce)] }
    | _ => s
  | .leave call => { s.moveTo call .idle with gate := if s.gate = some call then none else s.gate }

/-- The state after a list of steps. -/
def run (acts : List NonceAct) : NonceSystem := exec step new acts

/-! ## The gate -/

/-- The call past the gate is the one that holds it. -/
def GateOk (s : NonceSystem) : Prop := ∀ call, (s.phase call).holdsGate = true ↔ s.gate = some call

/-- A call that moves without passing the gate. -/
theorem gateOk_moveTo {s : NonceSystem} (h : s.GateOk) {call : CallId} {p : AttemptPhase}
    (hp : p.holdsGate = (s.phase call).holdsGate) : (s.moveTo call p).GateOk := by
  intro c
  by_cases hc : c = call
  · subst hc
    simpa [moveTo, hp] using h c
  · simpa [moveTo, hc] using h c

theorem gateOk_step {s : NonceSystem} (h : s.GateOk) (a : NonceAct) : (step s a).GateOk := by
  cases a with
  | start call =>
    simp only [step]
    split
    next hp => exact gateOk_moveTo h (by rw [hp]; rfl)
    next => exact h
  | acquire call =>
    simp only [step]
    split
    next hp =>
      obtain ⟨-, hg⟩ := hp
      intro c
      by_cases hc : c = call
      · subst hc
        simp [moveTo, AttemptPhase.holdsGate]
      · have hn := h c
        rw [hg] at hn
        simpa [moveTo, hc, Ne.symm hc] using hn
    next => exact h
  | readClock call nanos =>
    simp only [step]
    split
    next hp => exact gateOk_moveTo h (by rw [hp]; rfl)
    next => exact h
  | load call =>
    simp only [step]
    split
    next hp => exact gateOk_moveTo h (by rw [hp]; rfl)
    next => exact h
  | compareExchange call spurious =>
    simp only [step]
    split
    next hp =>
      split
      · exact gateOk_moveTo h (p := .signed _) (by rw [hp]; rfl)
      · exact gateOk_moveTo h (by rw [hp]; rfl)
    next => exact h
  | handOver call =>
    simp only [step]
    split
    next hp => exact gateOk_moveTo h (p := .sending _) (by rw [hp]; rfl)
    next => exact h
  | leave call =>
    intro c
    have hc := h c
    by_cases hcc : c = call
    · subst hcc
      simp only [step, moveTo, if_pos, AttemptPhase.holdsGate]
      split <;> simp_all
    · simp only [step, moveTo, if_neg hcc]
      rw [hc]
      split
      next hg =>
        rw [hg]
        simp [Ne.symm hcc]
      next => rfl

theorem gateOk_run (acts : List NonceAct) : (run acts).GateOk :=
  (reach_anyStep _ acts).invariant (fun _ => by simp [new, AttemptPhase.holdsGate]) fun _ a h _ => gateOk_step h a

/-- **The gate is exclusive.** -/
theorem gate_exclusive (acts : List NonceAct) (c c' : CallId) (h : ((run acts).phase c).holdsGate = true)
    (h' : ((run acts).phase c').holdsGate = true) : c = c' := by
  have hg := (gateOk_run acts c).1 h
  rw [(gateOk_run acts c').1 h'] at hg
  exact (Option.some.inj hg).symm

/-! ## The order of the nonces -/

/-- What holds of every state whose nonces are below `u64::MAX`. -/
structure NonceOk (s : NonceSystem) : Prop where
  gate : s.GateOk
  top : ∀ n ∈ s.allocated, n ≤ s.counter
  increasing : s.allocated.Pairwise (· < ·)
  handedOrder : (s.handed.map (·.2)).Pairwise (· < ·)
  handedIn : ∀ x ∈ s.handed, x.2 ∈ s.allocated
  /-- The nonce of the call about to hand over is above every one handed over. -/
  nextUp : ∀ call n, s.phase call = .signed n → n ∈ s.allocated ∧ ∀ x ∈ s.handed, x.2 < n

/-- A move of one call to a phase without a nonce of its own. -/
theorem NonceOk.moveTo {s : NonceSystem} (h : s.NonceOk) {call : CallId} {p : AttemptPhase}
    (hg : (s.moveTo call p).GateOk) (hp : ∀ n, p ≠ .signed n) : (s.moveTo call p).NonceOk := by
  refine ⟨hg, h.top, h.increasing, h.handedOrder, h.handedIn, fun c n hc => ?_⟩
  by_cases hcc : c = call
  · subst hcc
    exact absurd (by simpa [NonceSystem.moveTo] using hc) (hp n)
  · exact h.nextUp c n (by simpa [NonceSystem.moveTo, hcc] using hc)

/-- A nonce below `u64::MAX` is above the counter it was computed from. -/
theorem lt_nextNonce {current wall : Nat} (h : nextNonce current wall < u64Max) : current < nextNonce current wall := by
  simp only [nextNonce, satAdd64] at h ⊢
  omega

/-- The installed nonce is above everything allocated, and its call is alone past the gate. -/
theorem nonceOk_allocate {s : NonceSystem} (h : s.NonceOk) {call : CallId} {wall : Nat}
    (hp : s.phase call = .loaded wall s.counter) (hlt : nextNonce s.counter wall < u64Max) :
    NonceOk { s.moveTo call (.signed (nextNonce s.counter wall)) with
      counter := nextNonce s.counter wall, allocated := s.allocated ++ [nextNonce s.counter wall] } := by
  have hup := lt_nextNonce hlt
  have hhold : (s.phase call).holdsGate = true := by rw [hp]; rfl
  refine ⟨gateOk_moveTo h.gate (p := .signed _) hhold.symm, fun n hn => ?_, ?_, h.handedOrder, fun x hx => ?_,
    fun c n hc => ?_⟩
  · rcases List.mem_append.1 hn with hn | hn
    · exact (h.top n hn).trans hup.le
    · exact (List.mem_singleton.1 hn).le
  · refine List.pairwise_append.2 ⟨h.increasing, List.pairwise_singleton _ _, fun n hn m hm => ?_⟩
    obtain rfl := List.mem_singleton.1 hm
    exact (h.top n hn).trans_lt hup
  · exact List.mem_append_left _ (h.handedIn x hx)
  · by_cases hcc : c = call
    · obtain rfl : nextNonce s.counter wall = n := by simpa [NonceSystem.moveTo, hcc] using hc
      refine ⟨by simp, fun x hx => ?_⟩
      exact (h.top _ (h.handedIn x hx)).trans_lt hup
    · -- another call between its allocation and its send would hold the same gate
      have hc' : s.phase c = .signed n := by simpa [NonceSystem.moveTo, hcc] using hc
      have hg := (h.gate c).1 (by rw [hc']; rfl)
      rw [(h.gate call).1 hhold] at hg
      exact absurd (Option.some.inj hg).symm hcc

theorem nonceOk_handOver {s : NonceSystem} (h : s.NonceOk) {call : CallId} {nonce : Nat}
    (hp : s.phase call = .signed nonce) :
    NonceOk { s.moveTo call (.sending nonce) with handed := s.handed ++ [(call, nonce)] } := by
  obtain ⟨hin, hup⟩ := h.nextUp call nonce hp
  have hhold : (s.phase call).holdsGate = true := by rw [hp]; rfl
  refine ⟨gateOk_moveTo h.gate (p := .sending nonce) hhold.symm, h.top, h.increasing, ?_, fun x hx => ?_,
    fun c n hc => ?_⟩
  · rw [List.map_append]
    refine List.pairwise_append.2 ⟨h.handedOrder, List.pairwise_singleton _ _, fun n hn m hm => ?_⟩
    obtain ⟨x, hx, rfl⟩ := List.mem_map.1 hn
    obtain rfl := List.mem_singleton.1 hm
    exact hup x hx
  · rcases List.mem_append.1 hx with hx | hx
    · exact h.handedIn x hx
    · obtain rfl := List.mem_singleton.1 hx
      exact hin
  · by_cases hcc : c = call
    · simp [NonceSystem.moveTo, hcc] at hc
    · have hc' : s.phase c = .signed n := by simpa [NonceSystem.moveTo, hcc] using hc
      have hg := (h.gate c).1 (by rw [hc']; rfl)
      rw [(h.gate call).1 hhold] at hg
      exact absurd (Option.some.inj hg).symm hcc

theorem nonceOk_step {s : NonceSystem} (h : s.NonceOk) (a : NonceAct)
    (hlt : ∀ n ∈ (step s a).allocated, n < u64Max) : (step s a).NonceOk := by
  have hg := gateOk_step h.gate a
  cases a with
  | start call =>
    simp only [step] at hg ⊢
    split at hg <;> split <;> first | contradiction | exact h | exact h.moveTo hg (by simp)
  | acquire call =>
    simp only [step] at hg ⊢
    split
    next hp =>
      rw [if_pos hp] at hg
      refine ⟨hg, h.top, h.increasing, h.handedOrder, h.handedIn, fun c n hc => ?_⟩
      by_cases hcc : c = call
      · simp [NonceSystem.moveTo, hcc] at hc
      · exact h.nextUp c n (by simpa [NonceSystem.moveTo, hcc] using hc)
    next => exact h
  | readClock call nanos =>
    simp only [step] at hg ⊢
    split at hg <;> split <;> first | contradiction | exact h | exact h.moveTo hg (by simp)
  | load call =>
    simp only [step] at hg ⊢
    cases hp : s.phase call with
    | candidate wall =>
      simp only [hp] at hg ⊢
      exact h.moveTo hg (by simp)
    | _ => exact h
  | compareExchange call spurious =>
    simp only [step] at hg hlt ⊢
    cases hp : s.phase call with
    | loaded wall current =>
      simp only [hp] at hg hlt ⊢
      by_cases hc : s.counter = current ∧ ¬ spurious
      · rw [if_pos hc] at hlt ⊢
        obtain ⟨rfl, -⟩ := hc
        exact nonceOk_allocate h hp (hlt _ (by simp))
      · rw [if_neg hc] at hg ⊢
        exact h.moveTo hg (by simp)
    | _ => exact h
  | handOver call =>
    simp only [step]
    cases hp : s.phase call with
    | signed nonce => exact nonceOk_handOver h hp
    | _ => exact h
  | leave call =>
    refine ⟨hg, h.top, h.increasing, h.handedOrder, h.handedIn, fun c n hc => ?_⟩
    by_cases hcc : c = call
    · simp [step, NonceSystem.moveTo, hcc] at hc
    · exact h.nextUp c n (by simpa [step, NonceSystem.moveTo, hcc] using hc)

/-- Allocation only appends. -/
theorem mem_allocated_step {s : NonceSystem} (a : NonceAct) {n : Nat} (h : n ∈ s.allocated) :
    n ∈ (step s a).allocated := by
  cases a <;> simp only [step]
  case start | acquire | readClock => split <;> exact h
  case load | handOver => split <;> exact h
  case compareExchange =>
    split
    · split
      · exact List.mem_append_left _ h
      · exact h
    · exact h
  case leave => exact h

theorem nonceOk_run (acts : List NonceAct) (hlt : ∀ n ∈ (run acts).allocated, n < u64Max) : (run acts).NonceOk := by
  induction acts using List.reverseRecOn with
  | nil =>
    refine ⟨fun _ => by simp [run, new, AttemptPhase.holdsGate], ?_, .nil, .nil, ?_, ?_⟩ <;> simp [run, new]
  | append_singleton acts a ih =>
    have happ : run (acts ++ [a]) = step (run acts) a := exec_append _ _ _
    rw [happ] at hlt ⊢
    exact nonceOk_step (ih fun n hn => hlt n (mem_allocated_step a hn)) a hlt

/-- **Nonces reach the exchange in increasing order.** -/
theorem nonces_in_order (acts : List NonceAct) (hlt : ∀ n ∈ (run acts).allocated, n < u64Max) :
    (run acts).allocated.Pairwise (· < ·) ∧ ((run acts).handed.map (·.2)).Nodup ∧
      ((run acts).handed.map (·.2)).Pairwise (· < ·) ∧ ∀ x ∈ (run acts).handed, x.2 ∈ (run acts).allocated := by
  have h := nonceOk_run acts hlt
  exact ⟨h.increasing, h.handedOrder.imp fun hab => hab.ne, h.handedOrder, h.handedIn⟩

/-- Two calls; the clock goes back between them, and the first is dropped with its request out. -/
def regressingClock : List NonceAct :=
  [.start 1, .start 2, .acquire 1, .acquire 2, .readClock 1 1700000000000000000, .load 1, .compareExchange 1 true,
    .load 1, .compareExchange 1 false, .handOver 1, .leave 1, .acquire 2, .readClock 2 1600000000000000000, .load 2,
    .compareExchange 2 false, .handOver 2]

theorem nonces_in_order_regressingClock :
    (run regressingClock).handed = [(1, 1700000000000000000), (2, 1700000000000000001)] ∧
      ((run regressingClock).handed.map (·.2)).Pairwise (· < ·) :=
  ⟨by decide, (nonces_in_order regressingClock (by decide)).2.2.1⟩

end NonceSystem

end KrakenSdk.Rest
