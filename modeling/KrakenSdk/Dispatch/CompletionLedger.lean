import KrakenSdk.Dispatch.CorrelatedAwait
/-!
# No completion is lost (dispatch/event_bus/mod.rs:452-514, 945-1072)

The correlated half of the bus with waiters of any kind: each call is its locked section, then one step for each
handler it fires outside the lock, then, when all of them declined, another locked section. Calls interleave at
these steps, and a handler answers what it likes; a call one makes while it runs is one more call.

`handedIn`, `subscribed` and `settled` only record: the envelopes handed to the bus, the waiters ever registered,
and each envelope whose round ended with a waiter that took it. `Balanced` compares them by counts, so an envelope
handed in twice is accounted for twice.
-/
namespace KrakenSdk.Dispatch

open StepSystem

/-- What a handler answers; a panic is caught and counts as a refusal. -/
inductive HandlerAnswer where
  | accept | decline | panic
  deriving DecidableEq, Repr

/-- A call, between two of its steps. -/
inductive CorrelatedCall where
  | subscribe (key : CorrelationKey) (w : Waiter)
  | unsubscribe (w : Waiter)
  | deliver (event : CompletionEnvelope)
  | relatch (event : CompletionEnvelope)
  /-- The waiters left to fire, and one that has accepted. -/
  | firing (event : CompletionEnvelope) (left : List Waiter) (accepted : Option Waiter)
  | returned
  deriving DecidableEq, Repr

/-- The registry, the calls and what has been recorded of them. -/
structure CorrelatedBus where
  reg : CorrelatedRegistry
  calls : List CorrelatedCall
  handedIn : List CompletionEnvelope
  subscribed : List (CorrelationKey × Waiter)
  settled : List (CompletionEnvelope × Waiter)

/-- A call starts, or takes its next step. -/
inductive CorrelatedAct where
  | subscribe (key : CorrelationKey) (w : Waiter)
  | unsubscribe (w : Waiter)
  | deliver (event : CompletionEnvelope)
  | relatch (event : CompletionEnvelope)
  | proceed (call : Nat) (answer : HandlerAnswer)

/-- What a call that carries the envelope has in hand; an event without a request id is not correlated. -/
def CompletionEnvelope.correlated (event : CompletionEnvelope) : List CompletionEnvelope :=
  if event.requestId.isSome then [event] else []

/-- The envelope a call has in hand. -/
def CorrelatedCall.inHand : CorrelatedCall → List CompletionEnvelope
  | .deliver event | .relatch event => event.correlated
  | .firing event _ _ => [event]
  | .subscribe _ _ | .unsubscribe _ | .returned => []

namespace CorrelatedBus

/-- A bus before its first call. -/
def new (missedCap : Nat) : CorrelatedBus :=
  { reg := .new missedCap, calls := [], handedIn := [], subscribed := [], settled := [] }

/-- A call starts. -/
def start (s : CorrelatedBus) (call : CorrelatedCall) : CorrelatedBus := { s with calls := s.calls ++ [call] }

def setCall (s : CorrelatedBus) (i : Nat) (call : CorrelatedCall) : CorrelatedBus := { s with calls := s.calls.set i call }

/-- What a locked section that took these waiters goes on with. -/
def fireRound (event : CompletionEnvelope) : List Waiter → CorrelatedCall
  | [] => .returned
  | w :: left => .firing event (w :: left) none

/-- The next step of a call. -/
def proceed (s : CorrelatedBus) (i : Nat) (answer : HandlerAnswer) : CorrelatedBus :=
  match s.calls[i]? with
  | some (.subscribe key w) =>
    let (reg, miss) := s.reg.subscribeCorrelated key w
    { s with reg, subscribed := s.subscribed ++ [(key, w)] }.setCall i <| match miss with
      | some event => .firing event [w] none
      | none => .returned
  | some (.unsubscribe w) => { s with reg := s.reg.unsubscribe w }.setCall i .returned
  | some (.deliver event) =>
    match event.key with
    | none => s.setCall i .returned
    | some key =>
      let (reg, taken) := s.reg.deliverCorrelated key event
      { s with reg }.setCall i (fireRound event taken)
  | some (.relatch event) =>
    match event.key with
    | none => s.setCall i .returned
    | some key =>
      let (reg, taken) := s.reg.relatchCorrelated key event
      { s with reg }.setCall i (fireRound event taken)
  | some (.firing event (w :: left) accepted) =>
    s.setCall i (.firing event left (if answer = .accept then accepted <|> some w else accepted))
  -- Removing a waiter is not delivery: a round nobody accepted is handed back.
  | some (.firing event [] none) => s.setCall i (.relatch event)
  | some (.firing event [] (some w)) => { s with settled := s.settled ++ [(event, w)] }.setCall i .returned
  | some .returned | none => s

/-- One step. -/
def step (s : CorrelatedBus) : CorrelatedAct → CorrelatedBus
  | .subscribe key w => s.start (.subscribe key w)
  | .unsubscribe w => s.start (.unsubscribe w)
  | .deliver event => { s with handedIn := s.handedIn ++ event.correlated }.start (.deliver event)
  | .relatch event => { s with handedIn := s.handedIn ++ event.correlated }.start (.relatch event)
  | .proceed i answer => s.proceed i answer

/-- The bus after a list of steps. -/
def run (missedCap : Nat) (acts : List CorrelatedAct) : CorrelatedBus := exec step (new missedCap) acts

/-! ## What is kept -/

/-- The envelopes the calls have in hand. -/
def inHand (s : CorrelatedBus) : List CompletionEnvelope := s.calls.flatMap CorrelatedCall.inHand

/-- As often as it was handed in, an envelope was settled, or it is latched, or in hand. -/
def Balanced (s : CorrelatedBus) : Prop := ∀ event, s.handedIn.count event =
  (s.settled.map Prod.fst).count event + (s.reg.missed.map Prod.snd).count event + s.inHand.count event

/-- What a round has taken, or accepted, was registered on the key of its envelope. -/
def CallOnKey (subscribed : List (CorrelationKey × Waiter)) : CorrelatedCall → Prop
  | .firing event left accepted => ∃ key, event.key = some key ∧ (∀ w ∈ left, (key, w) ∈ subscribed) ∧
      ∀ w, accepted = some w → (key, w) ∈ subscribed
  | _ => True

/-- The invariant of every interleaving. -/
structure Ledger (s : CorrelatedBus) : Prop where
  alive : s.reg.deathCommitted = false ∧ s.reg.deathPurged = false
  balanced : s.Balanced
  live : ∀ kw ∈ s.reg.live, kw ∈ s.subscribed
  onKey : ∀ c ∈ s.calls, CallOnKey s.subscribed c
  settled : ∀ ew ∈ s.settled, ∃ key, ew.1.key = some key ∧ (key, ew.2) ∈ s.subscribed
  missed : ∀ ke ∈ s.reg.missed, ke.2.key = some ke.1
  apart : ∀ kw ∈ s.reg.live, ∀ ke ∈ s.reg.missed, kw.1 ≠ ke.1

/-- Fewer envelopes are latched than the buffer holds. -/
def BelowCap (s : CorrelatedBus) (_ : CorrelatedAct) : Prop := s.reg.missed.length < s.reg.missedCap

end CorrelatedBus

/-! ## The locked sections -/

namespace CorrelatedRegistry

variable {r : CorrelatedRegistry} {key : CorrelationKey} {event : CompletionEnvelope}

/-- A miss of the key is consumed; without one the waiter is registered. -/
theorem subscribeCorrelated_spec (r : CorrelatedRegistry) (key : CorrelationKey) (w : Waiter) :
    (∃ event l₁ l₂, r.missed = l₁ ++ (key, event) :: l₂ ∧
      r.subscribeCorrelated key w = ({ r with missed := l₁ ++ l₂ }, some event)) ∨
    ((∀ ke ∈ r.missed, ke.1 ≠ key) ∧ r.subscribeCorrelated key w = ({ r with live := r.live ++ [(key, w)] }, none)) := by
  unfold subscribeCorrelated takeMissed
  cases hfind : r.missed.find? (·.1 = key) with
  | none =>
    have hnone : ∀ ke ∈ r.missed, ke.1 ≠ key := by simpa using hfind
    exact .inr ⟨hnone, rfl⟩
  | some ke =>
    obtain ⟨key', event⟩ := ke
    obtain ⟨hkey, l₁, l₂, hsplit, hfirst⟩ := List.find?_eq_some_iff_append.1 hfind
    obtain rfl : key' = key := by simpa using hkey
    refine .inl ⟨event, l₁, l₂, hsplit, ?_⟩
    have herase : r.missed.eraseP (·.1 = key') = l₁ ++ l₂ := by
      rw [hsplit, List.eraseP_append_right _ (by simpa using hfirst), List.eraseP_cons_of_pos (by simp)]
    dsimp only
    rw [herase]

/-- Below the cap nothing is evicted: the event is latched where nobody waits, or handed to everybody who does. -/
theorem removeOrLatch_spec (hcap : r.missed.length < r.missedCap) (key : CorrelationKey) (event : CompletionEnvelope) :
    ((∀ kw ∈ r.live, kw.1 ≠ key) ∧
      r.removeOrLatch key event = ({ r with missed := r.missed ++ [(key, event)] }, [])) ∨
    ∃ w left, (∀ w' ∈ w :: left, (key, w') ∈ r.live) ∧
      r.removeOrLatch key event = ({ r with live := r.live.filter (·.1 ≠ key) }, w :: left) := by
  have htakes := takes_removeOrLatch (r := r) key event
  unfold removeOrLatch at htakes ⊢
  cases hrecords : (r.live.filter (·.1 = key)).map (·.2) with
  | nil =>
    refine .inl ⟨?_, ?_⟩
    · intro kw hkw hk
      have hmem : kw.2 ∈ (r.live.filter (·.1 = key)).map (·.2) :=
        List.mem_map_of_mem (List.mem_filter.2 ⟨hkw, by simpa using hk⟩)
      rw [hrecords] at hmem
      cases hmem
    · simp [latchMissed, Nat.not_le.2 hcap]
  | cons w left =>
    rw [hrecords] at htakes
    exact .inr ⟨w, left, htakes.had, rfl⟩

theorem deliverCorrelated_alive (h : r.deathCommitted = false) : r.deliverCorrelated key event = r.removeOrLatch key event := by
  simp [deliverCorrelated, h]

theorem relatchCorrelated_alive (h : r.deathPurged = false) : r.relatchCorrelated key event = r.removeOrLatch key event := by
  simp [relatchCorrelated, h]

end CorrelatedRegistry

/-- One call's share of what the calls have in hand. -/
theorem count_flatMap_set {α β : Type} [DecidableEq β] (f : α → List β) {l : List α} {i : Nat} {a : α} (b : α)
    (h : l[i]? = some a) (x : β) :
    ((l.set i b).flatMap f).count x + (f a).count x = (l.flatMap f).count x + (f b).count x := by
  induction l generalizing i with
  | nil => cases h
  | cons c l ih =>
    cases i with
    | zero =>
      obtain rfl : c = a := by simpa using h
      simp only [List.set_cons_zero, List.flatMap_cons, List.count_append]
      omega
    | succ i =>
      have htail := ih (i := i) (by simpa using h)
      simp only [List.set_cons_succ, List.flatMap_cons, List.count_append]
      omega

namespace CorrelatedBus

variable {s : CorrelatedBus}

/-! ## Every step keeps the ledger -/

theorem callOnKey_mono {subscribed : List (CorrelationKey × Waiter)} {new : List (CorrelationKey × Waiter)}
    {c : CorrelatedCall} (h : CallOnKey subscribed c) : CallOnKey (subscribed ++ new) c := by
  cases c with
  | firing event left accepted =>
    obtain ⟨key, hkey, hleft, hacc⟩ := h
    exact ⟨key, hkey, fun w hw => List.mem_append_left _ (hleft w hw), fun w hw => List.mem_append_left _ (hacc w hw)⟩
  | _ => trivial

theorem ledger_new (missedCap : Nat) : (new missedCap).Ledger where
  alive := ⟨rfl, rfl⟩
  balanced _ := rfl
  live _ h := by cases h
  onKey _ h := by cases h
  settled _ h := by cases h
  missed _ h := by cases h
  apart _ h := by cases h

/-- A call that starts has in hand what is handed in with it. -/
theorem Ledger.start (h : s.Ledger) {c : CorrelatedCall} (hc : CallOnKey s.subscribed c) :
    ({ s with handedIn := s.handedIn ++ c.inHand }.start c).Ledger where
  alive := h.alive
  balanced event := by
    have hbal := h.balanced event
    simp only [inHand, CorrelatedBus.start, List.count_append, List.flatMap_append, List.flatMap_cons, List.flatMap_nil,
      List.append_nil] at hbal ⊢
    omega
  live := h.live
  onKey c' hc' := by
    rcases List.mem_append.1 hc' with hold | hnew
    · exact h.onKey c' hold
    · obtain rfl := List.mem_singleton.1 hnew
      exact hc
  settled := h.settled
  missed := h.missed
  apart := h.apart

/-- A call that moves on without the registry: it keeps what it has in hand. -/
theorem Ledger.setCall (h : s.Ledger) {i : Nat} {c c' : CorrelatedCall} (hi : s.calls[i]? = some c)
    (hhand : c'.inHand = c.inHand) (hc' : CallOnKey s.subscribed c') : (s.setCall i c').Ledger where
  alive := h.alive
  balanced event := by
    have hbal := h.balanced event
    have hset := count_flatMap_set CorrelatedCall.inHand c' hi event
    rw [hhand] at hset
    simp only [inHand, CorrelatedBus.setCall] at hbal ⊢
    omega
  live := h.live
  onKey d hd := by
    rcases List.mem_or_eq_of_mem_set hd with hold | rfl
    · exact h.onKey d hold
    · exact hc'
  settled := h.settled
  missed := h.missed
  apart := h.apart

theorem Ledger.unsubscribe (h : s.Ledger) (w : Waiter) : ({ s with reg := s.reg.unsubscribe w } : CorrelatedBus).Ledger where
  alive := h.alive
  balanced := h.balanced
  live kw hkw := h.live kw (List.mem_of_mem_filter hkw)
  onKey := h.onKey
  settled := h.settled
  missed := h.missed
  apart kw hkw := h.apart kw (List.mem_of_mem_filter hkw)

/-- The waiter consumes a miss, or is registered on a key that has none. -/
theorem Ledger.subscribe (h : s.Ledger) {i : Nat} {key : CorrelationKey} {w : Waiter} {answer : HandlerAnswer}
    (hi : s.calls[i]? = some (.subscribe key w)) : (s.proceed i answer).Ledger := by
  have hsub : ∀ {kw}, kw ∈ s.subscribed → kw ∈ s.subscribed ++ [(key, w)] := fun hkw => List.mem_append_left _ hkw
  have hcalls : ∀ {c c'}, c' ∈ s.calls.set i c → CallOnKey (s.subscribed ++ [(key, w)]) c →
      CallOnKey (s.subscribed ++ [(key, w)]) c' := by
    intro c c' hc' hnew
    rcases List.mem_or_eq_of_mem_set hc' with hold | rfl
    · exact callOnKey_mono (h.onKey c' hold)
    · exact hnew
  have hset := h.settled
  unfold proceed
  simp only [hi]
  rcases s.reg.subscribeCorrelated_spec key w with ⟨event, l₁, l₂, hmissed, hreg⟩ | ⟨hnone, hreg⟩
  · rw [hreg]
    have hkey : event.key = some key := h.missed (key, event) (by simp [hmissed])
    have hkept : ∀ ke ∈ l₁ ++ l₂, ke ∈ s.reg.missed := by
      intro ke hke
      rw [hmissed]
      rcases List.mem_append.1 hke with hl | hr
      · exact List.mem_append_left _ hl
      · exact List.mem_append_right _ (List.mem_cons_of_mem _ hr)
    exact {
      alive := h.alive
      balanced := by
        intro e
        have hbal := h.balanced e
        have hcount := count_flatMap_set CorrelatedCall.inHand (.firing event [w] none) hi e
        simp only [inHand, CorrelatedBus.setCall, hmissed, List.map_append, List.map_cons, List.count_append,
          List.count_cons, CorrelatedCall.inHand, List.count_nil] at hbal hcount ⊢
        omega
      live := fun kw hkw => hsub (h.live kw hkw)
      onKey := fun c hc => hcalls hc ⟨key, hkey, by simp, by simp⟩
      settled := fun ew hew => (hset ew hew).imp fun k hk => ⟨hk.1, hsub hk.2⟩
      missed := fun ke hke => h.missed ke (hkept ke hke)
      apart := fun kw hkw ke hke => h.apart kw hkw ke (hkept ke hke) }
  · rw [hreg]
    exact {
      alive := h.alive
      balanced := by
        intro e
        have hbal := h.balanced e
        have hcount := count_flatMap_set CorrelatedCall.inHand .returned hi e
        simp only [inHand, CorrelatedBus.setCall, CorrelatedCall.inHand, List.count_nil] at hbal hcount ⊢
        omega
      live := by
        intro kw hkw
        rcases List.mem_append.1 hkw with hold | hnew
        · exact hsub (h.live kw hold)
        · exact List.mem_append_right _ hnew
      onKey := fun c hc => hcalls hc trivial
      settled := fun ew hew => (hset ew hew).imp fun k hk => ⟨hk.1, hsub hk.2⟩
      missed := h.missed
      apart := by
        intro kw hkw ke hke
        rcases List.mem_append.1 hkw with hold | hnew
        · exact h.apart kw hold ke hke
        · obtain rfl := List.mem_singleton.1 hnew
          exact (hnone ke hke).symm }

/-- The locked section of a delivery, or of a hand-back: latched, or taken by everybody who waits. -/
theorem Ledger.removeOrLatch (h : s.Ledger) (hcap : s.reg.missed.length < s.reg.missedCap) {i : Nat} {c : CorrelatedCall}
    {key : CorrelationKey} {event : CompletionEnvelope} (hi : s.calls[i]? = some c) (hhand : c.inHand = [event])
    (hkey : event.key = some key) :
    ({ s with reg := (s.reg.removeOrLatch key event).1 }.setCall i
      (fireRound event (s.reg.removeOrLatch key event).2)).Ledger := by
  have hcalls : ∀ {c c'}, c' ∈ s.calls.set i c → CallOnKey s.subscribed c → CallOnKey s.subscribed c' := by
    intro c c' hc' hnew
    rcases List.mem_or_eq_of_mem_set hc' with hold | rfl
    · exact h.onKey c' hold
    · exact hnew
  rcases CorrelatedRegistry.removeOrLatch_spec hcap key event with ⟨hnone, hreg⟩ | ⟨w, left, htaken, hreg⟩
  · rw [hreg]
    exact {
      alive := h.alive
      balanced := by
        intro e
        have hbal := h.balanced e
        have hcount := count_flatMap_set CorrelatedCall.inHand (fireRound event []) hi e
        rw [hhand] at hcount
        simp only [inHand, CorrelatedBus.setCall, fireRound, CorrelatedCall.inHand, List.count_nil, List.map_append,
          List.count_append, List.map_cons, List.map_nil] at hbal hcount ⊢
        omega
      live := h.live
      onKey := fun c hc => hcalls hc trivial
      settled := h.settled
      missed := by
        intro ke hke
        rcases List.mem_append.1 hke with hold | hnew
        · exact h.missed ke hold
        · obtain rfl := List.mem_singleton.1 hnew
          exact hkey
      apart := by
        intro kw hkw ke hke
        rcases List.mem_append.1 hke with hold | hnew
        · exact h.apart kw hkw ke hold
        · obtain rfl := List.mem_singleton.1 hnew
          exact hnone kw hkw }
  · rw [hreg]
    exact {
      alive := h.alive
      balanced := by
        intro e
        have hbal := h.balanced e
        have hcount := count_flatMap_set CorrelatedCall.inHand (fireRound event (w :: left)) hi e
        rw [hhand] at hcount
        simp only [inHand, CorrelatedBus.setCall, fireRound, CorrelatedCall.inHand] at hbal hcount ⊢
        omega
      live := fun kw hkw => h.live kw (List.mem_of_mem_filter hkw)
      onKey := fun c hc => hcalls hc ⟨key, hkey, fun w' hw' => h.live _ (htaken w' hw'), by simp⟩
      settled := h.settled
      missed := h.missed
      apart := fun kw hkw => h.apart kw (List.mem_of_mem_filter hkw) }

/-- A round that a waiter of its key accepted is over. -/
theorem Ledger.settle (h : s.Ledger) {i : Nat} {event : CompletionEnvelope} {w : Waiter}
    (hi : s.calls[i]? = some (.firing event [] (some w))) :
    ({ s with settled := s.settled ++ [(event, w)] }.setCall i .returned).Ledger where
  alive := h.alive
  balanced := by
    intro e
    have hbal := h.balanced e
    have hcount := count_flatMap_set CorrelatedCall.inHand .returned hi e
    simp only [inHand, CorrelatedBus.setCall, CorrelatedCall.inHand, List.count_nil, List.map_append, List.count_append,
      List.map_cons, List.map_nil] at hbal hcount ⊢
    omega
  live := h.live
  onKey := by
    intro c hc
    rcases List.mem_or_eq_of_mem_set hc with hold | rfl
    · exact h.onKey c hold
    · trivial
  settled := by
    intro ew hew
    rcases List.mem_append.1 hew with hold | hnew
    · exact h.settled ew hold
    · obtain rfl := List.mem_singleton.1 hnew
      obtain ⟨key, hkey, -, hacc⟩ := h.onKey _ (List.mem_of_getElem? hi)
      exact ⟨key, hkey, hacc w rfl⟩
  missed := h.missed
  apart := h.apart

theorem correlated_of_key {event : CompletionEnvelope} {key : CorrelationKey} (h : event.key = some key) :
    event.correlated = [event] := by
  have hid := (key_some h).2
  simp [CompletionEnvelope.correlated, hid]

theorem correlated_of_none {event : CompletionEnvelope} (h : event.key = none) : event.correlated = [] := by
  have hid : event.requestId = none := Option.map_eq_none_iff.1 h
  simp [CompletionEnvelope.correlated, hid]

/-- A handler that has been fired. -/
theorem Ledger.fire (h : s.Ledger) {i : Nat} {event : CompletionEnvelope} {w : Waiter} {left : List Waiter}
    {accepted : Option Waiter} {answer : HandlerAnswer} (hi : s.calls[i]? = some (.firing event (w :: left) accepted)) :
    (s.setCall i (.firing event left (if answer = .accept then accepted <|> some w else accepted))).Ledger := by
  obtain ⟨key, hkey, hleft, hacc⟩ := h.onKey _ (List.mem_of_getElem? hi)
  refine h.setCall hi rfl ⟨key, hkey, fun w' hw' => hleft w' (List.mem_cons_of_mem _ hw'), fun w' hw' => ?_⟩
  split_ifs at hw' with haccept
  · cases accepted with
    | none =>
      obtain rfl : w = w' := by simpa using hw'
      exact hleft w List.mem_cons_self
    | some v => exact hacc w' (by simpa using hw')
  · exact hacc w' hw'

theorem ledger_proceed (h : s.Ledger) (hcap : s.reg.missed.length < s.reg.missedCap) (i : Nat) (answer : HandlerAnswer) :
    (s.proceed i answer).Ledger := by
  cases hi : s.calls[i]? with
  | none => simpa only [proceed, hi] using h
  | some c =>
    cases c with
    | subscribe key w => exact h.subscribe hi
    | unsubscribe w =>
      simp only [proceed, hi]
      exact (h.unsubscribe w).setCall hi rfl trivial
    | deliver event =>
      simp only [proceed, hi]
      cases hkey : event.key with
      | none => exact h.setCall hi (correlated_of_none hkey).symm trivial
      | some key =>
        dsimp only
        rw [CorrelatedRegistry.deliverCorrelated_alive h.alive.1]
        exact h.removeOrLatch hcap hi (correlated_of_key hkey) hkey
    | relatch event =>
      simp only [proceed, hi]
      cases hkey : event.key with
      | none => exact h.setCall hi (correlated_of_none hkey).symm trivial
      | some key =>
        dsimp only
        rw [CorrelatedRegistry.relatchCorrelated_alive h.alive.2]
        exact h.removeOrLatch hcap hi (correlated_of_key hkey) hkey
    | firing event left accepted =>
      cases left with
      | cons w left =>
        simp only [proceed, hi]
        exact h.fire hi
      | nil =>
        cases accepted with
        | none =>
          obtain ⟨key, hkey, -⟩ := h.onKey _ (List.mem_of_getElem? hi)
          simp only [proceed, hi]
          exact h.setCall hi (correlated_of_key hkey) trivial
        | some w =>
          simp only [proceed, hi]
          exact h.settle hi
    | returned => simpa only [proceed, hi] using h

theorem ledger_step (act : CorrelatedAct) (h : s.Ledger) (hok : s.BelowCap act) : (s.step act).Ledger := by
  have hnothing : ∀ c : CorrelatedCall, c.inHand = [] → CallOnKey s.subscribed c → (s.start c).Ledger := by
    intro c hhand hc
    have hstart := h.start hc
    rw [hhand, List.append_nil] at hstart
    exact hstart
  cases act with
  | subscribe key w => exact hnothing _ rfl trivial
  | unsubscribe w => exact hnothing _ rfl trivial
  | deliver event => exact h.start (c := .deliver event) trivial
  | relatch event => exact h.start (c := .relatch event) trivial
  | proceed i answer => exact ledger_proceed h hok i answer

/-! ## Runs -/

/-- The calls in progress have returned. -/
def Quiescent (s : CorrelatedBus) : Prop := ∀ c ∈ s.calls, c = .returned

/-- A waiter registered on the key of the envelope accepted it. -/
def Accepted (s : CorrelatedBus) (event : CompletionEnvelope) : Prop :=
  ∃ key w, event.key = some key ∧ (key, w) ∈ s.subscribed ∧ (event, w) ∈ s.settled

/-- The envelope is in the miss-buffer, under its own key. -/
def Latched (s : CorrelatedBus) (event : CompletionEnvelope) : Prop :=
  ∃ key, event.key = some key ∧ (key, event) ∈ s.reg.missed

/-- No key has both a live waiter and a latched envelope. -/
def Apart (s : CorrelatedBus) : Prop := ∀ key, ¬ ((∃ w, (key, w) ∈ s.reg.live) ∧ ∃ event, (key, event) ∈ s.reg.missed)

theorem Ledger.accounted (h : s.Ledger) {event : CompletionEnvelope} (hmem : event ∈ s.handedIn) :
    s.Accepted event ∨ s.Latched event ∨ ∃ c ∈ s.calls, event ∈ c.inHand := by
  have hpos := List.count_pos_iff.2 hmem
  rw [h.balanced event] at hpos
  by_cases hsettled : event ∈ s.settled.map Prod.fst
  · obtain ⟨⟨event', w⟩, hew, rfl⟩ := List.mem_map.1 hsettled
    obtain ⟨key, hkey, hsub⟩ := h.settled _ hew
    exact .inl ⟨key, w, hkey, hsub, hew⟩
  · by_cases hmissed : event ∈ s.reg.missed.map Prod.snd
    · obtain ⟨⟨key, event'⟩, hke, rfl⟩ := List.mem_map.1 hmissed
      exact .inr (.inl ⟨key, h.missed _ hke, hke⟩)
    · rw [List.count_eq_zero_of_not_mem hsettled, List.count_eq_zero_of_not_mem hmissed] at hpos
      have hhand : event ∈ s.inHand := List.count_pos_iff.1 (by omega)
      exact .inr (.inr (List.mem_flatMap.1 hhand))

theorem Ledger.apart_keys (h : s.Ledger) : s.Apart := by
  rintro key ⟨⟨w, hw⟩, event, hevent⟩
  exact h.apart _ hw _ hevent rfl

theorem ledger_run (missedCap : Nat) (acts : List CorrelatedAct)
    (hcap : Allowed step BelowCap (new missedCap) acts) : (run missedCap acts).Ledger :=
  (Reach.exec hcap).invariant (ledger_new missedCap) fun _ act h hok => ledger_step act h hok

/-- **No completion is lost, or left behind a waiter.** -/
theorem completion_kept (missedCap : Nat) (acts : List CorrelatedAct)
    (hcap : Allowed step BelowCap (new missedCap) acts) :
    (run missedCap acts).Balanced ∧ (run missedCap acts).Apart ∧
      ((run missedCap acts).Quiescent → ∀ event ∈ (run missedCap acts).handedIn,
        (run missedCap acts).Accepted event ∨ (run missedCap acts).Latched event) := by
  have h := ledger_run missedCap acts hcap
  refine ⟨h.balanced, h.apart_keys, fun hquiet event hmem => ?_⟩
  rcases h.accounted hmem with hacc | hlatched | ⟨c, hc, hhand⟩
  · exact .inl hacc
  · exact .inr hlatched
  · rw [hquiet c hc] at hhand
    cases hhand

/-- A waiter declines the completion it is delivered; the next one finds it latched, and accepts. -/
def declinedRun : List CorrelatedAct :=
  [.subscribe (.connectionOpenEvent, 1) ⟨0, false⟩, .proceed 0 .accept,
    .deliver ⟨.connectionOpenEvent, some 1, .other 0⟩, .proceed 1 .accept, .proceed 1 .decline, .proceed 1 .accept,
    .proceed 1 .accept,
    .subscribe (.connectionOpenEvent, 1) ⟨1, false⟩, .proceed 2 .accept, .proceed 2 .accept, .proceed 2 .accept]

theorem completion_kept_declinedRun : (run 2 declinedRun).Quiescent ∧
    (run 2 declinedRun).Accepted ⟨.connectionOpenEvent, some 1, .other 0⟩ := by
  have hquiet : (run 2 declinedRun).Quiescent := by
    unfold Quiescent
    decide
  have hmissed : (run 2 declinedRun).reg.missed = [] := by decide
  have hcap : Allowed step BelowCap (new 2) declinedRun := by
    refine ⟨?_, ?_, ?_, ?_, ?_, ?_, ?_, ?_, ?_, ?_, ?_, trivial⟩ <;> unfold BelowCap <;> decide
  rcases (completion_kept 2 declinedRun hcap).2.2 hquiet _ List.mem_cons_self with hacc | ⟨key, -, hlatched⟩
  · exact ⟨hquiet, hacc⟩
  · rw [hmissed] at hlatched
    cases hlatched

end CorrelatedBus

end KrakenSdk.Dispatch
