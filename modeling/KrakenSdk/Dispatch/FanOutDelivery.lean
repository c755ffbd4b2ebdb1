import KrakenSdk.Dispatch.FanOut
/-!
# What a subscriber hears (dispatch/event_bus/mod.rs:410-500, 1224-1418)

A registered subscriber has been called with exactly the events of its type looked up since it came
in, in push order and downgraded to its version; the one under way may be still to come. A
subscriber that was removed hears nothing further but what a snapshot already holds.

* `delivered_run`: both, and that an event pushed after a registration is heard, still to be heard,
  queued, in the loop's hand or evicted.
* `unsubscribed_run`: what a removed subscriber can still hear.
-/
namespace KrakenSdk.Dispatch

open StepSystem

/-- What `r` is handed of an event. -/
def SubscriberRecord.handed (r : SubscriberRecord) (row : BusEnvelope × Nat) : BusEnvelope × Nat :=
  (row.1.toDeliver r.maxVersion, row.2)

namespace FanOut

/-- An event of the ring with its push. -/
def eventOf (row : DispatchItem × Nat) : Option (BusEnvelope × Nat) := row.1.event?.map (·, row.2)

/-- A data callback of the ring. -/
def dataOf (row : DispatchItem × Nat) : Option Nat :=
  match row.1 with
  | .data delivery _ _ => some delivery
  | .event _ => none

/-- The item dequeued and neither looked up nor run yet, or lost with the bus. -/
def inHand (s : FanOut) : List (DispatchItem × Nat) :=
  match s.loop with
  | .dequeued item ticket => [(item, ticket)]
  | .sampled item ticket => [(item, ticket)]
  | .hasSubs e ticket => [(.event e, ticket)]
  | .ended (some row) => [row]
  | _ => []

/-- The registrations the fan-out under way has still to call. -/
def handlers (s : FanOut) : List SubscriberRecord :=
  match s.loop with
  | .invoke _ _ handlers => handlers
  | .calling _ _ _ handlers => handlers
  | _ => []

/-- What registration `serial` was called with. -/
def heard (s : FanOut) (serial : Nat) : List (BusEnvelope × Nat) :=
  (s.delivered.filter (·.serial = serial)).map fun d => (d.envelope, d.ticket)

/-- What the fan-out under way has still to call `r` with. -/
def toHear (s : FanOut) (r : SubscriberRecord) : List (BusEnvelope × Nat) :=
  match s.loop with
  | .snapshot e ticket => if r ∈ s.subscribers e.eventType then [SubscriberRecord.handed r (e, ticket)] else []
  | .invoke e ticket handlers =>
    (handlers.filter (·.serial = r.serial)).map fun h => SubscriberRecord.handed h (e, ticket)
  | .calling e ticket _ handlers =>
    (handlers.filter (·.serial = r.serial)).map fun h => SubscriberRecord.handed h (e, ticket)
  | _ => []

/-- The events of the type of `r` looked up since it came in, as it is handed them. -/
def expected (s : FanOut) (r : SubscriberRecord) : List (BusEnvelope × Nat) :=
  ((s.fanned.drop r.since).filter (·.1.eventType = r.eventType)).map (SubscriberRecord.handed r)

/-- The event under way is the last one looked up, and its callbacks are registrations of its type. -/
def UnderWay (s : FanOut) : Prop :=
  match s.loop with
  | .snapshot e ticket => s.fanned.getLast? = some (e, ticket)
  | .invoke e ticket hs => s.fanned.getLast? = some (e, ticket) ∧ ∀ h ∈ hs, h ∈ s.issued ∧ h.eventType = e.eventType
  | .calling e ticket cb hs =>
    s.fanned.getLast? = some (e, ticket) ∧ ∀ h ∈ cb :: hs, h ∈ s.issued ∧ h.eventType = e.eventType
  | _ => True

/-- What holds of every reachable bus. -/
structure FanOutOk (s : FanOut) : Prop where
  ringOk : s.ring.RingOk
  events : s.ring.received.filterMap eventOf = s.fanned ++ s.inHand.filterMap eventOf
  data : s.ring.received.filterMap dataOf = s.dataRuns ++ s.inHand.filterMap dataOf
  serials : s.issued.map (·.serial) = List.range s.issued.length
  tabled : ∀ t, ∀ r ∈ s.subscribers t, r ∈ s.issued ∧ r.eventType = t
  distinct : ∀ t, (s.subscribers t).Nodup
  handlersDistinct : s.handlers.Nodup
  underWay : s.UnderWay
  called : ∀ d ∈ s.delivered, d.serial < s.issued.length
  since : ∀ r ∈ s.issued, r.since ≤ s.fanned.length
  /-- What was looked up before a registration was pushed before it. -/
  before : ∀ r ∈ s.issued, r.pushedBefore ≤ s.ring.pushed.length ∧ ∀ row ∈ s.fanned.take r.since, row.2 < r.pushedBefore
  heard : ∀ r ∈ s.issued, s.heard r.serial ++ s.toHear r <+: s.expected r
  heardAll : ∀ r ∈ s.issued, r ∈ s.subscribers r.eventType → s.heard r.serial ++ s.toHear r = s.expected r

/-! ## Registrations are told apart by their serial -/

theorem serial_lt {s : FanOut} (h : FanOutOk s) {r : SubscriberRecord} (hr : r ∈ s.issued) : r.serial < s.issued.length := by
  have hmem : r.serial ∈ s.issued.map (·.serial) := List.mem_map_of_mem hr
  rw [h.serials] at hmem
  exact List.mem_range.1 hmem

theorem eq_of_serial {s : FanOut} (h : FanOutOk s) {r r' : SubscriberRecord} (hr : r ∈ s.issued) (hr' : r' ∈ s.issued)
    (heq : r.serial = r'.serial) : r = r' := by
  have hnd : (s.issued.map (·.serial)).Nodup := by
    rw [h.serials]
    exact List.nodup_range
  exact List.inj_on_of_nodup_map hnd hr hr' heq

/-! ## Steps that look nothing up and call nothing -/

theorem toHear_congr {s s' : FanOut} (hloop : s'.loop = s.loop) (hsubs : s'.subscribers = s.subscribers) (r : SubscriberRecord) :
    s'.toHear r = s.toHear r := by
  unfold toHear
  rw [hloop, hsubs]

/-- A step that registers, looks up and calls nothing, wherever it moves the loop. -/
theorem fanOutOk_move {s s' : FanOut} (h : FanOutOk s) (hring : s'.ring.RingOk)
    (hreceived : s'.ring.received = s.ring.received) (hpushed : s.ring.pushed <+: s'.ring.pushed)
    (hsubs : s'.subscribers = s.subscribers) (hfanned : s'.fanned = s.fanned) (hissued : s'.issued = s.issued)
    (hdelivered : s'.delivered = s.delivered) (hevents : s'.inHand.filterMap eventOf = s.inHand.filterMap eventOf)
    (hdata : s'.dataRuns ++ s'.inHand.filterMap dataOf = s.dataRuns ++ s.inHand.filterMap dataOf)
    (hhandlers : s'.handlers.Nodup) (hunder : s'.UnderWay) (hhear : ∀ r, s'.toHear r = s.toHear r) : FanOutOk s' := by
  refine ⟨hring, ?_, ?_, ?_, ?_, ?_, hhandlers, hunder, ?_, ?_, ?_, ?_, ?_⟩
  · rw [hreceived, hfanned, hevents, h.events]
  · rw [hreceived, hdata, h.data]
  · rw [hissued, h.serials]
  · rw [hsubs, hissued]
    exact h.tabled
  · rw [hsubs]
    exact h.distinct
  · rw [hdelivered, hissued]
    exact h.called
  · rw [hissued, hfanned]
    exact h.since
  · rw [hissued, hfanned]
    intro r hr
    obtain ⟨hle, htk⟩ := h.before r hr
    exact ⟨hle.trans hpushed.length_le, htk⟩
  · rw [hissued]
    intro r hr
    have hh := h.heard r hr
    unfold heard expected at hh ⊢
    rwa [hhear, hdelivered, hfanned]
  · rw [hissued, hsubs]
    intro r hr hin
    have hh := h.heardAll r hr hin
    unfold heard expected at hh ⊢
    rwa [hhear, hdelivered, hfanned]

theorem fanOutOk_frame {s s' : FanOut} (h : FanOutOk s) (hf : Frame s s') : FanOutOk s' := by
  have hhand : s'.inHand = s.inHand := by
    unfold inHand
    rw [hf.loop]
  have hhandlers : s'.handlers = s.handlers := by
    unfold handlers
    rw [hf.loop]
  refine fanOutOk_move h (hf.ringOk h.ringOk) hf.received hf.pushed hf.subscribers hf.fanned hf.issued hf.delivered ?_ ?_ ?_
    ?_ ?_
  · rw [hhand]
  · rw [hhand, hf.dataRuns]
  · rw [hhandlers]
    exact h.handlersDistinct
  · have hu := h.underWay
    unfold UnderWay at hu ⊢
    rw [hf.loop, hf.fanned, hf.issued]
    exact hu
  · exact toHear_congr hf.loop hf.subscribers

/-- A move of the loop alone. -/
theorem fanOutOk_loop {s s' : FanOut} (h : FanOutOk s) (hring : s'.ring = s.ring) (hsubs : s'.subscribers = s.subscribers)
    (hfanned : s'.fanned = s.fanned) (hissued : s'.issued = s.issued) (hdelivered : s'.delivered = s.delivered)
    (hevents : s'.inHand.filterMap eventOf = s.inHand.filterMap eventOf)
    (hdata : s'.dataRuns ++ s'.inHand.filterMap dataOf = s.dataRuns ++ s.inHand.filterMap dataOf)
    (hhandlers : s'.handlers.Nodup) (hunder : s'.UnderWay) (hhear : ∀ r, s'.toHear r = s.toHear r) : FanOutOk s' :=
  fanOutOk_move h (by rw [hring]; exact h.ringOk) (by rw [hring]) (by rw [hring]) hsubs hfanned hissued hdelivered hevents
    hdata hhandlers hunder hhear

theorem fanOutOk_new (capacity intervalMs : Nat) : FanOutOk (new capacity intervalMs) where
  ringOk := RingSystem.ringOk_new capacity
  events := rfl
  data := rfl
  serials := rfl
  tabled := by simp [new]
  distinct := by simp [new]
  handlersDistinct := by simp [new, handlers]
  underWay := trivial
  called := by simp [new]
  since := by simp [new]
  before := by simp [new]
  heard := by simp [new]
  heardAll := by simp [new]

/-! ## The pop of the loop -/

theorem atRest {s : FanOut} (h : s.loop = .recv ∨ s.loop = .ended none) :
    s.inHand = [] ∧ s.handlers = [] ∧ s.UnderWay ∧ ∀ r, s.toHear r = [] := by
  unfold inHand handlers UnderWay toHear
  rcases h with h | h <;> simp [h]

theorem received_popStep (r : RingSystem DispatchItem) :
    r.popStep.received = r.received ++ r.ring.inner.head?.toList ∧ r.popStep.pushed = r.pushed := by
  unfold RingSystem.popStep DropOldestRing.popLocked
  cases r.ring.inner <;> simp

theorem toHear_recvStep (s : FanOut) (a : RingAct DispatchItem) (r : SubscriberRecord) : (s.recvStep a).toHear r = [] := by
  unfold toHear
  rcases loop_recvStep s a with ⟨item, ticket, hl, -⟩ | hl | hl <;> rw [hl]

theorem fanOutOk_recvStep {s : FanOut} (h : FanOutOk s) (hloop : s.loop = .recv) (a : RingAct DispatchItem) :
    FanOutOk (s.recvStep a) := by
  have hhand : s.inHand = [] := by simp [inHand, hloop]
  have hhear : ∀ r, s.toHear r = [] := fun r => by simp [toHear, hloop]
  have hring : (s.ring.step a).RingOk := RingSystem.ringOk_step h.ringOk a
  by_cases hpop : ∃ row, (s.ring.step a).received = s.ring.received ++ [row]
  · obtain ⟨⟨item, ticket⟩, hrow⟩ := hpop
    have hev := h.events
    have hdt := h.data
    simp only [hhand, List.filterMap_nil, List.append_nil] at hev hdt
    have hnext : s.recvStep a = { s with ring := s.ring.step a, loop := .dequeued item ticket } := by
      simp [recvStep, hrow]
    rw [hnext]
    refine ⟨hring, ?_, ?_, h.serials, h.tabled, h.distinct, by simp [handlers], trivial, h.called, h.since, ?_, ?_, ?_⟩
    · simp [hrow, inHand, List.filterMap_append, hev]
    · simp [hrow, inHand, List.filterMap_append, hdt]
    · intro r hr
      obtain ⟨hle, htk⟩ := h.before r hr
      exact ⟨hle.trans (pushed_ringStep _ a).length_le, htk⟩
    · intro r hr
      have hh := h.heard r hr
      rw [hhear] at hh
      exact hh
    · intro r hr hin
      have hh := h.heardAll r hr hin
      rw [hhear] at hh
      exact hh
  · have hsame : (s.ring.step a).received = s.ring.received := by
      by_cases ha : a = .recvPop
      · subst ha
        simp only [RingSystem.step] at hpop ⊢
        split at hpop
        next hp =>
          simp only [hp, if_true, (received_popStep s.ring).1] at hpop ⊢
          cases hq : s.ring.ring.inner with
          | nil => simp
          | cons row rest => exact absurd ⟨row, by simp [hq]⟩ hpop
        next hp => simp [hp]
      · exact received_ringStep _ ha
    have hrest : (s.recvStep a).loop = .recv ∨ (s.recvStep a).loop = .ended none := by
      by_cases hn : (s.ring.step a).recv = .returnedNone <;> simp [recvStep, hsame, hn]
    obtain ⟨h1, h2, h3, h4⟩ := atRest hrest
    refine fanOutOk_move h hring hsame (pushed_ringStep _ a) rfl rfl rfl rfl ?_ ?_ ?_ h3 ?_
    · rw [hhand, h1]
    · rw [hhand, h1]
      rfl
    · rw [h2]
      exact List.nodup_nil
    · intro r
      rw [hhear, h4]

/-! ## Registering and unregistering -/

theorem heard_eq_nil {s : FanOut} (h : FanOutOk s) {serial : Nat} (hle : s.issued.length ≤ serial) : s.heard serial = [] := by
  have hnone : s.delivered.filter (·.serial = serial) = [] := by
    rw [List.filter_eq_nil_iff]
    intro d hd
    have hlt := h.called d hd
    simp
    omega
  simp [heard, hnone]

theorem handlers_issued {s : FanOut} (h : FanOutOk s) : ∀ r ∈ s.handlers, r ∈ s.issued := by
  have hu := h.underWay
  intro r hr
  unfold UnderWay at hu
  unfold handlers at hr
  cases hl : s.loop with
  | invoke e ticket hs =>
    simp only [hl] at hu hr
    exact (hu.2 r hr).1
  | calling e ticket cb hs =>
    simp only [hl] at hu hr
    exact (hu.2 r (List.mem_cons_of_mem _ hr)).1
  | _ => simp [hl] at hr

theorem filter_handlers_eq_nil {s : FanOut} (h : FanOutOk s) {hs : List SubscriberRecord} (hhs : s.handlers = hs) {serial : Nat}
    (hle : s.issued.length ≤ serial) : hs.filter (·.serial = serial) = [] := by
  rw [List.filter_eq_nil_iff]
  intro r hr
  have hlt := serial_lt h (handlers_issued h r (by rwa [hhs]))
  simp
  omega

/-- The registration made by `insert`. -/
def newRecord (s : FanOut) (a : Allocated) : SubscriberRecord :=
  { toAllocated := a, serial := s.issued.length, since := s.sinceNow, pushedBefore := s.ring.pushed.length }

theorem mem_insert_subscribers {s : FanOut} {a : Allocated} {t : PublishedType} {r : SubscriberRecord} :
    r ∈ (s.insert a).subscribers t ↔ r ∈ s.subscribers t ∨ (r = s.newRecord a ∧ a.eventType = t) := by
  by_cases ht : t = a.eventType
  · subst ht
    simp [insert, newRecord]
  · have ht' : a.eventType ≠ t := fun he => ht he.symm
    simp [insert, ht, ht']

theorem newRecord_not_mem {s : FanOut} (h : FanOutOk s) (a : Allocated) : s.newRecord a ∉ s.issued := by
  intro hin
  have hlt := serial_lt h hin
  simp [newRecord] at hlt

/-- The registrations that were there are still owed what they were. -/
theorem toHear_insert {s : FanOut} (h : FanOutOk s) (a : Allocated) {r : SubscriberRecord} (hr : r ∈ s.issued) :
    (s.insert a).toHear r = s.toHear r := by
  have hne : r ≠ s.newRecord a := by
    rintro rfl
    exact newRecord_not_mem h a hr
  have hloop : (s.insert a).loop = s.loop := rfl
  unfold toHear
  rw [hloop]
  cases hl : s.loop with
  | snapshot e ticket => simp [mem_insert_subscribers, hne]
  | _ => rfl

/-- A new registration is owed the event between the two reads of the table, if it is of its type. -/
theorem owed_newRecord {s : FanOut} (h : FanOutOk s) (a : Allocated) :
    (s.insert a).heard s.issued.length ++ (s.insert a).toHear (s.newRecord a) =
      (s.insert a).expected (s.newRecord a) := by
  have hheard : (s.insert a).heard s.issued.length = [] := heard_eq_nil h (le_refl _)
  rw [hheard, List.nil_append]
  have hloop : (s.insert a).loop = s.loop := rfl
  have hfanned : (s.insert a).fanned = s.fanned := rfl
  have hnone : ∀ hs, s.handlers = hs → hs.filter (·.serial = (s.newRecord a).serial) = [] :=
    fun hs hhs => filter_handlers_eq_nil h hhs (le_refl _)
  unfold toHear expected
  rw [hloop, hfanned]
  cases hl : s.loop with
  | snapshot e ticket =>
    have hlast : s.fanned.getLast? = some (e, ticket) := by
      have hu := h.underWay
      unfold UnderWay at hu
      simpa only [hl] using hu
    obtain ⟨before, hbefore⟩ := List.getLast?_eq_some_iff.1 hlast
    have hdrop : s.fanned.drop (s.newRecord a).since = [(e, ticket)] := by
      simp [newRecord, sinceNow, hl, hbefore]
    have hnin : s.newRecord a ∉ s.subscribers e.eventType :=
      fun hin => newRecord_not_mem h a (h.tabled _ _ hin).1
    have htype : (s.newRecord a).eventType = a.eventType := rfl
    rw [hdrop]
    by_cases ht : a.eventType = e.eventType
    · simp [mem_insert_subscribers, htype, ht, SubscriberRecord.handed]
    · have ht' : e.eventType ≠ a.eventType := fun he => ht he.symm
      simp [mem_insert_subscribers, htype, ht, ht', hnin]
  | invoke e ticket hs =>
    have hdrop : s.fanned.drop (s.newRecord a).since = [] := by simp [newRecord, sinceNow, hl]
    simp only [hnone hs (by simp [handlers, hl]), hdrop, List.map_nil, List.filter_nil]
  | calling e ticket cb hs =>
    have hdrop : s.fanned.drop (s.newRecord a).since = [] := by simp [newRecord, sinceNow, hl]
    simp only [hnone hs (by simp [handlers, hl]), hdrop, List.map_nil, List.filter_nil]
  | _ => simp [newRecord, sinceNow, hl]

theorem sinceNow_le (s : FanOut) : s.sinceNow ≤ s.fanned.length := by
  unfold sinceNow
  split <;> omega

/-- What was looked up was pushed. -/
theorem fanned_ticket_lt {s : FanOut} (h : FanOutOk s) {row : BusEnvelope × Nat} (hrow : row ∈ s.fanned) :
    row.2 < s.ring.pushed.length := by
  have hin : row ∈ s.ring.received.filterMap eventOf := by
    rw [h.events]
    exact List.mem_append_left _ hrow
  obtain ⟨row', hrow', heq⟩ := List.mem_filterMap.1 hin
  have hticket : row'.2 = row.2 := by
    simp only [eventOf, Option.map_eq_some_iff] at heq
    obtain ⟨e, -, rfl⟩ := heq
    rfl
  have hsub := h.ringOk.conserved.2.subset (List.mem_append_left _ hrow')
  have hlt := List.snd_lt_of_mem_zipIdx hsub
  omega

theorem fanOutOk_insert {s : FanOut} (h : FanOutOk s) (a : Allocated) : FanOutOk (s.insert a) := by
  have hissued : (s.insert a).issued = s.issued ++ [s.newRecord a] := rfl
  refine ⟨h.ringOk, h.events, h.data, ?_, ?_, ?_, h.handlersDistinct, ?_, ?_, ?_, ?_, ?_, ?_⟩
  case refine_1 => simp [hissued, h.serials, newRecord, List.range_succ]
  case refine_2 =>
    intro t r hr
    rcases mem_insert_subscribers.1 hr with hr | ⟨rfl, rfl⟩
    · obtain ⟨hin, ht⟩ := h.tabled t r hr
      exact ⟨by simp [hissued, hin], ht⟩
    · exact ⟨by simp [hissued], rfl⟩
  case refine_3 =>
    intro t
    by_cases ht : t = a.eventType
    · subst ht
      have hnin : s.newRecord a ∉ s.subscribers a.eventType :=
        fun hin => newRecord_not_mem h a (h.tabled _ _ hin).1
      have hsubs : (s.insert a).subscribers a.eventType = s.subscribers a.eventType ++ [s.newRecord a] := by
        simp [insert, newRecord]
      rw [hsubs, List.nodup_append]
      refine ⟨h.distinct _, by simp, ?_⟩
      rintro r hr r' hr' rfl
      rw [List.mem_singleton.1 hr'] at hr
      exact hnin hr
    · have hsubs : (s.insert a).subscribers t = s.subscribers t := by simp [insert, ht]
      rw [hsubs]
      exact h.distinct t
  case refine_4 =>
    have hu := h.underWay
    have hloop : (s.insert a).loop = s.loop := rfl
    have hfanned : (s.insert a).fanned = s.fanned := rfl
    unfold UnderWay at hu ⊢
    rw [hloop, hfanned]
    cases hl : s.loop with
    | invoke e ticket hs =>
      simp only [hl] at hu ⊢
      exact ⟨hu.1, fun r hr => ⟨by simp [hissued, (hu.2 r hr).1], (hu.2 r hr).2⟩⟩
    | calling e ticket cb hs =>
      simp only [hl] at hu ⊢
      exact ⟨hu.1, fun r hr => ⟨by simp [hissued, (hu.2 r hr).1], (hu.2 r hr).2⟩⟩
    | snapshot e ticket => simpa only [hl] using hu
    | _ => simp
  case refine_5 =>
    intro d hd
    have hlt := h.called d hd
    simp [hissued]
    omega
  case refine_6 =>
    intro r hr
    rcases List.mem_append.1 hr with hr | hr
    · exact h.since r hr
    · rw [List.mem_singleton.1 hr]
      exact s.sinceNow_le
  case refine_7 =>
    intro r hr
    rcases List.mem_append.1 hr with hr | hr
    · exact h.before r hr
    · rw [List.mem_singleton.1 hr]
      exact ⟨le_refl _, fun row hrow => fanned_ticket_lt h (List.mem_of_mem_take hrow)⟩
  case refine_8 =>
    intro r hr
    rcases List.mem_append.1 hr with hr | hr
    · rw [toHear_insert h a hr]
      exact h.heard r hr
    · rw [List.mem_singleton.1 hr]
      exact (owed_newRecord h a).symm ▸ List.prefix_refl _
  case refine_9 =>
    intro r hr hin
    rcases List.mem_append.1 hr with hr | hr
    · have hne : r ≠ s.newRecord a := by
        rintro rfl
        exact newRecord_not_mem h a hr
      have hin' : r ∈ s.subscribers r.eventType := by
        rcases mem_insert_subscribers.1 hin with hin | ⟨heq, -⟩
        · exact hin
        · exact absurd heq hne
      rw [toHear_insert h a hr]
      exact h.heardAll r hr hin'
    · rw [List.mem_singleton.1 hr]
      exact owed_newRecord h a

/-- Removing a registration takes from it at most the event between the two reads. -/
theorem toHear_unsubscribe (s : FanOut) (handle : Nat) (r : SubscriberRecord) :
    (s.unsubscribe handle).toHear r = s.toHear r ∨
      r ∉ (s.unsubscribe handle).subscribers r.eventType ∧ (s.unsubscribe handle).toHear r = [] := by
  have hloop : (s.unsubscribe handle).loop = s.loop := rfl
  unfold toHear
  rw [hloop]
  cases hl : s.loop with
  | snapshot e ticket =>
    by_cases hh : r.handle = handle
    · exact .inr ⟨by simp [unsubscribe, hh], by simp [unsubscribe, hh]⟩
    · exact .inl (by simp [unsubscribe, hh])
  | _ => exact .inl rfl

theorem fanOutOk_unsubscribe {s : FanOut} (h : FanOutOk s) (handle : Nat) : FanOutOk (s.unsubscribe handle) := by
  refine ⟨h.ringOk, h.events, h.data, h.serials, ?_, ?_, h.handlersDistinct, ?_, h.called, h.since, h.before, ?_, ?_⟩
  · intro t r hr
    exact h.tabled t r (List.mem_filter.1 hr).1
  · exact fun t => (h.distinct t).filter _
  · exact h.underWay
  · intro r hr
    have hh := h.heard r hr
    rcases toHear_unsubscribe s handle r with heq | ⟨-, hnil⟩
    · rw [heq]
      exact hh
    · rw [hnil, List.append_nil]
      exact (List.prefix_append _ _).trans hh
  · intro r hr hin
    have hin' : r ∈ s.subscribers r.eventType := (List.mem_filter.1 hin).1
    rcases toHear_unsubscribe s handle r with heq | ⟨hnin, -⟩
    · rw [heq]
      exact h.heardAll r hr hin'
    · exact absurd hin hnin

/-! ## The loop looks up and calls -/

/-- The loop after its first read of the table. -/
def lookedUp (s : FanOut) (e : BusEnvelope) (ticket : Nat) : FanOut :=
  { s with fanned := s.fanned ++ [(e, ticket)]
           loop := if s.subscribers e.eventType = [] then .recv else .snapshot e ticket }

theorem toHear_lookedUp (s : FanOut) (e : BusEnvelope) (ticket : Nat) (r : SubscriberRecord) :
    (s.lookedUp e ticket).toHear r =
      if r ∈ s.subscribers e.eventType then [SubscriberRecord.handed r (e, ticket)] else [] := by
  by_cases hnone : s.subscribers e.eventType = [] <;> simp [toHear, lookedUp, hnone]

theorem expected_lookedUp {s : FanOut} (h : FanOutOk s) (e : BusEnvelope) (ticket : Nat) {r : SubscriberRecord}
    (hr : r ∈ s.issued) : (s.lookedUp e ticket).expected r =
      s.expected r ++ if e.eventType = r.eventType then [SubscriberRecord.handed r (e, ticket)] else [] := by
  have hle : r.since - s.fanned.length = 0 := by
    have := h.since r hr
    omega
  by_cases ht : e.eventType = r.eventType <;> simp [expected, lookedUp, List.drop_append, hle, ht]

theorem fanOutOk_hasSubs {s : FanOut} (h : FanOutOk s) {e : BusEnvelope} {ticket : Nat} (hloop : s.loop = .hasSubs e ticket) :
    FanOutOk (s.lookedUp e ticket) := by
  have hhear : ∀ r, s.toHear r = [] := fun r => by simp [toHear, hloop]
  have hheard : ∀ r : SubscriberRecord, (s.lookedUp e ticket).heard r.serial = s.heard r.serial := fun _ => rfl
  have hhand : (s.lookedUp e ticket).inHand = [] := by
    by_cases hnone : s.subscribers e.eventType = [] <;> simp [inHand, lookedUp, hnone]
  have hfanned : (s.lookedUp e ticket).fanned = s.fanned ++ [(e, ticket)] := rfl
  refine ⟨h.ringOk, ?_, ?_, h.serials, h.tabled, h.distinct, ?_, ?_, h.called, ?_, ?_, ?_, ?_⟩
  · have hev := h.events
    rw [show s.inHand = [(.event e, ticket)] by simp [inHand, hloop]] at hev
    have hone : [((DispatchItem.event e, ticket) : DispatchItem × Nat)].filterMap eventOf = [(e, ticket)] := rfl
    rw [hhand, hfanned, List.filterMap_nil, List.append_nil, ← hone]
    exact hev
  · have hdt := h.data
    rw [show s.inHand = [(.event e, ticket)] by simp [inHand, hloop]] at hdt
    rw [hhand]
    exact hdt
  · by_cases hnone : s.subscribers e.eventType = [] <;> simp [handlers, lookedUp, hnone]
  · by_cases hnone : s.subscribers e.eventType = [] <;> simp [UnderWay, lookedUp, hnone]
  · intro r hr
    have hle := h.since r hr
    rw [hfanned, List.length_append]
    omega
  · intro r hr
    rw [hfanned, List.take_append_of_le_length (h.since r hr)]
    exact h.before r hr
  · intro r hr
    have hh := h.heard r hr
    rw [hhear, List.append_nil] at hh
    rw [expected_lookedUp h e ticket hr, toHear_lookedUp, hheard]
    by_cases hin : r ∈ s.subscribers e.eventType
    · have ht := (h.tabled _ _ hin).2
      have hall := h.heardAll r hr (by rwa [ht])
      rw [hhear, List.append_nil] at hall
      simp [hin, ht, hall]
    · rw [if_neg hin, List.append_nil]
      exact hh.trans (List.prefix_append _ _)
  · intro r hr hin
    have hall := h.heardAll r hr hin
    rw [hhear, List.append_nil] at hall
    rw [expected_lookedUp h e ticket hr, toHear_lookedUp, hheard, hall]
    by_cases ht : e.eventType = r.eventType
    · have hin' : r ∈ s.subscribers e.eventType := by
        rw [ht]
        exact hin
      rw [if_pos hin', if_pos ht]
    · have hnin : r ∉ s.subscribers e.eventType := fun hin' => ht (h.tabled _ _ hin').2.symm
      rw [if_neg hnin, if_neg ht]

theorem filter_serial_of_mem {s : FanOut} (h : FanOutOk s) {r : SubscriberRecord} {hs : List SubscriberRecord} (hnd : hs.Nodup)
    (hissued : ∀ r' ∈ hs, r' ∈ s.issued) (hr : r ∈ s.issued) :
    hs.filter (·.serial = r.serial) = if r ∈ hs then [r] else [] := by
  have hfilter : hs.filter (·.serial = r.serial) = hs.filter (· = r) := by
    apply List.filter_congr
    intro r' hr'
    by_cases heq : r' = r
    · simp [heq]
    · have hne : r'.serial ≠ r.serial := fun hs' => heq (eq_of_serial h (hissued r' hr') hr hs')
      simp [heq, hne]
  rw [hfilter]
  by_cases hin : r ∈ hs
  · have hcount : hs.count r = 1 := List.count_eq_one_of_mem hnd hin
    rw [List.filter_eq, hcount]
    simp [hin]
  · rw [if_neg hin, List.filter_eq_nil_iff]
    intro r' hr' heq
    simp at heq
    exact hin (heq ▸ hr')

theorem toHear_snapshot {s : FanOut} (h : FanOutOk s) {e : BusEnvelope} {ticket : Nat} (hloop : s.loop = .snapshot e ticket)
    {r : SubscriberRecord} (hr : r ∈ s.issued) :
    toHear { s with loop := .invoke e ticket (s.subscribers e.eventType) } r = s.toHear r := by
  have hissued : ∀ r ∈ s.subscribers e.eventType, r ∈ s.issued := fun r hr => (h.tabled _ _ hr).1
  have hfilter := filter_serial_of_mem h (h.distinct e.eventType) hissued hr
  simp only [toHear, hloop, hfilter]
  by_cases hin : r ∈ s.subscribers e.eventType <;> simp [hin]

theorem fanOutOk_snapshot {s : FanOut} (h : FanOutOk s) {e : BusEnvelope} {ticket : Nat} (hloop : s.loop = .snapshot e ticket) :
    FanOutOk { s with loop := .invoke e ticket (s.subscribers e.eventType) } := by
  have hhand : s.inHand = [] := by simp [inHand, hloop]
  have hev := h.events
  have hdt := h.data
  rw [hhand] at hev hdt
  refine ⟨h.ringOk, hev, hdt, h.serials, h.tabled, h.distinct, ?_, ?_, h.called, h.since, h.before, ?_, ?_⟩
  · exact h.distinct e.eventType
  · have hu := h.underWay
    simp only [UnderWay, hloop] at hu
    exact ⟨hu, fun r hr => h.tabled _ _ hr⟩
  · intro r hr
    rw [toHear_snapshot h hloop hr]
    exact h.heard r hr
  · intro r hr hin
    rw [toHear_snapshot h hloop hr]
    exact h.heardAll r hr hin

/-- A call moves what it hands from what is still to be heard to what was heard. -/
theorem heard_invoke {s : FanOut} {e : BusEnvelope} {ticket : Nat} {cb : SubscriberRecord} {hs : List SubscriberRecord}
    (hloop : s.loop = .invoke e ticket (cb :: hs)) (r : SubscriberRecord) :
    heard { s with loop := .calling e ticket cb hs
                   delivered := s.delivered ++ [⟨cb.serial, e.toDeliver cb.maxVersion, ticket⟩] } r.serial ++
      toHear { s with loop := .calling e ticket cb hs
                      delivered := s.delivered ++ [⟨cb.serial, e.toDeliver cb.maxVersion, ticket⟩] } r =
      s.heard r.serial ++ s.toHear r := by
  by_cases heq : cb.serial = r.serial
  · simp [heard, toHear, hloop, heq, SubscriberRecord.handed]
  · simp [heard, toHear, hloop, heq]

theorem fanOutOk_invoke {s : FanOut} (h : FanOutOk s) {e : BusEnvelope} {ticket : Nat} {cb : SubscriberRecord}
    {hs : List SubscriberRecord} (hloop : s.loop = .invoke e ticket (cb :: hs)) :
    FanOutOk { s with loop := .calling e ticket cb hs
                      delivered := s.delivered ++ [⟨cb.serial, e.toDeliver cb.maxVersion, ticket⟩] } := by
  have hhand : s.inHand = [] := by simp [inHand, hloop]
  have hu := h.underWay
  simp only [UnderWay, hloop] at hu
  have hcb : cb ∈ s.issued := (hu.2 cb (by simp)).1
  have hnd : (cb :: hs).Nodup := by
    have hd := h.handlersDistinct
    simpa only [handlers, hloop] using hd
  have hev := h.events
  have hdt := h.data
  rw [hhand] at hev hdt
  refine ⟨h.ringOk, hev, hdt, h.serials, h.tabled, h.distinct, ?_, hu, ?_, h.since, h.before, ?_, ?_⟩
  · exact (List.nodup_cons.1 hnd).2
  · intro d hd
    rcases List.mem_append.1 hd with hd | hd
    · exact h.called d hd
    · rw [List.mem_singleton.1 hd]
      exact serial_lt h hcb
  · intro r hr
    rw [heard_invoke hloop r]
    exact h.heard r hr
  · intro r hr hin
    rw [heard_invoke hloop r]
    exact h.heardAll r hr hin

/-- A callback over, whatever is reported of it. -/
theorem fanOutOk_called {s : FanOut} (h : FanOutOk s) {e : BusEnvelope} {ticket : Nat} {cb : SubscriberRecord}
    {hs : List SubscriberRecord} (hloop : s.loop = .calling e ticket cb hs) (emits : List BusEnvelope) :
    FanOutOk { s with loop := .invoke e ticket hs, emits } := by
  refine fanOutOk_loop h rfl rfl rfl rfl rfl ?_ ?_ ?_ ?_ (fun r => ?_)
  · simp [inHand, hloop]
  · simp [inHand, hloop]
  · have hd := h.handlersDistinct
    simpa only [handlers, hloop] using hd
  · have hu := h.underWay
    simp only [UnderWay, hloop] at hu
    exact ⟨hu.1, fun r hr => hu.2 r (List.mem_cons_of_mem _ hr)⟩
  · simp [toHear, hloop]

theorem fanOutOk_calledData {s : FanOut} (h : FanOutOk s) {channel handlerId : Nat}
    (hloop : s.loop = .callingData channel handlerId) (emits : List BusEnvelope) :
    FanOutOk { s with loop := .recv, emits } := by
  refine fanOutOk_loop h rfl rfl rfl rfl rfl ?_ ?_ (by simp [handlers]) trivial (fun r => ?_)
  · simp [inHand, hloop]
  · simp [inHand, hloop]
  · simp [toHear, hloop]

theorem fanOutOk_loopStep {s : FanOut} (h : FanOutOk s) (a : LoopAct) : FanOutOk (s.loopStep a) := by
  cases a with
  | upgrade alive elapsedMs now =>
    simp only [loopStep]
    split
    next item ticket hloop =>
      have hhear : ∀ r, s.toHear r = [] := fun r => by simp [toHear, hloop]
      split
      · split
        all_goals
          refine fanOutOk_loop h rfl rfl rfl rfl rfl ?_ ?_ (by simp [handlers]) trivial (fun r => (hhear r).symm)
          · simp [inHand, hloop]
          · simp [inHand, hloop]
      · refine fanOutOk_loop h rfl rfl rfl rfl rfl ?_ ?_ (by simp [handlers]) trivial (fun r => (hhear r).symm)
        · simp [inHand, hloop]
        · simp [inHand, hloop]
    next => exact h
  | matchItem panics =>
    simp only [loopStep]
    split
    next delivery channel handlerId ticket hloop =>
      have hhear : ∀ r, s.toHear r = [] := fun r => by simp [toHear, hloop]
      refine fanOutOk_loop h rfl rfl rfl rfl rfl ?_ ?_ (by simp [handlers]) trivial (fun r => (hhear r).symm)
      · simp [inHand, hloop, eventOf, DispatchItem.event?]
      · simp [inHand, hloop, dataOf]
    next e ticket hloop =>
      have hhear : ∀ r, s.toHear r = [] := fun r => by simp [toHear, hloop]
      split
      all_goals
        refine fanOutOk_loop h rfl rfl rfl rfl rfl ?_ ?_ (by simp [handlers]) trivial (fun r => (hhear r).symm)
        · simp [inHand, hloop]
        · simp [inHand, hloop]
    next => exact h
  | hasSubs =>
    simp only [loopStep]
    split
    next e ticket hloop => exact fanOutOk_hasSubs h hloop
    next => exact h
  | snapshot =>
    simp only [loopStep]
    split
    next e ticket hloop => exact fanOutOk_snapshot h hloop
    next => exact h
  | invoke =>
    simp only [loopStep]
    split
    next e ticket hloop =>
      have hhear : ∀ r, s.toHear r = [] := fun r => by simp [toHear, hloop]
      refine fanOutOk_loop h rfl rfl rfl rfl rfl ?_ ?_ (by simp [handlers]) trivial (fun r => (hhear r).symm)
      · simp [inHand, hloop]
      · simp [inHand, hloop]
    next e ticket cb hs hloop => exact fanOutOk_invoke h hloop
    next => exact h
  | returned elapsedUs thresholdMs latencyAt slowAt =>
    simp only [loopStep]
    split
    next e ticket cb hs hloop => exact fanOutOk_called h hloop _
    next channel handlerId hloop => exact fanOutOk_calledData h hloop _
    next => exact h
  | panicked panicMessage now =>
    simp only [loopStep]
    split
    next e ticket cb hs hloop => exact fanOutOk_called h hloop _
    next channel handlerId hloop => exact fanOutOk_calledData h hloop _
    next => exact h

theorem fanOutOk_step {s : FanOut} (h : FanOutOk s) (a : FanOutAct) : FanOutOk (s.step a) := by
  have hrecv : ∀ b, FanOutOk (if s.loop = .recv ∧ s.emits = [] ∧ s.loopIdle then s.recvStep b else s) := by
    intro b
    split
    next hc => exact fanOutOk_recvStep h hc.1 b
    next => exact h
  cases a with
  | publish item => exact fanOutOk_frame h (frame_push s item false true)
  | advance call now => exact fanOutOk_frame h (frame_advance s call now)
  | nextId eventType maxVersion => exact fanOutOk_frame h (.ofCalls rfl rfl rfl rfl rfl rfl rfl)
  | insert record =>
    simp only [step]
    split
    · exact fanOutOk_insert h record
    · exact h
  | unsubscribe handle => exact fanOutOk_unsubscribe h handle
  | closeStore => exact fanOutOk_frame h (frame_closeStore s)
  | closeNotify => exact fanOutOk_frame h (frame_closeNotify s)
  | recvPop => exact hrecv .recvPop
  | recvCheck => exact hrecv .recvCheck
  | recvWait => exact hrecv .recvWait
  | abort =>
    simp only [step]
    split
    next hc =>
      obtain ⟨h1, -, -, h4⟩ := atRest (s := s) (.inl hc.1)
      refine fanOutOk_loop h rfl rfl rfl rfl rfl ?_ ?_ (by simp [handlers]) trivial (fun r => ?_)
      · rw [h1]
        rfl
      · rw [h1]
        rfl
      · rw [h4]
        rfl
    next => exact h
  | emit => exact fanOutOk_frame h (frame_emit s)
  | loop a =>
    simp only [step]
    split
    · exact fanOutOk_loopStep h a
    · exact h

theorem fanOutOk_run (capacity intervalMs : Nat) (acts : List FanOutAct) : FanOutOk (run capacity intervalMs acts) :=
  (reach_anyStep _ acts).invariant (fanOutOk_new capacity intervalMs) fun _ a h _ => fanOutOk_step h a

/-! ## What every run satisfies -/

/-- Where an event that was pushed is: looked up, in the loop's hand, queued or evicted. -/
theorem pushed_cases {s : FanOut} (h : FanOutOk s) {e : BusEnvelope} {ticket : Nat}
    (hpushed : (DispatchItem.event e, ticket) ∈ s.ring.pushed.zipIdx) :
    (e, ticket) ∈ s.fanned ∨ (DispatchItem.event e, ticket) ∈ s.inHand ++ s.ring.ring.inner ++ s.ring.evicted := by
  have hall := h.ringOk.conserved.1.mem_iff.2 hpushed
  simp only [List.mem_append] at hall ⊢
  rcases hall with (hreceived | hevicted) | hqueued
  · have hin : (e, ticket) ∈ s.ring.received.filterMap eventOf := List.mem_filterMap.2 ⟨_, hreceived, rfl⟩
    rw [h.events] at hin
    rcases List.mem_append.1 hin with hfanned | hhand
    · exact .inl hfanned
    · obtain ⟨⟨item, n⟩, hrow, heq⟩ := List.mem_filterMap.1 hhand
      cases item with
      | data delivery channel handlerId => simp [eventOf, DispatchItem.event?] at heq
      | event e' =>
        simp only [eventOf, DispatchItem.event?, Option.map_some, Option.some.injEq, Prod.mk.injEq] at heq
        obtain ⟨rfl, rfl⟩ := heq
        exact .inr (.inl (.inl hrow))
  · exact .inr (.inr hevicted)
  · exact .inr (.inl (.inr hqueued))

/-- The events looked up are pushes, each at most once and in push order. -/
theorem fanned_sublist {s : FanOut} (h : FanOutOk s) : s.fanned.Sublist (s.ring.pushed.zipIdx.filterMap eventOf) := by
  have h1 : s.fanned.Sublist (s.ring.received.filterMap eventOf) := by
    rw [h.events]
    exact List.sublist_append_left _ _
  have h2 : s.ring.received.Sublist s.ring.pushed.zipIdx := (List.sublist_append_left _ _).trans h.ringOk.conserved.2
  exact h1.trans (h2.filterMap _)

/-- **A subscriber hears its events.** In every run of any number of publishers, subscribers and
callbacks, panics included, a subscriber in the table was called with exactly the events of its type
that were looked up since it came in, each once and in push order, downgraded to its version, but for
the call under way; and an event of its type pushed after it came in is one it heard or is about to,
or it is in the loop's hand, queued or evicted. -/
theorem delivered_run (capacity intervalMs : Nat) (acts : List FanOutAct) (t : PublishedType) (r : SubscriberRecord)
    (hr : r ∈ (run capacity intervalMs acts).subscribers t) :
    let s := run capacity intervalMs acts
    s.heard r.serial ++ s.toHear r = s.expected r ∧
      s.fanned.Sublist (s.ring.pushed.zipIdx.filterMap eventOf) ∧
      ∀ e ticket, (DispatchItem.event e, ticket) ∈ s.ring.pushed.zipIdx → e.eventType = t → r.pushedBefore ≤ ticket →
        (e.toDeliver r.maxVersion, ticket) ∈ s.heard r.serial ++ s.toHear r ∨
          (DispatchItem.event e, ticket) ∈ s.inHand ++ s.ring.ring.inner ++ s.ring.evicted := by
  intro s
  have h : FanOutOk s := fanOutOk_run capacity intervalMs acts
  obtain ⟨hissued, ht⟩ := h.tabled t r hr
  have hall : s.heard r.serial ++ s.toHear r = s.expected r := h.heardAll r hissued (by rw [ht]; exact hr)
  refine ⟨hall, fanned_sublist h, fun e ticket hpushed het hle => ?_⟩
  rcases pushed_cases h hpushed with hfanned | helse
  · left
    have hdrop : (e, ticket) ∈ s.fanned.drop r.since := by
      rw [← List.take_append_drop r.since s.fanned] at hfanned
      rcases List.mem_append.1 hfanned with htake | hdrop
      · have hlt := (h.before r hissued).2 _ htake
        simp at hlt
        omega
      · exact hdrop
    rw [hall]
    refine List.mem_map.2 ⟨(e, ticket), List.mem_filter.2 ⟨hdrop, ?_⟩, rfl⟩
    simp [het, ht]
  · exact .inr helse

/-- A subscriber of version 1, an event, and its way through the ring to the callback. -/
def opened : BusEnvelope :=
  { eventType := .lifecycle .connectionOpenEvent, eventVersion := 1, timestampMonotonic := 5, requestId := none
    payload := .other 7 }

def openedSubscriber : SubscriberRecord :=
  { handle := 1, eventType := .lifecycle .connectionOpenEvent, maxVersion := 1, serial := 0, since := 0, pushedBefore := 0 }

def openedActs : List FanOutAct :=
  [.nextId (.lifecycle .connectionOpenEvent) 1, .insert ⟨1, .lifecycle .connectionOpenEvent, 1⟩, .publish (.event opened),
    .advance ⟨false, .toNotify 0 false true⟩ 5, .recvPop, .loop (.upgrade true 0 5), .loop (.matchItem []), .loop .hasSubs,
    .loop .snapshot]

theorem delivered_run_opened : (run 4 100 (openedActs ++ [.loop .invoke])).heard 0 = [(opened, 0)] := by
  have hall := (delivered_run 4 100 (openedActs ++ [.loop .invoke]) (.lifecycle .connectionOpenEvent) openedSubscriber
    (by decide)).1
  have hnone : (run 4 100 (openedActs ++ [.loop .invoke])).toHear openedSubscriber = [] := by decide
  have hexpected : (run 4 100 (openedActs ++ [.loop .invoke])).expected openedSubscriber = [(opened, 0)] := by decide
  rw [hnone, hexpected, List.append_nil] at hall
  exact hall

/-! ## What a removed subscriber hears -/

/-- What `r` was called with, and what it is still to be called with. -/
def owed (s : FanOut) (r : SubscriberRecord) : List (BusEnvelope × Nat) := s.heard r.serial ++ s.toHear r

theorem owed_congr {s s' : FanOut} {r : SubscriberRecord} (hd : s'.delivered = s.delivered) (hh : s'.toHear r = s.toHear r) :
    s'.owed r = s.owed r := by
  unfold owed heard
  rw [hd, hh]

/-- A registration made and taken out of the table. -/
def Removed (s : FanOut) (r : SubscriberRecord) : Prop := r ∈ s.issued ∧ r ∉ s.subscribers r.eventType

theorem owed_frame {s s' : FanOut} (hf : Frame s s') {r : SubscriberRecord} (hr : s.Removed r) :
    s'.Removed r ∧ s'.owed r = s.owed r := by
  refine ⟨?_, owed_congr hf.delivered (toHear_congr hf.loop hf.subscribers r)⟩
  unfold Removed
  rw [hf.issued, hf.subscribers]
  exact hr

theorem owed_loopStep {s : FanOut} (h : FanOutOk s) {r : SubscriberRecord} (hr : s.Removed r) (a : LoopAct) :
    (s.loopStep a).Removed r ∧ (s.loopStep a).owed r = s.owed r := by
  cases a with
  | upgrade alive elapsedMs now =>
    simp only [loopStep]
    split
    next item ticket hloop =>
      refine ⟨?_, ?_⟩
      · split <;> [split; skip] <;> exact hr
      · refine owed_congr ?_ ?_ <;> (split <;> [split; skip]) <;> simp [toHear, hloop]
    next => exact ⟨hr, rfl⟩
  | matchItem panics =>
    simp only [loopStep]
    split
    next delivery channel handlerId ticket hloop => exact ⟨hr, owed_congr rfl (by simp [toHear, hloop])⟩
    next e ticket hloop =>
      split <;> exact ⟨hr, owed_congr rfl (by simp [toHear, hloop])⟩
    next => exact ⟨hr, rfl⟩
  | hasSubs =>
    simp only [loopStep]
    split
    next e ticket hloop =>
      have hnin : r ∉ s.subscribers e.eventType := by
        intro hin
        have ht := (h.tabled _ _ hin).2
        rw [← ht] at hin
        exact hr.2 hin
      have hheard : (s.lookedUp e ticket).toHear r = s.toHear r := by
        rw [toHear_lookedUp, if_neg hnin]
        simp [toHear, hloop]
      exact ⟨hr, owed_congr rfl hheard⟩
    next => exact ⟨hr, rfl⟩
  | snapshot =>
    simp only [loopStep]
    split
    next e ticket hloop =>
      refine ⟨hr, owed_congr rfl ?_⟩
      exact toHear_snapshot h hloop hr.1
    next => exact ⟨hr, rfl⟩
  | invoke =>
    simp only [loopStep]
    split
    next e ticket hloop => exact ⟨hr, owed_congr rfl (by simp [toHear, hloop])⟩
    next e ticket cb hs hloop => exact ⟨hr, heard_invoke hloop r⟩
    next => exact ⟨hr, rfl⟩
  | returned elapsedUs thresholdMs latencyAt slowAt =>
    simp only [loopStep]
    split
    next e ticket cb hs hloop => exact ⟨hr, owed_congr rfl (by simp [toHear, hloop])⟩
    next channel handlerId hloop => exact ⟨hr, owed_congr rfl (by simp [toHear, hloop])⟩
    next => exact ⟨hr, rfl⟩
  | panicked panicMessage now =>
    simp only [loopStep]
    split
    next e ticket cb hs hloop => exact ⟨hr, owed_congr rfl (by simp [toHear, hloop])⟩
    next channel handlerId hloop => exact ⟨hr, owed_congr rfl (by simp [toHear, hloop])⟩
    next => exact ⟨hr, rfl⟩

theorem owed_step {s : FanOut} (h : FanOutOk s) {r : SubscriberRecord} (hr : s.Removed r) (a : FanOutAct) :
    (s.step a).Removed r ∧ (s.step a).owed r = s.owed r := by
  have hrecv : ∀ b, (if s.loop = .recv ∧ s.emits = [] ∧ s.loopIdle then s.recvStep b else s).Removed r ∧
      (if s.loop = .recv ∧ s.emits = [] ∧ s.loopIdle then s.recvStep b else s).owed r = s.owed r := by
    intro b
    split
    next hc =>
      refine ⟨hr, owed_congr rfl ?_⟩
      rw [toHear_recvStep]
      simp [toHear, hc.1]
    next => exact ⟨hr, rfl⟩
  cases a with
  | publish item => exact owed_frame (frame_push s item false true) hr
  | advance call now => exact owed_frame (frame_advance s call now) hr
  | nextId eventType maxVersion => exact owed_frame (.ofCalls rfl rfl rfl rfl rfl rfl rfl) hr
  | insert record =>
    simp only [step]
    split
    · refine ⟨⟨List.mem_append_left _ hr.1, ?_⟩, owed_congr rfl (toHear_insert h record hr.1)⟩
      intro hin
      rcases mem_insert_subscribers.1 hin with hin | ⟨heq, -⟩
      · exact hr.2 hin
      · exact newRecord_not_mem h record (heq ▸ hr.1)
    · exact ⟨hr, rfl⟩
  | unsubscribe handle =>
    refine ⟨⟨hr.1, fun hin => hr.2 (List.mem_filter.1 hin).1⟩, owed_congr rfl ?_⟩
    rcases toHear_unsubscribe s handle r with heq | ⟨-, hnil⟩
    · exact heq
    · rw [show (s.step (.unsubscribe handle)) = s.unsubscribe handle from rfl, hnil]
      have hnin : ∀ e : BusEnvelope, r ∉ s.subscribers e.eventType := by
        intro e hin
        have ht := (h.tabled _ _ hin).2
        rw [← ht] at hin
        exact hr.2 hin
      unfold toHear at hnil ⊢
      simp only [unsubscribe] at hnil
      cases hl : s.loop with
      | snapshot e ticket => simp [hnin]
      | _ => simp_all
  | closeStore => exact owed_frame (frame_closeStore s) hr
  | closeNotify => exact owed_frame (frame_closeNotify s) hr
  | recvPop => exact hrecv .recvPop
  | recvCheck => exact hrecv .recvCheck
  | recvWait => exact hrecv .recvWait
  | abort =>
    simp only [step]
    split
    next hc => exact ⟨hr, owed_congr rfl (by simp [toHear, hc.1])⟩
    next => exact ⟨hr, rfl⟩
  | emit => exact owed_frame (frame_emit s) hr
  | loop a =>
    simp only [step]
    split
    · exact owed_loopStep h hr a
    · exact ⟨hr, rfl⟩

theorem owed_exec {s : FanOut} (h : FanOutOk s) {r : SubscriberRecord} (hr : s.Removed r) (acts : List FanOutAct) :
    (exec step s acts).owed r = s.owed r := by
  induction acts generalizing s with
  | nil => rfl
  | cons a acts ih =>
    obtain ⟨hr', howed⟩ := owed_step h hr a
    rw [exec_cons, ih (fanOutOk_step h a) hr', howed]

theorem length_toHear_le {s : FanOut} (h : FanOutOk s) {r : SubscriberRecord} (hr : r ∈ s.issued) : (s.toHear r).length ≤ 1 := by
  have hfilter : ∀ hs : List SubscriberRecord, s.handlers = hs → (hs.filter (·.serial = r.serial)).length ≤ 1 := by
    rintro hs rfl
    rw [filter_serial_of_mem h h.handlersDistinct (handlers_issued h) hr]
    split <;> simp
  unfold toHear
  cases hl : s.loop with
  | snapshot e ticket =>
    dsimp only
    split <;> simp
  | invoke e ticket hs => simpa using hfilter hs (by simp [handlers, hl])
  | calling e ticket cb hs => simpa using hfilter hs (by simp [handlers, hl])
  | _ => simp

theorem delivered_loopStep (s : FanOut) (a : LoopAct) : s.delivered <+: (s.loopStep a).delivered := by
  cases a with
  | upgrade alive elapsedMs now =>
    simp only [loopStep]
    split
    · split <;> [split; skip] <;> exact List.prefix_refl _
    · exact List.prefix_refl _
  | matchItem panics =>
    simp only [loopStep]
    split
    · exact List.prefix_refl _
    · split <;> exact List.prefix_refl _
    · exact List.prefix_refl _
  | invoke =>
    simp only [loopStep]
    split
    · exact List.prefix_refl _
    · exact List.prefix_append _ _
    · exact List.prefix_refl _
  | _ =>
    simp only [loopStep]
    split <;> exact List.prefix_refl _

theorem delivered_step (s : FanOut) (a : FanOutAct) : s.delivered <+: (s.step a).delivered := by
  cases a with
  | advance call now =>
    rw [show s.step (.advance call now) = s.advance call now from rfl, (frame_advance s call now).delivered]
  | emit => rw [(frame_emit s).delivered]
  | loop a =>
    simp only [step]
    split
    · exact delivered_loopStep s a
    · exact List.prefix_refl _
  | insert record =>
    simp only [step]
    split <;> exact List.prefix_refl _
  | recvPop | recvCheck | recvWait | abort =>
    simp only [step]
    split <;> exact List.prefix_refl _
  | _ => exact List.prefix_refl _

theorem delivered_exec (s : FanOut) (acts : List FanOutAct) : s.delivered <+: (exec step s acts).delivered := by
  induction acts generalizing s with
  | nil => exact List.prefix_refl _
  | cons a acts ih => exact (delivered_step s a).trans (ih (s.step a))

/-- **An unsubscribed callback is over.** Once a registration is out of the table, whatever runs after
calls it at most once more: with the event of the snapshot under way, if that holds it. -/
theorem unsubscribed_run (capacity intervalMs : Nat) (acts more : List FanOutAct) (r : SubscriberRecord)
    (hr : r ∈ (run capacity intervalMs acts).issued)
    (hgone : r ∉ (run capacity intervalMs acts).subscribers r.eventType) :
    let s := run capacity intervalMs acts
    let s' := run capacity intervalMs (acts ++ more)
    s.heard r.serial <+: s'.heard r.serial ∧ s'.heard r.serial <+: s.heard r.serial ++ s.toHear r ∧ (s.toHear r).length ≤ 1 := by
  intro s s'
  have h : FanOutOk s := fanOutOk_run capacity intervalMs acts
  have hs' : s' = exec step s more := exec_append _ _ _
  have howed : s'.owed r = s.owed r := by
    rw [hs']
    exact owed_exec h ⟨hr, hgone⟩ more
  refine ⟨?_, ?_, length_toHear_le h hr⟩
  · rw [hs']
    exact ((delivered_exec s more).filter _).map _
  · have hprefix : s'.heard r.serial <+: s'.owed r := List.prefix_append _ _
    rwa [howed] at hprefix

theorem unsubscribed_run_opened : (run 4 100 (openedActs ++ [.unsubscribe 1])).heard 0 <+:
      (run 4 100 (openedActs ++ [.unsubscribe 1] ++ [.loop .invoke])).heard 0 ∧
    (run 4 100 (openedActs ++ [.unsubscribe 1] ++ [.loop .invoke])).heard 0 <+: [(opened, 0)] := by
  obtain ⟨hmore, honce, -⟩ := unsubscribed_run 4 100 (openedActs ++ [.unsubscribe 1]) [.loop .invoke] openedSubscriber
    (by decide) (by decide)
  exact ⟨hmore, honce⟩

end FanOut

end KrakenSdk.Dispatch
