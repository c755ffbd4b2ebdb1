import Mathlib.Data.List.MinMax
import KrakenSdk.Conn.Timers
import KrakenSdk.Dispatch.IoReactor
/-!
# The timer arm of the loop (dispatch/io_reactor/timer.rs, managed_connection/mod.rs:440)

The loop sleeps until the earliest timer of any connection, takes that timer away and handles its event. The maps of
per-entry timers and the map of connections are iterated in an order the standard library does not fix; here it is a
parameter.

| here | source |
| --- | --- |
| `nextTimerDue`, `consider` | `next_timer_due` (mod.rs:440) |
| `earliestTimerDelay` | `earliest_timer_delay` (timer.rs:34) |
| `fireAll` | the timer arm taken again and again (io_reactor/mod.rs:488) |

`loop_wakes`: what is slept for is the earliest timer that is armed, it is the only one taken away, and no connection
that waits for something is slept through. `timers_fire_in_order`: every armed timer fires once, in the order of the
deadlines.
-/
namespace KrakenSdk.Dispatch

open KrakenSdk.Conn

/-- A timer that is armed: when it is due, and the event it fires. -/
abbrev TimerRow := MonotonicInstant × FsmEvent

/-- The order the per-entry maps of a timer set are iterated in. -/
structure TimerOrder (t : TimerSet) where
  acks : List (Sigma fun _ : EntryKey => MonotonicInstant)
  resends : List (Sigma fun _ : EntryKey => MonotonicInstant)
  reseeds : List (Sigma fun _ : EntryKey => MonotonicInstant)
  acks_perm : acks.Perm t.perEntrySubscribeAckTimeouts.entries
  resends_perm : resends.Perm t.perEntrySubscribeResendDue.entries
  reseeds_perm : reseeds.Perm t.perEntryBookReseedSnapshot.entries

/-- `consider` (mod.rs:442): the first of several that are due at once is kept. -/
def consider (earliest : Option TimerRow) (due : Option MonotonicInstant) (event : FsmEvent) : Option TimerRow :=
  match due with
  | none => earliest
  | some due =>
    match earliest with
    | some curr => if due < curr.1 then some (due, event) else some curr
    | none => some (due, event)

/-- `consider` for each row of a per-entry map. -/
def considerAll (event : ChannelName → Option Symbol → FsmEvent) (earliest : Option TimerRow)
    (rows : List (Sigma fun _ : EntryKey => MonotonicInstant)) : Option TimerRow :=
  rows.foldl (fun earliest row => consider earliest (some row.2) (event row.1.1 row.1.2)) earliest

/-- `next_timer_due` (mod.rs:440). -/
def nextTimerDue (mc : ManagedConnection) (order : TimerOrder mc.timers) : Option TimerRow :=
  let t := mc.timers
  let earliest := consider none t.backoffDueAt .timerBackoffElapsed
  let earliest := consider earliest t.upgradeTimeoutDueAt .timerUpgradeTimeout
  let earliest := consider earliest t.stalenessDueAt .timerStalenessElapsed
  let earliest := consider earliest t.closeTimeoutDueAt .timerCloseTimeout
  let earliest := consider earliest t.rateBudgetWindowAdvancedAt .timerRateBudgetWindowAdvanced
  let earliest := consider earliest t.tokenRefreshDueAt .timerTokenRefreshDue
  let earliest := considerAll .timerSubscribeAckTimeout earliest order.acks
  let earliest := considerAll .timerSubscribeResendDue earliest order.resends
  considerAll .timerBookReseedSnapshot earliest order.reseeds

/-- The connections and the orders their timers are read in. -/
structure TimerView where
  conns : WsUrl → ManagedConnection
  orders : ∀ url, TimerOrder (conns url).timers
  /-- The order `conns` is iterated in. -/
  urls : List WsUrl
  urls_perm : urls.Perm [.publicUrl, .authUrl]

/-- The loop of `earliest_timer_delay` (timer.rs:46-53). -/
def earliestTimer (v : TimerView) : Option (WsUrl × TimerRow) :=
  v.urls.foldl (fun earliest url =>
    match nextTimerDue (v.conns url) (v.orders url) with
    | none => earliest
    | some row =>
      match earliest with
      | some curr => if curr.2.1 ≤ row.1 then some curr else some (url, row)
      | none => some (url, row)) none

/-- `earliest_timer_delay` (timer.rs:34), with each connection's own clock. -/
def earliestTimerDelay (v : TimerView) (clockNow : WsUrl → MonotonicInstant) : Option (WsUrl × Nat × FsmEvent) :=
  (earliestTimer v).map fun (url, due, event) => (url, due - clockNow url, event)

/-! ## What is chosen -/

/-- When the timer of an event is due. -/
def armedAt (mc : ManagedConnection) : FsmEvent → Option MonotonicInstant
  | .timerBackoffElapsed => mc.timers.backoffDueAt
  | .timerUpgradeTimeout => mc.timers.upgradeTimeoutDueAt
  | .timerStalenessElapsed => mc.timers.stalenessDueAt
  | .timerCloseTimeout => mc.timers.closeTimeoutDueAt
  | .timerRateBudgetWindowAdvanced => mc.timers.rateBudgetWindowAdvancedAt
  | .timerTokenRefreshDue => mc.timers.tokenRefreshDueAt
  | .timerSubscribeAckTimeout channel pair => mc.timers.perEntrySubscribeAckTimeouts.lookup (channel, pair)
  | .timerSubscribeResendDue channel pair => mc.timers.perEntrySubscribeResendDue.lookup (channel, pair)
  | .timerBookReseedSnapshot channel pair => mc.timers.perEntryBookReseedSnapshot.lookup (channel, pair)
  | _ => none

/-- What the reactor's arm asks of an event it is given. -/
theorem timerArmed_iff (mc : ManagedConnection) (event : FsmEvent) :
    IoReactor.timerArmed mc event = (armedAt mc event).isSome := by
  cases event <;> rfl

theorem armedAt_pop (mc : ManagedConnection) (event e : FsmEvent) :
    armedAt (mc.popTimerForEvent event) e = if e = event then none else armedAt mc e := by
  cases event <;> cases e <;> simp [armedAt, ManagedConnection.popTimerForEvent, HashMap.lookup_erase_ite]

/-- The rows `next_timer_due` goes through. -/
def timerRows (mc : ManagedConnection) (order : TimerOrder mc.timers) : List TimerRow :=
  let t := mc.timers
  let field (due : Option MonotonicInstant) (event : FsmEvent) : List TimerRow := due.toList.map (·, event)
  let entries (event : ChannelName → Option Symbol → FsmEvent)
      (rows : List (Sigma fun _ : EntryKey => MonotonicInstant)) : List TimerRow :=
    rows.map fun row => (row.2, event row.1.1 row.1.2)
  [field t.backoffDueAt .timerBackoffElapsed, field t.upgradeTimeoutDueAt .timerUpgradeTimeout,
    field t.stalenessDueAt .timerStalenessElapsed, field t.closeTimeoutDueAt .timerCloseTimeout,
    field t.rateBudgetWindowAdvancedAt .timerRateBudgetWindowAdvanced, field t.tokenRefreshDueAt .timerTokenRefreshDue,
    entries .timerSubscribeAckTimeout order.acks, entries .timerSubscribeResendDue order.resends,
    entries .timerBookReseedSnapshot order.reseeds].flatten

/-- The fold that `argmin` is. -/
def keepFirst (earliest : Option TimerRow) (row : TimerRow) : Option TimerRow :=
  List.argAux (fun b c : TimerRow => b.1 < c.1) earliest row

theorem consider_eq (earliest : Option TimerRow) (due : Option MonotonicInstant) (event : FsmEvent) :
    consider earliest due event = (due.toList.map (·, event)).foldl keepFirst earliest := by
  cases due <;> cases earliest <;> rfl

theorem considerAll_eq (event : ChannelName → Option Symbol → FsmEvent) (earliest : Option TimerRow)
    (rows : List (Sigma fun _ : EntryKey => MonotonicInstant)) :
    considerAll event earliest rows =
      (rows.map fun row => ((row.2, event row.1.1 row.1.2) : TimerRow)).foldl keepFirst earliest := by
  rw [considerAll, List.foldl_map]
  congr 1
  funext earliest row
  cases earliest <;> rfl

/-- `next_timer_due` is the first of the earliest rows. -/
theorem nextTimerDue_eq (mc : ManagedConnection) (order : TimerOrder mc.timers) :
    nextTimerDue mc order = (timerRows mc order).argmin (·.1) := by
  have hfold : (timerRows mc order).argmin (·.1) = (timerRows mc order).foldl keepFirst none := rfl
  rw [hfold]
  simp only [nextTimerDue, timerRows, consider_eq, considerAll_eq, List.flatten_cons, List.flatten_nil,
    List.foldl_append, List.foldl_nil]

theorem mem_entries {m : HashMap EntryKey MonotonicInstant} {rows : List (Sigma fun _ : EntryKey => MonotonicInstant)}
    (h : rows.Perm m.entries) {due : MonotonicInstant} {e : FsmEvent} {event : ChannelName → Option Symbol → FsmEvent} :
    (due, e) ∈ rows.map (fun row => ((row.2, event row.1.1 row.1.2) : TimerRow)) ↔
      ∃ channel pair, m.lookup (channel, pair) = some due ∧ e = event channel pair := by
  constructor
  · intro hmem
    obtain ⟨⟨⟨channel, pair⟩, d⟩, hrow, heq⟩ := List.mem_map.1 hmem
    obtain ⟨rfl, rfl⟩ := Prod.mk.inj heq
    exact ⟨channel, pair, AList.mem_lookup_iff.2 (h.subset hrow), rfl⟩
  · rintro ⟨channel, pair, hl, rfl⟩
    exact List.mem_map.2 ⟨⟨(channel, pair), due⟩, h.mem_iff.2 (AList.mem_lookup_iff.1 hl), rfl⟩

theorem mem_timerRows {mc : ManagedConnection} (order : TimerOrder mc.timers) {due : MonotonicInstant} {e : FsmEvent} :
    (due, e) ∈ timerRows mc order ↔ armedAt mc e = some due := by
  simp only [timerRows, List.flatten_cons, List.flatten_nil, List.append_nil, List.mem_append,
    mem_entries order.acks_perm, mem_entries order.resends_perm, mem_entries order.reseeds_perm, List.mem_map,
    Option.mem_toList, Prod.mk.injEq]
  cases e <;> simp [armedAt]

/-- `earliest_timer_delay` keeps the first of the earliest rows of the connections. -/
theorem earliestTimer_eq (v : TimerView) : earliestTimer v =
    (v.urls.filterMap fun url => (nextTimerDue (v.conns url) (v.orders url)).map (url, ·)).argmin (·.2.1) := by
  have hfold : ∀ (urls : List WsUrl) (earliest : Option (WsUrl × TimerRow)),
      urls.foldl (fun earliest url =>
        match nextTimerDue (v.conns url) (v.orders url) with
        | none => earliest
        | some row =>
          match earliest with
          | some curr => if curr.2.1 ≤ row.1 then some curr else some (url, row)
          | none => some (url, row)) earliest =
        (urls.filterMap fun url => (nextTimerDue (v.conns url) (v.orders url)).map (url, ·)).foldl
          (List.argAux fun b c => b.2.1 < c.2.1) earliest := by
    intro urls
    induction urls with
    | nil => exact fun _ => rfl
    | cons url urls ih =>
      intro earliest
      rw [List.foldl_cons, ih]
      cases hnext : nextTimerDue (v.conns url) (v.orders url) with
      | none => rw [List.filterMap_cons_none (by rw [hnext]; rfl)]
      | some row =>
        rw [List.filterMap_cons_some (b := (url, row)) (by rw [hnext]; rfl), List.foldl_cons]
        congr 1
        cases earliest with
        | none => rfl
        | some curr =>
          by_cases hle : curr.2.1 ≤ row.1
          · simp [List.argAux, hle, Nat.not_lt.2 hle]
          · simp [List.argAux, hle, Nat.lt_of_not_le hle]
  exact hfold v.urls none

theorem mem_urls (v : TimerView) (url : WsUrl) : url ∈ v.urls := by
  rw [v.urls_perm.mem_iff]
  cases url <;> simp

/-- **The choice**: an armed timer that none is due before, and one whenever any is armed. -/
theorem earliestTimer_spec (v : TimerView) :
    (earliestTimer v = none ↔ ∀ url e, armedAt (v.conns url) e = none) ∧
    ∀ url due event, earliestTimer v = some (url, due, event) →
      armedAt (v.conns url) event = some due ∧
        ∀ url' e due', armedAt (v.conns url') e = some due' → due ≤ due' := by
  have hrow : ∀ {url row}, nextTimerDue (v.conns url) (v.orders url) = some row →
      armedAt (v.conns url) row.2 = some row.1 ∧ ∀ e due, armedAt (v.conns url) e = some due → row.1 ≤ due := by
    intro url row h
    rw [nextTimerDue_eq] at h
    exact ⟨(mem_timerRows _).1 (List.argmin_mem h), fun e due he =>
      List.le_of_mem_argmin ((mem_timerRows _).2 he) h⟩
  have hsome : ∀ {url e due}, armedAt (v.conns url) e = some due →
      ∃ row, nextTimerDue (v.conns url) (v.orders url) = some row := by
    intro url e due h
    rw [← mem_timerRows (v.orders url)] at h
    rw [nextTimerDue_eq]
    cases hmin : (timerRows (v.conns url) (v.orders url)).argmin (·.1) with
    | none => simp [List.argmin_eq_none.1 hmin] at h
    | some row => exact ⟨row, rfl⟩
  have hmem : ∀ {url row}, (url, row) ∈
      v.urls.filterMap (fun url => (nextTimerDue (v.conns url) (v.orders url)).map (url, ·)) ↔
        nextTimerDue (v.conns url) (v.orders url) = some row := by
    intro url row
    simp only [List.mem_filterMap, Option.map_eq_some_iff, Prod.mk.injEq]
    constructor
    · rintro ⟨url', -, row', h, rfl, rfl⟩
      exact h
    · exact fun h => ⟨url, mem_urls v url, row, h, rfl, rfl⟩
  rw [earliestTimer_eq]
  constructor
  · rw [List.argmin_eq_none]
    constructor
    · intro h url e
      by_contra hne
      obtain ⟨due, hdue⟩ := Option.ne_none_iff_exists'.1 hne
      obtain ⟨row, hnext⟩ := hsome hdue
      have := hmem.2 hnext
      rw [h] at this
      cases this
    · intro h
      rw [List.eq_nil_iff_forall_not_mem]
      rintro ⟨url, row⟩ hin
      have := (hrow (hmem.1 hin)).1
      rw [h] at this
      cases this
  · intro url due event h
    have hin := hmem.1 (List.argmin_mem h)
    refine ⟨(hrow hin).1, fun url' e due' he => ?_⟩
    obtain ⟨row, hnext⟩ := hsome he
    have hle : due ≤ row.1 := List.le_of_mem_argmin (hmem.2 hnext) h
    exact Nat.le_trans hle ((hrow hnext).2 e due' he)

/-! ## The sleep -/

/-- The orders of the maps, whatever the connections are. -/
structure TimerOrders where
  timers : ∀ t, TimerOrder t
  urls : List WsUrl
  urls_perm : urls.Perm [.publicUrl, .authUrl]

def TimerOrders.view (o : TimerOrders) (conns : WsUrl → ManagedConnection) : TimerView :=
  ⟨conns, fun url => o.timers (conns url).timers, o.urls, o.urls_perm⟩

/-- The timers one of which ends the wait of a state. -/
def waitsOn : ConnectionState → List FsmEvent
  | .connecting => [.timerUpgradeTimeout]
  | .closing => [.timerCloseTimeout]
  | .backingOff => [.timerBackoffElapsed, .timerRateBudgetWindowAdvanced]
  | .authenticating | .resubscribing | .opened => [.timerStalenessElapsed]
  | .idle | .closed | .failed => []

/-- A connection that waits has one of the timers of its state armed. -/
theorem armed_of_stateTimers {mc : ManagedConnection} (h : mc.StateTimers False) (hwaits : waitsOn mc.state ≠ []) :
    ∃ e ∈ waitsOn mc.state, ∃ due, armedAt mc e = some due := by
  cases hs : mc.state <;> simp only [ManagedConnection.StateTimers, hs] at h <;>
    simp only [hs, waitsOn, ne_eq, not_true_eq_false] at hwaits
  case connecting => exact ⟨.timerUpgradeTimeout, by simp [waitsOn], Option.isSome_iff_exists.1 h.1⟩
  case closing => exact ⟨.timerCloseTimeout, by simp [waitsOn], Option.isSome_iff_exists.1 h.2.1⟩
  case backingOff =>
    rcases h.2.2.2 with hb | hr
    · exact ⟨.timerBackoffElapsed, by simp [waitsOn], Option.isSome_iff_exists.1 hb⟩
    · exact ⟨.timerRateBudgetWindowAdvanced, by simp [waitsOn], Option.isSome_iff_exists.1 hr⟩
  all_goals exact ⟨.timerStalenessElapsed, by simp [waitsOn], Option.isSome_iff_exists.1 h.2.2.1.1⟩

/-- **The loop wakes up for the earliest timer and for no other**, whatever the connections have been through and
whatever order their maps are read in: it sleeps for ever only if nothing is armed; what it wakes up for is armed,
none is due before it, and the arm takes away it alone; and while a connection is in a state that waits, one of the
timers of that state is armed and the sleep ends by then. -/
theorem loop_wakes (o : TimerOrders) (knobs : Knobs) (runs : WsUrl → List Label) (clockNow : WsUrl → MonotonicInstant) :
    let conns := fun url => ManagedConnection.run url knobs (runs url)
    (earliestTimerDelay (o.view conns) clockNow = none ↔ ∀ url e, armedAt (conns url) e = none) ∧
    (∀ url delay event, earliestTimerDelay (o.view conns) clockNow = some (url, delay, event) →
      IoReactor.timerArmed (conns url) event = true ∧
      (∃ due, armedAt (conns url) event = some due ∧ delay = due - clockNow url ∧
        ∀ url' e due', armedAt (conns url') e = some due' → due ≤ due') ∧
      ∀ e, armedAt ((conns url).popTimerForEvent event) e = if e = event then none else armedAt (conns url) e) ∧
    ∀ url, waitsOn (conns url).state ≠ [] → ∃ e ∈ waitsOn (conns url).state, ∃ due, armedAt (conns url) e = some due ∧
      ∃ url' delay event, earliestTimerDelay (o.view conns) clockNow = some (url', delay, event) ∧
        delay ≤ due - clockNow url' := by
  intro conns
  obtain ⟨hnone, hsome⟩ := earliestTimer_spec (o.view conns)
  have hmap : ∀ {r}, earliestTimerDelay (o.view conns) clockNow = some r → ∃ url due event,
      earliestTimer (o.view conns) = some (url, due, event) ∧ r = (url, due - clockNow url, event) := by
    intro r h
    obtain ⟨⟨url, due, event⟩, hchosen, rfl⟩ := Option.map_eq_some_iff.1 h
    exact ⟨url, due, event, hchosen, rfl⟩
  refine ⟨?_, ?_, ?_⟩
  · rw [earliestTimerDelay, Option.map_eq_none_iff]
    exact hnone
  · intro url delay event h
    obtain ⟨url', due, event', hchosen, heq⟩ := hmap h
    obtain ⟨rfl, rfl, rfl⟩ : url = url' ∧ delay = due - clockNow url' ∧ event = event' := by simpa using heq
    obtain ⟨harmed, hfirst⟩ := hsome url due event hchosen
    exact ⟨by rw [timerArmed_iff, show armedAt (conns url) event = some due from harmed]; rfl,
      ⟨due, harmed, rfl, hfirst⟩, armedAt_pop _ _⟩
  · intro url hwaits
    have hstate : (conns url).StateTimers False := ManagedConnection.stateTimers_run url knobs (runs url)
    obtain ⟨e, he, due, hdue⟩ := armed_of_stateTimers hstate hwaits
    refine ⟨e, he, due, hdue, ?_⟩
    cases hchosen : earliestTimer (o.view conns) with
    | none =>
      have := (hnone.1 hchosen) url e
      rw [show armedAt ((o.view conns).conns url) e = some due from hdue] at this
      cases this
    | some r =>
      obtain ⟨url', due', event⟩ := r
      refine ⟨url', due' - clockNow url', event, by rw [earliestTimerDelay, hchosen]; rfl, ?_⟩
      have hle : due' ≤ due := (hsome url' due' event hchosen).2 url e due hdue
      exact Nat.sub_le_sub_right hle _

/-! ## Firing until nothing is armed -/

/-- The timer arm taken up to `n` times, while the events handled re-arm nothing. -/
def fireAll (o : TimerOrders) : Nat → (WsUrl → ManagedConnection) → List (WsUrl × TimerRow)
  | 0, _ => []
  | n + 1, conns =>
    match earliestTimer (o.view conns) with
    | none => []
    | some (url, due, event) =>
      (url, due, event) :: fireAll o n (Function.update conns url ((conns url).popTimerForEvent event))

/-- How many timers are armed. -/
def armedCount (o : TimerOrders) (conns : WsUrl → ManagedConnection) : Nat :=
  (o.urls.map fun url => (timerRows (conns url) (o.timers (conns url).timers)).length).sum

theorem armedAt_fired (conns : WsUrl → ManagedConnection) (url u : WsUrl) (event e : FsmEvent) :
    armedAt (Function.update conns url ((conns url).popTimerForEvent event) u) e =
      if u = url ∧ e = event then none else armedAt (conns u) e := by
  by_cases hu : u = url
  · subst hu
    rw [Function.update_self, armedAt_pop]
    simp
  · rw [Function.update_of_ne hu]
    simp [hu]

/-- What is fired is armed and in the order of the deadlines, and nothing is fired twice. -/
theorem fireAll_sound (o : TimerOrders) (n : Nat) (conns : WsUrl → ManagedConnection) :
    (∀ url due e, (url, due, e) ∈ fireAll o n conns → armedAt (conns url) e = some due) ∧
    (fireAll o n conns).Pairwise (fun a b => a.2.1 ≤ b.2.1) ∧
    (fireAll o n conns).Pairwise (fun a b => (a.1, a.2.2) ≠ (b.1, b.2.2)) := by
  induction n generalizing conns with
  | zero => simp [fireAll]
  | succ n ih =>
    cases hchosen : earliestTimer (o.view conns) with
    | none => simp [fireAll, hchosen]
    | some r =>
      obtain ⟨url, due, event⟩ := r
      obtain ⟨harmed, hfirst⟩ := (earliestTimer_spec (o.view conns)).2 url due event hchosen
      obtain ⟨hin, hsorted, hdistinct⟩ := ih (Function.update conns url ((conns url).popTimerForEvent event))
      have hrest : ∀ url' due' e, (url', due', e) ∈ fireAll o n (Function.update conns url
          ((conns url).popTimerForEvent event)) → ¬ (url' = url ∧ e = event) ∧ armedAt (conns url') e = some due' := by
        intro url' due' e h
        have he := hin url' due' e h
        rw [armedAt_fired] at he
        split_ifs at he with hsame
        exact ⟨hsame, he⟩
      simp only [fireAll, hchosen]
      refine ⟨?_, List.pairwise_cons.2 ⟨?_, hsorted⟩, List.pairwise_cons.2 ⟨?_, hdistinct⟩⟩
      · intro url' due' e h
        rcases List.mem_cons.1 h with heq | h
        · obtain ⟨rfl, rfl, rfl⟩ : url' = url ∧ due' = due ∧ e = event := by simpa using heq
          exact harmed
        · exact (hrest url' due' e h).2
      · rintro ⟨url', due', e⟩ h
        exact hfirst url' e due' (hrest url' due' e h).2
      · rintro ⟨url', due', e⟩ h heq
        obtain ⟨rfl, rfl⟩ := Prod.mk.inj heq
        exact (hrest _ _ _ h).1 ⟨rfl, rfl⟩

theorem nodup_entries {m : HashMap EntryKey MonotonicInstant} {rows : List (Sigma fun _ : EntryKey => MonotonicInstant)}
    (h : rows.Perm m.entries) (event : ChannelName → Option Symbol → FsmEvent)
    (hinj : ∀ {c p c' p'}, event c p = event c' p' → c = c' ∧ p = p') :
    (rows.map fun row => ((row.2, event row.1.1 row.1.2) : TimerRow)).Nodup := by
  have hrows : rows.Nodup := h.nodup_iff.2 m.nodupKeys.nodup
  refine hrows.map ?_
  rintro ⟨⟨c, p⟩, d⟩ ⟨⟨c', p'⟩, d'⟩ heq
  obtain ⟨rfl, he⟩ := Prod.mk.inj heq
  obtain ⟨rfl, rfl⟩ := hinj he
  rfl

theorem nodup_timerRows (mc : ManagedConnection) (order : TimerOrder mc.timers) : (timerRows mc order).Nodup := by
  have hacks := nodup_entries order.acks_perm .timerSubscribeAckTimeout (by simp)
  have hresends := nodup_entries order.resends_perm .timerSubscribeResendDue (by simp)
  have hreseeds := nodup_entries order.reseeds_perm .timerBookReseedSnapshot (by simp)
  have hfield : ∀ (due : Option MonotonicInstant) (event : FsmEvent),
      (due.toList.map fun d => ((d, event) : TimerRow)).Nodup := by
    intro due event
    cases due <;> simp
  rw [timerRows, List.nodup_flatten]
  refine ⟨?_, ?_⟩
  · simp only [List.forall_mem_cons, List.not_mem_nil, false_imp_iff, implies_true, and_true]
    exact ⟨hfield _ _, hfield _ _, hfield _ _, hfield _ _, hfield _ _, hfield _ _, hacks, hresends, hreseeds⟩
  · simp only [List.disjoint_left, List.pairwise_cons, List.forall_mem_cons, List.not_mem_nil, false_imp_iff,
      implies_true, List.mem_map, Option.mem_toList]
    simp
    refine ⟨⟨?_, ?_⟩, ?_⟩ <;>
      · rintro due event channel pair due' - rfl rfl channel' pair' due'' - - h
        cases h

/-- A timer that fired is counted no more. -/
theorem armedCount_fired (o : TimerOrders) {conns : WsUrl → ManagedConnection} {url : WsUrl} {event : FsmEvent}
    {due : MonotonicInstant} (h : armedAt (conns url) event = some due) :
    armedCount o (Function.update conns url ((conns url).popTimerForEvent event)) < armedCount o conns := by
  have hle : ∀ u, (timerRows (Function.update conns url ((conns url).popTimerForEvent event) u) (o.timers _)).length +
      (if u = url then 1 else 0) ≤ (timerRows (conns u) (o.timers (conns u).timers)).length := by
    intro u
    have hnodup := nodup_timerRows (Function.update conns url ((conns url).popTimerForEvent event) u) (o.timers _)
    have hsub : timerRows (Function.update conns url ((conns url).popTimerForEvent event) u) (o.timers _) ⊆
        timerRows (conns u) (o.timers (conns u).timers) := by
      rintro ⟨d, e⟩ hrow
      rw [mem_timerRows, armedAt_fired] at hrow
      rw [mem_timerRows]
      split_ifs at hrow
      exact hrow
    split_ifs with hu
    · subst hu
      have hfired : (due, event) ∈ timerRows (conns u) (o.timers (conns u).timers) := (mem_timerRows _).2 h
      have hgone : (due, event) ∉
          timerRows (Function.update conns u ((conns u).popTimerForEvent event) u) (o.timers _) := by
        rw [mem_timerRows, armedAt_fired, if_pos ⟨rfl, rfl⟩]
        simp
      have hcons := List.subperm_of_subset (List.nodup_cons.2 ⟨hgone, hnodup⟩) (List.cons_subset.2 ⟨hfired, hsub⟩)
      exact hcons.length_le
    · exact (List.subperm_of_subset hnodup hsub).length_le
  have hsum : ∀ urls : List WsUrl, (urls.map fun u => (timerRows (Function.update conns url
      ((conns url).popTimerForEvent event) u) (o.timers _)).length).sum + urls.count url ≤
      (urls.map fun u => (timerRows (conns u) (o.timers (conns u).timers)).length).sum := by
    intro urls
    induction urls with
    | nil => exact Nat.le_refl _
    | cons u urls ih =>
      have hu := hle u
      rw [List.map_cons, List.map_cons, List.sum_cons, List.sum_cons, List.count_cons]
      have hbeq : (if (u == url) = true then 1 else 0) = if u = url then 1 else 0 := by
        by_cases heq : u = url <;> simp [heq]
      rw [hbeq]
      omega
  have hcount : 0 < o.urls.count url := by
    rw [List.count_pos_iff, o.urls_perm.mem_iff]
    cases url <;> simp
  have := hsum o.urls
  unfold armedCount
  omega

/-- Nothing that is armed is left out. -/
theorem fireAll_complete (o : TimerOrders) {n : Nat} {conns : WsUrl → ManagedConnection} (hn : armedCount o conns ≤ n)
    {url : WsUrl} {due : MonotonicInstant} {e : FsmEvent} (h : armedAt (conns url) e = some due) :
    (url, due, e) ∈ fireAll o n conns := by
  induction n generalizing conns with
  | zero =>
    have hrow := (mem_timerRows (o.timers (conns url).timers)).2 h
    have hurl : url ∈ o.urls := mem_urls (o.view conns) url
    have hzero : armedCount o conns = 0 := Nat.le_zero.1 hn
    have hlen := List.sum_eq_zero_iff_forall_eq_nat.1 hzero _ (List.mem_map.2 ⟨url, hurl, rfl⟩)
    rw [List.length_eq_zero_iff.1 hlen] at hrow
    cases hrow
  | succ n ih =>
    obtain ⟨hnone, hsome⟩ := earliestTimer_spec (o.view conns)
    cases hchosen : earliestTimer (o.view conns) with
    | none =>
      have hnot := hnone.1 hchosen url e
      rw [show armedAt ((o.view conns).conns url) e = some due from h] at hnot
      cases hnot
    | some r =>
      obtain ⟨url', due', event⟩ := r
      have harmed : armedAt (conns url') event = some due' := (hsome _ _ _ hchosen).1
      simp only [fireAll, hchosen, List.mem_cons]
      by_cases hsame : url = url' ∧ e = event
      · obtain ⟨rfl, rfl⟩ := hsame
        rw [harmed, Option.some.injEq] at h
        exact .inl (by rw [h])
      · have hless := armedCount_fired o harmed
        refine .inr (ih (by omega) ?_)
        rw [armedAt_fired, if_neg hsame]
        exact h

/-- **Every armed timer fires once, in the order of the deadlines**, if what it fires re-arms nothing: what the timer
arm fires, taken as often as timers are armed, are the armed timers, each once and none before one that is due
earlier. -/
theorem timers_fire_in_order (o : TimerOrders) (conns : WsUrl → ManagedConnection) :
    (∀ url due e, (url, due, e) ∈ fireAll o (armedCount o conns) conns ↔ armedAt (conns url) e = some due) ∧
    (fireAll o (armedCount o conns) conns).Pairwise (fun a b => a.2.1 ≤ b.2.1) ∧
    (fireAll o (armedCount o conns) conns).Pairwise (fun a b => (a.1, a.2.2) ≠ (b.1, b.2.2)) := by
  obtain ⟨hin, hsorted, hdistinct⟩ := fireAll_sound o (armedCount o conns) conns
  exact ⟨fun url due e => ⟨hin url due e, fireAll_complete o (Nat.le_refl _)⟩, hsorted, hdistinct⟩

end KrakenSdk.Dispatch
