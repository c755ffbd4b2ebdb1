import KrakenSdk.Lib.HashMap
import KrakenSdk.Lib.StepSystem
import KrakenSdk.RateLimit.Counter
/-!
# The trading tracker and its LRU cap (rate_limit/trading.rs)

One counter per `(api key, pair)`, with an access order kept by hand beside the map. `consume` evicts before
it inserts; `snap_to_cap` inserts a missing counter without evicting. So the order always enumerates the keys
(`enumerates_step`), and the cap holds along a run exactly as long as no `snap_to_cap` meets a full map
without its key (`withinCap_iff`).

The mutex makes every call one step. The redaction of a scope in an event is left out.
-/
namespace KrakenSdk.RateLimit

open KrakenSdk.Conn (MonotonicInstant Symbol)
open StepSystem CounterNum

/-! ## An order beside a map -/

section AccessOrder

variable {κ : Type*} [DecidableEq κ]

/-- Move to the back, or append there. -/
def promote (l : List κ) (k : κ) : List κ := l.erase k ++ [k]

/-- `l` lists each of the keys of `m` once. -/
def Enumerates {ν : Type*} (l : List κ) (m : HashMap κ ν) : Prop := l.Nodup ∧ ∀ k, k ∈ l ↔ k ∈ m

theorem nodup_promote {l : List κ} (h : l.Nodup) (k : κ) : (promote l k).Nodup := by
  rw [promote, List.nodup_append]
  refine ⟨h.erase k, List.nodup_singleton k, ?_⟩
  rintro a ha b hb rfl
  obtain rfl := List.mem_singleton.1 hb
  exact absurd ha (h.not_mem_erase)

theorem mem_promote {l : List κ} (h : l.Nodup) (k a : κ) : a ∈ promote l k ↔ a = k ∨ a ∈ l := by
  rw [promote, List.mem_append, List.mem_singleton, h.mem_erase_iff]
  by_cases ha : a = k <;> simp [ha]

variable {ν : Type*} {l : List κ} {m : HashMap κ ν}

theorem Enumerates.insert (h : Enumerates l m) (k : κ) (v : ν) : Enumerates (promote l k) (m.insert k v) :=
  ⟨nodup_promote h.1 k, fun a => by rw [mem_promote h.1, AList.mem_insert, h.2]⟩

theorem Enumerates.erase (h : Enumerates l m) (k : κ) : Enumerates (l.erase k) (m.erase k) :=
  ⟨h.1.erase k, fun a => by rw [h.1.mem_erase_iff, AList.mem_erase, h.2]⟩

/-- Any number of the keys moved to the back. -/
theorem Enumerates.promoteAll (h : Enumerates l m) (ks : List κ) (hks : ∀ k ∈ ks, k ∈ m) :
    Enumerates (ks.foldl promote l) m := by
  induction ks generalizing l with
  | nil => exact h
  | cons k ks ih =>
    refine ih ⟨nodup_promote h.1 k, fun a => ?_⟩ fun k' hk' => hks k' (List.mem_cons_of_mem k hk')
    rw [mem_promote h.1, h.2]
    constructor
    · rintro (rfl | ha)
      · exact hks a List.mem_cons_self
      · exact ha
    · exact Or.inr

end AccessOrder

/-! ## The tracker -/

/-- `(ApiKey, Symbol)`. -/
abbrev ScopeKey := ApiKey × Symbol

/-- `TradingInner` (trading.rs:28). -/
structure TradingInner (R : Type) where
  counter : HashMap ScopeKey (RateLimitCounter R)
  accessOrder : List ScopeKey

/-- `SpotTradingRateLimitTracker` (trading.rs:15); the constructor clamps the cap to at least one. -/
structure SpotTradingRateLimitTracker (R : Type) where
  tier : Tier
  inner : TradingInner R
  lruCap : Nat
  lruCap_pos : 1 ≤ lruCap

/-- What the tracker publishes. -/
inductive RateLimitEvent (R : Type) where
  | cacheEviction (scope : Scope) (evictedAt : MonotonicInstant) (reason : String)
  | warning (tracker : String) (scope : Scope) (used cap pct decayPerSec : R) (secondsToDrain : Option R)
  | exceeded (tracker : String) (scope : Scope) (krakenError : String) (observedAt : MonotonicInstant)

/-- The order in which a hash map hands out its keys: some rearrangement of them. -/
structure IterOrder (κ : Type) where
  order : List κ → List κ
  perm : ∀ l, (order l).Perm l

namespace SpotTradingRateLimitTracker

variable {R : Type} [CounterNum R]

omit [CounterNum R] in
/-- `with_lru_cap` (trading.rs:46). -/
def withLruCap (tier : Tier) (lruCap : Nat) : SpotTradingRateLimitTracker R where
  tier := tier
  inner := { counter := ∅, accessOrder := [] }
  lruCap := max lruCap 1
  lruCap_pos := le_max_right lruCap 1

/-- A counter as `touch_lru` and `snap_to_cap` make a missing one. -/
def freshCounter (t : SpotTradingRateLimitTracker R) (now : MonotonicInstant) : RateLimitCounter R :=
  RateLimitCounter.new t.tier.tradingCap t.tier.tradingDecayPerSec now

omit [CounterNum R] in
def setCounter (t : SpotTradingRateLimitTracker R) (key : ScopeKey) (c : RateLimitCounter R) :
    SpotTradingRateLimitTracker R :=
  { t with inner := { t.inner with counter := t.inner.counter.insert key c } }

/-- `touch_lru` (trading.rs:201): the evicted scope, if the cap forced one out. -/
def touchLru (t : SpotTradingRateLimitTracker R) (key : ScopeKey) (now : MonotonicInstant) :
    Option Scope × SpotTradingRateLimitTracker R :=
  let order := promote t.inner.accessOrder key
  if key ∈ t.inner.counter then (none, { t with inner := { t.inner with accessOrder := order } })
  else if t.lruCap ≤ t.inner.counter.len then
    match order.find? (· ≠ key) with
    | some oldest =>
      (some (.pair oldest.1 oldest.2), { t with inner := {
        counter := (t.inner.counter.erase oldest).insert key (t.freshCounter now)
        accessOrder := order.erase oldest } })
    | none =>
      (none, { t with inner := { counter := t.inner.counter.insert key (t.freshCounter now), accessOrder := order } })
  else (none, { t with inner := { counter := t.inner.counter.insert key (t.freshCounter now), accessOrder := order } })

/-- The warning of a charged counter (trading.rs:106); a decay that drains nothing never gets there. -/
def chargeWarning (t : SpotTradingRateLimitTracker R) (scope : Scope) (c : RateLimitCounter R) : RateLimitEvent R :=
  .warning "trading" scope c.current t.tier.tradingCap (c.current / t.tier.tradingCap) c.decayPerSec
    (if isFinite c.decayPerSec && decide (lit 0 < c.decayPerSec) then some (c.current / c.decayPerSec) else none)

/-- `consume` (trading.rs:71), with what it publishes: the eviction first. `clockNow` is the bus clock. -/
def consume (t : SpotTradingRateLimitTracker R) (scope : Scope) (cost : R) (now : MonotonicInstant) (warningPct : R)
    (clockNow : MonotonicInstant) :
    Except (RateLimitExceeded R) Unit × List (RateLimitEvent R) × SpotTradingRateLimitTracker R :=
  match scope with
  | .apiKey _ =>
    (.error { tracker := "trading", scope := scope, current := lit 0, cap := lit 0, retryAtMonotonic := now }, [], t)
  | .pair k p =>
    let (evicted, t') := t.touchLru (k, p) now
    let eviction := evicted.toList.map fun s => RateLimitEvent.cacheEviction s clockNow "lru_cap_exceeded"
    match t'.inner.counter.lookup (k, p) with
    | none => (.ok (), eviction, t')  -- `expect("counter present after touch_lru")`
    | some counter =>
      match counter.charge cost now with
      | (.charged, c) =>
        match c.shouldEmitWarning now warningPct with
        | (true, c') => (.ok (), eviction ++ [t.chargeWarning scope c'], t'.setCounter (k, p) c')
        | (false, c') => (.ok (), eviction, t'.setCounter (k, p) c')
      | (.exceeded, c) =>
        (.error { tracker := "trading", scope := scope, current := c.current, cap := c.cap,
                  retryAtMonotonic := computeRetryAt c.current c.cap c.decayPerSec now },
          eviction, t'.setCounter (k, p) c)

/-- `credit` (trading.rs:260): nothing for a counter that is not there. -/
def credit (t : SpotTradingRateLimitTracker R) (scope : Scope) (cost : R) (now : MonotonicInstant) :
    SpotTradingRateLimitTracker R :=
  match scope with
  | .apiKey _ => t
  | .pair k p =>
    match t.inner.counter.lookup (k, p) with
    | none => t
    | some c => t.setCounter (k, p) (c.credit cost now)

/-- `f` on each counter of one account, in place. -/
def mapAccount (t : SpotTradingRateLimitTracker R) (apiKey : ApiKey) (f : RateLimitCounter R → RateLimitCounter R) :
    SpotTradingRateLimitTracker R :=
  { t with inner := { t.inner with
      counter := t.inner.counter.mapVals fun key c => if key.1 = apiKey then f c else c } }

/-- `charge_account_wide` (trading.rs:273). -/
def chargeAccountWide (t : SpotTradingRateLimitTracker R) (scope : Scope) (cost : R) (now : MonotonicInstant) :
    SpotTradingRateLimitTracker R :=
  match scope with
  | .pair _ _ => t
  | .apiKey apiKey => t.mapAccount apiKey (·.chargeSaturating cost now)

/-- `snap_to_cap` (trading.rs:288): `entry().or_insert_with` for one pair, every counter of the account
otherwise; both promote what they snapped. -/
def snapToCap (t : SpotTradingRateLimitTracker R) (scope : Scope) (krakenError : String) (now : MonotonicInstant)
    (iter : IterOrder ScopeKey) : List (RateLimitEvent R) × SpotTradingRateLimitTracker R :=
  ([.exceeded "trading" scope krakenError now],
    match scope with
    | .pair k p =>
      let t' := t.setCounter (k, p) (((t.inner.counter.lookup (k, p)).getD (t.freshCounter now)).snapToCap now)
      { t' with inner := { t'.inner with accessOrder := promote t'.inner.accessOrder (k, p) } }
    | .apiKey apiKey =>
      let t' := t.mapAccount apiKey (·.snapToCap now)
      let keysToPromote := (iter.order t'.inner.counter.keys).filter (·.1 = apiKey)
      { t' with inner := { t'.inner with accessOrder := keysToPromote.foldl promote t'.inner.accessOrder } })

/-! ## What each operation keeps

`Ordered` holds whatever is called; `WithinCap` needs the condition. -/

omit [CounterNum R] in
/-- The access order enumerates the keys of the map. -/
def Ordered (t : SpotTradingRateLimitTracker R) : Prop := Enumerates t.inner.accessOrder t.inner.counter

omit [CounterNum R] in
/-- What the module doc asks: LRU-capped, with the order in step. -/
def WithinCap (t : SpotTradingRateLimitTracker R) : Prop := t.inner.counter.len ≤ t.lruCap ∧ t.Ordered

omit [CounterNum R] in
theorem withinCap_withLruCap (tier : Tier) (lruCap : Nat) : (withLruCap tier lruCap : SpotTradingRateLimitTracker R).WithinCap :=
  ⟨Nat.zero_le _, List.nodup_nil, fun k => by simp [withLruCap]⟩

omit [CounterNum R] in
@[simp] theorem mem_setCounter (t : SpotTradingRateLimitTracker R) (key k : ScopeKey) (c : RateLimitCounter R) :
    k ∈ (t.setCounter key c).inner.counter ↔ k = key ∨ k ∈ t.inner.counter := AList.mem_insert _

omit [CounterNum R] in
/-- Writing back a counter that is there changes neither the keys nor their number. -/
theorem setCounter_present {t : SpotTradingRateLimitTracker R} {key : ScopeKey} (h : key ∈ t.inner.counter)
    (c : RateLimitCounter R) : (t.Ordered → (t.setCounter key c).Ordered) ∧
      (t.setCounter key c).inner.counter.len = t.inner.counter.len := by
  refine ⟨fun ho => ⟨ho.1, fun k => ?_⟩, HashMap.len_insert_of_mem h c⟩
  rw [mem_setCounter]
  constructor
  · intro hk
    exact Or.inr ((ho.2 k).1 hk)
  · rintro (rfl | hk)
    · exact (ho.2 k).2 h
    · exact (ho.2 k).2 hk

/-- The `expect` after `touch_lru` cannot fail. -/
theorem mem_touchLru (t : SpotTradingRateLimitTracker R) (key : ScopeKey) (now : MonotonicInstant) :
    key ∈ (t.touchLru key now).2.inner.counter := by
  unfold touchLru
  dsimp only
  split
  next h => exact h
  next =>
    split
    · split
      · exact (AList.mem_insert _).2 (Or.inl rfl)
      · exact (AList.mem_insert _).2 (Or.inl rfl)
    · exact (AList.mem_insert _).2 (Or.inl rfl)

theorem ordered_touchLru {t : SpotTradingRateLimitTracker R} (h : t.Ordered) (key : ScopeKey) (now : MonotonicInstant) :
    (t.touchLru key now).2.Ordered := by
  unfold touchLru
  dsimp only
  split
  next hmem =>
    -- a promotion only
    exact h.promoteAll [key] fun k hk => by rwa [List.mem_singleton.1 hk]
  next hmem =>
    have hins := h.insert key (t.freshCounter now)
    split
    · split
      next oldest hold =>
        have hne : oldest ≠ key := by simpa using List.find?_some hold
        refine ⟨hins.1.erase oldest, fun k => ?_⟩
        rw [hins.1.mem_erase_iff, hins.2, AList.mem_insert, AList.mem_insert, AList.mem_erase]
        constructor
        · rintro ⟨hk, rfl | hm⟩
          · exact Or.inl rfl
          · exact Or.inr ⟨hk, hm⟩
        · rintro (rfl | ⟨hk, hm⟩)
          · exact ⟨Ne.symm hne, Or.inl rfl⟩
          · exact ⟨hk, Or.inr hm⟩
      · exact hins
    · exact hins

/-- Evict BEFORE insert: a map within its cap stays within it. -/
theorem len_touchLru {t : SpotTradingRateLimitTracker R} (h : t.WithinCap) (key : ScopeKey) (now : MonotonicInstant) :
    (t.touchLru key now).2.inner.counter.len ≤ t.lruCap := by
  obtain ⟨hcap, hord⟩ := h
  unfold touchLru
  dsimp only
  split
  next => exact hcap
  next hmem =>
    split
    next hfull =>
      split
      next oldest hold =>
        have hne : oldest ≠ key := by simpa using List.find?_some hold
        have hold' : oldest ∈ t.inner.counter := by
          have hin := List.mem_of_find?_eq_some hold
          rcases (mem_promote hord.1 key oldest).1 hin with heq | hin
          · exact absurd heq hne
          · exact (hord.2 oldest).1 hin
        have herase := HashMap.len_erase_of_mem hold'
        have hnot : key ∉ t.inner.counter.erase oldest := fun hk => hmem (AList.mem_erase.1 hk).2
        rw [HashMap.len_insert_of_not_mem hnot]
        omega
      next hnone =>
        -- a full map has another key, and the order lists it
        exfalso
        have hpos := t.lruCap_pos
        obtain ⟨k, hk⟩ := HashMap.exists_mem_of_len_pos (m := t.inner.counter) (by omega)
        have hkey := List.find?_eq_none.1 hnone k ((mem_promote hord.1 key k).2 (Or.inr ((hord.2 k).2 hk)))
        simp only [ne_eq, decide_not, Bool.not_eq_true', decide_eq_false_iff_not, not_not] at hkey
        exact hmem (hkey ▸ hk)
    next hroom =>
      rw [HashMap.len_insert_of_not_mem hmem]
      omega

theorem lruCap_touchLru (t : SpotTradingRateLimitTracker R) (key : ScopeKey) (now : MonotonicInstant) :
    (t.touchLru key now).2.lruCap = t.lruCap := by
  unfold touchLru
  dsimp only
  split
  · rfl
  · split
    · split <;> rfl
    · rfl

/-- `consume` on a pair is `touch_lru` and its counter written back. -/
theorem consume_cases (t : SpotTradingRateLimitTracker R) (scope : Scope) (cost : R) (now : MonotonicInstant)
    (warningPct : R) (clockNow : MonotonicInstant) :
    (t.consume scope cost now warningPct clockNow).2.2 = t ∨
      ∃ key c, (t.consume scope cost now warningPct clockNow).2.2 = (t.touchLru key now).2.setCounter key c := by
  cases scope with
  | apiKey apiKey => exact Or.inl rfl
  | pair k p =>
    right
    obtain ⟨counter, hc⟩ := Option.isSome_iff_exists.1 (AList.lookup_isSome.2 (t.mem_touchLru (k, p) now))
    unfold consume
    simp only [hc]
    split
    next c _ =>
      split
      next c' _ => exact ⟨(k, p), c', rfl⟩
      next c' _ => exact ⟨(k, p), c', rfl⟩
    next c _ => exact ⟨(k, p), c, rfl⟩

theorem ordered_consume {t : SpotTradingRateLimitTracker R} (h : t.Ordered) (scope : Scope) (cost : R)
    (now : MonotonicInstant) (warningPct : R) (clockNow : MonotonicInstant) :
    (t.consume scope cost now warningPct clockNow).2.2.Ordered := by
  rcases t.consume_cases scope cost now warningPct clockNow with heq | ⟨key, c, heq⟩
  · rwa [heq]
  · rw [heq]
    exact (setCounter_present (t.mem_touchLru key now) c).1 (ordered_touchLru h key now)

theorem withinCap_consume {t : SpotTradingRateLimitTracker R} (h : t.WithinCap) (scope : Scope) (cost : R)
    (now : MonotonicInstant) (warningPct : R) (clockNow : MonotonicInstant) :
    (t.consume scope cost now warningPct clockNow).2.2.WithinCap := by
  refine ⟨?_, ordered_consume h.2 scope cost now warningPct clockNow⟩
  rcases t.consume_cases scope cost now warningPct clockNow with heq | ⟨key, c, heq⟩
  · rw [heq]
    exact h.1
  · rw [heq, (setCounter_present (t.mem_touchLru key now) c).2]
    show _ ≤ (t.touchLru key now).2.lruCap
    rw [lruCap_touchLru]
    exact len_touchLru h key now

/-- `credit` changes no key. -/
theorem credit_keeps (t : SpotTradingRateLimitTracker R) (scope : Scope) (cost : R) (now : MonotonicInstant) :
    (t.Ordered → (t.credit scope cost now).Ordered) ∧
      (t.credit scope cost now).inner.counter.len = t.inner.counter.len ∧ (t.credit scope cost now).lruCap = t.lruCap := by
  unfold credit
  split
  · exact ⟨id, rfl, rfl⟩
  next k p =>
    split
    · exact ⟨id, rfl, rfl⟩
    next c hc =>
      have hmem : (k, p) ∈ t.inner.counter := AList.lookup_isSome.1 (by rw [hc]; rfl)
      exact ⟨(setCounter_present hmem _).1, (setCounter_present hmem _).2, rfl⟩

omit [CounterNum R] in
theorem ordered_mapAccount {t : SpotTradingRateLimitTracker R} (h : t.Ordered) (apiKey : ApiKey)
    (f : RateLimitCounter R → RateLimitCounter R) : (t.mapAccount apiKey f).Ordered :=
  ⟨h.1, fun k => (h.2 k).trans (HashMap.mem_mapVals _ _ k).symm⟩

omit [CounterNum R] in
theorem len_mapAccount (t : SpotTradingRateLimitTracker R) (apiKey : ApiKey) (f : RateLimitCounter R → RateLimitCounter R) :
    (t.mapAccount apiKey f).inner.counter.len = t.inner.counter.len := by
  rw [HashMap.len_eq, HashMap.len_eq]
  exact congrArg List.length (HashMap.keys_mapVals _ _)

/-- `charge_account_wide` changes no key. -/
theorem chargeAccountWide_keeps (t : SpotTradingRateLimitTracker R) (scope : Scope) (cost : R) (now : MonotonicInstant) :
    (t.Ordered → (t.chargeAccountWide scope cost now).Ordered) ∧
      (t.chargeAccountWide scope cost now).inner.counter.len = t.inner.counter.len ∧
      (t.chargeAccountWide scope cost now).lruCap = t.lruCap := by
  cases scope with
  | pair k p => exact ⟨id, rfl, rfl⟩
  | apiKey apiKey => exact ⟨fun h => ordered_mapAccount h apiKey _, len_mapAccount t apiKey _, rfl⟩

theorem ordered_snapToCap {t : SpotTradingRateLimitTracker R} (h : t.Ordered) (scope : Scope) (krakenError : String)
    (now : MonotonicInstant) (iter : IterOrder ScopeKey) : (t.snapToCap scope krakenError now iter).2.Ordered := by
  cases scope with
  | pair k p => exact h.insert (k, p) _
  | apiKey apiKey =>
    refine (ordered_mapAccount h apiKey (·.snapToCap now)).promoteAll _ fun key hkey => ?_
    exact (iter.perm _).mem_iff.1 (List.mem_filter.1 hkey).1

/-- The one insertion past the eviction path. -/
theorem len_snapToCap (t : SpotTradingRateLimitTracker R) (scope : Scope) (krakenError : String) (now : MonotonicInstant)
    (iter : IterOrder ScopeKey) :
    (t.snapToCap scope krakenError now iter).2.inner.counter.len =
      match scope with
      | .pair k p => if (k, p) ∈ t.inner.counter then t.inner.counter.len else t.inner.counter.len + 1
      | .apiKey _ => t.inner.counter.len := by
  cases scope with
  | pair k p =>
    by_cases hmem : (k, p) ∈ t.inner.counter
    · simp only [hmem, if_true]
      exact HashMap.len_insert_of_mem hmem _
    · simp only [hmem, if_false]
      exact HashMap.len_insert_of_not_mem hmem _
  | apiKey apiKey => exact len_mapAccount t apiKey _

/-! ## Runs -/

/-- A call, with what its environment supplies. -/
inductive Call (R : Type) where
  | consume (scope : Scope) (cost : R) (now : MonotonicInstant) (warningPct : R) (clockNow : MonotonicInstant)
  | credit (scope : Scope) (cost : R) (now : MonotonicInstant)
  | chargeAccountWide (scope : Scope) (cost : R) (now : MonotonicInstant)
  | snapToCap (scope : Scope) (krakenError : String) (now : MonotonicInstant) (iter : IterOrder ScopeKey)

/-- One call. -/
def step (t : SpotTradingRateLimitTracker R) : Call R → SpotTradingRateLimitTracker R
  | .consume scope cost now warningPct clockNow => (t.consume scope cost now warningPct clockNow).2.2
  | .credit scope cost now => t.credit scope cost now
  | .chargeAccountWide scope cost now => t.chargeAccountWide scope cost now
  | .snapToCap scope krakenError now iter => (t.snapToCap scope krakenError now iter).2

omit [CounterNum R] in
/-- A throttle error reported for a pair the full map does not hold. -/
def SnapsPastCap (t : SpotTradingRateLimitTracker R) : Call R → Prop
  | .snapToCap (.pair k p) _ _ _ => (k, p) ∉ t.inner.counter ∧ t.lruCap ≤ t.inner.counter.len
  | _ => False

theorem ordered_step {t : SpotTradingRateLimitTracker R} (h : t.Ordered) (call : Call R) : (t.step call).Ordered := by
  cases call with
  | consume scope cost now warningPct clockNow => exact ordered_consume h scope cost now warningPct clockNow
  | credit scope cost now => exact (t.credit_keeps scope cost now).1 h
  | chargeAccountWide scope cost now => exact (t.chargeAccountWide_keeps scope cost now).1 h
  | snapToCap scope krakenError now iter => exact ordered_snapToCap h scope krakenError now iter

/-- From a state within the cap, one call stays within it unless it snaps past it. -/
theorem withinCap_step_iff {t : SpotTradingRateLimitTracker R} (h : t.WithinCap) (call : Call R) :
    (t.step call).WithinCap ↔ ¬ t.SnapsPastCap call := by
  cases call with
  | consume scope cost now warningPct clockNow =>
    exact iff_of_true (withinCap_consume h scope cost now warningPct clockNow) not_false
  | credit scope cost now =>
    obtain ⟨hord, hlen, hcap⟩ := t.credit_keeps scope cost now
    refine iff_of_true ⟨?_, hord h.2⟩ not_false
    show (t.credit scope cost now).inner.counter.len ≤ (t.credit scope cost now).lruCap
    rw [hlen, hcap]
    exact h.1
  | chargeAccountWide scope cost now =>
    obtain ⟨hord, hlen, hcap⟩ := t.chargeAccountWide_keeps scope cost now
    refine iff_of_true ⟨?_, hord h.2⟩ not_false
    show (t.chargeAccountWide scope cost now).inner.counter.len ≤ (t.chargeAccountWide scope cost now).lruCap
    rw [hlen, hcap]
    exact h.1
  | snapToCap scope krakenError now iter =>
    have hord := ordered_snapToCap h.2 scope krakenError now iter
    have hlen := t.len_snapToCap scope krakenError now iter
    have hcap := h.1
    cases scope with
    | apiKey apiKey => exact iff_of_true ⟨hlen.trans_le hcap, hord⟩ not_false
    | pair k p =>
      dsimp only at hlen
      by_cases hmem : (k, p) ∈ t.inner.counter
      · rw [if_pos hmem] at hlen
        exact iff_of_true ⟨hlen.trans_le hcap, hord⟩ fun hpast => hpast.1 hmem
      · rw [if_neg hmem] at hlen
        constructor
        · rintro ⟨hle, -⟩ ⟨-, hfull⟩
          have hle' : (t.snapToCap (.pair k p) krakenError now iter).2.inner.counter.len ≤ t.lruCap := hle
          omega
        · intro hpast
          have hroom : ¬ t.lruCap ≤ t.inner.counter.len := fun hfull => hpast ⟨hmem, hfull⟩
          refine ⟨?_, hord⟩
          show (t.snapToCap (.pair k p) krakenError now iter).2.inner.counter.len ≤ t.lruCap
          omega

/-- Over any calls on a new tracker: the cap and the order hold after each of them exactly when none snaps a
pair that a full map does not hold. -/
theorem withinCap_iff (tier : Tier) (lruCap : Nat) (calls : List (Call R)) :
    (∀ p, p <+: calls → (exec step (withLruCap tier lruCap) p).WithinCap) ↔
      Allowed step (fun t call => ¬ SnapsPastCap t call) (withLruCap tier lruCap) calls :=
  have hiff : ∀ (t : SpotTradingRateLimitTracker R) (call : Call R), True → t.WithinCap →
      ((t.step call).WithinCap ↔ ¬ t.SnapsPastCap call) := fun _ call _ h => withinCap_step_iff h call
  forall_prefix_iff_allowed (fun _ _ _ => trivial) hiff trivial (withinCap_withLruCap tier lruCap) calls

/-- The map keeps one order beside it whatever is called. -/
theorem ordered_exec (tier : Tier) (lruCap : Nat) (calls : List (Call R)) :
    (exec step (withLruCap tier lruCap) calls).Ordered :=
  (reach_anyStep _ calls).invariant (withinCap_withLruCap tier lruCap).2 fun _ call h _ => ordered_step h call

/-- `consume` on BTC/USD fills a cap of one; a throttle error for ETH/USD then makes a second entry. -/
theorem snapToCap_past_cap :
    ¬ ∀ p, p <+: [Call.consume (.pair ⟨"k"⟩ "BTC/USD") 1 0 1 0,
        .snapToCap (.pair ⟨"k"⟩ "ETH/USD") "EOrder:Rate limit exceeded" 0 ⟨id, List.Perm.refl⟩] →
      (exec step (withLruCap (R := ℚ) .pro 1) p).WithinCap := by
  intro h
  have hlen := (h _ List.prefix_rfl).1
  revert hlen
  decide +kernel

end SpotTradingRateLimitTracker

end KrakenSdk.RateLimit
