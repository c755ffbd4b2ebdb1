import Mathlib.Data.List.Sort
import KrakenSdk.Lib.HashMap
import KrakenSdk.Book.Builder
/-!
# Subscription registry (conn/subscription_registry.rs)

The declared-intent store keyed by `(channel, pair)`: entries with their refcount, lifetime
generation, tombstone countdown and release credits, the guard refs, and the caller mirror. Every
operation of the reactor on it is here under its name; a `u32` or `u64` `+ 1` wraps, as in a release
build.
-/
namespace KrakenSdk.Conn

open KrakenSdk.Book (OrderBookBuilder OrderBookUpdate Decimal parseBookFrame)

/-- `BookDriveOutcome` (subscription_registry.rs:49). -/
inductive BookDriveOutcome where
  | passThrough
  | maintained (update : OrderBookUpdate)
  | gap (expected computed : Nat)
  | awaitingSnapshot
  | gapBudgetExhausted

/-- `ReseedTimeoutOutcome` (subscription_registry.rs:73). -/
inductive ReseedTimeoutOutcome where
  | staleNoOp | retry | exhausted
  deriving DecidableEq, Repr

/-- `EntrySubState` (subscription_registry.rs:84). -/
inductive EntrySubState where
  | pending
  | acked
  | terminated (cause : TerminationCause) (lastError : Option String)
  deriving DecidableEq, Repr

/-- `MirrorRow` (subscription_registry.rs:98). -/
structure MirrorRow where
  state : EntrySubState
  registeredAt : MonotonicInstant
  deriving DecidableEq, Repr

/-- `RemovedEntryKind` (subscription_registry.rs:107). -/
inductive RemovedEntryKind where
  | live | tombstone
  deriving DecidableEq, Repr

/-- `SubscriptionMirror` (subscription_registry.rs:114), without its lock. -/
abbrev SubscriptionMirror := HashMap EntryKey MirrorRow

/-- `MAX_CONSECUTIVE_BOOK_GAPS` (subscription_registry.rs:118). -/
def maxConsecutiveBookGaps : Nat := 5

/-! ## Sequence tracker -/

/-- `SequenceTracker` (subscription_registry.rs:122): the last sequence seen. -/
abbrev SequenceTracker := Option Nat

/-- `SequenceTracker::observe` (subscription_registry.rs:127): the dropped-frame count on a jump. -/
def SequenceTracker.observe (t : SequenceTracker) (seq : Nat) (isSnapshot : Bool) : SequenceTracker × Option Nat :=
  (some seq,
    if isSnapshot then none
    else t.bind fun last => if last + 1 < seq then some (min (seq - last - 1) u32Max) else none)

/-! ## Entries -/

/-- `SubscriptionEntry` (subscription_registry.rs:145). -/
structure SubscriptionEntry where
  url : WsUrl
  channel : ChannelName
  pair : Option Symbol
  params : SubscribeParams
  count : Nat
  builder : Option OrderBookBuilder
  seqTracker : SequenceTracker
  generation : Nat
  state : EntrySubState
  tombstoneHolders : Nat
  staleReleaseCredits : Nat

namespace SubscriptionEntry

/-- The `(channel, pair)` key the entry carries. -/
def key (e : SubscriptionEntry) : EntryKey := (e.channel, e.pair)

/-- `is_tombstone` (subscription_registry.rs:187). -/
def isTombstone (e : SubscriptionEntry) : Bool :=
  match e.state with
  | .terminated _ _ => true
  | _ => false

/-- The builder `SubscriptionEntry::new` seeds: `SubscribeParams::Book` on a `Book` pair only. -/
def seedBuilder : ChannelName → Option Symbol → SubscribeParams → Option OrderBookBuilder
  | .book, some sym, .book depth => some (.new sym depth.wireDepth.asWireU32 depth.asWireU32)
  | _, _, _ => none

/-- `SubscriptionEntry::new` (subscription_registry.rs:192). -/
def new (url : WsUrl) (channel : ChannelName) (pair : Option Symbol) (params : SubscribeParams) :
    SubscriptionEntry :=
  { url, channel, pair, params, count := 1, builder := seedBuilder channel pair params, seqTracker := none,
    generation := 0, state := .pending, tombstoneHolders := 0, staleReleaseCredits := 0 }

/-- What the frame does to the builder of `drive_update` (subscription_registry.rs:236-279). -/
def driveBuilder (fromStr : String → Option Decimal) (b : OrderBookBuilder) (isSnapshot : Bool) (data : Json) :
    OrderBookBuilder × BookDriveOutcome :=
  if b.resyncing && !isSnapshot then (b, .awaitingSnapshot)
  else match parseBookFrame fromStr data with
    | none => (b, .passThrough)
    | some parsed =>
      if parsed.symbol ≠ b.symbol then (b, .passThrough)
      else
        let (b, result) :=
          if isSnapshot then b.applySnapshot parsed.bids parsed.asks parsed.checksum
          else b.applyDelta parsed.bids parsed.asks parsed.checksum
        match result with
        | .ok () => (b, .maintained (b.buildUpdate parsed.checksum none parsed.timestamp))
        | .error (.checksumMismatch expected computed) =>
          if maxConsecutiveBookGaps ≤ b.consecutiveGaps then (b, .gapBudgetExhausted)
          else (b, .gap expected computed)

/-- `drive_update` (subscription_registry.rs:229): the exhausted gap budget drops the builder. -/
def driveUpdate (fromStr : String → Option Decimal) (e : SubscriptionEntry) (isSnapshot : Bool) (data : Json) :
    SubscriptionEntry × BookDriveOutcome :=
  match e.builder with
  | none => (e, .passThrough)
  | some b =>
    match driveBuilder fromStr b isSnapshot data with
    | (_, .gapBudgetExhausted) => ({ e with builder := none }, .gapBudgetExhausted)
    | (b, outcome) => ({ e with builder := some b }, outcome)

/-- The holders a release counts (subscription_registry.rs:461): the countdown of a tombstone, the
refcount otherwise. -/
def holders (e : SubscriptionEntry) : Nat := if e.isTombstone then e.tombstoneHolders else e.count

/-- One holder less. -/
def releaseOne (e : SubscriptionEntry) : SubscriptionEntry :=
  if e.isTombstone then { e with tombstoneHolders := e.tombstoneHolders - 1 } else { e with count := e.count - 1 }

/-- `RemovedEntryKind` of a removed entry. -/
def removedKind (e : SubscriptionEntry) : RemovedEntryKind := if e.isTombstone then .tombstone else .live

end SubscriptionEntry

/-! ## Replay order -/

/-- `subscription_order_key` (subscription_registry.rs:992): channel-wide rows first. -/
def subscriptionOrderKey (key : EntryKey) : Bool × String × Option String :=
  (key.2.isSome, key.1.wireName, key.2)

/-- The derived order of the keys. -/
def orderKeyLe (a b : EntryKey) : Bool :=
  let (aPair, aName, aSym) := subscriptionOrderKey a
  let (bPair, bName, bSym) := subscriptionOrderKey b
  ((compare aPair bPair).then ((compare aName bName).then (compare aSym bSym))).isLE

/-- `sort_by` on `subscription_order_key`: stable. -/
def sortByOrderKey (es : List SubscriptionEntry) : List SubscriptionEntry :=
  es.mergeSort fun a b => orderKeyLe a.key b.key

/-! ## Registry -/

/-- `SubscriptionRegistry` (subscription_registry.rs:287). -/
structure SubscriptionRegistry where
  /-- Per-pair entries, `channel → (symbol → entry)`. -/
  entries : HashMap ChannelName (HashMap Symbol SubscriptionEntry) := ∅
  channelWide : HashMap ChannelName SubscriptionEntry := ∅
  mirror : SubscriptionMirror := ∅
  /-- The lock around `mirror` is poisoned: a reader panicked while it held it. -/
  mirrorPoisoned : Bool := false
  nextGeneration : Nat := 0
  guardRefs : HashMap (HandlerId × EntryKey) Nat := ∅
  livenessEpoch : Nat := 0

namespace SubscriptionRegistry

/-- `SubscriptionRegistry::new` (subscription_registry.rs:311). -/
def new : SubscriptionRegistry := {}

/-- `entry` (subscription_registry.rs:561). -/
def entry (r : SubscriptionRegistry) (key : EntryKey) : Option SubscriptionEntry :=
  match key with
  | (channel, some sym) => HashMap.lookup₂ r.entries channel sym
  | (channel, none) => r.channelWide.lookup channel

/-- Write the slot of `key`, with the channel's bucket created when it is missing
(`entries.entry(channel).or_default().entry(sym)`). -/
def putEntry (r : SubscriptionRegistry) (key : EntryKey) (e : SubscriptionEntry) : SubscriptionRegistry :=
  match key with
  | (channel, some sym) => { r with entries := HashMap.insert₂ r.entries channel sym e }
  | (channel, none) => { r with channelWide := r.channelWide.insert channel e }

/-- `if let Some(e) = self.entry_mut(..)` (subscription_registry.rs:569): change the entry in place. -/
def entryMut (r : SubscriptionRegistry) (key : EntryKey) (f : SubscriptionEntry → SubscriptionEntry) :
    SubscriptionRegistry :=
  match r.entry key with
  | some e => r.putEntry key (f e)
  | none => r

/-- The maps' part of `deregister` (subscription_registry.rs:607-619): an emptied bucket goes too. -/
def removeEntry (r : SubscriptionRegistry) (key : EntryKey) : SubscriptionRegistry :=
  match key with
  | (channel, some sym) => { r with entries := HashMap.erase₂ r.entries channel sym }
  | (channel, none) => { r with channelWide := r.channelWide.erase channel }

/-- `mirror_write` (subscription_registry.rs:583): skipped when the lock is poisoned. -/
def mirrorWrite (r : SubscriptionRegistry) (f : SubscriptionMirror → SubscriptionMirror) : SubscriptionRegistry :=
  if r.mirrorPoisoned then r else { r with mirror := f r.mirror }

/-- `if let Some(row) = mirror.get_mut(&key) { row.state = state }`. -/
def projectState (mirror : SubscriptionMirror) (key : EntryKey) (state : EntrySubState) : SubscriptionMirror :=
  match mirror.lookup key with
  | some row => mirror.insert key { row with state }
  | none => mirror

/-- `self.liveness_epoch += 1`. -/
def bumpEpoch (r : SubscriptionRegistry) : SubscriptionRegistry := { r with livenessEpoch := inc64 r.livenessEpoch }

/-- `guard_refs_at` (subscription_registry.rs:550), with its `as u32`. -/
def guardRefsAt (r : SubscriptionRegistry) (key : EntryKey) (generation : Nat) : Nat :=
  (r.guardRefs.entries.countP fun row => row.1.2 = key ∧ row.2 = generation) % 2 ^ 32

/-- `bump_or_revive` (subscription_registry.rs:341): the new value of the slot and, on a revival, the
countdown and the generation of the dying lifetime. -/
def bumpOrRevive (slot : Option SubscriptionEntry) (entry : SubscriptionEntry) (generation : Nat) :
    SubscriptionEntry × Option (Nat × Nat) :=
  match slot with
  | some e =>
    if e.count = 0 then
      ({ e with
          params := entry.params, builder := entry.builder, generation, seqTracker := none, state := .pending,
          tombstoneHolders := 0, count := inc32 e.count },
        some (e.tombstoneHolders, e.generation))
    else ({ e with count := inc32 e.count }, none)
  | none => ({ entry with generation }, none)

/-- The credits of a revival (subscription_registry.rs:387-400): the dead countdown less the dying
lifetime's guard refs and the slot a bare reviver keeps, added to the ledger. -/
def creditRevival (r : SubscriptionRegistry) (key : EntryKey) (revived : Option (Nat × Nat)) (guardBacked : Bool) :
    SubscriptionRegistry :=
  match revived with
  | none => r
  | some (holders, dyingGeneration) =>
    let reviverSlot := if guardBacked then 0 else 1
    let owed := holders - r.guardRefsAt key dyingGeneration - reviverSlot
    r.entryMut key fun e => { e with staleReleaseCredits := satAdd32 e.staleReleaseCredits owed }

/-- The maps' part of `register` (subscription_registry.rs:336-400). -/
def registerEntry (r : SubscriptionRegistry) (entry : SubscriptionEntry) (guardBacked : Bool) :
    SubscriptionRegistry × Nat :=
  let generation := inc64 r.nextGeneration
  let (e, revived) := bumpOrRevive (r.entry entry.key) entry generation
  let r := { r.bumpEpoch with nextGeneration := generation }
  ((r.putEntry entry.key e).creditRevival entry.key revived guardBacked, e.count)

/-- `register` (subscription_registry.rs:329): the post-register count. -/
def register (r : SubscriptionRegistry) (entry : SubscriptionEntry) (now : MonotonicInstant) (guardBacked : Bool) :
    SubscriptionRegistry × Nat :=
  let (r, count) := r.registerEntry entry guardBacked
  (if count = 1 then r.mirrorWrite (·.insert entry.key ⟨.pending, now⟩) else r, count)

/-- `note_sequence` (subscription_registry.rs:413). -/
def noteSequence (r : SubscriptionRegistry) (channel : ChannelName) (seq : Nat) (isSnapshot : Bool) :
    SubscriptionRegistry × Option Nat :=
  match r.entry (channel, none) with
  | none => (r, none)
  | some e =>
    let (seqTracker, gap) := e.seqTracker.observe seq isSnapshot
    (r.entryMut (channel, none) ({ · with seqTracker }), gap)

/-- `deregister` (subscription_registry.rs:605). -/
def deregister (r : SubscriptionRegistry) (key : EntryKey) : SubscriptionRegistry :=
  (r.bumpEpoch.removeEntry key).mirrorWrite (·.erase key)

/-- `release_inner` (subscription_registry.rs:439): the credit arm, the bare-slot gate, the tombstone
countdown, then the refcount. -/
def releaseInner (r : SubscriptionRegistry) (key : EntryKey) (allowCredit : Bool) : SubscriptionRegistry × Nat :=
  match r.entry key with
  | none => (r, 0)
  | some e =>
    if allowCredit ∧ 0 < e.staleReleaseCredits then
      (r.entryMut key fun e => { e with staleReleaseCredits := e.staleReleaseCredits - 1 }, e.count)
    else if allowCredit ∧ e.holders - r.guardRefsAt key e.generation = 0 then (r, e.count)
    else if e.isTombstone then
      let r := r.entryMut key fun e => { e with tombstoneHolders := e.tombstoneHolders - 1 }
      (if e.tombstoneHolders - 1 = 0 then r.deregister key else r, 0)
    else
      let r := r.bumpEpoch.entryMut key fun e => { e with count := e.count - 1 }
      if e.count - 1 = 0 then (r.deregister key, 0) else (r, e.count - 1)

/-- `release` (subscription_registry.rs:432). -/
def release (r : SubscriptionRegistry) (key : EntryKey) : SubscriptionRegistry × Nat := r.releaseInner key true

/-- `record_guard_ref` (subscription_registry.rs:507). -/
def recordGuardRef (r : SubscriptionRegistry) (handlerId : HandlerId) (key : EntryKey) : SubscriptionRegistry :=
  match r.entry key with
  | some e => { r with guardRefs := r.guardRefs.insert (handlerId, key) e.generation }
  | none => r

/-- `release_guard_ref` (subscription_registry.rs:522): a ref of a dead lifetime releases nothing. -/
def releaseGuardRef (r : SubscriptionRegistry) (handlerId : HandlerId) (key : EntryKey) :
    SubscriptionRegistry × Nat :=
  let recorded := r.guardRefs.lookup (handlerId, key)
  let r := { r with guardRefs := r.guardRefs.erase (handlerId, key) }
  match recorded, r.entry key with
  | some generation, some e => if generation ≠ e.generation then (r, e.count) else r.releaseInner key false
  | _, _ => r.releaseInner key false

/-- `deregister_all` (subscription_registry.rs:628): the removed entries in teardown order. -/
def deregisterAll (r : SubscriptionRegistry) (channel : Option ChannelName) :
    SubscriptionRegistry × List (SubscriptionEntry × RemovedEntryKind) :=
  let r := r.bumpEpoch
  let (r, removed) := match channel with
    | some ch =>
      ({ r with channelWide := r.channelWide.erase ch, entries := r.entries.erase ch },
        (r.channelWide.lookup ch).toList ++ ((r.entries.lookup ch).elim [] HashMap.values))
    | none =>
      ({ r with channelWide := ∅, entries := ∅ },
        HashMap.values r.channelWide ++ (HashMap.values r.entries).flatMap HashMap.values)
  let removed := sortByOrderKey removed
  (r.mirrorWrite fun mirror => removed.foldl (fun m e => m.erase e.key) mirror,
    removed.map fun e => (e, e.removedKind))

/-- `is_terminated` (subscription_registry.rs:679). -/
def isTerminated (r : SubscriptionRegistry) (key : EntryKey) : Bool := (r.entry key).any (·.isTombstone)

/-- `note_acked` (subscription_registry.rs:687): `Pending` to `Acked` only. -/
def noteAcked (r : SubscriptionRegistry) (key : EntryKey) : SubscriptionRegistry :=
  match r.entry key with
  | some e =>
    if e.state = .pending then
      (r.entryMut key ({ · with state := .acked })).mirrorWrite (projectState · key .acked)
    else r
  | none => r

/-- `note_terminated` (subscription_registry.rs:705): one terminal transition a lifetime. -/
def noteTerminated (r : SubscriptionRegistry) (key : EntryKey) (cause : TerminationCause)
    (lastError : Option String) : SubscriptionRegistry :=
  match r.entry key with
  | some e =>
    if e.isTombstone then r
    else
      let r := r.entryMut key fun e =>
        { e with tombstoneHolders := e.count, count := 0, state := .terminated cause lastError }
      r.bumpEpoch.mirrorWrite (projectState · key (.terminated cause lastError))
  | none => r

/-- `handle_update` (subscription_registry.rs:772). -/
def handleUpdate (fromStr : String → Option Decimal) (r : SubscriptionRegistry) (key : EntryKey)
    (isSnapshot : Bool) (data : Json) : SubscriptionRegistry × BookDriveOutcome :=
  match r.entry key with
  | some e =>
    (r.entryMut key fun e => (e.driveUpdate fromStr isSnapshot data).1, (e.driveUpdate fromStr isSnapshot data).2)
  | none => (r, .passThrough)

/-- `begin_book_resync` (subscription_registry.rs:792). -/
def beginBookResync (r : SubscriptionRegistry) (channel : ChannelName) (pair : Symbol) : SubscriptionRegistry :=
  r.entryMut (channel, some pair) fun e => { e with builder := e.builder.map (·.beginResync) }

/-- `is_book_resyncing` (subscription_registry.rs:803). -/
def isBookResyncing (r : SubscriptionRegistry) (channel : ChannelName) : Option Symbol → Bool
  | none => false
  | some sym => ((r.entry (channel, some sym)).bind (·.builder)).any (·.resyncing)

/-- `note_reseed_timeout` (subscription_registry.rs:817). -/
def noteReseedTimeout (r : SubscriptionRegistry) (channel : ChannelName) (pair : Symbol) :
    SubscriptionRegistry × ReseedTimeoutOutcome :=
  match r.entry (channel, some pair) with
  | none => (r, .staleNoOp)
  | some e =>
    if e.isTombstone then (r, .staleNoOp)
    else match e.builder with
      | none => (r, .staleNoOp)
      | some b =>
        if !b.resyncing then (r, .staleNoOp)
        else if maxConsecutiveBookGaps ≤ b.noteReseedFailure.consecutiveGaps then
          (r.entryMut (channel, some pair) ({ · with builder := none }), .exhausted)
        else (r.entryMut (channel, some pair) ({ · with builder := some b.noteReseedFailure }), .retry)

/-- Every entry: the channel-wide ones, then the pairs of every bucket. -/
def allEntries (r : SubscriptionRegistry) : List SubscriptionEntry :=
  HashMap.values r.channelWide ++ (HashMap.values r.entries).flatMap HashMap.values

/-- `entries_for_resubscribe_sorted` (subscription_registry.rs:853): tombstones are not replayed. -/
def entriesForResubscribeSorted (r : SubscriptionRegistry) (url : WsUrl) : List SubscriptionEntry :=
  sortByOrderKey (r.allEntries.filter fun e => e.url = url ∧ ¬ e.isTombstone)

/-- `has_url_entry` (subscription_registry.rs:947). -/
def hasUrlEntry (r : SubscriptionRegistry) (url : WsUrl) : Bool :=
  r.allEntries.any fun e => e.url = url ∧ ¬ e.isTombstone

/-- `params_for` (subscription_registry.rs:956). -/
def paramsFor (r : SubscriptionRegistry) (key : EntryKey) : Option SubscribeParams := (r.entry key).map (·.params)

/-! ## Reading back a write

Everything proved about the registry goes through `entry`, the two maps behind it apart only here. -/

@[simp] theorem entry_putEntry (r : SubscriptionRegistry) (key key' : EntryKey) (e : SubscriptionEntry) :
    (r.putEntry key e).entry key' = if key' = key then some e else r.entry key' := by
  obtain ⟨ch, _ | sym⟩ := key <;> obtain ⟨ch', _ | sym'⟩ := key'
  · simp [putEntry, entry, HashMap.lookup_insert_ite]
  · simp [putEntry, entry]
  · simp [putEntry, entry]
  · simp [putEntry, entry, HashMap.lookup₂_insert₂]

@[simp] theorem entry_removeEntry (r : SubscriptionRegistry) (key key' : EntryKey) :
    (r.removeEntry key).entry key' = if key' = key then none else r.entry key' := by
  obtain ⟨ch, _ | sym⟩ := key <;> obtain ⟨ch', _ | sym'⟩ := key'
  · simp [removeEntry, entry, HashMap.lookup_erase_ite]
  · simp [removeEntry, entry]
  · simp [removeEntry, entry]
  · simp [removeEntry, entry, HashMap.lookup₂_erase₂]

@[simp] theorem entry_entryMut (r : SubscriptionRegistry) (key key' : EntryKey)
    (f : SubscriptionEntry → SubscriptionEntry) :
    (r.entryMut key f).entry key' = if key' = key then (r.entry key).map f else r.entry key' := by
  unfold entryMut
  cases h : r.entry key with
  | none =>
    simp only [Option.map_none]
    split
    · next hk => rw [hk, h]
    · rfl
  | some e => simp

@[simp] theorem entry_mirrorWrite (r : SubscriptionRegistry) (f : SubscriptionMirror → SubscriptionMirror)
    (key : EntryKey) : (r.mirrorWrite f).entry key = r.entry key := by
  unfold mirrorWrite; split <;> rfl

@[simp] theorem entry_bumpEpoch (r : SubscriptionRegistry) (key : EntryKey) : r.bumpEpoch.entry key = r.entry key := rfl

@[simp] theorem entry_deregister (r : SubscriptionRegistry) (key key' : EntryKey) :
    (r.deregister key).entry key' = if key' = key then none else r.entry key' := by
  simp [deregister]

/-- A count that has room does not wrap. -/
theorem inc32_of_lt {n : Nat} (h : n < u32Max) : inc32 n = n + 1 :=
  Nat.mod_eq_of_lt (by simp only [u32Max] at h; omega)

/-! The writes leave the other fields alone. -/

theorem putEntry_rest (r : SubscriptionRegistry) (key : EntryKey) (e : SubscriptionEntry) :
    (r.putEntry key e).mirror = r.mirror ∧ (r.putEntry key e).mirrorPoisoned = r.mirrorPoisoned ∧
      (r.putEntry key e).guardRefs = r.guardRefs ∧ (r.putEntry key e).nextGeneration = r.nextGeneration := by
  obtain ⟨ch, _ | sym⟩ := key <;> exact ⟨rfl, rfl, rfl, rfl⟩

theorem removeEntry_rest (r : SubscriptionRegistry) (key : EntryKey) :
    (r.removeEntry key).mirror = r.mirror ∧ (r.removeEntry key).mirrorPoisoned = r.mirrorPoisoned ∧
      (r.removeEntry key).guardRefs = r.guardRefs ∧ (r.removeEntry key).nextGeneration = r.nextGeneration := by
  obtain ⟨ch, _ | sym⟩ := key <;> exact ⟨rfl, rfl, rfl, rfl⟩

theorem entryMut_rest (r : SubscriptionRegistry) (key : EntryKey) (f : SubscriptionEntry → SubscriptionEntry) :
    (r.entryMut key f).mirror = r.mirror ∧ (r.entryMut key f).mirrorPoisoned = r.mirrorPoisoned ∧
      (r.entryMut key f).guardRefs = r.guardRefs ∧ (r.entryMut key f).nextGeneration = r.nextGeneration := by
  unfold entryMut
  split
  · exact putEntry_rest ..
  · exact ⟨rfl, rfl, rfl, rfl⟩

theorem mirrorWrite_rest (r : SubscriptionRegistry) (f : SubscriptionMirror → SubscriptionMirror) :
    (r.mirrorWrite f).mirrorPoisoned = r.mirrorPoisoned ∧ (r.mirrorWrite f).guardRefs = r.guardRefs ∧
      (r.mirrorWrite f).nextGeneration = r.nextGeneration := by
  unfold mirrorWrite; split <;> exact ⟨rfl, rfl, rfl⟩

/-! ## What `register` leaves -/

/-- The entry `register` leaves at its key: the new one, the revived one with the credits it is owed, or
the old one with one more holder. -/
def registered (r : SubscriptionRegistry) (entry : SubscriptionEntry) (guardBacked : Bool) : SubscriptionEntry :=
  match r.entry entry.key with
  | none => { entry with generation := inc64 r.nextGeneration }
  | some e =>
    if e.count = 0 then
      { e with
        params := entry.params, builder := entry.builder, generation := inc64 r.nextGeneration, seqTracker := none,
        state := .pending, tombstoneHolders := 0, count := inc32 e.count,
        staleReleaseCredits := satAdd32 e.staleReleaseCredits
          (e.tombstoneHolders - r.guardRefsAt entry.key e.generation - (if guardBacked then 0 else 1)) }
    else { e with count := inc32 e.count }

theorem guardRefsAt_congr {r r' : SubscriptionRegistry} (h : r'.guardRefs = r.guardRefs) (key : EntryKey)
    (generation : Nat) : r'.guardRefsAt key generation = r.guardRefsAt key generation := by
  rw [guardRefsAt, h, guardRefsAt]

theorem creditRevival_rest (r : SubscriptionRegistry) (key : EntryKey) (revived : Option (Nat × Nat))
    (guardBacked : Bool) :
    (r.creditRevival key revived guardBacked).mirror = r.mirror ∧
      (r.creditRevival key revived guardBacked).mirrorPoisoned = r.mirrorPoisoned ∧
      (r.creditRevival key revived guardBacked).guardRefs = r.guardRefs ∧
      (r.creditRevival key revived guardBacked).nextGeneration = r.nextGeneration := by
  unfold creditRevival
  split
  · exact ⟨rfl, rfl, rfl, rfl⟩
  · exact entryMut_rest ..

theorem registerEntry_rest (r : SubscriptionRegistry) (entry : SubscriptionEntry) (guardBacked : Bool) :
    (r.registerEntry entry guardBacked).1.mirror = r.mirror ∧
      (r.registerEntry entry guardBacked).1.mirrorPoisoned = r.mirrorPoisoned ∧
      (r.registerEntry entry guardBacked).1.guardRefs = r.guardRefs ∧
      (r.registerEntry entry guardBacked).1.nextGeneration = inc64 r.nextGeneration := by
  obtain ⟨h1, h2, h3, h4⟩ := creditRevival_rest
    ({ r.bumpEpoch with nextGeneration := inc64 r.nextGeneration }.putEntry entry.key
      (bumpOrRevive (r.entry entry.key) entry (inc64 r.nextGeneration)).1) entry.key
    (bumpOrRevive (r.entry entry.key) entry (inc64 r.nextGeneration)).2 guardBacked
  obtain ⟨p1, p2, p3, p4⟩ := putEntry_rest { r.bumpEpoch with nextGeneration := inc64 r.nextGeneration } entry.key
    (bumpOrRevive (r.entry entry.key) entry (inc64 r.nextGeneration)).1
  exact ⟨h1.trans p1, h2.trans p2, h3.trans p3, h4.trans p4⟩

theorem registerEntry_count (r : SubscriptionRegistry) (entry : SubscriptionEntry) (guardBacked : Bool) :
    (r.registerEntry entry guardBacked).2 = (r.registered entry guardBacked).count := by
  simp only [registerEntry, registered]
  cases r.entry entry.key with
  | none => rfl
  | some e => simp only [bumpOrRevive]; split <;> rfl

theorem entry_registerEntry (r : SubscriptionRegistry) (entry : SubscriptionEntry) (guardBacked : Bool)
    (key : EntryKey) :
    (r.registerEntry entry guardBacked).1.entry key =
      if key = entry.key then some (r.registered entry guardBacked) else r.entry key := by
  have hread : ∀ k, ({ r.bumpEpoch with nextGeneration := inc64 r.nextGeneration } : SubscriptionRegistry).entry k =
      r.entry k := fun _ => rfl
  simp only [registerEntry, registered]
  cases r.entry entry.key with
  | none => simp [bumpOrRevive, creditRevival, hread]
  | some e =>
    by_cases hc : e.count = 0
    · have hg : ∀ e' g, guardRefsAt (putEntry { r.bumpEpoch with nextGeneration := inc64 r.nextGeneration } entry.key
          e') entry.key g = r.guardRefsAt entry.key g := fun _ _ => guardRefsAt_congr (putEntry_rest ..).2.2.1 _ _
      simp only [bumpOrRevive, creditRevival, hc, if_true, hg, entry_entryMut, entry_putEntry, Option.map_some, hread]
      split <;> rfl
    · simp [bumpOrRevive, creditRevival, hc, hread]

theorem entry_register (r : SubscriptionRegistry) (entry : SubscriptionEntry) (now : MonotonicInstant)
    (guardBacked : Bool) (key : EntryKey) :
    (r.register entry now guardBacked).1.entry key =
      if key = entry.key then some (r.registered entry guardBacked) else r.entry key := by
  rw [← entry_registerEntry, register]
  dsimp only
  split
  · rw [entry_mirrorWrite]
  · rfl

theorem register_rest (r : SubscriptionRegistry) (entry : SubscriptionEntry) (now : MonotonicInstant)
    (guardBacked : Bool) :
    (r.register entry now guardBacked).1.guardRefs = r.guardRefs ∧
      (r.register entry now guardBacked).1.nextGeneration = inc64 r.nextGeneration := by
  obtain ⟨-, -, h3, h4⟩ := registerEntry_rest r entry guardBacked
  simp only [register]
  split
  · exact ⟨(mirrorWrite_rest ..).2.1.trans h3, (mirrorWrite_rest ..).2.2.trans h4⟩
  · exact ⟨h3, h4⟩

/-! ## What a release leaves -/

/-- The slot a release leaves: a credit burnt, nothing, or one holder less, and no entry without holders. -/
def released (r : SubscriptionRegistry) (key : EntryKey) (allowCredit : Bool) (e : SubscriptionEntry) :
    Option SubscriptionEntry :=
  if allowCredit ∧ 0 < e.staleReleaseCredits then some { e with staleReleaseCredits := e.staleReleaseCredits - 1 }
  else if allowCredit ∧ e.holders - r.guardRefsAt key e.generation = 0 then some e
  else if e.holders - 1 = 0 then none
  else some e.releaseOne

theorem entry_releaseInner (r : SubscriptionRegistry) (key : EntryKey) (allowCredit : Bool) :
    (r.releaseInner key allowCredit).1.entry key = (r.entry key).bind (r.released key allowCredit) := by
  unfold releaseInner
  split
  next h => simp [h]
  next e he =>
    rw [he, Option.bind_some]
    unfold released
    split
    · simp [he]
    split
    · exact he
    split
    next ht =>
      simp only [SubscriptionEntry.holders, SubscriptionEntry.releaseOne, ht, if_true]
      split <;> simp [he]
    next ht =>
      simp only [SubscriptionEntry.holders, SubscriptionEntry.releaseOne, ht]
      split <;> simp_all

theorem deregister_rest (r : SubscriptionRegistry) (key : EntryKey) :
    (r.deregister key).guardRefs = r.guardRefs ∧ (r.deregister key).nextGeneration = r.nextGeneration := by
  obtain ⟨-, -, h1, h2⟩ := removeEntry_rest r.bumpEpoch key
  exact ⟨(mirrorWrite_rest ..).2.1.trans h1, (mirrorWrite_rest ..).2.2.trans h2⟩

theorem releaseInner_rest (r : SubscriptionRegistry) (key : EntryKey) (allowCredit : Bool) :
    (r.releaseInner key allowCredit).1.guardRefs = r.guardRefs ∧
      (r.releaseInner key allowCredit).1.nextGeneration = r.nextGeneration := by
  have hmut : ∀ (r' : SubscriptionRegistry) f, (r'.entryMut key f).guardRefs = r'.guardRefs ∧
      (r'.entryMut key f).nextGeneration = r'.nextGeneration := fun r' f => (entryMut_rest r' key f).2.2
  unfold releaseInner
  split
  · exact ⟨rfl, rfl⟩
  · split
    · exact hmut r _
    split
    · exact ⟨rfl, rfl⟩
    split
    · dsimp only
      split
      · exact ⟨(deregister_rest _ key).1.trans (hmut r _).1, (deregister_rest _ key).2.trans (hmut r _).2⟩
      · exact hmut r _
    · dsimp only
      split
      · exact ⟨(deregister_rest _ key).1.trans (hmut _ _).1, (deregister_rest _ key).2.trans (hmut _ _).2⟩
      · exact hmut r.bumpEpoch _

end SubscriptionRegistry

end KrakenSdk.Conn
