import KrakenSdk.Lib.StepSystem
import KrakenSdk.Conn.Registry
/-!
# The registry and its caller mirror agree

`Coherent` says what the maps, the refcounts and the mirror must say about every key. Each operation
`Touches` one key only, and leaves that key's slot in order; `registry_coherent` is the result for every
sequence of operations from an empty registry.
-/
namespace KrakenSdk.Conn

open KrakenSdk.Book (Decimal)
open StepSystem

/-- A live entry has a holder, a tombstone has one still to release, and neither has the other's. -/
structure SubscriptionEntry.WellCounted (e : SubscriptionEntry) : Prop where
  live : e.isTombstone = false → 1 ≤ e.count ∧ e.tombstoneHolders = 0
  tombstone : e.isTombstone = true → e.count = 0 ∧ 1 ≤ e.tombstoneHolders

namespace SubscriptionRegistry

/-- The mirror row and the slot of one key agree. -/
structure SlotOk (key : EntryKey) (row : Option MirrorRow) (slot : Option SubscriptionEntry) : Prop where
  /-- A row exactly when there is an entry, in the same state. -/
  mirrored : row.map (·.state) = slot.map (·.state)
  keyed : ∀ e, slot = some e → e.key = key
  counted : ∀ e, slot = some e → e.WellCounted

/-- **The representation invariant** (claimed by `mirror`'s comment, subscription_registry.rs:294). -/
structure Coherent (r : SubscriptionRegistry) : Prop where
  slot : ∀ key, SlotOk key (r.mirror.lookup key) (r.entry key)
  buckets : HashMap.NoEmptyBucket r.entries
  lock : r.mirrorPoisoned = false

/-! ## One key at a time -/

/-- `r'` differs from `r` in the slot and the row of `key` alone, and has no new empty bucket. -/
structure Touches (key : EntryKey) (r r' : SubscriptionRegistry) : Prop where
  entry : ∀ key', key' ≠ key → r'.entry key' = r.entry key'
  row : ∀ key', key' ≠ key → r'.mirror.lookup key' = r.mirror.lookup key'
  buckets : HashMap.NoEmptyBucket r.entries → HashMap.NoEmptyBucket r'.entries
  lock : r'.mirrorPoisoned = r.mirrorPoisoned

namespace Touches

variable {key : EntryKey} {r r' r'' : SubscriptionRegistry}

theorem refl (key : EntryKey) (r : SubscriptionRegistry) : Touches key r r :=
  ⟨fun _ _ => rfl, fun _ _ => rfl, id, rfl⟩

theorem trans (h : Touches key r r') (h' : Touches key r' r'') : Touches key r r'' where
  entry key' hk := (h'.entry key' hk).trans (h.entry key' hk)
  row key' hk := (h'.row key' hk).trans (h.row key' hk)
  buckets hb := h'.buckets (h.buckets hb)
  lock := h'.lock.trans h.lock

theorem bumpEpoch (r : SubscriptionRegistry) : Touches key r r.bumpEpoch := ⟨fun _ _ => rfl, fun _ _ => rfl, id, rfl⟩

theorem putEntry (r : SubscriptionRegistry) (e : SubscriptionEntry) : Touches key r (r.putEntry key e) where
  entry key' hk := by rw [entry_putEntry, if_neg hk]
  row key' _ := by rw [(putEntry_rest r key e).1]
  buckets hb := by
    obtain ⟨ch, _ | sym⟩ := key
    · exact hb
    · exact hb.insert₂ ch sym e
  lock := (putEntry_rest r key e).2.1

theorem removeEntry (r : SubscriptionRegistry) : Touches key r (r.removeEntry key) where
  entry key' hk := by rw [entry_removeEntry, if_neg hk]
  row key' _ := by rw [(removeEntry_rest r key).1]
  buckets hb := by
    obtain ⟨ch, _ | sym⟩ := key
    · exact hb
    · exact hb.erase₂ ch sym
  lock := (removeEntry_rest r key).2.1

theorem entryMut (r : SubscriptionRegistry) (f : SubscriptionEntry → SubscriptionEntry) :
    Touches key r (r.entryMut key f) := by
  unfold SubscriptionRegistry.entryMut
  split
  · exact putEntry r _
  · exact refl key r

theorem mirrorWrite (r : SubscriptionRegistry) {f : SubscriptionMirror → SubscriptionMirror}
    (hf : ∀ m key', key' ≠ key → (f m).lookup key' = m.lookup key') : Touches key r (r.mirrorWrite f) where
  entry key' _ := entry_mirrorWrite ..
  row key' hk := by
    unfold SubscriptionRegistry.mirrorWrite
    split
    · rfl
    · exact hf _ _ hk
  buckets hb := by unfold SubscriptionRegistry.mirrorWrite; split <;> exact hb
  lock := (mirrorWrite_rest r f).1

theorem deregister (r : SubscriptionRegistry) : Touches key r (r.deregister key) :=
  ((bumpEpoch r).trans (removeEntry r.bumpEpoch)).trans
    (mirrorWrite _ fun _ _ hk => AList.lookup_erase_ne hk)

end Touches

/-- A step that touches one key and leaves its slot in order keeps the invariant. -/
theorem Coherent.of_touches {key : EntryKey} {r r' : SubscriptionRegistry} (h : Coherent r) (ht : Touches key r r')
    (hs : SlotOk key (r'.mirror.lookup key) (r'.entry key)) : Coherent r' where
  slot key' := by
    by_cases hk : key' = key
    · exact hk ▸ hs
    · rw [ht.entry key' hk, ht.row key' hk]
      exact h.slot key'
  buckets := ht.buckets h.buckets
  lock := ht.lock.trans h.lock

theorem mirror_mirrorWrite {r : SubscriptionRegistry} (h : r.mirrorPoisoned = false)
    (f : SubscriptionMirror → SubscriptionMirror) : (r.mirrorWrite f).mirror = f r.mirror := by
  rw [mirrorWrite, if_neg (by simp [h])]

theorem projectState_ne {key key' : EntryKey} (m : SubscriptionMirror) (state : EntrySubState) (hk : key' ≠ key) :
    (projectState m key state).lookup key' = m.lookup key' := by
  unfold projectState
  split
  · exact AList.lookup_insert_ne hk
  · rfl

theorem projectState_self (m : SubscriptionMirror) (key : EntryKey) (state : EntrySubState) :
    ((projectState m key state).lookup key).map (·.state) = (m.lookup key).map fun _ => state := by
  unfold projectState
  cases h : m.lookup key <;> simp [h]

/-- Nothing in the slot and no row. -/
theorem slotOk_none (key : EntryKey) : SlotOk key none none :=
  ⟨rfl, by simp, by simp⟩

theorem Coherent.deregister {r r' : SubscriptionRegistry} {key : EntryKey} (h : Coherent r) (ht : Touches key r r') :
    Coherent (r'.deregister key) := by
  refine h.of_touches (ht.trans (.deregister r')) ?_
  have hlock : (r'.bumpEpoch.removeEntry key).mirrorPoisoned = false :=
    ((removeEntry_rest r'.bumpEpoch key).2.1.trans ht.lock).trans h.lock
  rw [entry_deregister, if_pos rfl, SubscriptionRegistry.deregister, mirror_mirrorWrite hlock, AList.lookup_erase]
  exact slotOk_none key

/-! ## The operations -/

/-- An in-place change that keeps what the mirror shows and what the counts say. -/
theorem Coherent.entryMut {r : SubscriptionRegistry} (h : Coherent r) (key : EntryKey)
    {f : SubscriptionEntry → SubscriptionEntry}
    (hf : ∀ e, r.entry key = some e → (f e).state = e.state ∧ (f e).key = e.key ∧ (e.WellCounted → (f e).WellCounted)) :
    Coherent (r.entryMut key f) := by
  refine h.of_touches (.entryMut r f) ?_
  obtain ⟨hrow, hkey, hcount⟩ := h.slot key
  rw [(entryMut_rest r key f).1, entry_entryMut, if_pos rfl]
  cases hs : r.entry key with
  | none => exact ⟨by rw [hrow, hs]; rfl, by simp, by simp⟩
  | some e =>
    obtain ⟨h1, h2, h3⟩ := hf e hs
    refine ⟨by rw [hrow, hs]; simp [h1], ?_, ?_⟩ <;> intro e' he' <;> obtain rfl := Option.some.inj he'
    · exact h2.trans (hkey e hs)
    · exact h3 (hcount e hs)

theorem registered_key (r : SubscriptionRegistry) (entry : SubscriptionEntry) (guardBacked : Bool)
    (hkey : ∀ e, r.entry entry.key = some e → e.key = entry.key) : (r.registered entry guardBacked).key = entry.key := by
  unfold registered
  split
  · rfl
  next e he => split <;> exact hkey e he

/-- A row is written exactly when the slot comes to one holder, and the state it shows is the slot's. -/
theorem slotOk_registered {r : SubscriptionRegistry} (h : Coherent r) {entry : SubscriptionEntry}
    (hnew : entry.state = .pending ∧ entry.count = 1 ∧ entry.tombstoneHolders = 0) (guardBacked : Bool)
    (row : MirrorRow) (hrow : row.state = .pending)
    (hmax : ∀ e, r.entry entry.key = some e → e.count < u32Max) :
    SlotOk entry.key
      (if (r.registered entry guardBacked).count = 1 then some row else r.mirror.lookup entry.key)
      (some (r.registered entry guardBacked)) := by
  obtain ⟨hst, hone, hth⟩ := hnew
  obtain ⟨hr, hkey, hcount⟩ := h.slot entry.key
  refine ⟨?_, fun e he => Option.some.inj he ▸ registered_key r entry guardBacked hkey, fun e he => Option.some.inj he ▸ ?_⟩
  · unfold registered
    cases hs : r.entry entry.key with
    | none => simp [hone, hst, hrow]
    | some e =>
      rw [hs] at hr
      by_cases hc : e.count = 0
      · simp [hc, inc32, hrow]
      · have := inc32_of_lt (hmax e hs)
        simp only [hc, if_false, Option.map_some]
        rw [if_neg (by omega), hr]; rfl
  · unfold registered
    cases hs : r.entry entry.key with
    | none => exact ⟨fun _ => by simp [hone, hth], fun ht => by simp [SubscriptionEntry.isTombstone, hst] at ht⟩
    | some e =>
      by_cases hc : e.count = 0
      · simp only [hc, if_true]
        exact ⟨fun _ => ⟨le_refl 1, rfl⟩, fun ht => by simp [SubscriptionEntry.isTombstone] at ht⟩
      · have hinc := inc32_of_lt (hmax e hs)
        have hlive : e.isTombstone = false := by
          by_contra ht
          exact hc ((hcount e hs).tombstone (by simpa using ht)).1
        simp only [hc, if_false]
        refine ⟨fun _ => ⟨by simp only [hinc]; omega, ((hcount e hs).live hlive).2⟩, fun ht => ?_⟩
        exact absurd (show e.isTombstone = true from ht) (by simp [hlive])

theorem touches_creditRevival (r : SubscriptionRegistry) (key : EntryKey) (revived : Option (Nat × Nat))
    (guardBacked : Bool) : Touches key r (r.creditRevival key revived guardBacked) := by
  unfold creditRevival
  split
  · exact .refl key r
  · exact .entryMut r _

theorem touches_register (r : SubscriptionRegistry) (entry : SubscriptionEntry) (now : MonotonicInstant)
    (guardBacked : Bool) : Touches entry.key r (r.register entry now guardBacked).1 := by
  have h0 : Touches entry.key r { r.bumpEpoch with nextGeneration := inc64 r.nextGeneration } :=
    ⟨fun _ _ => rfl, fun _ _ => rfl, id, rfl⟩
  have h1 : Touches entry.key r (r.registerEntry entry guardBacked).1 :=
    (h0.trans (.putEntry _ _)).trans (touches_creditRevival ..)
  simp only [register]
  split
  · exact h1.trans (.mirrorWrite _ fun _ _ hk => AList.lookup_insert_ne hk)
  · exact h1

theorem coherent_register {r : SubscriptionRegistry} (h : Coherent r) {entry : SubscriptionEntry}
    (hnew : entry.state = .pending ∧ entry.count = 1 ∧ entry.tombstoneHolders = 0) (now : MonotonicInstant)
    (guardBacked : Bool) (hmax : ∀ e, r.entry entry.key = some e → e.count < u32Max) :
    Coherent (r.register entry now guardBacked).1 := by
  refine h.of_touches (touches_register ..) ?_
  have hs := slotOk_registered h hnew guardBacked ⟨.pending, now⟩ rfl hmax
  obtain ⟨hmir, hlock, -⟩ := registerEntry_rest r entry guardBacked
  rw [entry_register, if_pos rfl]
  simp only [register, registerEntry_count]
  split
  next hc =>
    rw [mirror_mirrorWrite (hlock.trans h.lock), AList.lookup_insert]
    rwa [if_pos hc] at hs
  next hc =>
    rw [hmir]
    rwa [if_neg hc] at hs

/-- The three ways a release ends: nothing but a credit moved, the key is gone, or one holder less. -/
theorem coherent_releaseInner {r : SubscriptionRegistry} (h : Coherent r) (key : EntryKey) (allowCredit : Bool) :
    Coherent (r.releaseInner key allowCredit).1 := by
  unfold releaseInner
  split
  · exact h
  next e he =>
    have hcount := (h.slot key).counted e he
    split
    · exact h.entryMut key fun e _ => ⟨rfl, rfl, fun hc => ⟨hc.live, hc.tombstone⟩⟩
    split
    · exact h
    split
    next htomb =>
      obtain ⟨hzero, -⟩ := hcount.tombstone htomb
      dsimp only
      split
      · exact h.deregister (.entryMut r _)
      next hleft =>
        refine h.entryMut key fun e' he' => ⟨rfl, rfl, fun _ => ?_⟩
        obtain rfl := Option.some.inj (he.symm.trans he')
        exact ⟨fun hl => absurd htomb (ne_true_of_eq_false hl), fun _ => ⟨hzero, by simp only; omega⟩⟩
    next hlive =>
      obtain ⟨-, hth⟩ := hcount.live (by simpa using hlive)
      dsimp only
      split
      · exact h.deregister ((Touches.bumpEpoch r).trans (.entryMut _ _))
      next hleft =>
        refine Coherent.entryMut (h.of_touches (.bumpEpoch r) (h.slot key)) key fun e' he' => ⟨rfl, rfl, fun _ => ?_⟩
        obtain rfl := Option.some.inj (he.symm.trans he')
        exact ⟨fun _ => ⟨by simp only; omega, hth⟩, fun ht => absurd ht hlive⟩

theorem coherent_guardRefs {r : SubscriptionRegistry} (h : Coherent r) (refs : HashMap (HandlerId × EntryKey) Nat) :
    Coherent { r with guardRefs := refs } := ⟨h.slot, h.buckets, h.lock⟩

theorem coherent_recordGuardRef {r : SubscriptionRegistry} (h : Coherent r) (handlerId : HandlerId) (key : EntryKey) :
    Coherent (r.recordGuardRef handlerId key) := by
  unfold recordGuardRef
  split
  · exact coherent_guardRefs h _
  · exact h

theorem coherent_releaseGuardRef {r : SubscriptionRegistry} (h : Coherent r) (handlerId : HandlerId) (key : EntryKey) :
    Coherent (r.releaseGuardRef handlerId key).1 := by
  have h' := coherent_guardRefs h (r.guardRefs.erase (handlerId, key))
  unfold releaseGuardRef
  dsimp only
  split
  · split
    · exact h'
    · exact coherent_releaseInner h' key false
  · exact coherent_releaseInner h' key false

/-- A state change shown in the mirror: the slot and the row of `key` get the same state. -/
theorem coherent_project {r r' : SubscriptionRegistry} (h : Coherent r) {key : EntryKey} (ht : Touches key r r')
    (hmir : r'.mirror = r.mirror) {e : SubscriptionEntry} (e' : SubscriptionEntry) (he : r.entry key = some e)
    (he' : r'.entry key = some e') (hkey : e'.key = e.key) (hcount : e'.WellCounted) :
    Coherent (r'.mirrorWrite (projectState · key e'.state)) := by
  refine h.of_touches (ht.trans (.mirrorWrite _ fun m _ hk => projectState_ne m _ hk)) ?_
  rw [mirror_mirrorWrite (ht.lock.trans h.lock), hmir, entry_mirrorWrite, he']
  refine ⟨?_, fun x hx => ?_, fun x hx => ?_⟩
  · rw [projectState_self]
    have hrow := (h.slot key).mirrored
    rw [he] at hrow
    cases hm : r.mirror.lookup key with
    | none => simp [hm] at hrow
    | some row => rfl
  · obtain rfl := Option.some.inj hx
    exact hkey.trans ((h.slot key).keyed e he)
  · obtain rfl := Option.some.inj hx
    exact hcount

theorem coherent_noteAcked {r : SubscriptionRegistry} (h : Coherent r) (key : EntryKey) : Coherent (r.noteAcked key) := by
  unfold noteAcked
  split
  next e he =>
    split
    next hp =>
      have hlive := ((h.slot key).counted e he).live (by simp [SubscriptionEntry.isTombstone, hp])
      refine coherent_project h (.entryMut r _) (entryMut_rest ..).1 { e with state := .acked } he ?_ rfl ?_
      · rw [entry_entryMut, if_pos rfl, he]; rfl
      · exact ⟨fun _ => hlive, fun ht => by simp [SubscriptionEntry.isTombstone] at ht⟩
    · exact h
  · exact h

theorem coherent_noteTerminated {r : SubscriptionRegistry} (h : Coherent r) (key : EntryKey)
    (cause : TerminationCause) (lastError : Option String) : Coherent (r.noteTerminated key cause lastError) := by
  unfold noteTerminated
  split
  next e he =>
    split
    · exact h
    next hlive =>
      obtain ⟨hpos, -⟩ := ((h.slot key).counted e he).live (by simpa using hlive)
      refine coherent_project h ((Touches.entryMut r _).trans (.bumpEpoch _)) (entryMut_rest ..).1
        { e with tombstoneHolders := e.count, count := 0, state := .terminated cause lastError } he ?_ rfl ?_
      · rw [entry_bumpEpoch, entry_entryMut, if_pos rfl, he]; rfl
      · exact ⟨fun hl => by simp [SubscriptionEntry.isTombstone] at hl, fun _ => ⟨rfl, hpos⟩⟩
  · exact h

theorem driveUpdate_rest (fromStr : String → Option Decimal) (e : SubscriptionEntry) (isSnapshot : Bool) (data : Json) :
    ∃ builder, (e.driveUpdate fromStr isSnapshot data).1 = { e with builder } := by
  unfold SubscriptionEntry.driveUpdate
  split
  · exact ⟨e.builder, rfl⟩
  · split
    · exact ⟨none, rfl⟩
    · exact ⟨_, rfl⟩

/-- A change of the builder or of the sequence tracker is no business of the mirror's. -/
theorem Coherent.rebuild {r : SubscriptionRegistry} (h : Coherent r) (key : EntryKey)
    {f : SubscriptionEntry → SubscriptionEntry}
    (hf : ∀ e, ∃ builder seqTracker, f e = { e with builder, seqTracker }) : Coherent (r.entryMut key f) := by
  refine h.entryMut key fun e _ => ?_
  obtain ⟨builder, seqTracker, hfe⟩ := hf e
  rw [hfe]
  exact ⟨rfl, rfl, fun hc => ⟨hc.live, hc.tombstone⟩⟩

theorem coherent_handleUpdate (fromStr : String → Option Decimal) {r : SubscriptionRegistry} (h : Coherent r)
    (key : EntryKey) (isSnapshot : Bool) (data : Json) : Coherent (r.handleUpdate fromStr key isSnapshot data).1 := by
  unfold handleUpdate
  split
  · refine h.rebuild key fun e => ?_
    obtain ⟨builder, hb⟩ := driveUpdate_rest fromStr e isSnapshot data
    exact ⟨builder, e.seqTracker, hb⟩
  · exact h

theorem coherent_noteReseedTimeout {r : SubscriptionRegistry} (h : Coherent r) (channel : ChannelName)
    (pair : Symbol) : Coherent (r.noteReseedTimeout channel pair).1 := by
  unfold noteReseedTimeout
  split
  · exact h
  · split
    · exact h
    · split
      · exact h
      · split
        · exact h
        · split <;> exact h.rebuild _ fun e => ⟨_, _, rfl⟩

theorem coherent_noteSequence {r : SubscriptionRegistry} (h : Coherent r) (channel : ChannelName) (seq : Nat)
    (isSnapshot : Bool) : Coherent (r.noteSequence channel seq isSnapshot).1 := by
  unfold noteSequence
  split
  · exact h
  · exact h.rebuild _ fun e => ⟨_, _, rfl⟩

/-! ### Forced removal -/

theorem mem_sortByOrderKey {es : List SubscriptionEntry} {e : SubscriptionEntry} :
    e ∈ sortByOrderKey es ↔ e ∈ es := (List.mergeSort_perm _ _).mem_iff

/-- Erasing the rows of a list of entries. -/
theorem lookup_eraseAll (es : List SubscriptionEntry) (m : SubscriptionMirror) (key : EntryKey) :
    (es.foldl (fun m e => m.erase e.key) m).lookup key =
      if ∃ e ∈ es, e.key = key then none else m.lookup key := by
  induction es generalizing m with
  | nil => simp
  | cons e es ih =>
    rw [List.foldl_cons, ih, HashMap.lookup_erase_ite]
    by_cases hk : key = e.key
    · subst hk
      simp
    · have hk' : ¬ e.key = key := fun h => hk h.symm
      simp [hk, hk']

/-- When the maps lose exactly the removed entries, erasing their rows keeps the invariant. -/
theorem coherent_removeAll {r : SubscriptionRegistry} (h : Coherent r) (r' : SubscriptionRegistry) (removed : List SubscriptionEntry)
    (hmir : r'.mirror = r.mirror) (hlock : r'.mirrorPoisoned = r.mirrorPoisoned)
    (hbuckets : HashMap.NoEmptyBucket r'.entries)
    (hentry : ∀ key, r'.entry key = if ∃ e ∈ removed, e.key = key then none else r.entry key) :
    Coherent (r'.mirrorWrite fun m => (sortByOrderKey removed).foldl (fun m e => m.erase e.key) m) where
  slot key := by
    rw [mirror_mirrorWrite (hlock.trans h.lock), entry_mirrorWrite, lookup_eraseAll, hentry, hmir]
    simp only [mem_sortByOrderKey]
    split
    · exact slotOk_none key
    · exact h.slot key
  buckets := by unfold mirrorWrite; split <;> exact hbuckets
  lock := ((mirrorWrite_rest ..).1.trans hlock).trans h.lock

theorem mem_allEntries (r : SubscriptionRegistry) (e : SubscriptionEntry) :
    e ∈ r.allEntries ↔ ∃ key, r.entry key = some e := by
  simp only [allEntries, List.mem_append, HashMap.mem_values_iff, HashMap.mem_values₂_iff]
  constructor
  · rintro (⟨ch, h⟩ | ⟨ch, sym, h⟩)
    · exact ⟨(ch, none), h⟩
    · exact ⟨(ch, some sym), h⟩
  · rintro ⟨⟨ch, _ | sym⟩, h⟩
    · exact .inl ⟨ch, h⟩
    · exact .inr ⟨ch, sym, h⟩

/-- The entries of one channel, as `deregister_all(Some(channel))` collects them. -/
def channelEntries (r : SubscriptionRegistry) (ch : ChannelName) : List SubscriptionEntry :=
  (r.channelWide.lookup ch).toList ++ (r.entries.lookup ch).elim [] HashMap.values

theorem mem_channelEntries (r : SubscriptionRegistry) (ch : ChannelName) (e : SubscriptionEntry) :
    e ∈ r.channelEntries ch ↔ ∃ pair, r.entry (ch, pair) = some e := by
  simp only [channelEntries, List.mem_append, Option.mem_toList]
  constructor
  · rintro (h | h)
    · exact ⟨none, h⟩
    · cases hl : r.entries.lookup ch with
      | none => simp [hl] at h
      | some inner =>
        obtain ⟨sym, hs⟩ := (HashMap.mem_values_iff inner e).1 (by simpa [hl] using h)
        exact ⟨some sym, by simp only [entry, HashMap.lookup₂, hl, Option.bind_some, hs]⟩
  · rintro ⟨_ | sym, h⟩
    · exact .inl h
    · obtain ⟨inner, hl, hs⟩ := Option.bind_eq_some_iff.1 (show (r.entries.lookup ch).bind (·.lookup sym) = some e from h)
      exact .inr (by simpa [hl] using (HashMap.mem_values_iff inner e).2 ⟨sym, hs⟩)

theorem coherent_deregisterAll {r : SubscriptionRegistry} (h : Coherent r) (channel : Option ChannelName) :
    Coherent (r.deregisterAll channel).1 := by
  cases channel with
  | none =>
    refine coherent_removeAll h { r.bumpEpoch with channelWide := ∅, entries := ∅ } r.allEntries rfl rfl ?_ ?_
    · intro a inner hl; simp at hl
    · intro key
      have hnone : ({ r.bumpEpoch with channelWide := ∅, entries := ∅ } : SubscriptionRegistry).entry key = none := by
        obtain ⟨ch, _ | sym⟩ := key <;> rfl
      rw [hnone]
      split
      · rfl
      next hno =>
        cases hs : r.entry key with
        | none => rfl
        | some e => exact absurd ⟨e, (mem_allEntries r e).2 ⟨key, hs⟩, (h.slot key).keyed e hs⟩ hno
  | some ch =>
    refine coherent_removeAll h
      { r.bumpEpoch with channelWide := r.channelWide.erase ch, entries := r.entries.erase ch } (r.channelEntries ch) rfl rfl (h.buckets.erase ch) ?_
    intro key
    have hread : ({ r.bumpEpoch with channelWide := r.channelWide.erase ch, entries := r.entries.erase ch } :
        SubscriptionRegistry).entry key = if key.1 = ch then none else r.entry key := by
      obtain ⟨ch', _ | sym⟩ := key
      · simp only [entry, HashMap.lookup_erase_ite]
      · simp only [entry, HashMap.lookup₂, HashMap.lookup_erase_ite]
        split <;> rfl
    rw [hread]
    split
    next hch =>
      split
      · rfl
      next hno =>
        cases hs : r.entry key with
        | none => rfl
        | some e =>
          exact absurd ⟨e, (mem_channelEntries r ch e).2 ⟨key.2, by rw [← hch]; exact hs⟩, (h.slot key).keyed e hs⟩ hno
    next hch =>
      split
      next hex =>
        obtain ⟨e, he, hk⟩ := hex
        obtain ⟨pair, hp⟩ := (mem_channelEntries r ch e).1 he
        have := (h.slot (ch, pair)).keyed e hp
        exact absurd (by rw [← hk, this]) hch
      · rfl

/-! ## Every sequence of operations -/

end SubscriptionRegistry


/-- An operation of the reactor on the registry; what it is called with comes with it. -/
inductive RegistryOp where
  | register (url : WsUrl) (channel : ChannelName) (pair : Option Symbol) (params : SubscribeParams)
      (now : MonotonicInstant) (guardBacked : Bool)
  | release (key : EntryKey)
  | recordGuardRef (handlerId : HandlerId) (key : EntryKey)
  | releaseGuardRef (handlerId : HandlerId) (key : EntryKey)
  | deregister (key : EntryKey)
  | deregisterAll (channel : Option ChannelName)
  | noteAcked (key : EntryKey)
  | noteTerminated (key : EntryKey) (cause : TerminationCause) (lastError : Option String)
  | handleUpdate (key : EntryKey) (isSnapshot : Bool) (data : Json)
  | beginBookResync (channel : ChannelName) (pair : Symbol)
  | noteReseedTimeout (channel : ChannelName) (pair : Symbol)
  | noteSequence (channel : ChannelName) (seq : Nat) (isSnapshot : Bool)

namespace SubscriptionRegistry

/-- Do one operation. -/
def apply (fromStr : String → Option Decimal) (r : SubscriptionRegistry) : RegistryOp → SubscriptionRegistry
  | .register url channel pair params now guardBacked => (r.register (.new url channel pair params) now guardBacked).1
  | .release key => (r.release key).1
  | .recordGuardRef handlerId key => r.recordGuardRef handlerId key
  | .releaseGuardRef handlerId key => (r.releaseGuardRef handlerId key).1
  | .deregister key => r.deregister key
  | .deregisterAll channel => (r.deregisterAll channel).1
  | .noteAcked key => r.noteAcked key
  | .noteTerminated key cause lastError => r.noteTerminated key cause lastError
  | .handleUpdate key isSnapshot data => (r.handleUpdate fromStr key isSnapshot data).1
  | .beginBookResync channel pair => r.beginBookResync channel pair
  | .noteReseedTimeout channel pair => (r.noteReseedTimeout channel pair).1
  | .noteSequence channel seq isSnapshot => (r.noteSequence channel seq isSnapshot).1

/-- A `register` finds the refcount of its key below `u32::MAX`. -/
def RefcountBelowMax (r : SubscriptionRegistry) : RegistryOp → Prop
  | .register _ channel pair _ _ _ => ∀ e, r.entry (channel, pair) = some e → e.count < u32Max
  | _ => True

theorem coherent_new : Coherent new where
  slot key := by
    obtain ⟨ch, _ | sym⟩ := key <;> exact slotOk_none _
  buckets := fun _ _ hl => by simp [new] at hl
  lock := rfl

/-- Every operation keeps the invariant. -/
theorem coherent_apply (fromStr : String → Option Decimal) (r : SubscriptionRegistry) (op : RegistryOp)
    (h : Coherent r) (hmax : RefcountBelowMax r op) : Coherent (r.apply fromStr op) := by
  cases op with
  | register url channel pair params now guardBacked => exact coherent_register h ⟨rfl, rfl, rfl⟩ now guardBacked hmax
  | release key => exact coherent_releaseInner h key true
  | recordGuardRef handlerId key => exact coherent_recordGuardRef h handlerId key
  | releaseGuardRef handlerId key => exact coherent_releaseGuardRef h handlerId key
  | deregister key => exact h.deregister (.refl key r)
  | deregisterAll channel => exact coherent_deregisterAll h channel
  | noteAcked key => exact coherent_noteAcked h key
  | noteTerminated key cause lastError => exact coherent_noteTerminated h key cause lastError
  | handleUpdate key isSnapshot data => exact coherent_handleUpdate fromStr h key isSnapshot data
  | beginBookResync channel pair => exact h.rebuild _ fun e => ⟨_, e.seqTracker, rfl⟩
  | noteReseedTimeout channel pair => exact coherent_noteReseedTimeout h channel pair
  | noteSequence channel seq isSnapshot => exact coherent_noteSequence h channel seq isSnapshot

/-- **The mirror and the registry agree after every sequence of operations**, the refcounts are those of
live entries and tombstones, and no channel bucket is empty. -/
theorem registry_coherent (fromStr : String → Option Decimal) {r : SubscriptionRegistry}
    (h : Reach (apply fromStr) RefcountBelowMax new r) : Coherent r :=
  h.invariant coherent_new fun r op => coherent_apply fromStr r op

/-- Two holders, a terminal reject, a revival, the stale guard drop, and the forced teardown. -/
def revivedRun : List RegistryOp :=
  [.register .publicUrl .status none .status 1 false, .register .publicUrl .status none .status 2 true,
    .recordGuardRef 7 (.status, none), .noteTerminated (.status, none) .nonTransientWireRejection none,
    .register .publicUrl .status none .status 3 false, .noteAcked (.status, none),
    .releaseGuardRef 7 (.status, none), .deregisterAll none]

theorem registry_coherent_revivedRun : Coherent (exec (apply fun _ => none) new revivedRun) :=
  registry_coherent (fun _ => none) (Reach.exec (by
    refine ⟨?_, ?_, trivial, trivial, ?_, trivial, trivial, trivial, trivial⟩ <;> intro e he
    · exact absurd he (by simp [new, entry])
    · obtain rfl := Option.some.inj he; decide
    · obtain rfl := Option.some.inj he; decide))

end SubscriptionRegistry

end KrakenSdk.Conn
