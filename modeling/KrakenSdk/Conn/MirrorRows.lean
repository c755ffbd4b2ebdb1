import KrakenSdk.Conn.LiveEntries
/-!
# The mirror row of every slot (conn/subscription_registry.rs)

`Coherent` speaks of holders as well, and a refcount that wraps breaks that part. What a reader of the mirror
sees does not depend on it: after every sequence of operations the row of a key shows the state of its entry
(`shown_run`).
-/
namespace KrakenSdk.Conn

open KrakenSdk.Book (Decimal)
open StepSystem

namespace SubscriptionRegistry

/-- The row of one key shows the state of its slot. -/
structure SlotShown (key : EntryKey) (row : Option MirrorRow) (slot : Option SubscriptionEntry) : Prop where
  mirrored : row.map (·.state) = slot.map (·.state)
  keyed : ∀ e, slot = some e → e.key = key
  fits : ∀ e, slot = some e → e.count ≤ u32Max

/-- Every row does. -/
structure Shown (r : SubscriptionRegistry) : Prop where
  slot : ∀ key, SlotShown key (r.mirror.lookup key) (r.entry key)
  lock : r.mirrorPoisoned = false

theorem slotShown_none (key : EntryKey) : SlotShown key none none := ⟨rfl, by simp, by simp⟩

theorem shown_new : Shown new where
  slot key := by
    obtain ⟨ch, _ | sym⟩ := key <;> exact slotShown_none _
  lock := rfl

variable {r r' : SubscriptionRegistry} {key : EntryKey}

theorem Shown.of_touches (h : Shown r) (ht : Touches key r r')
    (hs : SlotShown key (r'.mirror.lookup key) (r'.entry key)) : Shown r' where
  slot key' := by
    by_cases hk : key' = key
    · exact hk ▸ hs
    · rw [ht.entry key' hk, ht.row key' hk]
      exact h.slot key'
  lock := ht.lock.trans h.lock

/-- An in-place change that shows nothing new. -/
theorem Shown.entryMut (h : Shown r) (key : EntryKey) {f : SubscriptionEntry → SubscriptionEntry}
    (hf : ∀ e, r.entry key = some e → (f e).state = e.state ∧ (f e).key = e.key ∧ (f e).count ≤ e.count) :
    Shown (r.entryMut key f) := by
  refine h.of_touches (.entryMut r f) ?_
  obtain ⟨hrow, hkey, hfits⟩ := h.slot key
  rw [(entryMut_rest r key f).1, entry_entryMut, if_pos rfl]
  cases hs : r.entry key with
  | none => exact ⟨by rw [hrow, hs]; rfl, by simp, by simp⟩
  | some e =>
    obtain ⟨h1, h2, h3⟩ := hf e hs
    refine ⟨by rw [hrow, hs]; simp [h1], ?_, ?_⟩
    · rintro e' he'
      obtain rfl := Option.some.inj he'
      exact h2.trans (hkey e hs)
    · rintro e' he'
      obtain rfl := Option.some.inj he'
      exact h3.trans (hfits e hs)

theorem Shown.rebuild (h : Shown r) (key : EntryKey) {f : SubscriptionEntry → SubscriptionEntry}
    (hf : ∀ e, ∃ builder seqTracker, f e = { e with builder, seqTracker }) : Shown (r.entryMut key f) := by
  refine h.entryMut key fun e _ => ?_
  obtain ⟨builder, seqTracker, hfe⟩ := hf e
  rw [hfe]
  exact ⟨rfl, rfl, le_rfl⟩

theorem Shown.deregister (h : Shown r) (ht : Touches key r r') : Shown (r'.deregister key) := by
  refine h.of_touches (ht.trans (.deregister r')) ?_
  have hlock : (r'.bumpEpoch.removeEntry key).mirrorPoisoned = false :=
    ((removeEntry_rest r'.bumpEpoch key).2.1.trans ht.lock).trans h.lock
  rw [entry_deregister, if_pos rfl, SubscriptionRegistry.deregister, mirror_mirrorWrite hlock, AList.lookup_erase]
  exact slotShown_none key

/-- A state change written to the row as well. -/
theorem Shown.project (h : Shown r) (ht : Touches key r r') (hmir : r'.mirror = r.mirror) {e : SubscriptionEntry}
    (e' : SubscriptionEntry) (he : r.entry key = some e) (he' : r'.entry key = some e') (hkey : e'.key = e.key) (hcount : e'.count ≤ e.count) :
    Shown (r'.mirrorWrite (projectState · key e'.state)) := by
  refine h.of_touches (ht.trans (.mirrorWrite _ fun m _ hk => projectState_ne m _ hk)) ?_
  rw [mirror_mirrorWrite (ht.lock.trans h.lock), hmir, entry_mirrorWrite, he']
  obtain ⟨hrow, hkeyed, hfits⟩ := h.slot key
  refine ⟨?_, ?_, ?_⟩
  · rw [projectState_self]
    rw [he] at hrow
    cases hm : r.mirror.lookup key with
    | none => simp [hm] at hrow
    | some row => rfl
  · rintro x hx
    obtain rfl := Option.some.inj hx
    exact hkey.trans (hkeyed e he)
  · rintro x hx
    obtain rfl := Option.some.inj hx
    exact hcount.trans (hfits e he)

/-! ## The operations -/

/-- The row a registration writes is that of an entry it made `Pending`; past a wrap it writes none. -/
theorem slotShown_registered (h : Shown r) {entry : SubscriptionEntry} (hnew : entry.state = .pending ∧ entry.count = 1)
    (guardBacked : Bool) (row : MirrorRow) (hrow : row.state = .pending) :
    SlotShown entry.key
      (if (r.registered entry guardBacked).count = 1 then some row else r.mirror.lookup entry.key)
      (some (r.registered entry guardBacked)) := by
  obtain ⟨hst, hone⟩ := hnew
  obtain ⟨hr, hkey, hfits⟩ := h.slot entry.key
  refine ⟨?_, ?_, ?_⟩
  · unfold registered
    cases hs : r.entry entry.key with
    | none => simp [hone, hst, hrow]
    | some e =>
      rw [hs] at hr
      by_cases hc : e.count = 0
      · simp [hc, inc32, hrow]
      · have hlt := hfits e hs
        have hne : inc32 e.count ≠ 1 := by
          simp only [inc32, u32Max] at hlt ⊢
          omega
        simp only [hc, if_false, Option.map_some]
        rw [if_neg hne, hr]
        rfl
  · rintro e he
    exact Option.some.inj he ▸ registered_key r entry guardBacked hkey
  · rintro e he
    obtain rfl := Option.some.inj he
    have hinc : ∀ n, inc32 n ≤ u32Max := fun n => by
      simp only [inc32, u32Max]
      omega
    unfold registered
    split
    · exact hone.trans_le (by decide)
    · split
      · exact hinc _
      · exact hinc _

theorem shown_register (h : Shown r) {entry : SubscriptionEntry} (hnew : entry.state = .pending ∧ entry.count = 1)
    (now : MonotonicInstant) (guardBacked : Bool) : Shown (r.register entry now guardBacked).1 := by
  refine h.of_touches (touches_register ..) ?_
  have hs := slotShown_registered h hnew guardBacked ⟨.pending, now⟩ rfl
  obtain ⟨hmir, hlock, -⟩ := registerEntry_rest r entry guardBacked
  rw [entry_register, if_pos rfl]
  simp only [register, registerEntry_count]
  split
  next hc =>
    rw [mirror_mirrorWrite (hlock.trans h.lock), AList.lookup_insert]
    rwa [if_pos hc] at hs
  next hc =>
    rw [hmir]
    rwa [if_neg hc] at hs

theorem shown_releaseInner (h : Shown r) (key : EntryKey) (allowCredit : Bool) :
    Shown (r.releaseInner key allowCredit).1 := by
  have hless : ∀ e : SubscriptionEntry, e.count - 1 ≤ e.count := fun e => Nat.sub_le _ _
  unfold releaseInner
  split
  · exact h
  · split
    · exact h.entryMut key fun e _ => ⟨rfl, rfl, le_rfl⟩
    split
    · exact h
    split
    · dsimp only
      split
      · exact h.deregister (.entryMut r _)
      · exact h.entryMut key fun e _ => ⟨rfl, rfl, le_rfl⟩
    · dsimp only
      split
      · exact h.deregister ((Touches.bumpEpoch r).trans (.entryMut _ _))
      · exact Shown.entryMut (h.of_touches (.bumpEpoch r) (h.slot key)) key fun e _ => ⟨rfl, rfl, hless e⟩

theorem shown_guardRefs (h : Shown r) (refs : HashMap (HandlerId × EntryKey) Nat) : Shown { r with guardRefs := refs } :=
  ⟨h.slot, h.lock⟩

theorem shown_recordGuardRef (h : Shown r) (handlerId : HandlerId) (key : EntryKey) :
    Shown (r.recordGuardRef handlerId key) := by
  unfold recordGuardRef
  split
  · exact shown_guardRefs h _
  · exact h

theorem shown_releaseGuardRef (h : Shown r) (handlerId : HandlerId) (key : EntryKey) :
    Shown (r.releaseGuardRef handlerId key).1 := by
  have h' := shown_guardRefs h (r.guardRefs.erase (handlerId, key))
  unfold releaseGuardRef
  dsimp only
  split
  · split
    · exact h'
    · exact shown_releaseInner h' key false
  · exact shown_releaseInner h' key false

theorem shown_noteAcked (h : Shown r) (key : EntryKey) : Shown (r.noteAcked key) := by
  unfold noteAcked
  split
  next e he =>
    split
    · refine h.project (.entryMut r _) (entryMut_rest ..).1 { e with state := .acked } he ?_ rfl le_rfl
      rw [entry_entryMut, if_pos rfl, he]
      rfl
    · exact h
  · exact h

theorem shown_noteTerminated (h : Shown r) (key : EntryKey) (cause : TerminationCause) (lastError : Option String) :
    Shown (r.noteTerminated key cause lastError) := by
  unfold noteTerminated
  split
  next e he =>
    split
    · exact h
    · refine h.project ((Touches.entryMut r _).trans (.bumpEpoch _)) (entryMut_rest ..).1
        { e with tombstoneHolders := e.count, count := 0, state := .terminated cause lastError } he ?_ rfl (Nat.zero_le _)
      rw [entry_bumpEpoch, entry_entryMut, if_pos rfl, he]
      rfl
  · exact h

theorem shown_handleUpdate (fromStr : String → Option Decimal) (h : Shown r) (key : EntryKey) (isSnapshot : Bool)
    (data : Json) : Shown (r.handleUpdate fromStr key isSnapshot data).1 := by
  unfold handleUpdate
  split
  · refine h.rebuild key fun e => ?_
    obtain ⟨builder, hb⟩ := driveUpdate_rest fromStr e isSnapshot data
    exact ⟨builder, e.seqTracker, hb⟩
  · exact h

theorem shown_noteReseedTimeout (h : Shown r) (channel : ChannelName) (pair : Symbol) :
    Shown (r.noteReseedTimeout channel pair).1 := by
  unfold noteReseedTimeout
  split
  · exact h
  · split
    · exact h
    · split
      · exact h
      · split
        · exact h
        · split
          · exact h.rebuild _ fun e => ⟨_, _, rfl⟩
          · exact h.rebuild _ fun e => ⟨_, _, rfl⟩

theorem shown_noteSequence (h : Shown r) (channel : ChannelName) (seq : Nat) (isSnapshot : Bool) :
    Shown (r.noteSequence channel seq isSnapshot).1 := by
  unfold noteSequence
  split
  · exact h
  · exact h.rebuild _ fun e => ⟨_, _, rfl⟩

theorem mem_removed {channel : Option ChannelName} {e : SubscriptionEntry} (he : r.entry key = some e)
    (hch : ∀ ch, channel = some ch → key.1 = ch) : e ∈ (r.deregisterAll channel).2.map (·.1) := by
  cases channel with
  | none =>
    refine List.mem_map.2 ⟨(e, e.removedKind), List.mem_map.2 ⟨e, ?_, rfl⟩, rfl⟩
    exact mem_sortByOrderKey.2 ((mem_allEntries r e).2 ⟨key, he⟩)
  | some ch =>
    obtain ⟨ch', pair⟩ := key
    obtain rfl : ch' = ch := hch ch rfl
    refine List.mem_map.2 ⟨(e, e.removedKind), List.mem_map.2 ⟨e, ?_, rfl⟩, rfl⟩
    exact mem_sortByOrderKey.2 ((mem_channelEntries r ch' e).2 ⟨pair, he⟩)

/-- What is removed has the keys of the channel, each with its row. -/
theorem shown_deregisterAll (h : Shown r) (channel : Option ChannelName) : Shown (r.deregisterAll channel).1 := by
  have hmirror : (r.deregisterAll channel).1.mirror =
      ((r.deregisterAll channel).2.map (·.1)).foldl (fun m e => m.erase e.key) r.mirror := by
    cases channel with
    | none =>
      simp only [deregisterAll, List.map_map]
      rw [mirror_mirrorWrite (by exact h.lock)]
      simp [Function.comp_def, bumpEpoch]
    | some ch =>
      simp only [deregisterAll, List.map_map]
      rw [mirror_mirrorWrite (by exact h.lock)]
      simp [Function.comp_def, bumpEpoch]
  have hlock : (r.deregisterAll channel).1.mirrorPoisoned = false := by
    cases channel <;> exact (mirrorWrite_rest ..).1.trans h.lock
  refine ⟨fun key => ?_, hlock⟩
  rw [hmirror, entry_deregisterAll, lookup_eraseAll]
  by_cases hch : ∀ ch, channel = some ch → key.1 = ch
  · have hnone : (if ∃ e ∈ (r.deregisterAll channel).2.map (·.1), e.key = key then none else r.mirror.lookup key) = none := by
      split_ifs with hex
      · rfl
      · have hslot : r.entry key = none := by
          by_contra hne
          obtain ⟨e, he⟩ := Option.ne_none_iff_exists'.1 hne
          exact hex ⟨e, mem_removed he hch, (h.slot key).keyed e he⟩
        have hrow := (h.slot key).mirrored
        rw [hslot] at hrow
        simpa using hrow
    rw [if_pos hch, hnone]
    exact slotShown_none key
  · have hno : ¬ ∃ e ∈ (r.deregisterAll channel).2.map (·.1), e.key = key := by
      rintro ⟨e, he, rfl⟩
      obtain ⟨⟨e', kind⟩, he', rfl⟩ := List.mem_map.1 he
      obtain ⟨key', hkey', hch'⟩ := mem_deregisterAll he'
      exact hch ((h.slot key').keyed e' hkey' ▸ hch')
    rw [if_neg hch, if_neg hno]
    exact h.slot key

/-! ## Every sequence of operations -/

/-- What any operations make of a registry. -/
abbrev OpRun (r r' : SubscriptionRegistry) : Prop :=
  Reach (fun r (op : (String → Option Decimal) × RegistryOp) => r.apply op.1 op.2) anyStep r r'

theorem shown_apply (fromStr : String → Option Decimal) (h : Shown r) (op : RegistryOp) : Shown (r.apply fromStr op) := by
  cases op with
  | register url channel pair params now guardBacked => exact shown_register h ⟨rfl, rfl⟩ now guardBacked
  | release key => exact shown_releaseInner h key true
  | recordGuardRef handlerId key => exact shown_recordGuardRef h handlerId key
  | releaseGuardRef handlerId key => exact shown_releaseGuardRef h handlerId key
  | deregister key => exact h.deregister (.refl key r)
  | deregisterAll channel => exact shown_deregisterAll h channel
  | noteAcked key => exact shown_noteAcked h key
  | noteTerminated key cause lastError => exact shown_noteTerminated h key cause lastError
  | handleUpdate key isSnapshot data => exact shown_handleUpdate fromStr h key isSnapshot data
  | beginBookResync channel pair => exact h.rebuild _ fun e => ⟨_, e.seqTracker, rfl⟩
  | noteReseedTimeout channel pair => exact shown_noteReseedTimeout h channel pair
  | noteSequence channel seq isSnapshot => exact shown_noteSequence h channel seq isSnapshot

/-- Every row shows the state of its entry, however often a refcount wrapped. -/
theorem shown_run (h : OpRun new r) : Shown r := h.invariant shown_new fun _ op h _ => shown_apply op.1 h op.2

end SubscriptionRegistry

end KrakenSdk.Conn
