import KrakenSdk.Conn.RegistryCoherence
/-!
# The live entries of the registry (conn/subscription_registry.rs)

Only `register` makes an entry live. Every other operation of the reactor leaves each slot as it was, empty, or
with an entry of the same key and URL that is no more live than before (`Shrinks`); and a release that answers 0
leaves no live entry at its key, unless the refcount had wrapped to 0.
-/
namespace KrakenSdk.Conn

open KrakenSdk.Book (Decimal)

/-- From `e` to `e'` the key and the URL stay, and nothing comes to life. -/
structure SubscriptionEntry.Wanes (e e' : SubscriptionEntry) : Prop where
  key : e'.key = e.key
  url : e'.url = e.url
  live : e'.isTombstone = false → e.isTombstone = false
  counted : e'.isTombstone = false → e.count ≠ 0 → e'.count ≠ 0

theorem SubscriptionEntry.Wanes.refl (e : SubscriptionEntry) : e.Wanes e := ⟨rfl, rfl, id, fun _ hc => hc⟩

theorem SubscriptionEntry.Wanes.trans {e e' e'' : SubscriptionEntry} (h : e.Wanes e') (h' : e'.Wanes e'') : e.Wanes e'' where
  key := h'.key.trans h.key
  url := h'.url.trans h.url
  live hl := h.live (h'.live hl)
  counted hl hc := h'.counted hl (h.counted (h'.live hl) hc)

namespace SubscriptionRegistry

/-- The key has a live entry routed to the URL. -/
def Live (r : SubscriptionRegistry) (url : WsUrl) (key : EntryKey) : Prop :=
  ∃ e, r.entry key = some e ∧ e.url = url ∧ e.isTombstone = false

/-- No live entry counts 0 holders: a refcount wraps after 2^32 registrations. -/
def Counted (r : SubscriptionRegistry) : Prop := ∀ key e, r.entry key = some e → e.isTombstone = false → e.count ≠ 0

/-- From `r` to `r'` every slot wanes. -/
def Shrinks (r r' : SubscriptionRegistry) : Prop :=
  ∀ key e', r'.entry key = some e' → ∃ e, r.entry key = some e ∧ e.Wanes e'

variable {r r' r'' : SubscriptionRegistry} {key : EntryKey}

theorem Shrinks.of_entry (h : ∀ key, r'.entry key = r.entry key) : Shrinks r r' :=
  fun key e' he => ⟨e', (h key).symm.trans he, .refl e'⟩

theorem Shrinks.refl (r : SubscriptionRegistry) : Shrinks r r := .of_entry fun _ => rfl

theorem Shrinks.trans (h : Shrinks r r') (h' : Shrinks r' r'') : Shrinks r r'' := by
  intro key e'' he''
  obtain ⟨e', he', hw'⟩ := h' key e'' he''
  obtain ⟨e, he, hw⟩ := h key e' he'
  exact ⟨e, he, hw.trans hw'⟩

theorem Live.of_shrinks {url : WsUrl} (h : Shrinks r r') (hl : r'.Live url key) : r.Live url key := by
  obtain ⟨e', he', hu, hlive⟩ := hl
  obtain ⟨e, he, hw⟩ := h key e' he'
  exact ⟨e, he, hw.url.symm.trans hu, hw.live hlive⟩

theorem Counted.of_shrinks (h : Shrinks r r') (hc : r.Counted) : r'.Counted := by
  intro key e' he' hlive
  obtain ⟨e, he, hw⟩ := h key e' he'
  exact hw.counted hlive (hc key e he (hw.live hlive))

theorem shrinks_entryMut {f : SubscriptionEntry → SubscriptionEntry} (hf : ∀ e, r.entry key = some e → e.Wanes (f e)) :
    Shrinks r (r.entryMut key f) := by
  intro key' e' he'
  rw [entry_entryMut] at he'
  split_ifs at he' with hk
  · subst hk
    obtain ⟨e, he, rfl⟩ := Option.map_eq_some_iff.1 he'
    exact ⟨e, he, hf e he⟩
  · exact ⟨e', he', .refl e'⟩

/-- The slot is emptied; nothing else has been touched. -/
theorem shrinks_deregister (h : ∀ key', key' ≠ key → r'.entry key' = r.entry key') : Shrinks r (r'.deregister key) := by
  intro key' e' he'
  rw [entry_deregister] at he'
  split_ifs at he' with hk
  exact ⟨e', (h key' hk).symm.trans he', .refl e'⟩

theorem shrinks_mirrorWrite (f : SubscriptionMirror → SubscriptionMirror) : Shrinks r (r.mirrorWrite f) :=
  .of_entry fun _ => entry_mirrorWrite ..

/-! ## Releases -/

theorem shrinks_releaseInner (r : SubscriptionRegistry) (key : EntryKey) (allowCredit : Bool) :
    Shrinks r (r.releaseInner key allowCredit).1 := by
  have hother : ∀ (t : SubscriptionRegistry) (f : SubscriptionEntry → SubscriptionEntry) key', key' ≠ key →
      (t.entryMut key f).entry key' = t.entry key' := by
    intro t f key' hk
    rw [entry_entryMut, if_neg hk]
  unfold releaseInner
  split
  · exact .refl r
  · rename_i e he
    split_ifs with hcredit hbare htomb hleft hleft
    · exact shrinks_entryMut fun e _ => ⟨rfl, rfl, id, fun _ hc => hc⟩
    · exact .refl r
    · exact shrinks_deregister (hother r _)
    · exact shrinks_entryMut fun e _ => ⟨rfl, rfl, id, fun _ hc => hc⟩
    · exact shrinks_deregister (hother r.bumpEpoch _)
    · refine shrinks_entryMut (r := r.bumpEpoch) fun e' he' => ⟨rfl, rfl, id, fun _ _ => ?_⟩
      obtain rfl := Option.some.inj (he.symm.trans he')
      exact hleft

theorem shrinks_releaseGuardRef (r : SubscriptionRegistry) (handlerId : HandlerId) (key : EntryKey) :
    Shrinks r (r.releaseGuardRef handlerId key).1 := by
  have hrefs : Shrinks r { r with guardRefs := r.guardRefs.erase (handlerId, key) } := .of_entry fun _ => rfl
  unfold releaseGuardRef
  dsimp only
  split
  · split_ifs
    · exact hrefs
    · exact hrefs.trans (shrinks_releaseInner _ _ _)
  · exact hrefs.trans (shrinks_releaseInner _ _ _)

/-- A release that answers 0 leaves nothing live. -/
theorem not_live_of_releaseInner {url : WsUrl} {allowCredit : Bool} (hc : r.Counted)
    (hz : (r.releaseInner key allowCredit).2 = 0) : ¬ (r.releaseInner key allowCredit).1.Live url key := by
  rintro ⟨e', he', -, hlive⟩
  rw [entry_releaseInner] at he'
  obtain ⟨e, he, hrel⟩ := Option.bind_eq_some_iff.1 he'
  unfold releaseInner at hz
  rw [he] at hz
  dsimp only at hz
  unfold released at hrel
  split_ifs at hrel with hcredit hbare hone
  · cases hrel
    rw [if_pos hcredit] at hz
    exact hc key e he hlive hz
  · cases hrel
    rw [if_neg hcredit, if_pos hbare] at hz
    exact hc key _ he hlive hz
  · cases hrel
    rw [if_neg hcredit, if_neg hbare] at hz
    have htomb : ¬ e.isTombstone = true := by
      intro htomb
      simp only [SubscriptionEntry.releaseOne, htomb, if_true] at hlive
      exact absurd (show e.isTombstone = false from hlive) (by simp [htomb])
    have hcount : e.count - 1 ≠ 0 := by simpa [SubscriptionEntry.holders, htomb] using hone
    rw [if_neg htomb, if_neg hcount] at hz
    exact hcount hz

theorem not_live_of_releaseGuardRef {url : WsUrl} {handlerId : HandlerId} (hc : r.Counted)
    (hz : (r.releaseGuardRef handlerId key).2 = 0) : ¬ (r.releaseGuardRef handlerId key).1.Live url key := by
  have hc' : Counted { r with guardRefs := r.guardRefs.erase (handlerId, key) } := hc
  unfold releaseGuardRef at hz ⊢
  dsimp only at hz ⊢
  split at hz
  · rename_i generation e hrec he
    split_ifs at hz ⊢ with hgen
    · rintro ⟨e', he', -, hlive⟩
      obtain rfl := Option.some.inj (he.symm.trans he')
      exact hc key e he hlive hz
    · exact not_live_of_releaseInner hc' hz
  · exact not_live_of_releaseInner hc' hz

/-! ## Forced removal -/

theorem entry_deregisterAll (r : SubscriptionRegistry) (channel : Option ChannelName) (key : EntryKey) :
    (r.deregisterAll channel).1.entry key = if ∀ ch, channel = some ch → key.1 = ch then none else r.entry key := by
  cases channel with
  | none =>
    have hnone : ({ r.bumpEpoch with channelWide := ∅, entries := ∅ } : SubscriptionRegistry).entry key = none := by
      obtain ⟨ch, _ | sym⟩ := key <;> rfl
    simp only [deregisterAll, entry_mirrorWrite, hnone]
    simp
  | some ch =>
    have hread : ({ r.bumpEpoch with channelWide := r.channelWide.erase ch, entries := r.entries.erase ch } :
        SubscriptionRegistry).entry key = if key.1 = ch then none else r.entry key := by
      obtain ⟨ch', _ | sym⟩ := key
      · simp only [entry, HashMap.lookup_erase_ite]
      · simp only [entry, HashMap.lookup₂, HashMap.lookup_erase_ite]
        split <;> rfl
    simp only [deregisterAll, entry_mirrorWrite]
    refine Eq.trans hread ?_
    simp

/-- What is removed was an entry of the channel. -/
theorem mem_deregisterAll {channel : Option ChannelName} {e : SubscriptionEntry} {kind : RemovedEntryKind}
    (h : (e, kind) ∈ (r.deregisterAll channel).2) :
    ∃ key, r.entry key = some e ∧ ∀ ch, channel = some ch → key.1 = ch := by
  cases channel with
  | none =>
    obtain ⟨e', he', heq⟩ := List.mem_map.1 h
    obtain rfl : e' = e := congrArg Prod.fst heq
    obtain ⟨key, hkey⟩ := (mem_allEntries r e').1 (mem_sortByOrderKey.1 he')
    exact ⟨key, hkey, nofun⟩
  | some ch =>
    obtain ⟨e', he', heq⟩ := List.mem_map.1 h
    obtain rfl : e' = e := congrArg Prod.fst heq
    obtain ⟨pair, hpair⟩ := (mem_channelEntries r ch e').1 (mem_sortByOrderKey.1 he')
    exact ⟨(ch, pair), hpair, fun _ hch => Option.some.inj hch⟩

theorem shrinks_deregisterAll (r : SubscriptionRegistry) (channel : Option ChannelName) :
    Shrinks r (r.deregisterAll channel).1 := by
  intro key e' he'
  rw [entry_deregisterAll] at he'
  split_ifs at he'
  exact ⟨e', he', .refl e'⟩

/-! ## Acks, rejects and data -/

theorem shrinks_noteAcked (r : SubscriptionRegistry) (key : EntryKey) : Shrinks r (r.noteAcked key) := by
  unfold noteAcked
  split
  · rename_i e he
    split_ifs with hp
    · refine Shrinks.trans (shrinks_entryMut fun e' he' => ?_) (shrinks_mirrorWrite _)
      obtain rfl := Option.some.inj (he.symm.trans he')
      exact ⟨rfl, rfl, fun _ => by simp [SubscriptionEntry.isTombstone, hp], fun _ hc => hc⟩
    · exact .refl r
  · exact .refl r

theorem shrinks_noteTerminated (r : SubscriptionRegistry) (key : EntryKey) (cause : TerminationCause)
    (lastError : Option String) : Shrinks r (r.noteTerminated key cause lastError) := by
  unfold noteTerminated
  split
  · split_ifs
    · exact .refl r
    · have hterm : Shrinks r (r.entryMut key fun e =>
          { e with tombstoneHolders := e.count, count := 0, state := .terminated cause lastError }) :=
        shrinks_entryMut fun e _ => ⟨rfl, rfl, nofun, nofun⟩
      exact hterm.trans (.trans (.of_entry fun _ => entry_bumpEpoch ..) (shrinks_mirrorWrite _))
  · exact .refl r

/-- A rejected entry is live no more. -/
theorem not_live_noteTerminated {url : WsUrl} {cause : TerminationCause} {lastError : Option String} :
    ¬ (r.noteTerminated key cause lastError).Live url key := by
  rintro ⟨e, he, -, hlive⟩
  unfold noteTerminated at he
  split at he
  · rename_i e₀ he₀
    split_ifs at he with htomb
    · obtain rfl := Option.some.inj (he₀.symm.trans he)
      simp [htomb] at hlive
    · rw [entry_mirrorWrite, entry_bumpEpoch, entry_entryMut, if_pos rfl, he₀] at he
      cases he
      cases hlive
  · rename_i hnone
    rw [hnone] at he
    cases he

/-- A change of the builder or of the sequence tracker. -/
theorem shrinks_rebuild {f : SubscriptionEntry → SubscriptionEntry}
    (hf : ∀ e, ∃ builder seqTracker, f e = { e with builder, seqTracker }) : Shrinks r (r.entryMut key f) := by
  refine shrinks_entryMut fun e _ => ?_
  obtain ⟨builder, seqTracker, he⟩ := hf e
  rw [he]
  exact ⟨rfl, rfl, id, fun _ hc => hc⟩

theorem shrinks_handleUpdate (fromStr : String → Option Decimal) (r : SubscriptionRegistry) (key : EntryKey)
    (isSnapshot : Bool) (data : Json) : Shrinks r (r.handleUpdate fromStr key isSnapshot data).1 := by
  unfold handleUpdate
  split
  · refine shrinks_rebuild fun e => ?_
    obtain ⟨builder, h⟩ := driveUpdate_rest fromStr e isSnapshot data
    exact ⟨builder, e.seqTracker, h⟩
  · exact .refl r

theorem shrinks_noteSequence (r : SubscriptionRegistry) (channel : ChannelName) (seq : Nat) (isSnapshot : Bool) :
    Shrinks r (r.noteSequence channel seq isSnapshot).1 := by
  unfold noteSequence
  split
  · exact .refl r
  · exact shrinks_rebuild fun e => ⟨e.builder, _, rfl⟩

theorem shrinks_beginBookResync (r : SubscriptionRegistry) (channel : ChannelName) (pair : Symbol) :
    Shrinks r (r.beginBookResync channel pair) :=
  shrinks_rebuild fun e => ⟨_, e.seqTracker, rfl⟩

theorem shrinks_noteReseedTimeout (r : SubscriptionRegistry) (channel : ChannelName) (pair : Symbol) :
    Shrinks r (r.noteReseedTimeout channel pair).1 := by
  unfold noteReseedTimeout
  split
  · exact .refl r
  · split_ifs
    · exact .refl r
    · split
      · exact .refl r
      · split_ifs
        · exact .refl r
        · exact shrinks_rebuild fun e => ⟨_, e.seqTracker, rfl⟩
        · exact shrinks_rebuild fun e => ⟨_, e.seqTracker, rfl⟩

end SubscriptionRegistry

end KrakenSdk.Conn
