import KrakenSdk.Lib.StepSystem
import KrakenSdk.Conn.Holders
import KrakenSdk.Conn.Registry
/-!
# The registry's accounting refines the holder model

One key is registered, released, dropped by its guards and rejected in any order and any number of times,
over any number of lifetimes. `Refines` relates what the registry holds for the key to the holders behind
it; it is kept as long as the counters fit their machine words (`Fits`), and `accounting_refines` reads
off it what the accounting sweep checks (subscription_registry_sweep_tests.rs:106) on its short sequences.
-/
namespace KrakenSdk.Conn

open StepSystem

/-- What a registration on the key is called with, apart from the key. -/
structure RegisterCall where
  url : WsUrl
  params : SubscribeParams
  now : MonotonicInstant

/-- An operation of a holder on the key, or a terminal reject of it. -/
inductive HolderOp where
  | registerBare (call : RegisterCall)
  | registerGuard (id : HandlerId) (call : RegisterCall)
  /-- A matched bare release: of an outstanding hold that joined lifetime `joined`. -/
  | releaseBare (joined : Nat)
  | strayRelease
  | dropGuard (id : HandlerId)
  | terminate (cause : TerminationCause) (lastError : Option String)

/-- The holder model's step. -/
def Holders.step (m : Holders) : HolderOp → Holders
  | .registerBare _ => m.registerBare
  | .registerGuard id _ => m.registerGuard id
  | .releaseBare joined => m.releaseBare joined
  | .strayRelease => m.strayRelease
  | .dropGuard id => m.dropGuard id
  | .terminate _ _ => m.terminate

/-- What the holder can do: a new guard has a fresh id, a matched release has a hold behind it, and a guard is
dropped while it is held. -/
def Holders.Enabled (m : Holders) : HolderOp → Prop
  | .registerGuard id _ => id ∉ m.guards.map Prod.fst
  | .releaseBare joined => joined ∈ m.bareHolds
  | .dropGuard id => id ∈ m.guards.map Prod.fst
  | _ => True

theorem Holders.wellFormed_step {m : Holders} (h : m.WellFormed) {op : HolderOp} (hen : m.Enabled op) :
    (m.step op).WellFormed := by
  cases op with
  | registerBare _ => exact wellFormed_registerBare h
  | registerGuard id _ => exact wellFormed_registerGuard h hen
  | releaseBare joined => exact wellFormed_releaseBare h hen
  | strayRelease => exact wellFormed_strayRelease h
  | dropGuard id => exact wellFormed_dropGuard h id
  | terminate _ _ => exact wellFormed_terminate h

/-- The counters fit their `u32` and the registrations their `u64`. -/
structure Holders.Fits (m : Holders) : Prop where
  owed : m.owed ≤ u32Max
  credits : m.earned - m.spent ≤ u32Max
  registrations : m.registrations < 2 ^ 64

namespace SubscriptionRegistry

/-- The registry's side of a step. -/
def holderStep (key : EntryKey) (r : SubscriptionRegistry) : HolderOp → SubscriptionRegistry
  | .registerBare call => (r.register (.new call.url key.1 key.2 call.params) call.now false).1
  | .registerGuard id call =>
    (r.register (.new call.url key.1 key.2 call.params) call.now true).1.recordGuardRef id key
  | .releaseBare _ => (r.release key).1
  | .strayRelease => (r.release key).1
  | .dropGuard id => (r.releaseGuardRef id key).1
  | .terminate cause lastError => r.noteTerminated key cause lastError

/-! ## The refinement relation -/

/-- What an entry holds for the holders `m` of its key. -/
structure EntryRefines (e : SubscriptionEntry) (m : Holders) : Prop where
  generation : e.generation = m.lifetime
  tombstone : e.isTombstone = decide (m.phase = .tombstone)
  count : e.count = if m.phase = .tombstone then 0 else m.owed
  tombstoneHolders : e.tombstoneHolders = if m.phase = .tombstone then m.owed else 0
  credits : e.staleReleaseCredits = m.earned - m.spent

/-- The registry's state for `key` is that of the holders `m`. -/
structure Refines (key : EntryKey) (r : SubscriptionRegistry) (m : Holders) : Prop where
  absent : r.entry key = none ↔ m.phase = .absent
  entry : ∀ e, r.entry key = some e → EntryRefines e m
  /-- A guard-ref row for every guard still held, with the lifetime it was registered in. -/
  rows : ∀ id g, r.guardRefs.lookup (id, key) = some g ↔ (id, g) ∈ m.guards
  nextGeneration : r.nextGeneration = m.registrations

theorem EntryRefines.holders {e : SubscriptionEntry} {m : Holders} (h : EntryRefines e m) : e.holders = m.owed := by
  unfold SubscriptionEntry.holders
  rw [h.tombstone, h.count, h.tombstoneHolders]
  by_cases hp : m.phase = .tombstone <;> simp [hp]

theorem Refines.some_of_present {key : EntryKey} {r : SubscriptionRegistry} {m : Holders} (h : Refines key r m)
    (hp : m.phase ≠ .absent) : ∃ e, r.entry key = some e ∧ EntryRefines e m := by
  cases he : r.entry key with
  | none => exact absurd (h.absent.1 he) hp
  | some e => exact ⟨e, rfl, h.entry e he⟩

/-- The guard refs counted at a lifetime are its guards. -/
theorem Refines.guardRefsAt {key : EntryKey} {r : SubscriptionRegistry} {m : Holders} (h : Refines key r m)
    (hw : m.WellFormed) {g : Nat} (hg : m.guardsOf g ≤ u32Max) : r.guardRefsAt key g = m.guardsOf g := by
  have hnd : (m.guards.map fun p => ((p.1, key), p.2)).Nodup := by
    refine (List.Nodup.of_map _ hw.ids).map fun a b hab => ?_
    simpa [Prod.ext_iff] using hab
  have hcount := HashMap.countP_entries r.guardRefs (P := fun a v => a.2 = key ∧ v = g) hnd (by
    rintro ⟨id, k⟩ v ⟨rfl, rfl⟩
    rw [h.rows]
    simp)
  have hmap : (m.guards.map fun p => ((p.1, key), p.2)).countP (fun row => row.1.2 = key ∧ row.2 = g) = m.guardsOf g := by
    rw [List.countP_map]
    exact List.countP_congr fun p _ => by simp
  unfold SubscriptionRegistry.guardRefsAt
  rw [hcount, hmap]
  exact Nat.mod_eq_of_lt (by simp only [u32Max] at hg; omega)

theorem guardsOf_le_owed (m : Holders) : m.guardsOf m.lifetime ≤ m.owed := Nat.le_add_left _ _

/-! ## Registration -/

theorem owed_join {m : Holders} (hw : m.WellFormed) (guardBacked : Bool) (hp : m.phase ≠ .live) :
    (m.join guardBacked).owed = 0 := by
  have hn := hw.guardsOf_next
  cases h : m.phase with
  | live => exact absurd h hp
  | absent => simpa [Holders.join, h, Holders.owed, Holders.guardsOf] using hn
  | tombstone => simpa [Holders.join, h, Holders.owed, Holders.guardsOf] using hn

/-- The entry `register` leaves counts one holder more than the lifetime it joined or began. -/
structure RegisteredOver (e : SubscriptionEntry) (m' : Holders) : Prop where
  generation : e.generation = m'.lifetime
  live : e.isTombstone = false
  count : e.count = m'.owed + 1
  tombstoneHolders : e.tombstoneHolders = 0
  credits : e.staleReleaseCredits = m'.earned - m'.spent

theorem inc64_eq {n : Nat} (h : n + 1 < 2 ^ 64) : inc64 n = n + 1 := Nat.mod_eq_of_lt h

theorem registered_over {key : EntryKey} {r : SubscriptionRegistry} {m : Holders} (h : Refines key r m)
    (hw : m.WellFormed) (hf : m.Fits) (entry : SubscriptionEntry) (hkey : entry.key = key)
    (hnew : entry.state = .pending ∧ entry.count = 1 ∧ entry.tombstoneHolders = 0 ∧ entry.staleReleaseCredits = 0)
    (guardBacked : Bool) (howed : (m.join guardBacked).owed + 1 ≤ u32Max)
    (hcred : (m.join guardBacked).earned - (m.join guardBacked).spent ≤ u32Max) (hreg : m.registrations + 1 < 2 ^ 64) :
    RegisteredOver (r.registered entry guardBacked) (m.join guardBacked) := by
  subst hkey
  have hgen : inc64 r.nextGeneration = m.registrations + 1 := by rw [h.nextGeneration, inc64_eq hreg]
  have hspent := hw.spent_le
  unfold registered
  cases hp : m.phase with
  | absent =>
    obtain ⟨hst, hone, hth, hcr⟩ := hnew
    have hz := owed_join hw guardBacked (by simp [hp])
    rw [h.absent.2 hp]
    simp only [Holders.join, hp] at hz ⊢
    exact ⟨hgen, by simp [SubscriptionEntry.isTombstone, hst], by simp only [hone, hz], hth, hcr⟩
  | live =>
    obtain ⟨e, he, hr⟩ := h.some_of_present (by simp [hp])
    have hpos := hw.present (by simp [hp])
    have hcount : e.count = m.owed := by rw [hr.count, if_neg (by simp [hp])]
    rw [he]
    simp only [Holders.join, hp] at howed ⊢
    have hinc : inc32 e.count = m.owed + 1 := by rw [hcount]; exact inc32_of_lt howed
    rw [if_neg (by omega)]
    refine ⟨hr.generation, ?_, hinc, ?_, hr.credits⟩
    · exact hr.tombstone.trans (by simp [hp])
    · exact hr.tombstoneHolders.trans (by simp [hp])
  | tombstone =>
    obtain ⟨e, he, hr⟩ := h.some_of_present (by simp [hp])
    have hz := owed_join hw guardBacked (by simp [hp])
    have hcount : e.count = 0 := by rw [hr.count, if_pos hp]
    have hrefs : r.guardRefsAt entry.key e.generation = m.guardsOf m.lifetime := by
      rw [hr.generation, h.guardRefsAt hw ((guardsOf_le_owed m).trans hf.owed)]
    have hth : e.tombstoneHolders = m.owed := by rw [hr.tombstoneHolders, if_pos hp]
    rw [he]
    simp only [Holders.join, hp] at hcred hz ⊢
    rw [if_pos hcount]
    refine ⟨hgen, rfl, ?_, rfl, ?_⟩
    · simp only [hcount, hz]; rfl
    · simp only [hth, hrefs, hr.credits, satAdd32]
      simp only [Holders.revivalCredits] at hcred ⊢
      omega

/-- With the new holder entered, the entry is the model's. -/
theorem RegisteredOver.refines {e : SubscriptionEntry} {j m' : Holders} (h : RegisteredOver e j)
    (hlife : m'.lifetime = j.lifetime) (hphase : m'.phase = .live) (howed : m'.owed = j.owed + 1)
    (hcred : m'.earned - m'.spent = j.earned - j.spent) : EntryRefines e m' where
  generation := h.generation.trans hlife.symm
  tombstone := h.live.trans (by simp [hphase])
  count := by rw [hphase, if_neg (by decide), howed, h.count]
  tombstoneHolders := h.tombstoneHolders.trans (by simp [hphase])
  credits := h.credits.trans hcred.symm

theorem registrations_join (m : Holders) (guardBacked : Bool) :
    (m.join guardBacked).registrations = m.registrations + 1 := by
  unfold Holders.join
  split <;> rfl

theorem refines_registerBare {key : EntryKey} {r : SubscriptionRegistry} {m : Holders} (h : Refines key r m)
    (hw : m.WellFormed) (hf : m.Fits) (hf' : m.registerBare.Fits) (call : RegisterCall) :
    Refines key (r.holderStep key (.registerBare call)) m.registerBare := by
  have hj := Holders.joined_join hw false
  have howed : m.registerBare.owed = (m.join false).owed + 1 := Nat.add_right_comm _ _ _
  have hreg : m.registrations + 1 < 2 ^ 64 := registrations_join m false ▸ hf'.registrations
  have hover := registered_over h hw hf (.new call.url key.1 key.2 call.params) rfl ⟨rfl, rfl, rfl, rfl⟩ false
    (howed ▸ hf'.owed) hf'.credits hreg
  obtain ⟨hrefs, hnext⟩ := register_rest r (.new call.url key.1 key.2 call.params) call.now false
  have hentry := (entry_register r (.new call.url key.1 key.2 call.params) call.now false key).trans (if_pos rfl)
  refine ⟨?_, fun e he => ?_, fun id g => ?_, ?_⟩
  · exact ⟨fun hn => (Option.some_ne_none _ (hentry.symm.trans hn)).elim,
      fun ha => (Phase.noConfusion (hj.phase.symm.trans ha))⟩
  · obtain rfl := Option.some.inj (hentry.symm.trans he)
    exact hover.refines rfl hj.phase howed rfl
  · have hguards : m.registerBare.guards = m.guards := hj.guards
    rw [hguards, ← h.rows, ← hrefs]
    rfl
  · have hreg' : m.registerBare.registrations = m.registrations + 1 := registrations_join m false
    rw [hreg', ← inc64_eq hreg, ← h.nextGeneration]
    exact hnext

theorem recordGuardRef_rest (r : SubscriptionRegistry) (id : HandlerId) (key key' : EntryKey) :
    (r.recordGuardRef id key).entry key' = r.entry key' ∧ (r.recordGuardRef id key).nextGeneration = r.nextGeneration := by
  unfold recordGuardRef
  split <;> exact ⟨rfl, rfl⟩

theorem refines_registerGuard {key : EntryKey} {r : SubscriptionRegistry} {m : Holders} (h : Refines key r m)
    (hw : m.WellFormed) (hf : m.Fits) {id : HandlerId} (hid : id ∉ m.guards.map Prod.fst)
    (hf' : (m.registerGuard id).Fits) (call : RegisterCall) :
    Refines key (r.holderStep key (.registerGuard id call)) (m.registerGuard id) := by
  have hj := Holders.joined_join hw true
  have howed : (m.registerGuard id).owed = (m.join true).owed + 1 := by
    unfold Holders.owed Holders.guardsOf
    rw [hj.guards]
    simp only [Holders.registerGuard, List.countP_append, List.countP_singleton, decide_true, if_true, Nat.add_assoc]
    rfl
  have hreg : m.registrations + 1 < 2 ^ 64 := registrations_join m true ▸ hf'.registrations
  have hover := registered_over h hw hf (.new call.url key.1 key.2 call.params) rfl ⟨rfl, rfl, rfl, rfl⟩ true
    (howed ▸ hf'.owed) hf'.credits hreg
  obtain ⟨hrefs, hnext⟩ := register_rest r (.new call.url key.1 key.2 call.params) call.now true
  have hentry := (entry_register r (.new call.url key.1 key.2 call.params) call.now true key).trans (if_pos rfl)
  change Refines key ((r.register (.new call.url key.1 key.2 call.params) call.now true).1.recordGuardRef id key) _
  generalize (r.register (.new call.url key.1 key.2 call.params) call.now true).1 = r' at hrefs hnext hentry
  obtain ⟨hrec, hrec'⟩ := recordGuardRef_rest r' id key key
  have hrow : (r'.recordGuardRef id key).guardRefs = r.guardRefs.insert (id, key) (m.join true).lifetime := by
    rw [recordGuardRef, hentry, ← hrefs, ← hover.generation]
  refine ⟨?_, fun e he => ?_, fun id' g => ?_, ?_⟩
  · rw [hrec, hentry]
    exact ⟨fun hn => (Option.some_ne_none _ hn).elim, fun ha => Phase.noConfusion (hj.phase.symm.trans ha)⟩
  · obtain rfl := Option.some.inj ((hrec.trans hentry).symm.trans he)
    exact hover.refines rfl hj.phase howed rfl
  · rw [hrow, HashMap.lookup_insert_ite]
    simp only [Holders.registerGuard, List.mem_append, List.mem_singleton, Prod.mk.injEq, and_true]
    split
    next hi =>
      subst hi
      have hnot : (id', g) ∉ m.guards := fun hm => hid (List.mem_map.2 ⟨_, hm, rfl⟩)
      simp only [hnot, Option.some.injEq, true_and, false_or]
      exact eq_comm
    next hi => simp only [h.rows, hi, false_and, or_false]
  · have hreg' : (m.registerGuard id).registrations = m.registrations + 1 := registrations_join m true
    rw [hrec', hnext, hreg', h.nextGeneration, inc64_eq hreg]

/-! ## Release -/

/-- One holder of the lifetime has gone from both sides. -/
theorem refines_settle {key : EntryKey} {r' : SubscriptionRegistry} {m m' : Holders} {e : SubscriptionEntry}
    (hr : EntryRefines e m) (he' : r'.entry key = if e.holders - 1 = 0 then none else some e.releaseOne)
    (hrows : ∀ id g, r'.guardRefs.lookup (id, key) = some g ↔ (id, g) ∈ m'.guards)
    (hnext : r'.nextGeneration = m'.registrations) (hlife : m'.lifetime = m.lifetime) (hphase : m'.phase = m.phase)
    (hp : m.phase ≠ .absent) (hcred : m'.earned - m'.spent = m.earned - m.spent) (howed : m'.owed + 1 = m.owed) :
    Refines key r' m'.settle := by
  have hhold : e.holders - 1 = m'.owed := by rw [hr.holders]; omega
  rw [hhold] at he'
  unfold Holders.settle
  split
  next h0 =>
    rw [if_pos h0] at he'
    exact ⟨⟨fun _ => rfl, fun _ => he'⟩, fun e'' h'' => by simp [he'] at h'', hrows, hnext⟩
  next h0 =>
    rw [if_neg h0] at he'
    refine ⟨⟨fun hn => by simp [he'] at hn, fun ha => absurd (hphase.symm.trans ha) hp⟩, fun e'' h'' => ?_, hrows, hnext⟩
    obtain rfl := Option.some.inj (he'.symm.trans h'')
    have ht := hr.tombstone
    by_cases hq : m.phase = .tombstone
    · have ht' : e.isTombstone = true := by rw [ht]; simpa using hq
      simp only [SubscriptionEntry.releaseOne, ht', if_true]
      refine ⟨hr.generation.trans hlife.symm, ?_, ?_, ?_, hr.credits.trans hcred.symm⟩
      · exact ht.trans (by rw [hphase])
      · rw [hphase, if_pos hq]; exact hr.count.trans (if_pos hq)
      · rw [hphase, if_pos hq]; simp only [hr.tombstoneHolders, if_pos hq]; omega
    · have ht' : e.isTombstone = false := by rw [ht]; simpa using hq
      simp only [SubscriptionEntry.releaseOne, ht']
      refine ⟨hr.generation.trans hlife.symm, ?_, ?_, ?_, hr.credits.trans hcred.symm⟩
      · exact ht.trans (by rw [hphase])
      · rw [hphase, if_neg hq]; simp only [hr.count, if_neg hq]; simp only [Bool.false_eq_true, if_false]; omega
      · rw [hphase, if_neg hq]; exact hr.tombstoneHolders.trans (if_neg hq)

/-- A release leaves the guard refs and what is left of the relation to the slot alone. -/
theorem refines_charge {key : EntryKey} {r : SubscriptionRegistry} {m : Holders} (h : Refines key r m)
    (hw : m.WellFormed) (hf : m.Fits) (bareHolds : List Nat) (foreign : Bool) :
    Refines key (r.release key).1 (Holders.charge { m with bareHolds } foreign) := by
  obtain ⟨hrefs, hnext⟩ := releaseInner_rest r key true
  have hentry := entry_releaseInner r key true
  have hrows : ∀ id g, (r.release key).1.guardRefs.lookup (id, key) = some g ↔ (id, g) ∈ m.guards := by
    intro id g
    rw [release, hrefs]
    exact h.rows id g
  have hgen : (r.release key).1.nextGeneration = m.registrations := hnext.trans h.nextGeneration
  change (r.release key).1.entry key = _ at hentry
  by_cases hp : m.phase = .absent
  · -- a missing key: nothing on either side
    obtain ⟨h0, he, hs⟩ := hw.absent hp
    have hb : m.bareSlots = 0 := Nat.eq_zero_of_add_eq_zero_right h0
    rw [h.absent.2 hp, Option.bind_none] at hentry
    unfold Holders.charge
    rw [if_neg (by simp only [he, hs]; omega), if_pos hb]
    exact ⟨⟨fun _ => hp, fun _ => hentry⟩, fun e' he' => by simp [hentry] at he', hrows, hgen⟩
  · obtain ⟨e, he, hr⟩ := h.some_of_present hp
    have hbare : e.holders - r.guardRefsAt key e.generation = m.bareSlots := by
      rw [hr.holders, hr.generation, h.guardRefsAt hw ((guardsOf_le_owed m).trans hf.owed), Holders.owed]
      omega
    rw [he, Option.bind_some, released, hbare, hr.credits] at hentry
    simp only [true_and] at hentry
    unfold Holders.charge
    dsimp only
    split
    next hcr =>
      rw [if_pos (by omega)] at hentry
      refine ⟨⟨fun hn => by simp [hentry] at hn, fun ha => absurd ha hp⟩, fun e' he' => ?_, hrows, hgen⟩
      obtain rfl := Option.some.inj (hentry.symm.trans he')
      refine ⟨hr.generation, hr.tombstone, hr.count, hr.tombstoneHolders, ?_⟩
      simp only; omega
    next hcr =>
      rw [if_neg (by omega)] at hentry
      split
      next hb =>
        rw [if_pos hb] at hentry
        refine ⟨⟨fun hn => by simp [hentry] at hn, fun ha => absurd ha hp⟩, fun e' he' => ?_, hrows, hgen⟩
        obtain rfl := Option.some.inj (hentry.symm.trans he')
        exact ⟨hr.generation, hr.tombstone, hr.count, hr.tombstoneHolders, hr.credits⟩
      next hb =>
        rw [if_neg hb] at hentry
        refine refines_settle hr hentry hrows hgen rfl rfl hp rfl ?_
        simp only [Holders.owed, Holders.guardsOf]; omega

/-! ## Guard drop and terminal reject -/

theorem find_of_mem_ids {guards : List (HandlerId × Nat)} {id : HandlerId} (h : id ∈ guards.map Prod.fst) :
    ∃ joined, guards.find? (·.1 = id) = some (id, joined) := by
  obtain ⟨p, hp, rfl⟩ := List.mem_map.1 h
  cases hf : guards.find? (·.1 = p.1) with
  | none => exact absurd (List.find?_eq_none.1 hf p hp) (by simp)
  | some q =>
    obtain ⟨i, joined⟩ := q
    obtain rfl : i = p.1 := by simpa using List.find?_some hf
    exact ⟨joined, rfl⟩

/-- The guard of a key that is gone. -/
theorem releaseGuardRef_of_none {r : SubscriptionRegistry} {key : EntryKey} (id : HandlerId) (he : r.entry key = none) :
    r.releaseGuardRef id key = { r with guardRefs := r.guardRefs.erase (id, key) }.releaseInner key false := by
  have hread : { r with guardRefs := r.guardRefs.erase (id, key) }.entry key = none := he
  unfold releaseGuardRef
  dsimp only
  rw [hread]
  cases r.guardRefs.lookup (id, key) <;> rfl

theorem releaseGuardRef_of_some {r : SubscriptionRegistry} {key : EntryKey} {e : SubscriptionEntry} {id : HandlerId}
    {joined : Nat} (he : r.entry key = some e) (hrec : r.guardRefs.lookup (id, key) = some joined) :
    r.releaseGuardRef id key =
      if joined ≠ e.generation then ({ r with guardRefs := r.guardRefs.erase (id, key) }, e.count)
      else { r with guardRefs := r.guardRefs.erase (id, key) }.releaseInner key false := by
  have hread : { r with guardRefs := r.guardRefs.erase (id, key) }.entry key = some e := he
  unfold releaseGuardRef
  rw [hrec]
  dsimp only
  rw [hread]

theorem refines_dropGuard {key : EntryKey} {r : SubscriptionRegistry} {m : Holders} (h : Refines key r m)
    (hw : m.WellFormed) {id : HandlerId} (hid : id ∈ m.guards.map Prod.fst) :
    Refines key (r.releaseGuardRef id key).1 (m.dropGuard id) := by
  obtain ⟨joined, hf⟩ := find_of_mem_ids hid
  have hmem : (id, joined) ∈ m.guards := Holders.mem_of_find_id hf
  have hrec : r.guardRefs.lookup (id, key) = some joined := (h.rows id joined).2 hmem
  have hdrop := Holders.countP_drop hw.ids hmem m.lifetime
  -- the registry with the row of the guard gone
  let r₁ : SubscriptionRegistry := { r with guardRefs := r.guardRefs.erase (id, key) }
  have hread : r₁.entry key = r.entry key := rfl
  have hrows : ∀ id' g, r₁.guardRefs.lookup (id', key) = some g ↔ (id', g) ∈ m.guards.filter (·.1 ≠ id) := by
    intro id' g
    rw [HashMap.lookup_erase_ite]
    by_cases hi : id' = id
    · subst hi; simp
    · simp [hi, h.rows]
  obtain ⟨hrefs, hnext⟩ := releaseInner_rest r₁ key false
  have hentry := entry_releaseInner r₁ key false
  rw [hread] at hentry
  unfold Holders.dropGuard
  rw [hf]
  dsimp only
  by_cases hp : m.phase = .absent
  · -- the key is gone: the drop takes its row and nothing else
    have he := h.absent.2 hp
    rw [he, Option.bind_none] at hentry
    have hrun : r.releaseGuardRef id key = r₁.releaseInner key false := releaseGuardRef_of_none id he
    rw [hrun, if_neg (fun hn => hn.1 hp)]
    exact ⟨⟨fun _ => hp, fun _ => hentry⟩, fun e' he' => by simp [hentry] at he', fun id' g => by rw [hrefs]; exact hrows id' g,
      hnext.trans h.nextGeneration⟩
  · obtain ⟨e, he, hr⟩ := h.some_of_present hp
    have hrun : r.releaseGuardRef id key =
        if joined ≠ e.generation then (r₁, e.count) else r₁.releaseInner key false := releaseGuardRef_of_some he hrec
    rw [hrun]
    by_cases hj : joined = m.lifetime
    · rw [if_neg (by rw [hr.generation]; exact not_not.2 hj), if_pos ⟨hp, hj⟩]
      rw [he, Option.bind_some, released, if_neg (by simp), if_neg (by simp)] at hentry
      refine refines_settle hr hentry (fun id' g => by rw [hrefs]; exact hrows id' g) (hnext.trans h.nextGeneration)
        rfl rfl hp rfl ?_
      rw [if_pos hj] at hdrop
      simp only [Holders.owed, Holders.guardsOf]; omega
    · rw [if_pos (by rw [hr.generation]; exact hj), if_neg (fun hn => hj hn.2)]
      rw [if_neg hj, Nat.add_zero] at hdrop
      have howed : ({ m with guards := m.guards.filter (·.1 ≠ id) } : Holders).owed = m.owed := by
        simp only [Holders.owed, Holders.guardsOf]; omega
      refine ⟨⟨fun hn => by simp [hread, he] at hn, fun ha => absurd ha hp⟩, fun e' he' => ?_, hrows, h.nextGeneration⟩
      obtain rfl := Option.some.inj ((hread.trans he).symm.trans he')
      exact ⟨hr.generation, hr.tombstone, howed ▸ hr.count, howed ▸ hr.tombstoneHolders, hr.credits⟩

theorem noteTerminated_rest (r : SubscriptionRegistry) (key : EntryKey) (cause : TerminationCause)
    (lastError : Option String) :
    (r.noteTerminated key cause lastError).guardRefs = r.guardRefs ∧
      (r.noteTerminated key cause lastError).nextGeneration = r.nextGeneration := by
  unfold noteTerminated
  split
  · split
    · exact ⟨rfl, rfl⟩
    · exact ⟨(mirrorWrite_rest ..).2.1.trans (entryMut_rest ..).2.2.1,
        (mirrorWrite_rest ..).2.2.trans (entryMut_rest ..).2.2.2⟩
  · exact ⟨rfl, rfl⟩

theorem refines_terminate {key : EntryKey} {r : SubscriptionRegistry} {m : Holders} (h : Refines key r m)
    (cause : TerminationCause) (lastError : Option String) :
    Refines key (r.noteTerminated key cause lastError) m.terminate := by
  obtain ⟨hrefs, hnext⟩ := noteTerminated_rest r key cause lastError
  by_cases hp : m.phase = .live
  · obtain ⟨e, he, hr⟩ := h.some_of_present (by simp [hp])
    have hlive : e.isTombstone = false := hr.tombstone.trans (by simp [hp])
    have hcount : e.count = m.owed := hr.count.trans (if_neg (by simp [hp]))
    have hentry : (r.noteTerminated key cause lastError).entry key =
        some { e with tombstoneHolders := e.count, count := 0, state := .terminated cause lastError } := by
      rw [noteTerminated, he]
      simp [hlive, he]
    rw [Holders.terminate, if_pos hp]
    refine ⟨⟨fun hn => by simp [hentry] at hn, fun ha => by simp at ha⟩, fun e' he' => ?_, fun id g => ?_, ?_⟩
    · obtain rfl := Option.some.inj (hentry.symm.trans he')
      exact ⟨hr.generation, rfl, rfl, hcount, hr.credits⟩
    · rw [hrefs]; exact h.rows id g
    · exact hnext.trans h.nextGeneration
  · have hsame : r.noteTerminated key cause lastError = r := by
      unfold noteTerminated
      cases he : r.entry key with
      | none => rfl
      | some e =>
        have hpres : m.phase ≠ .absent := fun ha => by simp [h.absent.2 ha] at he
        have htomb : m.phase = .tombstone := by cases hq : m.phase <;> simp_all
        have ht : e.isTombstone = true := (h.entry e he).tombstone.trans (by simp [htomb])
        simp [ht]
    rw [hsame, Holders.terminate, if_neg hp]
    exact h

/-! ## Every sequence of operations -/

/-- The registry and the holders behind the key, step by step. -/
def bothStep (key : EntryKey) (s : SubscriptionRegistry × Holders) (op : HolderOp) : SubscriptionRegistry × Holders :=
  (s.1.holderStep key op, s.2.step op)

/-- A step a holder can take, after which the counters fit. -/
def CanStep (s : SubscriptionRegistry × Holders) (op : HolderOp) : Prop := s.2.Enabled op ∧ (s.2.step op).Fits

theorem refines_new (key : EntryKey) : Refines key new {} where
  absent := by obtain ⟨ch, _ | sym⟩ := key <;> exact ⟨fun _ => rfl, fun _ => rfl⟩
  entry e he := by obtain ⟨ch, _ | sym⟩ := key <;> simp [new, entry, HashMap.lookup₂] at he
  rows id g := by simp [new]
  nextGeneration := rfl

/-- One step keeps the relation. -/
theorem refines_step {key : EntryKey} {r : SubscriptionRegistry} {m : Holders} (h : Refines key r m)
    (hw : m.WellFormed) (hf : m.Fits) {op : HolderOp} (hen : m.Enabled op) (hf' : (m.step op).Fits) :
    Refines key (r.holderStep key op) (m.step op) := by
  cases op with
  | registerBare call => exact refines_registerBare h hw hf hf' call
  | registerGuard id call => exact refines_registerGuard h hw hf hen hf' call
  | releaseBare joined => exact refines_charge h hw hf _ _
  | strayRelease => exact refines_charge h hw hf _ _
  | dropGuard id => exact refines_dropGuard h hw hen
  | terminate cause lastError => exact refines_terminate h cause lastError

/-- What the accounting says of the holders of `key`. -/
structure Accounted (key : EntryKey) (r : SubscriptionRegistry) (m : Holders) : Prop where
  /-- The key is removed behind nobody's back: no guard of the removed lifetime is still held, and no bare
  hold of it is, unless a stray or cross-lifetime release took its slot. -/
  absent : r.entry key = none →
    (∀ p ∈ m.guards, p.2 ≠ m.lifetime) ∧ (m.misattributed = true ∨ m.lifetime ∉ m.bareHolds)
  lifetime : ∀ e, r.entry key = some e → e.generation = m.lifetime
  /-- A tombstone counts the guards of its lifetime still held and its bare slots not yet released. -/
  tombstone : ∀ e, r.entry key = some e → e.isTombstone = true →
    e.tombstoneHolders = m.bareSlots + m.guardsOf m.lifetime
  /-- While no slot has gone to a stray, there is a slot for every bare hold of the lifetime. -/
  slotted : m.misattributed = false → m.bareHolds.count m.lifetime ≤ m.bareSlots
  /-- The credits are what the revivals added less what releases consumed. -/
  credits : ∀ e, r.entry key = some e → e.staleReleaseCredits = m.earned - m.spent
  /-- The guard refs of the key are the guards still held, with the lifetime each joined. -/
  guardRefs : ∀ id g, r.guardRefs.lookup (id, key) = some g ↔ (id, g) ∈ m.guards

theorem Refines.accounted {key : EntryKey} {r : SubscriptionRegistry} {m : Holders} (h : Refines key r m)
    (hw : m.WellFormed) : Accounted key r m where
  absent hn := by
    obtain ⟨h0, -⟩ := hw.absent (h.absent.1 hn)
    have hg : m.guardsOf m.lifetime = 0 := Nat.eq_zero_of_add_eq_zero_left h0
    have hb : m.bareSlots = 0 := Nat.eq_zero_of_add_eq_zero_right h0
    refine ⟨fun p hp => by simpa using List.countP_eq_zero.1 hg p hp, ?_⟩
    cases hm : m.misattributed with
    | true => exact .inl rfl
    | false =>
      have := hw.slotted hm
      exact .inr (List.count_eq_zero.1 (by simp only [Holders.ownBareHolds] at this; omega))
  lifetime e he := (h.entry e he).generation
  tombstone e he ht := by
    have hr := h.entry e he
    have hp : m.phase = .tombstone := by simpa using hr.tombstone.symm.trans ht
    exact hr.tombstoneHolders.trans (if_pos hp)
  slotted := hw.slotted
  credits e he := (h.entry e he).credits
  guardRefs := h.rows

theorem fits_new : Holders.Fits {} := ⟨by simp [Holders.owed, Holders.guardsOf], by simp, by simp⟩

/-- What every state of a run satisfies. -/
def RefinesInv (key : EntryKey) (s : SubscriptionRegistry × Holders) : Prop :=
  Refines key s.1 s.2 ∧ s.2.WellFormed ∧ s.2.Fits

theorem refinesInv_new (key : EntryKey) : RefinesInv key (new, {}) :=
  ⟨refines_new key, Holders.wellFormed_new, fits_new⟩

theorem refinesInv_step {key : EntryKey} {s : SubscriptionRegistry × Holders} {op : HolderOp}
    (h : RefinesInv key s) (hop : CanStep s op) : RefinesInv key (bothStep key s op) := by
  obtain ⟨hr, hw, hf⟩ := h
  obtain ⟨hen, hf'⟩ := hop
  exact ⟨refines_step hr hw hf hen hf', Holders.wellFormed_step hw hen, hf'⟩

/-- **The accounting refines the holder model**: after any sequence of holder operations and terminal
rejects on a key, over any number of lifetimes, as long as the counters fit their words. -/
theorem accounting_refines (key : EntryKey) {s : SubscriptionRegistry × Holders}
    (h : Reach (bothStep key) CanStep (new, {}) s) : Accounted key s.1 s.2 := by
  obtain ⟨hr, hw, -⟩ := h.invariant (refinesInv_new key) fun _ _ => refinesInv_step
  exact hr.accounted hw

/-- The key the runs below are on. -/
def statusKey : EntryKey := (.status, none)

/-- A registration of `statusKey`. -/
def statusCall : RegisterCall := ⟨.publicUrl, .status, 0⟩

/-- A bare and a guard holder, a reject, a bare revival with its credit ledger, the stale guard drop, a release
charged to nothing, and the last release. -/
def twoLifetimes : List HolderOp :=
  [.registerBare statusCall, .registerBare statusCall, .registerGuard 7 statusCall, .terminate .clientClosed none,
    .registerBare statusCall, .dropGuard 7, .releaseBare 1, .registerGuard 8 statusCall, .strayRelease,
    .releaseBare 1, .dropGuard 8]

theorem accounting_refines_twoLifetimes :
    Accounted statusKey (exec (bothStep statusKey) (new, {}) twoLifetimes).1
      (exec (bothStep statusKey) (new, {}) twoLifetimes).2 :=
  accounting_refines statusKey (Reach.exec (by
    refine ⟨?_, ?_, ?_, ?_, ?_, ?_, ?_, ?_, ?_, ?_, ?_, trivial⟩ <;>
      exact ⟨by first | trivial | (simp only [Holders.Enabled]; decide), by decide, by decide, by decide⟩))

/-! ## Where a counter does not fit -/

/-- After `n` bare registrations the refcount is `n` as a `u32`. -/
structure BareRun (key : EntryKey) (n : Nat) (s : SubscriptionRegistry × Holders) : Prop where
  count : ∃ e, s.1.entry key = some e ∧ e.count = n % 2 ^ 32 ∧ e.isTombstone = false
  lifetime : s.2.lifetime = 1
  phase : s.2.phase = .live
  bareHolds : s.2.bareHolds = List.replicate n 1

theorem bareRun_one (key : EntryKey) (call : RegisterCall) : BareRun key 1 (bothStep key (new, {}) (.registerBare call)) := by
  refine ⟨?_, rfl, rfl, rfl⟩
  have hnone : (new : SubscriptionRegistry).entry key = none := (refines_new key).absent.2 rfl
  refine ⟨_, (entry_register new (.new call.url key.1 key.2 call.params) call.now false key).trans (if_pos rfl), ?_⟩
  have hslot : (new : SubscriptionRegistry).entry (SubscriptionEntry.new call.url key.1 key.2 call.params).key = none := hnone
  rw [registered, hslot]
  exact ⟨rfl, rfl⟩

theorem bareRun_succ {key : EntryKey} {n : Nat} {s : SubscriptionRegistry × Holders} (h : BareRun key n s)
    (h1 : 1 ≤ n) (h2 : n < 2 ^ 32) (call : RegisterCall) : BareRun key (n + 1) (bothStep key s (.registerBare call)) := by
  obtain ⟨⟨e, he, hc, ht⟩, hl, hp, hb⟩ := h
  rw [Nat.mod_eq_of_lt h2] at hc
  refine ⟨⟨_, (entry_register s.1 (.new call.url key.1 key.2 call.params) call.now false key).trans (if_pos rfl), ?_⟩,
    ?_, ?_, ?_⟩
  · have hslot : s.1.entry (SubscriptionEntry.new call.url key.1 key.2 call.params).key = some e := he
    rw [registered, hslot]
    dsimp only
    rw [if_neg (by omega)]
    exact ⟨by rw [hc]; rfl, ht⟩
  · simp [bothStep, Holders.step, Holders.registerBare, Holders.join, hp, hl]
  · simp [bothStep, Holders.step, Holders.registerBare, Holders.join, hp]
  · simp [bothStep, Holders.step, Holders.registerBare, Holders.join, hp, hl, hb, List.replicate_succ']

theorem bareRun (key : EntryKey) (call : RegisterCall) {n : Nat} (h1 : 1 ≤ n) (h2 : n ≤ 2 ^ 32) :
    BareRun key n (exec (bothStep key) (new, {}) (List.replicate n (.registerBare call))) := by
  induction n, h1 using Nat.le_induction with
  | base => exact bareRun_one key call
  | succ n h1 ih =>
    rw [List.replicate_succ', exec_append]
    exact bareRun_succ (ih (by omega)) h1 (by omega) call

/-- `n` bare subscribers, then a terminal reject. -/
def rejectedRun (n : Nat) : List HolderOp :=
  List.replicate n (.registerBare statusCall) ++ [.terminate .clientClosed none]

/-- The tombstone counts the `n` subscribers as a `u32`. -/
theorem rejectedRun_tombstone {n : Nat} (h1 : 1 ≤ n) (h2 : n ≤ 2 ^ 32) :
    ((exec (bothStep statusKey) (new, {}) (rejectedRun n)).1.entry statusKey).map
        (fun e => (e.isTombstone, e.tombstoneHolders)) = some (true, n % 2 ^ 32) ∧
      (exec (bothStep statusKey) (new, {}) (rejectedRun n)).2.ownBareHolds = n := by
  have h := bareRun statusKey statusCall h1 h2
  rw [rejectedRun, exec_append]
  generalize exec (bothStep statusKey) (new, {}) (List.replicate n (.registerBare statusCall)) = s at h
  obtain ⟨⟨e, he, hc, ht⟩, hl, hp, hb⟩ := h
  constructor
  · have hentry : (bothStep statusKey s (.terminate .clientClosed none)).1.entry statusKey =
        some { e with tombstoneHolders := e.count, count := 0, state := .terminated .clientClosed none } := by
      simp only [bothStep, holderStep, noteTerminated, he]
      simp [ht, he]
    simp only [exec_cons, exec_nil, hentry, Option.map_some, hc]
    rfl
  · simp only [exec_cons, exec_nil, bothStep, Holders.step, Holders.terminate, hp, if_true, Holders.ownBareHolds, hb,
      hl, List.count_replicate_self]

/-- Two subscribers, a terminal reject, and a release neither of them made. -/
def strayRun : List HolderOp :=
  [.registerBare statusCall, .registerBare statusCall, .terminate .clientClosed none, .strayRelease]

/-- With 2³² subscribers the tombstone counts no holder, and after `strayRun` it counts one while two bare holds of
its lifetime are outstanding. -/
theorem tombstoneCount_diverges :
    (((exec (bothStep statusKey) (new, {}) (rejectedRun (2 ^ 32))).1.entry statusKey).map
        (fun e => (e.isTombstone, e.tombstoneHolders)) = some (true, 0) ∧
      (exec (bothStep statusKey) (new, {}) (rejectedRun (2 ^ 32))).2.ownBareHolds = 2 ^ 32) ∧
    (((exec (bothStep statusKey) (new, {}) strayRun).1.entry statusKey).map
        (fun e => (e.isTombstone, e.tombstoneHolders)) = some (true, 1) ∧
      (exec (bothStep statusKey) (new, {}) strayRun).2.ownBareHolds = 2) := by
  have h := rejectedRun_tombstone (Nat.one_le_two_pow (n := 32)) (le_refl _)
  rw [Nat.mod_self] at h
  exact ⟨h, by decide, by decide⟩

end SubscriptionRegistry

end KrakenSdk.Conn
