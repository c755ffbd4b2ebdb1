import KrakenSdk.Conn.LiveEntries
/-!
# The liveness epoch (conn/subscription_registry.rs:302, dispatch/io_reactor/mod.rs:169-192)

`has_url_entry` asks for a live entry among all entries, and the reactor caches the answer for the auth connection.
It asks again when `liveness_epoch` has moved. Every operation moves the epoch by as many steps as it bumps it, at
most two, and one that does not bump it leaves the live entries as they were (`EpochMoves`). The epoch is a `u64`
that wraps.
-/
namespace KrakenSdk.Conn

open KrakenSdk.Book (Decimal)
open StepSystem

namespace SubscriptionRegistry

variable {r r' r'' : SubscriptionRegistry} {key : EntryKey}

theorem hasUrlEntry_iff (r : SubscriptionRegistry) (url : WsUrl) : r.hasUrlEntry url = true ↔ ∃ key, r.Live url key := by
  unfold hasUrlEntry Live
  rw [List.any_eq_true]
  constructor
  · rintro ⟨e, hmem, he⟩
    obtain ⟨key, hkey⟩ := (mem_allEntries r e).1 hmem
    obtain ⟨hu, hlive⟩ := of_decide_eq_true he
    exact ⟨key, e, hkey, hu, by simpa using hlive⟩
  · rintro ⟨key, e, hkey, hu, hlive⟩
    exact ⟨e, (mem_allEntries r e).2 ⟨key, hkey⟩, by simp [hu, hlive]⟩

/-! ## What leaves the epoch alone -/

theorem livenessEpoch_putEntry (r : SubscriptionRegistry) (key : EntryKey) (e : SubscriptionEntry) :
    (r.putEntry key e).livenessEpoch = r.livenessEpoch := by
  obtain ⟨ch, _ | sym⟩ := key <;> rfl

theorem livenessEpoch_removeEntry (r : SubscriptionRegistry) (key : EntryKey) :
    (r.removeEntry key).livenessEpoch = r.livenessEpoch := by
  obtain ⟨ch, _ | sym⟩ := key <;> rfl

theorem livenessEpoch_entryMut (r : SubscriptionRegistry) (key : EntryKey) (f : SubscriptionEntry → SubscriptionEntry) :
    (r.entryMut key f).livenessEpoch = r.livenessEpoch := by
  unfold entryMut
  split
  · exact livenessEpoch_putEntry _ _ _
  · rfl

theorem livenessEpoch_mirrorWrite (r : SubscriptionRegistry) (f : SubscriptionMirror → SubscriptionMirror) :
    (r.mirrorWrite f).livenessEpoch = r.livenessEpoch := by
  unfold mirrorWrite
  split_ifs <;> rfl

theorem livenessEpoch_register (r : SubscriptionRegistry) (entry : SubscriptionEntry) (now : MonotonicInstant)
    (guardBacked : Bool) : (r.register entry now guardBacked).1.livenessEpoch = inc64 r.livenessEpoch := by
  have hcredit : ∀ (r : SubscriptionRegistry) key revived, (r.creditRevival key revived guardBacked).livenessEpoch =
      r.livenessEpoch := by
    intro r key revived
    unfold creditRevival
    split
    · rfl
    · exact livenessEpoch_entryMut _ _ _
  have hentry : (r.registerEntry entry guardBacked).1.livenessEpoch = inc64 r.livenessEpoch :=
    (hcredit _ _ _).trans (livenessEpoch_putEntry _ _ _)
  unfold register
  dsimp only
  split_ifs
  · exact (livenessEpoch_mirrorWrite _ _).trans hentry
  · exact hentry

theorem livenessEpoch_deregister (r : SubscriptionRegistry) (key : EntryKey) :
    (r.deregister key).livenessEpoch = inc64 r.livenessEpoch :=
  (livenessEpoch_mirrorWrite _ _).trans (livenessEpoch_removeEntry _ _)

/-! ## How far an operation moves it -/

/-- From `r` to `r'` the epoch is bumped `k` times, and if it is not, the live entries stay. -/
structure EpochMoves (r r' : SubscriptionRegistry) (k : Nat) : Prop where
  epoch : r'.livenessEpoch = inc64^[k] r.livenessEpoch
  quiet : k = 0 → ∀ url key, r'.Live url key ↔ r.Live url key

theorem EpochMoves.refl (r : SubscriptionRegistry) : EpochMoves r r 0 := ⟨rfl, fun _ _ _ => Iff.rfl⟩

theorem EpochMoves.trans {k k' : Nat} (h : EpochMoves r r' k) (h' : EpochMoves r' r'' k') :
    EpochMoves r r'' (k' + k) where
  epoch := by rw [Function.iterate_add_apply, ← h.epoch, h'.epoch]
  quiet hk url key := (h'.quiet (by omega) url key).trans (h.quiet (by omega) url key)

/-- A bump covers every change. -/
theorem EpochMoves.of_bump (h : r'.livenessEpoch = inc64 r.livenessEpoch) : EpochMoves r r' 1 := ⟨h, nofun⟩

/-- A change in place that keeps the URL and whether the entry is a tombstone. -/
theorem EpochMoves.entryMut {f : SubscriptionEntry → SubscriptionEntry}
    (hf : ∀ e, r.entry key = some e → (f e).url = e.url ∧ (f e).isTombstone = e.isTombstone) :
    EpochMoves r (r.entryMut key f) 0 := by
  refine ⟨livenessEpoch_entryMut r key f, fun _ url key' => ?_⟩
  unfold Live
  rw [entry_entryMut]
  by_cases hk : key' = key
  · subst hk
    rw [if_pos rfl]
    constructor
    · rintro ⟨e', he', hu, hlive⟩
      obtain ⟨e, he, rfl⟩ := Option.map_eq_some_iff.1 he'
      obtain ⟨hurl, htomb⟩ := hf e he
      exact ⟨e, he, hurl ▸ hu, htomb ▸ hlive⟩
    · rintro ⟨e, he, hu, hlive⟩
      obtain ⟨hurl, htomb⟩ := hf e he
      exact ⟨f e, by rw [he]; rfl, hurl.trans hu, htomb.trans hlive⟩
  · rw [if_neg hk]

theorem EpochMoves.mirrorWrite (r : SubscriptionRegistry) (f : SubscriptionMirror → SubscriptionMirror) :
    EpochMoves r (r.mirrorWrite f) 0 := by
  refine ⟨livenessEpoch_mirrorWrite r f, fun _ url key => ?_⟩
  unfold Live
  rw [entry_mirrorWrite]

/-- A release bumps once when the refcount goes down, and once more when the entry goes; a credit, a stray release
and a tombstone's countdown change no live entry. -/
theorem epochMoves_releaseInner (r : SubscriptionRegistry) (key : EntryKey) (allowCredit : Bool) :
    ∃ k ≤ 2, EpochMoves r (r.releaseInner key allowCredit).1 k := by
  unfold releaseInner
  split
  · exact ⟨0, by decide, .refl r⟩
  · split_ifs with hcredit hbare htomb hleft hleft
    · exact ⟨0, by decide, .entryMut fun e _ => ⟨rfl, rfl⟩⟩
    · exact ⟨0, by decide, .refl r⟩
    · refine ⟨1, by decide, .of_bump ?_⟩
      rw [livenessEpoch_deregister, livenessEpoch_entryMut]
    · exact ⟨0, by decide, .entryMut fun e _ => ⟨rfl, rfl⟩⟩
    · refine ⟨2, by decide, ?_, nofun⟩
      rw [livenessEpoch_deregister, livenessEpoch_entryMut]
      rfl
    · exact ⟨1, by decide, .of_bump (livenessEpoch_entryMut _ _ _)⟩

theorem epochMoves_releaseGuardRef (r : SubscriptionRegistry) (handlerId : HandlerId) (key : EntryKey) :
    ∃ k ≤ 2, EpochMoves r (r.releaseGuardRef handlerId key).1 k := by
  have hrefs : EpochMoves r { r with guardRefs := r.guardRefs.erase (handlerId, key) } 0 :=
    ⟨rfl, fun _ _ _ => Iff.rfl⟩
  have hrelease : ∃ k ≤ 2, EpochMoves r
      ({ r with guardRefs := r.guardRefs.erase (handlerId, key) }.releaseInner key false).1 k := by
    obtain ⟨k, hk, hmoves⟩ := epochMoves_releaseInner { r with guardRefs := r.guardRefs.erase (handlerId, key) } key false
    exact ⟨k, hk, hrefs.trans hmoves⟩
  unfold releaseGuardRef
  dsimp only
  split
  · split_ifs
    · exact ⟨0, by decide, hrefs⟩
    · exact hrelease
  · exact hrelease

theorem epochMoves_noteTerminated (r : SubscriptionRegistry) (key : EntryKey) (cause : TerminationCause)
    (lastError : Option String) : ∃ k ≤ 2, EpochMoves r (r.noteTerminated key cause lastError) k := by
  unfold noteTerminated
  split
  · split_ifs
    · exact ⟨0, by decide, .refl r⟩
    · refine ⟨1, by decide, .of_bump ?_⟩
      rw [livenessEpoch_mirrorWrite, bumpEpoch, livenessEpoch_entryMut]
  · exact ⟨0, by decide, .refl r⟩

theorem epochMoves_noteAcked (r : SubscriptionRegistry) (key : EntryKey) : EpochMoves r (r.noteAcked key) 0 := by
  unfold noteAcked
  split
  · rename_i e he
    split_ifs with hpending
    · refine EpochMoves.trans (EpochMoves.entryMut fun e' he' => ?_) (.mirrorWrite _ _)
      obtain rfl := Option.some.inj (he.symm.trans he')
      exact ⟨rfl, by simp [SubscriptionEntry.isTombstone, hpending]⟩
    · exact .refl r
  · exact .refl r

theorem epochMoves_handleUpdate (fromStr : String → Option Decimal) (r : SubscriptionRegistry) (key : EntryKey)
    (isSnapshot : Bool) (data : Json) : EpochMoves r (r.handleUpdate fromStr key isSnapshot data).1 0 := by
  unfold handleUpdate
  split
  · refine EpochMoves.entryMut fun e _ => ?_
    obtain ⟨builder, h⟩ := driveUpdate_rest fromStr e isSnapshot data
    rw [h]
    exact ⟨rfl, rfl⟩
  · exact .refl r

theorem epochMoves_noteReseedTimeout (r : SubscriptionRegistry) (channel : ChannelName) (pair : Symbol) :
    EpochMoves r (r.noteReseedTimeout channel pair).1 0 := by
  unfold noteReseedTimeout
  split
  · exact .refl r
  · split_ifs
    · exact .refl r
    · split
      · exact .refl r
      · split_ifs
        · exact .refl r
        · exact .entryMut fun e _ => ⟨rfl, rfl⟩
        · exact .entryMut fun e _ => ⟨rfl, rfl⟩

/-- **Every operation moves the epoch by at most two, and by nothing only if no live entry changes.** -/
theorem epochMoves_apply (fromStr : String → Option Decimal) (r : SubscriptionRegistry) (op : RegistryOp) :
    ∃ k ≤ 2, EpochMoves r (r.apply fromStr op) k := by
  cases op with
  | register url channel pair params now guardBacked =>
    exact ⟨1, by decide, .of_bump (livenessEpoch_register _ _ _ _)⟩
  | release key => exact epochMoves_releaseInner r key true
  | recordGuardRef handlerId key =>
    refine ⟨0, by decide, ?_⟩
    simp only [apply, recordGuardRef]
    split
    · exact ⟨rfl, fun _ _ _ => Iff.rfl⟩
    · exact .refl r
  | releaseGuardRef handlerId key => exact epochMoves_releaseGuardRef r handlerId key
  | deregister key => exact ⟨1, by decide, .of_bump (livenessEpoch_deregister _ _)⟩
  | deregisterAll channel =>
    refine ⟨1, by decide, .of_bump ?_⟩
    simp only [apply, deregisterAll]
    rw [livenessEpoch_mirrorWrite]
    cases channel <;> rfl
  | noteAcked key => exact ⟨0, by decide, epochMoves_noteAcked r key⟩
  | noteTerminated key cause lastError => exact epochMoves_noteTerminated r key cause lastError
  | handleUpdate key isSnapshot data => exact ⟨0, by decide, epochMoves_handleUpdate fromStr r key isSnapshot data⟩
  | beginBookResync channel pair => exact ⟨0, by decide, .entryMut fun e _ => ⟨rfl, rfl⟩⟩
  | noteReseedTimeout channel pair => exact ⟨0, by decide, epochMoves_noteReseedTimeout r channel pair⟩
  | noteSequence channel seq isSnapshot =>
    refine ⟨0, by decide, ?_⟩
    simp only [apply, noteSequence]
    split
    · exact .refl r
    · exact .entryMut fun e _ => ⟨rfl, rfl⟩

/-- Over a run the moves add up. -/
theorem epochMoves_exec (fromStr : String → Option Decimal) (r : SubscriptionRegistry) (ops : List RegistryOp) :
    ∃ k ≤ 2 * ops.length, EpochMoves r (exec (apply fromStr) r ops) k := by
  induction ops generalizing r with
  | nil => exact ⟨0, by simp, .refl r⟩
  | cons op ops ih =>
    obtain ⟨k, hk, hstep⟩ := epochMoves_apply fromStr r op
    obtain ⟨k', hk', hrest⟩ := ih (r.apply fromStr op)
    exact ⟨k' + k, by rw [List.length_cons]; omega, hstep.trans hrest⟩

/-! ## The epoch as a number -/

theorem iterate_inc64 {n : Nat} (hn : n < 2 ^ 64) (k : Nat) : inc64^[k] n = (n + k) % 2 ^ 64 := by
  induction k with
  | zero => rw [Function.iterate_zero_apply, Nat.add_zero, Nat.mod_eq_of_lt hn]
  | succ k ih =>
    rw [Function.iterate_succ_apply', ih, inc64]
    omega

theorem hasUrlEntry_congr (h : ∀ url key, r'.Live url key ↔ r.Live url key) (url : WsUrl) :
    r'.hasUrlEntry url = r.hasUrlEntry url := by
  rw [Bool.eq_iff_iff, hasUrlEntry_iff, hasUrlEntry_iff]
  exact exists_congr fun key => h url key

theorem livenessEpoch_exec_new (fromStr : String → Option Decimal) (ops : List RegistryOp) :
    (exec (apply fromStr) new ops).livenessEpoch < 2 ^ 64 ∧
      (exec (apply fromStr) new ops).livenessEpoch ≤ 2 * ops.length := by
  obtain ⟨k, hk, hmoves⟩ := epochMoves_exec fromStr new ops
  have hzero : new.livenessEpoch = 0 := rfl
  rw [hmoves.epoch, iterate_inc64 (by decide), hzero]
  omega

/-- With an equal epoch less than a turn of the counter later, the live entries are the same. -/
theorem hasUrlEntry_of_epoch_eq (fromStr : String → Option Decimal) (hr : r.livenessEpoch < 2 ^ 64)
    {ops : List RegistryOp} (h : ops.length < 2 ^ 63)
    (hepoch : (exec (apply fromStr) r ops).livenessEpoch = r.livenessEpoch) (url : WsUrl) :
    (exec (apply fromStr) r ops).hasUrlEntry url = r.hasUrlEntry url := by
  obtain ⟨k, hk, hmoves⟩ := epochMoves_exec fromStr r ops
  rw [hmoves.epoch, iterate_inc64 hr] at hepoch
  exact hasUrlEntry_congr (hmoves.quiet (by omega)) url

end SubscriptionRegistry

/-! ## The hint of the reactor loop -/

/-- What the loop keeps of the auth connection's subscriptions (mod.rs:169, supervisor.rs:30). -/
structure HintLoop where
  registry : SubscriptionRegistry
  lastLivenessEpoch : Nat
  authHasSubscriptions : Bool

namespace HintLoop

open SubscriptionRegistry

def start : HintLoop := ⟨.new, SubscriptionRegistry.new.livenessEpoch, false⟩

/-- The sync at the top of the loop (mod.rs:181). -/
def sync (s : HintLoop) : HintLoop :=
  if s.registry.livenessEpoch ≠ s.lastLivenessEpoch then
    { s with lastLivenessEpoch := s.registry.livenessEpoch, authHasSubscriptions := s.registry.hasUrlEntry .authUrl }
  else s

/-- What one iteration does to the registry, and the sync of the next. -/
def iterate (fromStr : String → Option Decimal) (s : HintLoop) (ops : List RegistryOp) : HintLoop :=
  { s with registry := exec (apply fromStr) s.registry ops }.sync

/-- The hint is the registry's answer. -/
structure Exact (s : HintLoop) : Prop where
  epoch : s.lastLivenessEpoch = s.registry.livenessEpoch
  epoch_lt : s.registry.livenessEpoch < 2 ^ 64
  hint : s.authHasSubscriptions = s.registry.hasUrlEntry .authUrl

theorem exact_start : Exact start := ⟨rfl, by decide, rfl⟩

theorem exact_iterate (fromStr : String → Option Decimal) {s : HintLoop} (h : s.Exact) {ops : List RegistryOp}
    (hops : ops.length < 2 ^ 63) : (s.iterate fromStr ops).Exact := by
  have hlt : (exec (apply fromStr) s.registry ops).livenessEpoch < 2 ^ 64 := by
    obtain ⟨k, -, hmoves⟩ := epochMoves_exec fromStr s.registry ops
    rw [hmoves.epoch, iterate_inc64 h.epoch_lt]
    exact Nat.mod_lt _ (by decide)
  unfold iterate sync
  by_cases hsame : (exec (apply fromStr) s.registry ops).livenessEpoch = s.lastLivenessEpoch
  · rw [if_neg (not_not_intro hsame)]
    refine ⟨hsame.symm, hlt, h.hint.trans ?_⟩
    exact (hasUrlEntry_of_epoch_eq fromStr h.epoch_lt hops (hsame.trans h.epoch) .authUrl).symm
  · rw [if_pos hsame]
    exact ⟨rfl, hlt, rfl⟩

theorem exact_run (fromStr : String → Option Decimal) {iterations : List (List RegistryOp)}
    (h : ∀ ops ∈ iterations, ops.length < 2 ^ 63) : (exec (iterate fromStr) start iterations).Exact :=
  (Reach.exec (allowed_of_forall h start)).invariant exact_start fun _ _ hs hops => exact_iterate fromStr hs hops

end HintLoop

namespace SubscriptionRegistry

/-- **The liveness epoch misses no change.** Over any operations, one after which `has_url_entry` differs has moved
the epoch by one or two, so the epoch is larger as long as the `u64` has not wrapped, which takes 2^63 operations;
an equal epoch fewer operations later means an equal answer; and the hint that is taken again when the epoch has
moved is the answer at every iteration of the loop. -/
theorem livenessEpoch_exact (fromStr : String → Option Decimal) :
    (∀ (ops : List RegistryOp) (op : RegistryOp) (url : WsUrl),
      let r := exec (apply fromStr) new ops
      (r.apply fromStr op).hasUrlEntry url ≠ r.hasUrlEntry url →
      ∃ k, 1 ≤ k ∧ k ≤ 2 ∧ (r.apply fromStr op).livenessEpoch = (r.livenessEpoch + k) % 2 ^ 64 ∧
        (ops.length + 1 < 2 ^ 63 → r.livenessEpoch < (r.apply fromStr op).livenessEpoch)) ∧
    (∀ (ops later : List RegistryOp) (url : WsUrl),
      let r := exec (apply fromStr) new ops
      later.length < 2 ^ 63 → (exec (apply fromStr) r later).livenessEpoch = r.livenessEpoch →
      (exec (apply fromStr) r later).hasUrlEntry url = r.hasUrlEntry url) ∧
    ∀ iterations : List (List RegistryOp), (∀ ops ∈ iterations, ops.length < 2 ^ 63) →
      (exec (HintLoop.iterate fromStr) HintLoop.start iterations).Exact := by
  refine ⟨?_, ?_, fun iterations h => HintLoop.exact_run fromStr h⟩
  · intro ops op url r hdiffers
    obtain ⟨k, hk, hmoves⟩ := epochMoves_apply fromStr r op
    obtain ⟨hlt, hle⟩ := livenessEpoch_exec_new fromStr ops
    change r.livenessEpoch < 2 ^ 64 at hlt
    change r.livenessEpoch ≤ _ at hle
    have hpos : 1 ≤ k := by
      by_contra hzero
      exact hdiffers (hasUrlEntry_congr (hmoves.quiet (by omega)) url)
    have hepoch := hmoves.epoch
    rw [iterate_inc64 hlt] at hepoch
    exact ⟨k, hpos, hk, hepoch, fun hops => by omega⟩
  · intro ops later url r hlater hepoch
    exact hasUrlEntry_of_epoch_eq fromStr (livenessEpoch_exec_new fromStr ops).1 hlater hepoch url

/-- Operations that only bump. -/
theorem exec_deregisters (fromStr : String → Option Decimal) (n : Nat) :
    exec (apply fromStr) new (List.replicate n (.deregister (.executions, none))) =
      { new with livenessEpoch := n % 2 ^ 64 } := by
  induction n with
  | zero => rfl
  | succ n ih =>
    have hstep : ({ new with livenessEpoch := n % 2 ^ 64 } : SubscriptionRegistry).deregister (.executions, none) =
        { new with livenessEpoch := inc64 (n % 2 ^ 64) } := rfl
    rw [List.replicate_succ', exec_append, ih, exec_cons, exec_nil, apply, hstep, inc64, Nat.mod_add_mod]

/-- The run that is about to wrap: 2^64 - 2 bumps, then a registration. -/
def aboutToWrap : List RegistryOp :=
  List.replicate (2 ^ 64 - 2) (.deregister (.executions, none)) ++
    [.register .authUrl .executions none .executions 0 false]

/-- The last deregister takes the epoch from 2^64 - 1 to 0. -/
theorem livenessEpoch_wraps : ¬ ∀ (fromStr : String → Option Decimal) (ops : List RegistryOp) (op : RegistryOp)
    (url : WsUrl), ((exec (apply fromStr) new ops).apply fromStr op).hasUrlEntry url ≠
      (exec (apply fromStr) new ops).hasUrlEntry url →
    (exec (apply fromStr) new ops).livenessEpoch < ((exec (apply fromStr) new ops).apply fromStr op).livenessEpoch := by
  intro hall
  have hlast := hall (fun _ => none) aboutToWrap (.deregister (.executions, none)) .authUrl
  rw [aboutToWrap, exec_append, exec_deregisters, Nat.mod_eq_of_lt (by decide)] at hlast
  exact absurd (hlast (by decide +kernel)) (by decide +kernel)

end SubscriptionRegistry

end KrakenSdk.Conn
