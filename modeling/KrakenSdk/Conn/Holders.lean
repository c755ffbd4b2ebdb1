import Mathlib.Data.List.Count
import Mathlib.Order.Nat
import KrakenSdk.Conn.Types
/-!
# The holders of one key

What the registry's scalars stand for, as the accounting sweep's `Model` states it
(subscription_registry_sweep_tests.rs:54): who holds the key and since which lifetime. A bare hold has no
identity on the release side, so a release is charged to a credit, to a bare slot of the present
lifetime, or to nothing. A lifetime is named by the registration that began it.
`WellFormed` is what every operation keeps.
-/
namespace KrakenSdk.Conn

/-- Whether the key is in use. -/
inductive Phase where
  | absent | live | tombstone
  deriving DecidableEq, Repr

/-- The holders of a key. -/
structure Holders where
  /-- Registrations so far. -/
  registrations : Nat := 0
  /-- The registration that began the present lifetime, or the last one when the key is absent. -/
  lifetime : Nat := 0
  phase : Phase := .absent
  /-- The lifetime each outstanding bare hold joined, oldest first. -/
  bareHolds : List Nat := []
  /-- The guards still held, with the lifetime each was registered in. -/
  guards : List (HandlerId × Nat) := []
  /-- Bare holders of the present lifetime less the releases charged to them. -/
  bareSlots : Nat := 0
  /-- Credits the revivals of the present key have added. -/
  earned : Nat := 0
  /-- Credits bare releases have consumed. -/
  spent : Nat := 0
  /-- A stray or cross-lifetime bare release has consumed a slot. -/
  misattributed : Bool := false
  deriving DecidableEq, Repr

namespace Holders

/-- The guards still held that were registered in lifetime `g`. -/
def guardsOf (m : Holders) (g : Nat) : Nat := m.guards.countP (·.2 = g)

/-- Bare and guard holders of the present lifetime still to release. -/
def owed (m : Holders) : Nat := m.bareSlots + m.guardsOf m.lifetime

/-- The bare holds of the present lifetime. -/
def ownBareHolds (m : Holders) : Nat := m.bareHolds.count m.lifetime

/-- The credits a revival adds: the dying countdown less its guard refs and less the slot a bare reviver
keeps. -/
def revivalCredits (m : Holders) (guardBacked : Bool) : Nat :=
  m.owed - m.guardsOf m.lifetime - (if guardBacked then 0 else 1)

/-- A registration joins the live lifetime, or begins one. -/
def join (m : Holders) (guardBacked : Bool) : Holders :=
  match m.phase with
  | .live => { m with registrations := m.registrations + 1 }
  | .absent =>
    { m with registrations := m.registrations + 1, lifetime := m.registrations + 1, phase := .live,
             bareSlots := 0, earned := 0, spent := 0 }
  | .tombstone =>
    { m with registrations := m.registrations + 1, lifetime := m.registrations + 1, phase := .live,
             bareSlots := 0, earned := m.earned + m.revivalCredits guardBacked }

/-- A bare subscriber. -/
def registerBare (m : Holders) : Holders :=
  { m.join false with
    bareSlots := (m.join false).bareSlots + 1, bareHolds := m.bareHolds ++ [(m.join false).lifetime] }

/-- A subscriber behind a guard. -/
def registerGuard (m : Holders) (id : HandlerId) : Holders :=
  { m.join true with guards := m.guards ++ [(id, (m.join true).lifetime)] }

/-- The key goes with its last holder, and its credits with it. -/
def settle (m : Holders) : Holders := if m.owed = 0 then { m with phase := .absent, earned := 0, spent := 0 } else m

/-- What an anonymous release is charged to. -/
def charge (m : Holders) (foreign : Bool) : Holders :=
  if m.spent < m.earned then { m with spent := m.spent + 1 }
  else if m.bareSlots = 0 then m
  else settle { m with bareSlots := m.bareSlots - 1, misattributed := m.misattributed || foreign }

/-- The release of a bare hold that joined lifetime `joined`. -/
def releaseBare (m : Holders) (joined : Nat) : Holders :=
  charge { m with bareHolds := m.bareHolds.erase joined } (joined ≠ m.lifetime)

/-- A bare release with no hold behind it. -/
def strayRelease (m : Holders) : Holders := m.charge true

/-- The drop of guard `id`: it releases only what its own lifetime holds. -/
def dropGuard (m : Holders) (id : HandlerId) : Holders :=
  match m.guards.find? (·.1 = id) with
  | none => m
  | some (_, joined) =>
    let m' := { m with guards := m.guards.filter (·.1 ≠ id) }
    if m.phase ≠ .absent ∧ joined = m.lifetime then m'.settle else m'

/-- A terminal reject of the live lifetime. -/
def terminate (m : Holders) : Holders := if m.phase = .live then { m with phase := .tombstone } else m

/-! ## What every operation keeps -/

/-- The ledger is consistent with itself. -/
structure WellFormed (m : Holders) : Prop where
  begun : m.lifetime ≤ m.registrations
  guardsJoined : ∀ p ∈ m.guards, p.2 ≤ m.lifetime
  baresJoined : ∀ t ∈ m.bareHolds, t ≤ m.lifetime
  ids : (m.guards.map Prod.fst).Nodup
  /-- An absent key has no holder of its lifetime left and no credits. -/
  absent : m.phase = .absent → m.owed = 0 ∧ m.earned = 0 ∧ m.spent = 0
  /-- A key in use has one. -/
  present : m.phase ≠ .absent → 1 ≤ m.owed
  spent_le : m.spent ≤ m.earned
  /-- Every bare hold of the lifetime has its slot, unless a release took the slot of another. -/
  slotted : m.misattributed = false → m.ownBareHolds ≤ m.bareSlots

theorem wellFormed_new : WellFormed {} := by
  constructor <;> simp [owed, guardsOf, ownBareHolds]

/-- Nothing that has joined is of a lifetime yet to come. -/
theorem WellFormed.guardsOf_next {m : Holders} (h : WellFormed m) : m.guardsOf (m.registrations + 1) = 0 := by
  refine List.countP_eq_zero.2 fun p hp => ?_
  have := h.guardsJoined p hp
  have := h.begun
  simp only [decide_eq_true_eq]; omega

theorem WellFormed.bareHolds_next {m : Holders} (h : WellFormed m) : m.bareHolds.count (m.registrations + 1) = 0 := by
  refine List.count_eq_zero.2 fun hp => ?_
  have := h.baresJoined _ hp
  have := h.begun
  omega

/-- What `join` leaves, before the new holder is entered. -/
structure Joined (m m' : Holders) : Prop where
  guards : m'.guards = m.guards
  bareHolds : m'.bareHolds = m.bareHolds
  phase : m'.phase = .live
  begun : m.lifetime ≤ m'.lifetime ∧ m'.lifetime ≤ m'.registrations
  spent_le : m'.spent ≤ m'.earned
  slotted : m'.misattributed = false → m'.ownBareHolds ≤ m'.bareSlots

theorem joined_join {m : Holders} (h : WellFormed m) (guardBacked : Bool) : Joined m (m.join guardBacked) := by
  have hb := h.begun
  have hn := h.bareHolds_next
  have hs := h.spent_le
  cases hp : m.phase with
  | live =>
    simp only [join, hp]
    exact ⟨rfl, rfl, rfl, ⟨le_refl _, by simp only; omega⟩, hs, h.slotted⟩
  | absent =>
    simp only [join, hp]
    exact ⟨rfl, rfl, rfl, ⟨by simp only; omega, le_refl _⟩, le_refl 0, fun _ => hn.le⟩
  | tombstone =>
    simp only [join, hp]
    exact ⟨rfl, rfl, rfl, ⟨by simp only; omega, le_refl _⟩, by simp only; omega, fun _ => hn.le⟩

theorem wellFormed_registerBare {m : Holders} (h : WellFormed m) : WellFormed m.registerBare := by
  have hj := joined_join h false
  obtain ⟨hle, hreg⟩ := hj.begun
  constructor
  · exact hreg
  · intro p hp
    exact (h.guardsJoined p (hj.guards ▸ hp)).trans hle
  · intro t ht
    rcases List.mem_append.1 ht with ht | ht
    · exact (h.baresJoined t ht).trans hle
    · exact (List.mem_singleton.1 ht).le
  · exact hj.guards ▸ h.ids
  · intro ha
    exact absurd (hj.phase.symm.trans ha) (by simp)
  · intro _
    simp only [owed, registerBare]; omega
  · exact hj.spent_le
  · intro hm
    have := hj.slotted hm
    simp only [ownBareHolds, hj.bareHolds] at this
    simp only [ownBareHolds, registerBare, List.count_append, List.count_singleton_self]
    omega

theorem wellFormed_registerGuard {m : Holders} (h : WellFormed m) {id : HandlerId} (hid : id ∉ m.guards.map Prod.fst) :
    WellFormed (m.registerGuard id) := by
  have hj := joined_join h true
  obtain ⟨hle, hreg⟩ := hj.begun
  constructor
  · exact hreg
  · intro p hp
    rcases List.mem_append.1 hp with hp | hp
    · exact (h.guardsJoined p hp).trans hle
    · rw [List.mem_singleton.1 hp]
      exact le_refl _
  · intro t ht
    exact (h.baresJoined t (hj.bareHolds ▸ ht)).trans hle
  · simp only [registerGuard, List.map_append, List.map_cons, List.map_nil]
    exact List.nodup_append.2 ⟨h.ids, List.nodup_singleton _, fun a ha b hb => by
      rintro rfl
      exact hid (List.mem_singleton.1 hb ▸ ha)⟩
  · intro ha
    exact absurd (hj.phase.symm.trans ha) (by simp)
  · intro _
    simp only [owed, guardsOf, registerGuard, List.countP_append, List.countP_singleton, decide_true, if_true]
    omega
  · exact hj.spent_le
  · exact hj.slotted

/-- Settling a key whose holders, if any are left, are in order. -/
theorem wellFormed_settle {m : Holders} (h1 : m.lifetime ≤ m.registrations) (h2 : ∀ p ∈ m.guards, p.2 ≤ m.lifetime)
    (h3 : ∀ t ∈ m.bareHolds, t ≤ m.lifetime) (h4 : (m.guards.map Prod.fst).Nodup) (h5 : m.spent ≤ m.earned)
    (h6 : m.misattributed = false → m.ownBareHolds ≤ m.bareSlots) (h7 : m.phase ≠ .absent) : WellFormed m.settle := by
  unfold settle
  split
  next h0 => exact ⟨h1, h2, h3, h4, fun _ => ⟨h0, rfl, rfl⟩, fun hp => absurd rfl hp, le_refl 0, h6⟩
  next h0 => exact ⟨h1, h2, h3, h4, fun ha => absurd ha h7, fun _ => by omega, h5, h6⟩

/-- A release is charged. Of its own lifetime's holds one may just have gone: then it is not foreign. -/
theorem wellFormed_charge {m : Holders} (h : WellFormed m) {bareHolds : List Nat} {foreign : Bool}
    (hsub : bareHolds.Sublist m.bareHolds)
    (hown : foreign = false → bareHolds.count m.lifetime + 1 ≤ m.bareHolds.count m.lifetime) :
    WellFormed (charge { m with bareHolds } foreign) := by
  have hcount : bareHolds.count m.lifetime ≤ m.bareHolds.count m.lifetime := hsub.count_le _
  have hjoined : ∀ t ∈ bareHolds, t ≤ m.lifetime := fun t ht => h.baresJoined t (hsub.subset ht)
  have hslot := h.slotted
  simp only [ownBareHolds] at hslot
  unfold charge
  dsimp only
  split
  next hcr =>
    refine ⟨h.begun, h.guardsJoined, hjoined, h.ids, fun ha => ?_, h.present, hcr, fun hm => hcount.trans (hslot hm)⟩
    obtain ⟨-, he, -⟩ := h.absent ha
    omega
  next hcr =>
    split
    · exact ⟨h.begun, h.guardsJoined, hjoined, h.ids, h.absent, h.present, h.spent_le, fun hm => hcount.trans (hslot hm)⟩
    next hb =>
      refine wellFormed_settle h.begun h.guardsJoined hjoined h.ids h.spent_le (fun hm => ?_) fun ha => ?_
      · obtain ⟨hm, hf⟩ := Bool.or_eq_false_iff.1 hm
        have := hown hf
        have := hslot hm
        simp only [ownBareHolds]; omega
      · have := (h.absent ha).1
        simp only [owed] at this; omega

theorem wellFormed_releaseBare {m : Holders} (h : WellFormed m) {joined : Nat} (hmem : joined ∈ m.bareHolds) :
    WellFormed (m.releaseBare joined) := by
  refine wellFormed_charge h List.erase_sublist fun hf => ?_
  obtain rfl : joined = m.lifetime := by simpa using hf
  have := List.count_pos_iff.2 hmem
  rw [List.count_erase_self]; omega

theorem wellFormed_strayRelease {m : Holders} (h : WellFormed m) : WellFormed m.strayRelease :=
  wellFormed_charge h (List.Sublist.refl _) (by simp)

/-- The one row of `id` is what its drop takes. -/
theorem countP_drop {guards : List (HandlerId × Nat)} {id : HandlerId} {joined : Nat}
    (hids : (guards.map Prod.fst).Nodup) (hmem : (id, joined) ∈ guards) (g : Nat) :
    (guards.filter (·.1 ≠ id)).countP (·.2 = g) + (if joined = g then 1 else 0) = guards.countP (·.2 = g) := by
  induction guards with
  | nil => simp at hmem
  | cons p guards ih =>
    obtain ⟨hnot, hids⟩ := List.nodup_cons.1 hids
    rw [List.countP_cons]
    rcases List.mem_cons.1 hmem with rfl | hmem
    · have hall : guards.filter (·.1 ≠ id) = guards := List.filter_eq_self.2 fun q hq => by
        simpa using fun h : q.1 = id => hnot (List.mem_map.2 ⟨q, hq, h⟩)
      rw [List.filter_cons_of_neg (by simp), hall]
      simp
    · have hne : p.1 ≠ id := fun h => hnot (List.mem_map.2 ⟨_, hmem, h.symm⟩)
      rw [List.filter_cons_of_pos (by simpa using hne), List.countP_cons]
      have := ih hids hmem
      omega

theorem mem_of_find_id {guards : List (HandlerId × Nat)} {id i : HandlerId} {joined : Nat}
    (h : guards.find? (·.1 = id) = some (i, joined)) : (id, joined) ∈ guards := by
  have hi : i = id := by simpa using List.find?_some h
  exact hi ▸ List.mem_of_find?_eq_some h

theorem wellFormed_dropGuard {m : Holders} (h : WellFormed m) (id : HandlerId) : WellFormed (m.dropGuard id) := by
  unfold dropGuard
  split
  · exact h
  next joined hf =>
    have hj : ∀ p ∈ m.guards.filter (·.1 ≠ id), p.2 ≤ m.lifetime := fun p hp => h.guardsJoined p (List.mem_of_mem_filter hp)
    have hids : ((m.guards.filter (·.1 ≠ id)).map Prod.fst).Nodup := h.ids.sublist (List.filter_sublist.map _)
    dsimp only
    split
    next hp => exact wellFormed_settle h.begun hj h.baresJoined hids h.spent_le h.slotted hp.1
    next hp =>
      have hdrop := countP_drop h.ids (mem_of_find_id hf) m.lifetime
      refine ⟨h.begun, hj, h.baresJoined, hids, fun ha => ?_, fun ha => ?_, h.spent_le, h.slotted⟩
      · obtain ⟨h0, hrest⟩ := h.absent ha
        refine ⟨?_, hrest⟩
        simp only [owed, guardsOf] at h0 ⊢; omega
      · have h1 := h.present ha
        have hne : joined ≠ m.lifetime := fun he => hp ⟨ha, he⟩
        rw [if_neg hne] at hdrop
        simp only [owed, guardsOf] at h1 ⊢; omega

theorem wellFormed_terminate {m : Holders} (h : WellFormed m) : WellFormed m.terminate := by
  unfold terminate
  split
  next hp =>
    have := h.present (by simp [hp])
    exact ⟨h.begun, h.guardsJoined, h.baresJoined, h.ids, fun ha => by simp at ha, fun _ => this, h.spent_le, h.slotted⟩
  · exact h

end Holders

end KrakenSdk.Conn
