import Mathlib.Order.Lattice
import Mathlib.Order.Defs.LinearOrder
import Mathlib.Data.List.Basic
/-!
# Ordered maps

`BTreeMap κ ν` is the list of its rows in key order: that the keys increase strictly is a field, so
a map with two rows for one key, or with rows out of order, cannot be built. A map is then known by its
rows (`ext_mem`), and its first `n` rows are the ones before all the others (`truncate_eq`).

`updateRows` is a batch of removals and insertions. When the batch tells the truth about a map `B'` and
covers what changed between the first `n` rows of `B` and those of `B'`, it carries the one window over to
the other (`truncate_updateRows`), although it says nothing about the rows beyond. Of any batch,
`mem_updateRows_leaves` says which rows are there after it.
-/

/-- A finite map whose rows are kept in key order. -/
structure BTreeMap (κ ν : Type*) [LinearOrder κ] where
  entries : List (κ × ν)
  sorted : entries.Pairwise (·.1 < ·.1)

namespace BTreeMap

variable {κ ν : Type*} [LinearOrder κ]

/-- `BTreeMap::new`. -/
def empty : BTreeMap κ ν := ⟨[], .nil⟩

/-- `BTreeMap::values`, in key order. -/
def values (m : BTreeMap κ ν) : List ν := m.entries.map (·.2)

/-- `BTreeMap::len`. -/
def len (m : BTreeMap κ ν) : Nat := m.entries.length

/-- Put the row of `k` at its place, over the row `k` has. -/
def insertRow (k : κ) (v : ν) : List (κ × ν) → List (κ × ν)
  | [] => [(k, v)]
  | row :: rows =>
    if k < row.1 then (k, v) :: row :: rows
    else if k = row.1 then (k, v) :: rows
    else row :: insertRow k v rows

theorem key_insertRow {k : κ} {v : ν} {rows : List (κ × ν)} {p : κ × ν} (h : p ∈ insertRow k v rows) :
    p.1 = k ∨ p ∈ rows := by
  induction rows with
  | nil => exact .inl (by simp_all [insertRow])
  | cons row rows ih =>
    simp only [insertRow] at h
    split at h
    · rcases List.mem_cons.1 h with rfl | h
      · exact .inl rfl
      · exact .inr h
    · split at h
      · rcases List.mem_cons.1 h with rfl | h
        · exact .inl rfl
        · exact .inr (.tail _ h)
      · rcases List.mem_cons.1 h with rfl | h
        · exact .inr (.head _)
        · exact (ih h).imp id (.tail _)

theorem sorted_insertRow (k : κ) (v : ν) {rows : List (κ × ν)} (h : rows.Pairwise (·.1 < ·.1)) :
    (insertRow k v rows).Pairwise (·.1 < ·.1) := by
  induction rows with
  | nil => simp [insertRow]
  | cons row rows ih =>
    obtain ⟨hrow, hrows⟩ := List.pairwise_cons.1 h
    simp only [insertRow]
    split
    next hlt =>
      refine List.pairwise_cons.2 ⟨fun p hp => ?_, h⟩
      rcases List.mem_cons.1 hp with rfl | hp
      · exact hlt
      · exact hlt.trans (hrow p hp)
    next hge =>
      split
      next heq => exact List.pairwise_cons.2 ⟨fun p hp => heq ▸ hrow p hp, hrows⟩
      next hne =>
        refine List.pairwise_cons.2 ⟨fun p hp => ?_, ih hrows⟩
        rcases key_insertRow hp with hk | hp
        · exact hk ▸ lt_of_le_of_ne (not_lt.1 hge) (Ne.symm hne)
        · exact hrow p hp

/-- `BTreeMap::insert`. -/
def insert (m : BTreeMap κ ν) (k : κ) (v : ν) : BTreeMap κ ν := ⟨insertRow k v m.entries, sorted_insertRow k v m.sorted⟩

/-- `BTreeMap::remove`. -/
def remove (m : BTreeMap κ ν) (k : κ) : BTreeMap κ ν := ⟨m.entries.filter (·.1 ≠ k), m.sorted.filter _⟩

/-- What is left after `pop_last` while there are more than `n` rows. -/
def truncate (m : BTreeMap κ ν) (n : Nat) : BTreeMap κ ν := ⟨m.entries.take n, m.sorted.sublist (List.take_sublist _ _)⟩

theorem len_truncate_le (m : BTreeMap κ ν) (n : Nat) : (m.truncate n).len ≤ n := by
  simp [len, truncate]

/-! ## Rows -/

/-- One row a key. -/
theorem row_unique (m : BTreeMap κ ν) {p q : κ × ν} (hp : p ∈ m.entries) (hq : q ∈ m.entries) (h : p.1 = q.1) :
    p = q := by
  have hall := List.Pairwise.forall_of_forall_of_flip (l := m.entries) (R := fun a b => a.1 = b.1 → a = b)
    (fun _ _ _ => rfl) (m.sorted.imp fun hlt heq => absurd heq hlt.ne) (m.sorted.imp fun hlt heq => absurd heq hlt.ne')
  exact hall hp hq h

theorem nodup_entries (m : BTreeMap κ ν) : m.entries.Nodup :=
  m.sorted.imp fun hlt heq => absurd (congrArg Prod.fst heq) hlt.ne

/-- Two row lists in key order with the same rows are the same. -/
theorem sorted_ext {rows rows' : List (κ × ν)} (h : rows.Pairwise (·.1 < ·.1)) (h' : rows'.Pairwise (·.1 < ·.1))
    (hmem : ∀ p, p ∈ rows ↔ p ∈ rows') : rows = rows' := by
  have hperm : rows.Perm rows' := (List.perm_ext_iff_of_nodup (nodup_entries ⟨rows, h⟩) (nodup_entries ⟨rows', h'⟩)).2 hmem
  exact hperm.eq_of_pairwise (fun a b _ _ hab hba => absurd hab hba.asymm) h h'

/-- A map is known by its rows. -/
theorem ext_mem {m m' : BTreeMap κ ν} (h : ∀ p, p ∈ m.entries ↔ p ∈ m'.entries) : m = m' := by
  obtain ⟨rows, hrows⟩ := m
  obtain ⟨rows', hrows'⟩ := m'
  obtain rfl : rows = rows' := sorted_ext hrows hrows' h
  rfl

theorem mem_insertRow_of_ne {k : κ} (v : ν) {rows : List (κ × ν)} {p : κ × ν} (hp : p ∈ rows) (hk : p.1 ≠ k) :
    p ∈ insertRow k v rows := by
  induction rows with
  | nil => cases hp
  | cons row rows ih =>
    rw [insertRow]
    split
    · exact .tail _ hp
    · split
      next heq =>
        rcases List.mem_cons.1 hp with rfl | hp
        · exact absurd heq.symm hk
        · exact .tail _ hp
      next hne =>
        rcases List.mem_cons.1 hp with rfl | hp
        · exact .head _
        · exact .tail _ (ih hp)

theorem mem_insertRow_self (k : κ) (v : ν) (rows : List (κ × ν)) : (k, v) ∈ insertRow k v rows := by
  induction rows with
  | nil => exact List.mem_cons_self
  | cons row rows ih =>
    rw [insertRow]
    split
    · exact .head _
    · split
      · exact .head _
      · exact .tail _ ih

/-- The rows after an insertion: the new one, and the old ones under other keys. -/
theorem mem_insert (m : BTreeMap κ ν) (k : κ) (v : ν) (p : κ × ν) :
    p ∈ (m.insert k v).entries ↔ p = (k, v) ∨ (p ∈ m.entries ∧ p.1 ≠ k) := by
  constructor
  · intro h
    by_cases hk : p.1 = k
    · exact .inl (row_unique (m.insert k v) h (mem_insertRow_self k v m.entries) hk)
    · exact .inr ⟨(key_insertRow h).resolve_left hk, hk⟩
  · rintro (rfl | ⟨h, hk⟩)
    · exact mem_insertRow_self k v m.entries
    · exact mem_insertRow_of_ne v h hk

theorem mem_remove (m : BTreeMap κ ν) (k : κ) (p : κ × ν) :
    p ∈ (m.remove k).entries ↔ p ∈ m.entries ∧ p.1 ≠ k := by
  simp [remove, List.mem_filter]

/-! ## The first rows -/

theorem mem_of_mem_truncate {m : BTreeMap κ ν} {n : Nat} {p : κ × ν} (h : p ∈ (m.truncate n).entries) : p ∈ m.entries :=
  List.mem_of_mem_take h

/-- A row beyond the first `n` comes after all of these, and there are `n` of them. -/
theorem beyond_truncate {m : BTreeMap κ ν} {n : Nat} {p : κ × ν} (hp : p ∈ m.entries)
    (hout : p ∉ (m.truncate n).entries) :
    (m.truncate n).len = n ∧ ∀ q ∈ (m.truncate n).entries, q.1 < p.1 := by
  have hsplit : m.entries.take n ++ m.entries.drop n = m.entries := List.take_append_drop n m.entries
  have hdrop : p ∈ m.entries.drop n := by
    rw [← hsplit, List.mem_append] at hp
    exact hp.resolve_left hout
  have hlen : n < m.entries.length := by
    by_contra hge
    rw [List.drop_eq_nil_of_le (not_lt.1 hge)] at hdrop
    cases hdrop
  have hpair := m.sorted
  rw [← hsplit, List.pairwise_append] at hpair
  refine ⟨?_, fun q hq => hpair.2.2 q hq p hdrop⟩
  rw [len, truncate, List.length_take]
  omega

/-- The first `n` rows are a map `w` of at most `n` rows whenever every other row comes after a full `w`. -/
theorem truncate_eq {m w : BTreeMap κ ν} {n : Nat} (hlen : w.len ≤ n) (hsub : ∀ p ∈ w.entries, p ∈ m.entries)
    (hrest : ∀ p ∈ m.entries, p ∈ w.entries ∨ (w.len = n ∧ ∀ q ∈ w.entries, q.1 < p.1)) : m.truncate n = w := by
  classical
  let rest := m.entries.filter (· ∉ w.entries)
  have hbeyond : ∀ p ∈ rest, w.len = n ∧ ∀ q ∈ w.entries, q.1 < p.1 := by
    intro p hp
    obtain ⟨hp, hout⟩ := List.mem_filter.1 hp
    exact (hrest p hp).resolve_left (by simpa using hout)
  have hsplit : m.entries = w.entries ++ rest := by
    refine sorted_ext m.sorted ?_ fun p => ?_
    · exact List.pairwise_append.2 ⟨w.sorted, m.sorted.filter _, fun q hq p hp => (hbeyond p hp).2 q hq⟩
    · rw [List.mem_append, List.mem_filter]
      constructor
      · intro hp
        by_cases hw : p ∈ w.entries
        · exact .inl hw
        · exact .inr ⟨hp, by simpa using hw⟩
      · rintro (hp | hp)
        · exact hsub p hp
        · exact hp.1
  refine ext_mem fun p => ?_
  change p ∈ m.entries.take n ↔ p ∈ w.entries
  rw [hsplit]
  cases hr : rest with
  | nil =>
    rw [List.append_nil, List.take_of_length_le hlen]
  | cons p' rest' =>
    have hfull : w.entries.length = n := (hbeyond p' (by rw [hr]; exact List.mem_cons_self)).1
    rw [List.take_left' hfull]

/-! ## Batches -/

/-- Remove or insert under `key`, one after the other. -/
def updateRows (deletes : ν → Bool) (key : ν → κ) (m : BTreeMap κ ν) (batch : List ν) : BTreeMap κ ν :=
  batch.foldl (fun m v => if deletes v then m.remove (key v) else m.insert (key v) v) m

section Batch

variable {deletes : ν → Bool} {key : ν → κ}

/-- The batch tells the truth about `m`: it removes what is not there and inserts what is. -/
def Truthful (deletes : ν → Bool) (key : ν → κ) (m : BTreeMap κ ν) (batch : List ν) : Prop :=
  ∀ v ∈ batch, (deletes v = true ∧ ∀ p ∈ m.entries, p.1 ≠ key v) ∨ (deletes v = false ∧ (key v, v) ∈ m.entries)

/-- The rows after a truthful batch: the ones it inserts, and the old ones it does not mention. -/
theorem mem_updateRows {target : BTreeMap κ ν} {batch : List ν} (h : Truthful deletes key target batch) (m : BTreeMap κ ν)
    (p : κ × ν) : p ∈ (m.updateRows deletes key batch).entries ↔
      (∃ v ∈ batch, deletes v = false ∧ p = (key v, v)) ∨ (p ∈ m.entries ∧ ∀ v ∈ batch, key v ≠ p.1) := by
  induction batch generalizing m with
  | nil => simp [updateRows]
  | cons v batch ih =>
    have ih := ih (fun v' hv' => h v' (List.mem_cons_of_mem _ hv'))
      (if deletes v then m.remove (key v) else m.insert (key v) v)
    change p ∈ (updateRows deletes key _ batch).entries ↔ _
    rw [ih]
    cases hd : deletes v with
    | true =>
      rw [if_pos rfl, mem_remove]
      constructor
      · rintro (⟨v', hv', hdel, rfl⟩ | ⟨⟨hp, hk⟩, hall⟩)
        · exact .inl ⟨v', List.mem_cons_of_mem _ hv', hdel, rfl⟩
        · exact .inr ⟨hp, by simpa using ⟨hk.symm, hall⟩⟩
      · rintro (⟨v', hv', hdel, rfl⟩ | ⟨hp, hall⟩)
        · rcases List.mem_cons.1 hv' with rfl | hv'
          · rw [hd] at hdel
            cases hdel
          · exact .inl ⟨v', hv', hdel, rfl⟩
        · exact .inr ⟨⟨hp, (hall v List.mem_cons_self).symm⟩, fun v' hv' => hall v' (List.mem_cons_of_mem _ hv')⟩
    | false =>
      rw [if_neg Bool.false_ne_true, mem_insert]
      constructor
      · rintro (⟨v', hv', hdel, rfl⟩ | ⟨rfl | ⟨hp, hk⟩, hall⟩)
        · exact .inl ⟨v', List.mem_cons_of_mem _ hv', hdel, rfl⟩
        · exact .inl ⟨v, List.mem_cons_self, hd, rfl⟩
        · exact .inr ⟨hp, by simpa using ⟨hk.symm, hall⟩⟩
      · rintro (⟨v', hv', hdel, rfl⟩ | ⟨hp, hall⟩)
        · rcases List.mem_cons.1 hv' with rfl | hv'
          · -- a later mention of the same key is the same row, for the batch is truthful
            by_cases hlater : ∃ v₂ ∈ batch, key v₂ = key v'
            · obtain ⟨v₂, hv₂, hkey⟩ := hlater
              have hrow := ((h v' List.mem_cons_self).resolve_left fun hx => by rw [hd] at hx; cases hx.1).2
              have hrow₂ := (h v₂ (List.mem_cons_of_mem _ hv₂)).resolve_left fun hx => hx.2 _ hrow hkey.symm
              obtain rfl : v₂ = v' := congrArg Prod.snd (target.row_unique hrow₂.2 hrow hkey)
              exact .inl ⟨v₂, hv₂, hrow₂.1, rfl⟩
            · exact .inr ⟨.inl rfl, fun v₂ hv₂ hkey => hlater ⟨v₂, hv₂, hkey⟩⟩
          · exact .inl ⟨v', hv', hdel, rfl⟩
        · exact .inr ⟨.inr ⟨hp, (hall v List.mem_cons_self).symm⟩, fun v' hv' => hall v' (List.mem_cons_of_mem _ hv')⟩

/-- **A window is carried over.** The batch is truthful about `B'`, mentions every key of `B`'s first `n`
rows that `B'` does not have, and every one of `B'`'s first `n` rows that is not among `B`'s. -/
theorem truncate_updateRows {B B' : BTreeMap κ ν} {batch : List ν} {n : Nat} (h : Truthful deletes key B' batch)
    (hremoved : ∀ p ∈ (B.truncate n).entries, (∀ q ∈ B'.entries, q.1 ≠ p.1) → ∃ v ∈ batch, key v = p.1)
    (hchanged : ∀ p ∈ (B'.truncate n).entries, p ∉ (B.truncate n).entries → ∃ v ∈ batch, key v = p.1) :
    ((B.truncate n).updateRows deletes key batch).truncate n = B'.truncate n := by
  refine truncate_eq (B'.len_truncate_le n) (fun p hp => ?_) (fun p hp => ?_)
  · have hp' := mem_of_mem_truncate hp
    rw [mem_updateRows h]
    by_cases hmention : ∃ v ∈ batch, key v = p.1
    · -- mentioned, hence inserted as `B'` has it
      obtain ⟨v, hv, hkey⟩ := hmention
      have hrow := (h v hv).resolve_left fun hx => hx.2 p hp' hkey.symm
      exact .inl ⟨v, hv, hrow.1, B'.row_unique hp' hrow.2 hkey.symm⟩
    · refine .inr ⟨?_, fun v hv hkey => hmention ⟨v, hv, hkey⟩⟩
      by_contra hout
      exact hmention (hchanged p hp hout)
  · rcases (mem_updateRows h _ p).1 hp with ⟨v, hv, hdel, rfl⟩ | ⟨hold, hquiet⟩
    · have hrow := ((h v hv).resolve_left fun hx => by rw [hdel] at hx; cases hx.1).2
      by_cases hin : (key v, v) ∈ (B'.truncate n).entries
      · exact .inl hin
      · exact .inr (beyond_truncate hrow hin)
    · -- an old row nobody mentions: its key is still in `B'`
      have hkey : ∃ q ∈ B'.entries, q.1 = p.1 := by
        by_contra hnone
        obtain ⟨v, hv, hk⟩ := hremoved p hold fun q hq hk => hnone ⟨q, hq, hk⟩
        exact hquiet v hv hk
      obtain ⟨q, hq, hqp⟩ := hkey
      by_cases hin : q ∈ (B'.truncate n).entries
      · by_cases heq : q ∈ (B.truncate n).entries
        · obtain rfl : q = p := (B.truncate n).row_unique heq hold hqp
          exact .inl hin
        · obtain ⟨v, hv, hk⟩ := hchanged q hin heq
          exact absurd (hk.trans hqp) (hquiet v hv)
      · obtain ⟨hfull, hafter⟩ := beyond_truncate hq hin
        exact .inr ⟨hfull, fun r hr => hqp ▸ hafter r hr⟩

/-- The batch leaves `v` under its key: it inserts it, and mentions that key no more after it. -/
def Leaves (deletes : ν → Bool) (key : ν → κ) (batch : List ν) (v : ν) : Prop :=
  ∃ pre post, batch = pre ++ v :: post ∧ deletes v = false ∧ ∀ v' ∈ post, key v' ≠ key v

omit [LinearOrder κ] in
theorem leaves_cons {v : ν} {batch : List ν} {w : ν} : Leaves deletes key (v :: batch) w ↔
    Leaves deletes key batch w ∨ (w = v ∧ deletes v = false ∧ ∀ v' ∈ batch, key v' ≠ key v) := by
  constructor
  · rintro ⟨pre, post, heq, hdel, hlast⟩
    cases pre with
    | nil =>
      obtain ⟨rfl, rfl⟩ := List.cons.inj heq
      exact .inr ⟨rfl, hdel, hlast⟩
    | cons v' pre =>
      obtain ⟨rfl, rfl⟩ := List.cons.inj heq
      exact .inl ⟨pre, post, rfl, hdel, hlast⟩
  · rintro (⟨pre, post, rfl, hdel, hlast⟩ | ⟨rfl, hdel, hlast⟩)
    · exact ⟨v :: pre, post, rfl, hdel, hlast⟩
    · exact ⟨[], batch, rfl, hdel, hlast⟩

/-- The rows after any batch: the ones it leaves, and the old ones it does not mention. -/
theorem mem_updateRows_leaves (m : BTreeMap κ ν) (batch : List ν) (p : κ × ν) :
    p ∈ (m.updateRows deletes key batch).entries ↔
      (∃ v, Leaves deletes key batch v ∧ p = (key v, v)) ∨ (p ∈ m.entries ∧ ∀ v ∈ batch, key v ≠ p.1) := by
  induction batch generalizing m with
  | nil => simp [updateRows, Leaves]
  | cons v batch ih =>
    change p ∈ (updateRows deletes key (if deletes v then m.remove (key v) else m.insert (key v) v) batch).entries ↔ _
    rw [ih]
    simp only [leaves_cons, List.forall_mem_cons]
    cases hd : deletes v with
    | true =>
      rw [if_pos rfl, mem_remove]
      constructor
      · rintro (⟨w, hw, rfl⟩ | ⟨⟨hp, hk⟩, hall⟩)
        · exact .inl ⟨w, .inl hw, rfl⟩
        · exact .inr ⟨hp, hk.symm, hall⟩
      · rintro (⟨w, hw | ⟨-, hdel, -⟩, rfl⟩ | ⟨hp, hk, hall⟩)
        · exact .inl ⟨w, hw, rfl⟩
        · cases hdel
        · exact .inr ⟨⟨hp, hk.symm⟩, hall⟩
    | false =>
      rw [if_neg Bool.false_ne_true, mem_insert]
      constructor
      · rintro (⟨w, hw, rfl⟩ | ⟨rfl | ⟨hp, hk⟩, hall⟩)
        · exact .inl ⟨w, .inl hw, rfl⟩
        · exact .inl ⟨v, .inr ⟨rfl, rfl, hall⟩, rfl⟩
        · exact .inr ⟨hp, hk.symm, hall⟩
      · rintro (⟨w, hw | ⟨rfl, -, hlast⟩, rfl⟩ | ⟨hp, hk, hall⟩)
        · exact .inl ⟨w, hw, rfl⟩
        · exact .inr ⟨.inl rfl, hlast⟩
        · exact .inr ⟨.inr ⟨hp, hk.symm⟩, hall⟩

theorem length_insertRow_le (k : κ) (v : ν) (rows : List (κ × ν)) : (insertRow k v rows).length ≤ rows.length + 1 := by
  induction rows with
  | nil => simp [insertRow]
  | cons row rows ih =>
    rw [insertRow]
    split
    · simp
    · split
      · simp
      · simp only [List.length_cons]
        omega

/-- A batch adds at most one row an item. -/
theorem len_updateRows_le (deletes : ν → Bool) (key : ν → κ) (m : BTreeMap κ ν) (batch : List ν) :
    (m.updateRows deletes key batch).len ≤ m.len + batch.length := by
  induction batch generalizing m with
  | nil => exact le_rfl
  | cons v batch ih =>
    have hone : (if deletes v then m.remove (key v) else m.insert (key v) v).len ≤ m.len + 1 := by
      split
      · exact (List.length_filter_le _ _).trans (Nat.le_succ _)
      · exact length_insertRow_le _ _ _
    have hrest := ih (if deletes v then m.remove (key v) else m.insert (key v) v)
    rw [List.length_cons]
    exact hrest.trans (by omega)

end Batch

/-! ## Looking a key up -/

section Get

variable {κ ν : Type*} [LinearOrder κ]

/-- `BTreeMap::get`. -/
def get? (m : BTreeMap κ ν) (k : κ) : Option ν := (m.entries.find? (·.1 = k)).map (·.2)

theorem get?_eq_some {m : BTreeMap κ ν} {k : κ} {v : ν} : m.get? k = some v ↔ (k, v) ∈ m.entries := by
  unfold get?
  constructor
  · intro h
    obtain ⟨p, hp, rfl⟩ := Option.map_eq_some_iff.1 h
    have hk : p.1 = k := by simpa using List.find?_some hp
    rw [← hk]
    exact List.mem_of_find?_eq_some hp
  · intro hin
    cases hf : m.entries.find? (·.1 = k) with
    | none =>
      have hnone := List.find?_eq_none.1 hf (k, v) hin
      simp at hnone
    | some p =>
      have hk : p.1 = k := by simpa using List.find?_some hf
      have hp : p = (k, v) := m.row_unique (List.mem_of_find?_eq_some hf) hin hk
      rw [hp, Option.map_some]

theorem get?_insert (m : BTreeMap κ ν) (k j : κ) (v : ν) :
    (m.insert k v).get? j = if j = k then some v else m.get? j := by
  by_cases hj : j = k
  · subst hj
    rw [if_pos rfl, get?_eq_some, mem_insert]
    exact .inl rfl
  · rw [if_neg hj]
    apply Option.ext
    intro w
    rw [get?_eq_some, get?_eq_some, mem_insert]
    constructor
    · rintro (heq | ⟨hin, -⟩)
      · exact absurd (congrArg Prod.fst heq) hj
      · exact hin
    · exact fun hin => .inr ⟨hin, hj⟩

/-- `BTreeMap::entry(k).or_insert(v)`. -/
def orInsert (m : BTreeMap κ ν) (k : κ) (v : ν) : BTreeMap κ ν := if (m.get? k).isSome then m else m.insert k v

theorem get?_orInsert (m : BTreeMap κ ν) (k j : κ) (v : ν) :
    (m.orInsert k v).get? j = if j = k then some ((m.get? k).getD v) else m.get? j := by
  unfold orInsert
  cases hk : m.get? k with
  | none => simp [get?_insert]
  | some w =>
    by_cases hj : j = k
    · simp [hj, hk]
    · simp [hj]

end Get

end BTreeMap
