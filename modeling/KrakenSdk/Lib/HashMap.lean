import Mathlib.Data.List.AList
/-!
# Finite maps

`HashMap κ ν` is Mathlib's association list with unique keys: the uniqueness is a field, so no
operation can build a map with two rows for one key. The lemmas here put `lookup` after `insert`
and `erase` in one `if` form, which is the form a case split on the key wants.
-/

/-- A finite map from `κ` to `ν`. -/
abbrev HashMap (κ ν : Type*) := AList (fun _ : κ => ν)

namespace HashMap

variable {κ ν : Type*} [DecidableEq κ]

/-- The values of the map, one per key. -/
def values (m : HashMap κ ν) : List ν := m.entries.map (·.2)

/-- `HashMap::is_empty`. -/
def isEmpty (m : HashMap κ ν) : Bool := m.entries.isEmpty

/-- `HashMap::len`. -/
def len (m : HashMap κ ν) : Nat := m.entries.length

theorem lookup_insert_ite (m : HashMap κ ν) (a a' : κ) (v : ν) :
    (m.insert a v).lookup a' = if a' = a then some v else m.lookup a' := by
  by_cases h : a' = a
  · subst h; simp
  · rw [if_neg h, AList.lookup_insert_ne h]

theorem lookup_erase_ite (m : HashMap κ ν) (a a' : κ) :
    (m.erase a).lookup a' = if a' = a then none else m.lookup a' := by
  by_cases h : a' = a
  · subst h; simp
  · rw [if_neg h, AList.lookup_erase_ne h]

omit [DecidableEq κ] in
@[simp] theorem values_empty : values (∅ : HashMap κ ν) = [] := rfl

omit [DecidableEq κ] in
@[simp] theorem isEmpty_empty : isEmpty (∅ : HashMap κ ν) = true := rfl

omit [DecidableEq κ] in
@[simp] theorem len_empty : len (∅ : HashMap κ ν) = 0 := rfl

theorem isEmpty_iff_lookup (m : HashMap κ ν) : isEmpty m = true ↔ ∀ a, m.lookup a = none := by
  constructor
  · intro h a
    have : m.entries = [] := by simpa [isEmpty] using h
    simp [AList.lookup, this]
  · intro h
    by_contra hne
    cases he : m.entries with
    | nil => simp [isEmpty, he] at hne
    | cons p ps =>
      have hmem : p.1 ∈ m := by simp [AList.mem_keys, AList.keys, he, List.keys]
      exact absurd (AList.lookup_isSome.2 hmem) (by simp [h p.1])

theorem mem_values_iff (m : HashMap κ ν) (v : ν) : v ∈ values m ↔ ∃ a, m.lookup a = some v := by
  constructor
  · intro h
    obtain ⟨⟨a, v'⟩, hmem, rfl⟩ := List.mem_map.1 h
    exact ⟨a, AList.mem_lookup_iff.2 hmem⟩
  · rintro ⟨a, ha⟩
    exact List.mem_map.2 ⟨⟨a, v⟩, AList.mem_lookup_iff.1 ha, rfl⟩

theorem isEmpty_insert (m : HashMap κ ν) (a : κ) (v : ν) : isEmpty (m.insert a v) = false := by
  rw [Bool.eq_false_iff]
  intro h
  have := (isEmpty_iff_lookup _).1 h a
  simp at this

/-- Counting rows: a list of pairs with the rows of the map that `P` is about counts the same. -/
theorem countP_entries (m : HashMap κ ν) {P : κ → ν → Prop} [∀ a v, Decidable (P a v)] {l : List (κ × ν)}
    (hl : l.Nodup) (h : ∀ a v, P a v → (m.lookup a = some v ↔ (a, v) ∈ l)) [DecidableEq ν] :
    (m.entries.countP fun row => P row.1 row.2) = l.countP fun row => P row.1 row.2 := by
  have hnd : (m.entries.map fun row => (row.1, row.2)).Nodup :=
    (List.NodupKeys.nodup m.nodupKeys).map fun a b hab => by
      cases a; cases b; simpa using hab
  have hperm : ((m.entries.map fun row => (row.1, row.2)).filter fun row => P row.1 row.2).Perm
      (l.filter fun row => P row.1 row.2) := by
    refine (List.perm_ext_iff_of_nodup (hnd.filter _) (hl.filter _)).2 fun row => ?_
    simp only [List.mem_filter, decide_eq_true_eq]
    refine and_congr_left fun hP => ?_
    rw [← h row.1 row.2 hP]
    constructor
    · intro hm
      obtain ⟨s, hs, rfl⟩ := List.mem_map.1 hm
      exact AList.mem_lookup_iff.2 hs
    · intro hm
      exact List.mem_map.2 ⟨⟨row.1, row.2⟩, AList.mem_lookup_iff.1 hm, rfl⟩
  have hlen := hperm.length_eq
  rw [← List.countP_eq_length_filter, ← List.countP_eq_length_filter, List.countP_map] at hlen
  exact hlen

/-! ## In place -/

section mapVals

omit [DecidableEq κ]

/-- Every value replaced in place (`HashMap::iter_mut`). -/
def mapVals (f : κ → ν → ν) (m : HashMap κ ν) : HashMap κ ν where
  entries := m.entries.map fun row => ⟨row.1, f row.1 row.2⟩
  nodupKeys := by
    have hkeys : (m.entries.map fun row => (⟨row.1, f row.1 row.2⟩ : Sigma fun _ : κ => ν)).keys = m.keys := by
      simp [List.keys, AList.keys, Function.comp_def]
    rw [List.NodupKeys, hkeys]
    exact m.keys_nodup

@[simp] theorem keys_mapVals (f : κ → ν → ν) (m : HashMap κ ν) : (mapVals f m).keys = m.keys := by
  simp [mapVals, List.keys, AList.keys, Function.comp_def]

theorem len_eq (m : HashMap κ ν) : len m = m.keys.length := by
  simp [len, AList.keys, List.keys]

theorem mem_mapVals (f : κ → ν → ν) (m : HashMap κ ν) (a : κ) : a ∈ mapVals f m ↔ a ∈ m := by
  show a ∈ (mapVals f m).keys ↔ a ∈ m.keys
  rw [keys_mapVals]

theorem lookup_mapVals [DecidableEq κ] (f : κ → ν → ν) (m : HashMap κ ν) (a : κ) :
    (mapVals f m).lookup a = (m.lookup a).map (f a) := by
  obtain ⟨entries, hnodup⟩ := m
  show List.dlookup a (entries.map fun row => (⟨row.1, f row.1 row.2⟩ : Sigma fun _ : κ => ν)) =
    Option.map (f a) (List.dlookup a entries)
  clear hnodup
  induction entries with
  | nil => rfl
  | cons row rest ih =>
    by_cases h : a = row.1
    · subst h
      rw [List.map_cons, List.dlookup_cons_eq, List.dlookup_cons_eq]
      rfl
    · rw [List.map_cons, List.dlookup_cons_ne rest row h, ← ih]
      exact List.dlookup_cons_ne _ _ h

theorem exists_mem_of_len_pos {m : HashMap κ ν} (h : 0 < len m) : ∃ a, a ∈ m := by
  rw [len_eq] at h
  obtain ⟨a, ha⟩ := List.exists_mem_of_length_pos h
  exact ⟨a, ha⟩

end mapVals

theorem len_insert_of_mem {m : HashMap κ ν} {a : κ} (h : a ∈ m) (v : ν) : len (m.insert a v) = len m := by
  have hpos : 0 < m.keys.length := List.length_pos_of_mem h
  have herase : (m.keys.erase a).length = m.keys.length - 1 := List.length_erase_of_mem h
  rw [len_eq, len_eq, AList.keys_insert, List.length_cons]
  omega

theorem len_insert_of_not_mem {m : HashMap κ ν} {a : κ} (h : a ∉ m) (v : ν) : len (m.insert a v) = len m + 1 := by
  have herase : m.keys.erase a = m.keys := List.erase_of_not_mem h
  rw [len_eq, len_eq, AList.keys_insert, List.length_cons, herase]

theorem len_erase_of_mem {m : HashMap κ ν} {a : κ} (h : a ∈ m) : len (m.erase a) + 1 = len m := by
  have hpos : 0 < m.keys.length := List.length_pos_of_mem h
  rw [len_eq, len_eq, AList.keys_erase, List.length_erase_of_mem h]
  omega

theorem len_erase_of_not_mem {m : HashMap κ ν} {a : κ} (h : a ∉ m) : len (m.erase a) = len m := by
  have herase : m.keys.erase a = m.keys := List.erase_of_not_mem h
  rw [len_eq, len_eq, AList.keys_erase, herase]

/-! ## Two levels

A map of maps read and written at a pair of keys; a bucket is created on demand and dropped when it
empties. -/

section Nested

variable {ι : Type*} [DecidableEq ι]

/-- The value at `(a, b)`. -/
def lookup₂ (m : HashMap κ (HashMap ι ν)) (a : κ) (b : ι) : Option ν := (m.lookup a).bind (·.lookup b)

/-- Write at `(a, b)`. -/
def insert₂ (m : HashMap κ (HashMap ι ν)) (a : κ) (b : ι) (v : ν) : HashMap κ (HashMap ι ν) :=
  m.insert a (((m.lookup a).getD ∅).insert b v)

/-- Remove at `(a, b)`, and the bucket of `a` with its last row. -/
def erase₂ (m : HashMap κ (HashMap ι ν)) (a : κ) (b : ι) : HashMap κ (HashMap ι ν) :=
  match m.lookup a with
  | none => m
  | some inner => if isEmpty (inner.erase b) then m.erase a else m.insert a (inner.erase b)

/-- No bucket is empty. -/
def NoEmptyBucket (m : HashMap κ (HashMap ι ν)) : Prop := ∀ a inner, m.lookup a = some inner → isEmpty inner = false

theorem mem_values₂_iff (m : HashMap κ (HashMap ι ν)) (v : ν) :
    v ∈ (values m).flatMap values ↔ ∃ a b, lookup₂ m a b = some v := by
  simp only [List.mem_flatMap, mem_values_iff, lookup₂]
  constructor
  · rintro ⟨inner, ⟨a, ha⟩, b, hb⟩
    exact ⟨a, b, by rw [ha]; exact hb⟩
  · rintro ⟨a, b, h⟩
    obtain ⟨inner, ha, hb⟩ := Option.bind_eq_some_iff.1 h
    exact ⟨inner, ⟨a, ha⟩, b, hb⟩

/-- Values that tell their keys tell them apart. -/
theorem nodup_map_values {γ : Type*} {m : HashMap κ ν} {f : ν → γ} {g : κ → γ} (hg : Function.Injective g)
    (hf : ∀ a v, m.lookup a = some v → f v = g a) : ((values m).map f).Nodup := by
  have hkeys : (values m).map f = m.keys.map g := by
    rw [values, AList.keys, List.keys, List.map_map, List.map_map]
    exact List.map_congr_left fun row hrow => hf row.1 row.2 (AList.mem_lookup_iff.2 hrow)
  rw [hkeys]
  exact m.keys_nodup.map hg

theorem nodup_map_values₂ {γ : Type*} {m : HashMap κ (HashMap ι ν)} {f : ν → γ} {g : κ → ι → γ}
    (hg : ∀ a b a' b', g a b = g a' b' → a = a' ∧ b = b') (hf : ∀ a b v, lookup₂ m a b = some v → f v = g a b) :
    (((values m).flatMap values).map f).Nodup := by
  have hbucket : ∀ a inner, m.lookup a = some inner → ∀ b v, inner.lookup b = some v → f v = g a b := by
    intro a inner hinner b v hv
    exact hf a b v (by rw [lookup₂, hinner]; exact hv)
  rw [List.map_flatMap, values, List.flatMap_map, List.nodup_flatMap]
  constructor
  · intro row hrow
    exact nodup_map_values (fun b b' hb => (hg row.1 b row.1 b' hb).2) (hbucket row.1 row.2 (AList.mem_lookup_iff.2 hrow))
  · have hapart : m.entries.Pairwise fun row row' => row.1 ≠ row'.1 := List.pairwise_map.1 m.nodupKeys
    refine hapart.imp_of_mem fun {row row'} hrow hrow' hne c hc hc' => hne ?_
    obtain ⟨v, hv, rfl⟩ := List.mem_map.1 hc
    obtain ⟨v', hv', heq⟩ := List.mem_map.1 hc'
    obtain ⟨b, hb⟩ := (mem_values_iff _ _).1 hv
    obtain ⟨b', hb'⟩ := (mem_values_iff _ _).1 hv'
    rw [hbucket row.1 row.2 (AList.mem_lookup_iff.2 hrow) b v hb,
      hbucket row'.1 row'.2 (AList.mem_lookup_iff.2 hrow') b' v' hb'] at heq
    exact (hg _ _ _ _ heq).1.symm

theorem lookup₂_insert₂ (m : HashMap κ (HashMap ι ν)) (a a' : κ) (b b' : ι) (v : ν) :
    lookup₂ (insert₂ m a b v) a' b' = if a' = a ∧ b' = b then some v else lookup₂ m a' b' := by
  by_cases ha : a' = a
  · subst ha
    rw [lookup₂, insert₂, AList.lookup_insert, Option.bind_some, lookup_insert_ite, lookup₂]
    cases m.lookup a' <;> simp
  · rw [if_neg (fun h => ha h.1), lookup₂, insert₂, AList.lookup_insert_ne ha, lookup₂]

theorem lookup₂_erase₂ (m : HashMap κ (HashMap ι ν)) (a a' : κ) (b b' : ι) :
    lookup₂ (erase₂ m a b) a' b' = if a' = a ∧ b' = b then none else lookup₂ m a' b' := by
  simp only [lookup₂, erase₂]
  by_cases ha : a' = a
  · subst ha
    cases hl : m.lookup a' with
    | none => simp [hl]
    | some inner =>
      have hb : (inner.erase b).lookup b' = if b' = b then none else inner.lookup b' := lookup_erase_ite inner b b'
      simp only [true_and, Option.bind_some]
      split
      next hemp => rw [AList.lookup_erase, Option.bind_none, ← hb, (isEmpty_iff_lookup _).1 hemp b']
      next => rw [AList.lookup_insert, Option.bind_some, hb]
  · rw [if_neg (fun h => ha h.1)]
    cases m.lookup a with
    | none => rfl
    | some inner =>
      dsimp only
      split
      · rw [AList.lookup_erase_ne ha]
      · rw [AList.lookup_insert_ne ha]

theorem NoEmptyBucket.insert₂ {m : HashMap κ (HashMap ι ν)} (h : NoEmptyBucket m) (a : κ) (b : ι) (v : ν) :
    NoEmptyBucket (insert₂ m a b v) := by
  intro a' inner hl
  rw [HashMap.insert₂, lookup_insert_ite] at hl
  split at hl
  · obtain rfl := Option.some.inj hl
    exact isEmpty_insert _ _ _
  · exact h a' inner hl

omit [DecidableEq ι] in
theorem NoEmptyBucket.erase {m : HashMap κ (HashMap ι ν)} (h : NoEmptyBucket m) (a : κ) :
    NoEmptyBucket (AList.erase a m) := by
  intro a' inner hl
  rw [lookup_erase_ite] at hl
  split at hl
  · cases hl
  · exact h a' inner hl

theorem NoEmptyBucket.erase₂ {m : HashMap κ (HashMap ι ν)} (h : NoEmptyBucket m) (a : κ) (b : ι) :
    NoEmptyBucket (erase₂ m a b) := by
  unfold HashMap.erase₂
  split
  · exact h
  next inner _ =>
    split
    · exact h.erase a
    next hne =>
      intro a' inner' hl
      rw [lookup_insert_ite] at hl
      split at hl
      · obtain rfl := Option.some.inj hl
        exact Bool.eq_false_iff.2 hne
      · exact h a' inner' hl

end Nested

/-! ## Row after row -/

section insertAll

/-- Insert rows one after the other: the last row of a key stays. -/
def insertAll (m : HashMap κ ν) (rows : List (κ × ν)) : HashMap κ ν := rows.foldl (fun m row => m.insert row.1 row.2) m

theorem insertAll_cons (m : HashMap κ ν) (row : κ × ν) (rows : List (κ × ν)) :
    insertAll m (row :: rows) = insertAll (m.insert row.1 row.2) rows := rfl

theorem lookup_insertAll_of_not_mem {m : HashMap κ ν} {rows : List (κ × ν)} {a : κ} (h : a ∉ rows.map Prod.fst) :
    (insertAll m rows).lookup a = m.lookup a := by
  induction rows generalizing m with
  | nil => rfl
  | cons row rows ih =>
    rw [List.map_cons, List.mem_cons, not_or] at h
    rw [insertAll_cons, ih h.2, AList.lookup_insert_ne h.1]

theorem lookup_insertAll_of_nodup {m : HashMap κ ν} {rows : List (κ × ν)} (hnodup : (rows.map Prod.fst).Nodup) {a : κ} {v : ν}
    (h : (a, v) ∈ rows) : (insertAll m rows).lookup a = some v := by
  induction rows generalizing m with
  | nil => cases h
  | cons row rows ih =>
    rw [List.map_cons, List.nodup_cons] at hnodup
    rw [insertAll_cons]
    rcases List.mem_cons.1 h with rfl | h
    · rw [lookup_insertAll_of_not_mem hnodup.1, AList.lookup_insert]
    · exact ih hnodup.2 h

/-- `Entry::Vacant(v) => v.insert(..)` for rows one after the other: the first row of a key stays. -/
def insertVacant (m : HashMap κ ν) (rows : List (κ × ν)) : HashMap κ ν :=
  rows.foldl (fun m row => match m.lookup row.1 with | none => m.insert row.1 row.2 | some _ => m) m

theorem lookup_insertVacant (m : HashMap κ ν) (rows : List (κ × ν)) (a : κ) :
    (insertVacant m rows).lookup a = (m.lookup a).or ((rows.find? (·.1 = a)).map Prod.snd) := by
  induction rows generalizing m with
  | nil => simp [insertVacant]
  | cons row rows ih =>
    rw [insertVacant, List.foldl_cons, ← insertVacant, ih]
    by_cases ha : row.1 = a
    · subst ha
      cases hold : m.lookup row.1 <;> simp [hold]
    · have hne : a ≠ row.1 := fun h => ha h.symm
      cases hold : m.lookup row.1 <;> simp [ha, AList.lookup_insert_ne hne]

theorem len_insertAll_le (m : HashMap κ ν) (rows : List (κ × ν)) : len (insertAll m rows) ≤ len m + rows.length := by
  induction rows generalizing m with
  | nil => exact Nat.le_refl _
  | cons row rows ih =>
    have hrest := ih (m.insert row.1 row.2)
    have hone : len (m.insert row.1 row.2) ≤ len m + 1 := by
      by_cases h : row.1 ∈ m
      · rw [len_insert_of_mem h]
        omega
      · rw [len_insert_of_not_mem h]
    rw [insertAll_cons, List.length_cons]
    omega

/-- No row is lost exactly if no key comes twice, nor is there already. -/
theorem len_insertAll_eq_iff {m : HashMap κ ν} {rows : List (κ × ν)} : len (insertAll m rows) = len m + rows.length ↔
    (rows.map Prod.fst).Nodup ∧ ∀ a ∈ rows.map Prod.fst, a ∉ m := by
  induction rows generalizing m with
  | nil => simp [insertAll]
  | cons row rows ih =>
    have hle := len_insertAll_le (m.insert row.1 row.2) rows
    rw [insertAll_cons, List.length_cons, List.map_cons, List.nodup_cons]
    by_cases h : row.1 ∈ m
    · rw [len_insert_of_mem h] at hle
      refine iff_of_false (by omega) fun hfresh => hfresh.2 row.1 List.mem_cons_self h
    · have hlen := @ih (m.insert row.1 row.2)
      rw [len_insert_of_not_mem h] at hlen
      rw [Nat.add_comm rows.length 1, ← Nat.add_assoc, hlen]
      constructor
      · rintro ⟨hnodup, hfresh⟩
        have hnew : row.1 ∉ rows.map Prod.fst := fun hm => hfresh row.1 hm ((AList.mem_insert _).2 (.inl rfl))
        refine ⟨⟨hnew, hnodup⟩, fun a ha => ?_⟩
        rcases List.mem_cons.1 ha with rfl | ha
        · exact h
        · exact fun hm => hfresh a ha ((AList.mem_insert _).2 (.inr hm))
      · rintro ⟨⟨hnew, hnodup⟩, hfresh⟩
        refine ⟨hnodup, fun a ha hm => ?_⟩
        rcases (AList.mem_insert _).1 hm with rfl | hm
        · exact hnew ha
        · exact hfresh a (List.mem_cons_of_mem _ ha) hm

end insertAll

/-! ## Two maps, each the other turned round -/

section Inverse

variable {ι : Type*} [DecidableEq ι] {m : HashMap κ ι} {n : HashMap ι κ}

/-- A row is in one of the maps exactly if it is in the other, turned round. -/
def Inverse (m : HashMap κ ι) (n : HashMap ι κ) : Prop := ∀ a b, m.lookup a = some b ↔ n.lookup b = some a

omit [DecidableEq ι] in
/-- The key to evict, if there is one. -/
def evict (m : HashMap κ ν) : Option κ → HashMap κ ν
  | some a => m.erase a
  | none => m

theorem lookup_evict (m : HashMap κ ν) (o : Option κ) (a : κ) :
    (evict m o).lookup a = if o = some a then none else m.lookup a := by
  cases o with
  | none => rfl
  | some a' =>
    rw [evict, lookup_erase_ite]
    by_cases h : a = a'
    · rw [if_pos h, if_pos (congrArg some h.symm)]
    · rw [if_neg h, if_neg fun he => h (Option.some.inj he).symm]

theorem inverse_empty : Inverse (∅ : HashMap κ ι) (∅ : HashMap ι κ) := by
  intro a b
  rw [AList.lookup_empty, AList.lookup_empty]
  exact iff_of_false nofun nofun

/-- No value has two keys. -/
theorem Inverse.inj (h : Inverse m n) {a a' : κ} {b : ι} (ha : m.lookup a = some b) (ha' : m.lookup a' = some b) : a = a' :=
  Option.some.inj (((h a b).1 ha).symm.trans ((h a' b).1 ha'))

/-- Both rows of `b` go. -/
theorem Inverse.unlink (h : Inverse m n) (b : ι) : Inverse (evict m (n.lookup b)) (n.erase b) := by
  intro a b'
  rw [lookup_evict, lookup_erase_ite]
  by_cases hb : b' = b
  · subst hb
    rw [if_pos rfl]
    refine iff_of_false ?_ nofun
    split
    · exact nofun
    next hne => exact fun ha => hne ((h a b').1 ha)
  · rw [if_neg hb, ← h a b']
    split
    next hab => exact iff_of_false nofun fun hab' => hb (Option.some.inj (hab'.symm.trans ((h a b).2 hab)))
    next => exact Iff.rfl

/-- A fresh key and `b` get each other, and what `b` had goes. -/
theorem Inverse.link (h : Inverse m n) {a : κ} (hfresh : m.lookup a = none) (b : ι) :
    Inverse ((evict m (n.lookup b)).insert a b) (n.insert b a) := by
  intro a' b'
  have hkept := h.unlink b a' b'
  rw [lookup_erase_ite] at hkept
  rw [lookup_insert_ite, lookup_insert_ite]
  by_cases ha : a' = a
  · subst ha
    rw [if_pos rfl]
    by_cases hb : b' = b
    · rw [if_pos hb, hb]
      exact iff_of_true rfl rfl
    · rw [if_neg hb]
      refine iff_of_false (fun he => hb (Option.some.inj he).symm) fun he => ?_
      cases hfresh.symm.trans ((h a' b').2 he)
  · rw [if_neg ha]
    by_cases hb : b' = b
    · rw [if_pos hb] at hkept ⊢
      exact hkept.trans (iff_of_false nofun fun he => ha (Option.some.inj he).symm)
    · rw [if_neg hb] at hkept ⊢
      exact hkept

end Inverse

/-! ## What holds of every value -/

/-- Every value of the map is one of `p`. -/
def AllValues (p : ν → Prop) (m : HashMap κ ν) : Prop := ∀ a v, m.lookup a = some v → p v

section AllValues

variable {p : ν → Prop} {m : HashMap κ ν}

theorem allValues_empty : AllValues p (∅ : HashMap κ ν) := by
  intro a v h
  rw [AList.lookup_empty] at h
  cases h

theorem AllValues.insert (h : AllValues p m) {a : κ} {v : ν} (hv : p v) : AllValues p (m.insert a v) := by
  intro a' v' hlookup
  rw [lookup_insert_ite] at hlookup
  split at hlookup
  · rwa [← Option.some.inj hlookup]
  · exact h a' v' hlookup

theorem AllValues.erase (h : AllValues p m) (a : κ) : AllValues p (m.erase a) := by
  intro a' v' hlookup
  rw [lookup_erase_ite] at hlookup
  split at hlookup
  · cases hlookup
  · exact h a' v' hlookup

theorem AllValues.mapVals (h : AllValues p m) {f : κ → ν → ν} (hf : ∀ a v, p v → p (f a v)) : AllValues p (mapVals f m) := by
  intro a v hlookup
  rw [lookup_mapVals] at hlookup
  obtain ⟨v', hv', rfl⟩ := Option.map_eq_some_iff.1 hlookup
  exact hf a v' (h a v' hv')

end AllValues

end HashMap
