import KrakenSdk.Lib.HashMap
/-!
# A cache that drops what was used longest ago

A finite map whose rows stand in the order of their last use, the most recent first: Mathlib's `insert` puts the row of
its key in front. `putCapped` then drops the last row of a cache that has grown past its cap. Up to `cap` rows put in turn
are all there (`mem_putAll`), and nothing is there that was neither put nor there before (`lookup_putAll`).
-/

/-- A map with its rows in the order of use. -/
abbrev LruCache (κ ν : Type*) := HashMap κ ν

namespace LruCache

open HashMap (len)

variable {κ ν : Type*}

/-- Drop what was used longest ago. -/
def popLru (m : LruCache κ ν) : LruCache κ ν :=
  ⟨m.entries.dropLast, m.nodupKeys.sublist (List.dropLast_sublist _)⟩

theorem len_popLru (m : LruCache κ ν) : len (popLru m) = len m - 1 := List.length_dropLast

theorem keys_popLru (m : LruCache κ ν) : (popLru m).keys = m.keys.dropLast := List.map_dropLast

variable [DecidableEq κ]

theorem lookup_popLru {m : LruCache κ ν} {k : κ} {v : ν} (h : (popLru m).lookup k = some v) : m.lookup k = some v :=
  List.sublist_dlookup m.nodupKeys (List.dropLast_sublist _) h

/-- Put a row, and drop one if that is one too many. -/
def putCapped (cap : Nat) (m : LruCache κ ν) (k : κ) (v : ν) : LruCache κ ν :=
  if cap < len (m.insert k v) then popLru (m.insert k v) else m.insert k v

/-- What `get` of a cache does to the order. -/
def promote (m : LruCache κ ν) (k : κ) : LruCache κ ν :=
  match m.lookup k with
  | some v => m.insert k v
  | none => m

variable {cap : Nat} {m : LruCache κ ν} {k k' : κ} {v v' : ν}

theorem len_insert_le (m : LruCache κ ν) (k : κ) (v : ν) : len (m.insert k v) ≤ len m + 1 := by
  by_cases hmem : k ∈ m
  · rw [HashMap.len_insert_of_mem hmem]
    omega
  · rw [HashMap.len_insert_of_not_mem hmem]

theorem len_putCapped (h : len m ≤ cap) (k : κ) (v : ν) : len (putCapped cap m k v) ≤ cap := by
  have hgrown := len_insert_le m k v
  unfold putCapped
  split
  · rw [len_popLru]
    omega
  · omega

theorem len_promote (m : LruCache κ ν) (k : κ) : len (promote m k) = len m := by
  unfold promote
  split
  next v hv => exact HashMap.len_insert_of_mem (AList.lookup_isSome.1 (by rw [hv]; rfl)) v
  next => rfl

theorem lookup_promote (m : LruCache κ ν) (k k' : κ) : (promote m k).lookup k' = m.lookup k' := by
  unfold promote
  split
  next v hv =>
    rw [HashMap.lookup_insert_ite]
    split
    next heq => rw [heq, hv]
    next => rfl
  next => rfl

/-- Nothing appears but the row that was put. -/
theorem lookup_putCapped (h : (putCapped cap m k v).lookup k' = some v') :
    (k' = k ∧ v' = v) ∨ (k' ≠ k ∧ m.lookup k' = some v') := by
  have hinsert : (m.insert k v).lookup k' = some v' := by
    unfold putCapped at h
    split at h
    · exact lookup_popLru h
    · exact h
  rw [HashMap.lookup_insert_ite] at hinsert
  split at hinsert
  next heq => exact .inl ⟨heq, (Option.some.inj hinsert).symm⟩
  next hne => exact .inr ⟨hne, hinsert⟩

/-- A cache with room keeps what it has. -/
theorem putCapped_of_room (h : len m < cap) (k : κ) (v : ν) : putCapped cap m k v = m.insert k v := by
  have hgrown := len_insert_le m k v
  exact if_neg (by omega)

/-! ## The keys used last -/

theorem mem_take_erase {l : List κ} {a b : κ} {n : Nat} (h : a ∈ l.take n) (hne : a ≠ b) : a ∈ (l.erase b).take n := by
  induction l generalizing n with
  | nil => simp at h
  | cons x l ih =>
    cases n with
    | zero => simp at h
    | succ n =>
      by_cases hx : x = b
      · subst hx
        rw [List.erase_cons_head]
        rcases List.mem_cons.1 h with rfl | hl
        · exact absurd rfl hne
        · exact List.take_subset_take_left l (Nat.le_succ n) hl
      · rw [List.erase_cons_tail (by simpa using hx)]
        rcases List.mem_cons.1 h with rfl | hl
        · exact List.mem_cons_self
        · exact List.mem_cons_of_mem _ (ih hl)

/-- One more put moves a key down by one place at most, and drops none of the first `cap`. -/
theorem mem_take_putCapped {n : Nat} (h : k' = k ∨ k' ∈ m.keys.take n) (hn : n < cap) :
    k' ∈ (putCapped cap m k v).keys.take (n + 1) := by
  have hinsert : k' ∈ (m.insert k v).keys.take (n + 1) := by
    rw [AList.keys_insert, List.take_succ_cons, List.mem_cons]
    by_cases heq : k' = k
    · exact .inl heq
    · exact .inr (mem_take_erase (h.resolve_left heq) heq)
  unfold putCapped
  split
  next hlen =>
    have hkeys : (m.insert k v).keys.length = len (m.insert k v) := List.length_map _
    rw [keys_popLru, List.dropLast_eq_take, List.take_take, min_eq_left (by omega)]
    exact hinsert
  next => exact hinsert

/-! ## Putting several rows -/

/-- Put each row in turn. -/
def putAll (cap : Nat) (m : LruCache κ ν) (rows : List (κ × ν)) : LruCache κ ν :=
  rows.foldl (fun m row => putCapped cap m row.1 row.2) m

variable {rows : List (κ × ν)}

/-- A row that is there was put, or was there before and not put over. -/
theorem lookup_putAll (h : (putAll cap m rows).lookup k = some v) :
    (k, v) ∈ rows ∨ (k ∉ rows.map Prod.fst ∧ m.lookup k = some v) := by
  induction rows generalizing m with
  | nil => exact .inr ⟨List.not_mem_nil, h⟩
  | cons row rows ih =>
    rcases ih h with hmem | ⟨hmem, hlookup⟩
    · exact .inl (List.mem_cons_of_mem row hmem)
    · rcases lookup_putCapped hlookup with ⟨rfl, rfl⟩ | ⟨hne, hold⟩
      · exact .inl List.mem_cons_self
      · exact .inr ⟨fun hin => (List.mem_cons.1 hin).elim hne hmem, hold⟩

theorem mem_take_putAll {n : Nat} (h : k ∈ rows.map Prod.fst ∨ k ∈ m.keys.take n) (hn : n + rows.length ≤ cap) :
    k ∈ (putAll cap m rows).keys.take (n + rows.length) := by
  induction rows generalizing m n with
  | nil => exact h.resolve_left List.not_mem_nil
  | cons row rows ih =>
    have hlength : n + (row :: rows).length = n + 1 + rows.length := by
      rw [List.length_cons]
      omega
    rw [hlength] at hn ⊢
    refine ih ?_ hn
    by_cases hmem : k ∈ rows.map Prod.fst
    · exact .inl hmem
    · refine .inr (mem_take_putCapped ?_ (by omega))
      rcases h with hrows | hold
      · exact .inl ((List.mem_cons.1 hrows).resolve_right hmem)
      · exact .inr hold

/-- As many rows as the cap are all there. -/
theorem mem_putAll (h : k ∈ rows.map Prod.fst) (hcap : rows.length ≤ cap) :
    ∃ v, (k, v) ∈ rows ∧ (putAll cap m rows).lookup k = some v := by
  have htake : k ∈ (putAll cap m rows).keys.take (0 + rows.length) := mem_take_putAll (.inl h) (by omega)
  obtain ⟨v, hv⟩ := Option.isSome_iff_exists.1 (AList.lookup_isSome.2 (AList.mem_keys.2 (List.mem_of_mem_take htake)))
  rcases lookup_putAll hv with hmem | ⟨hnot, -⟩
  · exact ⟨v, hmem, hv⟩
  · exact absurd h hnot

/-- With room for all of them, no other row changes. -/
theorem lookup_putAll_of_not_mem (h : k ∉ rows.map Prod.fst) (hroom : len m + rows.length ≤ cap) :
    (putAll cap m rows).lookup k = m.lookup k := by
  induction rows generalizing m with
  | nil => rfl
  | cons row rows ih =>
    rw [List.map_cons, List.mem_cons, not_or] at h
    rw [List.length_cons] at hroom
    have hgrown := len_insert_le m row.1 row.2
    show (putAll cap (putCapped cap m row.1 row.2) rows).lookup k = _
    rw [putCapped_of_room (by omega), ih h.2 (by omega), AList.lookup_insert_ne h.1]

end LruCache
