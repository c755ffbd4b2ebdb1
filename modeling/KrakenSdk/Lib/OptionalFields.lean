import Mathlib.Data.List.Nodup
import KrakenSdk.Lib.BTreeMap
/-!
# Records written as optional fields

A record is written as rows, each a key and a value that may be missing; only the rows with a value are there. The
reader gets a list (`emit`) or a map (`ofRows`). When the keys are fixed and distinct, nothing is lost: two records
are written the same only if all their rows are the same.
-/
namespace OptionalFields

variable {κ ν : Type*}

/-- The fields that are there, in order. -/
def emit (rows : List (κ × Option ν)) : List (κ × ν) := rows.filterMap fun row => row.2.map (row.1, ·)

/-- The keys of the rows, whether there or not. -/
def keys (rows : List (κ × Option ν)) : List κ := rows.map (·.1)

@[simp] theorem emit_nil : emit ([] : List (κ × Option ν)) = [] := rfl

@[simp] theorem emit_cons_none (k : κ) (rows : List (κ × Option ν)) : emit ((k, none) :: rows) = emit rows := rfl

@[simp] theorem emit_cons_some (k : κ) (v : ν) (rows : List (κ × Option ν)) :
    emit ((k, some v) :: rows) = (k, v) :: emit rows := rfl

theorem emit_append (rows rows' : List (κ × Option ν)) : emit (rows ++ rows') = emit rows ++ emit rows' :=
  List.filterMap_append ..

theorem mem_emit {rows : List (κ × Option ν)} {k : κ} {v : ν} : (k, v) ∈ emit rows ↔ (k, some v) ∈ rows := by
  simp only [emit, List.mem_filterMap]
  constructor
  · rintro ⟨⟨k', v'⟩, hmem, h⟩
    cases v' with
    | none => cases h
    | some v' =>
      obtain ⟨rfl, rfl⟩ := by simpa using h
      exact hmem
  · intro h
    exact ⟨(k, some v), h, rfl⟩

/-- A choice of keys is a choice of rows. -/
theorem filter_emit (P : κ → Bool) (rows : List (κ × Option ν)) :
    (emit rows).filter (fun p => P p.1) = emit (rows.filter fun row => P row.1) := by
  induction rows with
  | nil => rfl
  | cons row rows ih =>
    obtain ⟨k, v⟩ := row
    cases v with
    | none => by_cases h : P k = true <;> simpa [h] using ih
    | some v => by_cases h : P k = true <;> simpa [h] using ih

/-- Fields under other keys are rows under other keys. -/
theorem map_emit (g : κ → κ) (rows : List (κ × Option ν)) :
    (emit rows).map (fun p => (g p.1, p.2)) = emit (rows.map fun row => (g row.1, row.2)) := by
  induction rows with
  | nil => rfl
  | cons row rows ih =>
    obtain ⟨k, v⟩ := row
    cases v with
    | none => simpa using ih
    | some v => simpa using ih

theorem emit_perm {rows rows' : List (κ × Option ν)} (h : rows.Perm rows') : (emit rows).Perm (emit rows') := h.filterMap _

/-- Rows with the same distinct keys are known by the fields that are there. -/
theorem rows_ext {rows rows' : List (κ × Option ν)} (hkeys : keys rows = keys rows') (hnodup : (keys rows).Nodup)
    (h : ∀ k v, (k, some v) ∈ rows ↔ (k, some v) ∈ rows') : rows = rows' := by
  induction rows generalizing rows' with
  | nil =>
    cases rows' with
    | nil => rfl
    | cons row rows' => cases hkeys
  | cons row rows ih =>
    cases rows' with
    | nil => cases hkeys
    | cons row' rows' =>
      obtain ⟨k, v⟩ := row
      obtain ⟨k', v'⟩ := row'
      obtain ⟨rfl, htail⟩ : k = k' ∧ keys rows = keys rows' := by simpa [keys] using hkeys
      obtain ⟨hout, hnodup⟩ := List.nodup_cons.1 hnodup
      have hkey : ∀ {w : Option ν}, (k, w) ∉ rows := fun hmem => hout (List.mem_map.2 ⟨_, hmem, rfl⟩)
      have hkey' : ∀ {w : Option ν}, (k, w) ∉ rows' := by
        intro w hmem
        have hk : k ∈ keys rows' := List.mem_map.2 ⟨_, hmem, rfl⟩
        rw [← htail] at hk
        exact hout hk
      have hhead : v = v' := by
        apply Option.ext
        intro w
        have hw := h k w
        simpa [hkey, hkey', eq_comm] using hw
      subst hhead
      have hrest : rows = rows' := by
        refine ih htail hnodup fun a w => ?_
        have hw := h a w
        by_cases hak : a = k
        · subst hak
          simp [hkey, hkey']
        · simpa [hak] using hw
      rw [hrest]

/-- **A list of fields** gives the rows back. -/
theorem emit_injective {rows rows' : List (κ × Option ν)} (hkeys : keys rows = keys rows') (hnodup : (keys rows).Nodup)
    (h : emit rows = emit rows') : rows = rows' :=
  rows_ext hkeys hnodup fun k v => by rw [← mem_emit, h, mem_emit]

/-! ## Maps -/

variable [LinearOrder κ]

/-- Insert a value that is there. -/
def insertSome (m : BTreeMap κ ν) (k : κ) : Option ν → BTreeMap κ ν
  | some v => m.insert k v
  | none => m

@[simp] theorem insertSome_none (m : BTreeMap κ ν) (k : κ) : insertSome m k none = m := rfl

@[simp] theorem insertSome_some (m : BTreeMap κ ν) (k : κ) (v : ν) : insertSome m k (some v) = m.insert k v := rfl

/-- Insert the rows one after the other. -/
def insertRows (m : BTreeMap κ ν) (rows : List (κ × Option ν)) : BTreeMap κ ν :=
  rows.foldl (fun m row => insertSome m row.1 row.2) m

theorem insertRows_append (m : BTreeMap κ ν) (rows rows' : List (κ × Option ν)) :
    insertRows m (rows ++ rows') = insertRows (insertRows m rows) rows' := List.foldl_append

/-- The map of the rows. -/
def ofRows (rows : List (κ × Option ν)) : BTreeMap κ ν := insertRows .empty rows

theorem mem_insertRows {rows : List (κ × Option ν)} (hnodup : (keys rows).Nodup) {m : BTreeMap κ ν}
    (hm : ∀ p ∈ m.entries, p.1 ∉ keys rows) (p : κ × ν) :
    p ∈ (insertRows m rows).entries ↔ p ∈ m.entries ∨ (p.1, some p.2) ∈ rows := by
  induction rows generalizing m with
  | nil => simp [insertRows]
  | cons row rows ih =>
    obtain ⟨k, v⟩ := row
    obtain ⟨hout, htail⟩ := List.nodup_cons.1 hnodup
    have hrest : ∀ q ∈ m.entries, q.1 ≠ k ∧ q.1 ∉ keys rows := by
      intro q hq
      simpa [keys] using hm q hq
    cases v with
    | none =>
      refine (ih htail fun q hq => (hrest q hq).2).trans ?_
      simp
    | some v =>
      have hinsert : ∀ q ∈ (m.insert k v).entries, q.1 ∉ keys rows := by
        intro q hq
        rcases (BTreeMap.mem_insert m k v q).1 hq with rfl | ⟨hq, -⟩
        · exact hout
        · exact (hrest q hq).2
      refine (ih htail hinsert).trans ?_
      rw [BTreeMap.mem_insert]
      have hpair : p = (k, v) ↔ (p.1, some p.2) = (k, some v) := by
        constructor
        · rintro rfl
          rfl
        · intro h
          obtain ⟨hk, hv⟩ := by simpa using h
          exact Prod.ext hk hv
      rw [List.mem_cons, hpair]
      constructor
      · rintro ((h | ⟨h, -⟩) | h)
        · exact .inr (.inl h)
        · exact .inl h
        · exact .inr (.inr h)
      · rintro (h | h | h)
        · exact .inl (.inr ⟨h, (hrest p h).1⟩)
        · exact .inl (.inl h)
        · exact .inr h

theorem mem_ofRows {rows : List (κ × Option ν)} (hnodup : (keys rows).Nodup) (p : κ × ν) :
    p ∈ (ofRows rows).entries ↔ (p.1, some p.2) ∈ rows := by
  have h := mem_insertRows hnodup (m := BTreeMap.empty) (fun q hq => by cases hq) p
  simpa [ofRows, BTreeMap.empty] using h

/-- **A map of fields** gives the rows back. -/
theorem ofRows_injective {rows rows' : List (κ × Option ν)} (hkeys : keys rows = keys rows') (hnodup : (keys rows).Nodup)
    (h : ofRows rows = ofRows rows') : rows = rows' := by
  refine rows_ext hkeys hnodup fun k v => ?_
  rw [← mem_ofRows hnodup (k, v), h, mem_ofRows (hkeys ▸ hnodup)]

/-! ## Setting a row -/

/-- The rows with the value of one of them set. -/
def setRow (k : κ) (v : ν) (rows : List (κ × Option ν)) : List (κ × Option ν) :=
  rows.map fun row => if row.1 = k then (k, some v) else row

@[simp] theorem keys_setRow (k : κ) (v : ν) (rows : List (κ × Option ν)) : keys (setRow k v rows) = keys rows := by
  simp only [keys, setRow, List.map_map]
  apply List.map_congr_left
  intro row _
  by_cases h : row.1 = k
  · simp [h]
  · simp [h]

theorem mem_setRow {k : κ} {v : ν} {rows : List (κ × Option ν)} (hk : k ∈ keys rows) (p : κ × ν) :
    (p.1, some p.2) ∈ setRow k v rows ↔ p = (k, v) ∨ (p.1, some p.2) ∈ rows ∧ p.1 ≠ k := by
  obtain ⟨a, w⟩ := p
  simp only [setRow, List.mem_map]
  constructor
  · rintro ⟨row, hmem, hrow⟩
    by_cases h : row.1 = k
    · rw [if_pos h] at hrow
      obtain ⟨rfl, rfl⟩ := by simpa using hrow
      exact .inl rfl
    · rw [if_neg h] at hrow
      subst hrow
      exact .inr ⟨hmem, h⟩
  · rintro (h | ⟨hmem, hne⟩)
    · obtain ⟨rfl, rfl⟩ := by simpa using h
      obtain ⟨row, hmem, hrow⟩ := List.mem_map.1 hk
      exact ⟨row, hmem, by rw [if_pos hrow]⟩
    · exact ⟨(a, some w), hmem, by rw [if_neg hne]⟩

/-- An insert at the key of a row sets the row. -/
theorem insert_insertRows {rows : List (κ × Option ν)} (hnodup : (keys rows).Nodup) {m : BTreeMap κ ν}
    (hm : ∀ p ∈ m.entries, p.1 ∉ keys rows) {k : κ} (hk : k ∈ keys rows) (v : ν) :
    (insertRows m rows).insert k v = insertRows m (setRow k v rows) := by
  refine BTreeMap.ext_mem fun p => ?_
  rw [BTreeMap.mem_insert, mem_insertRows hnodup hm, mem_insertRows (by rwa [keys_setRow]) (by rwa [keys_setRow]),
    mem_setRow hk]
  have hout : p ∈ m.entries → p.1 ≠ k := by
    rintro hp rfl
    exact hm p hp hk
  constructor
  · rintro (h | ⟨h | h, hne⟩)
    · exact .inr (.inl h)
    · exact .inl h
    · exact .inr (.inr ⟨h, hne⟩)
  · rintro (h | h | ⟨h, hne⟩)
    · exact .inr ⟨.inl h, hout h⟩
    · exact .inl h
    · exact .inr ⟨.inr h, hne⟩

/-- A key of the rows is there when its row has a value. -/
theorem any_insertRows {rows : List (κ × Option ν)} (hnodup : (keys rows).Nodup) {m : BTreeMap κ ν}
    (hm : ∀ p ∈ m.entries, p.1 ∉ keys rows) {k : κ} (hk : k ∈ keys rows) :
    (insertRows m rows).entries.any (·.1 = k) = true ↔ ∃ v, (k, some v) ∈ rows := by
  simp only [List.any_eq_true, decide_eq_true_eq]
  constructor
  · rintro ⟨p, hp, rfl⟩
    rcases (mem_insertRows hnodup hm p).1 hp with h | h
    · exact absurd hk (hm p h)
    · exact ⟨p.2, h⟩
  · rintro ⟨v, h⟩
    exact ⟨(k, v), (mem_insertRows hnodup hm (k, v)).2 (.inr h), rfl⟩

end OptionalFields
