import KrakenSdk.Account.Balances
import KrakenSdk.Lib.StepSystem
/-!
# All tickers at once (api/market/rest.rs:29-108, 490-523, api/market/types.rs:566-580)

The ticker snapshot of all pairs comes keyed by wire codes. It is keyed anew by an index from wire code to pair, which
the first call that needs it fetches and which is kept for the life of the client. Several wire codes may have one pair:
the rows of a hash map come in any order, and which of them stays must not depend on it.

| here | source |
| --- | --- |
| `RawAssetPair.modernPairKey` | `modern_pair_key` |
| `pairKeyMap` | `pair_key_map`, from a reply of `AssetPairs` |
| `rekeyTickerMap` | `rekey_ticker_map` |
| `MarketNamespace.ticker` | `ticker(None)`; `pairs_key_map` is the cell |

`allPairs_rekeyed`: over the life of a client there is one index, each row of a snapshot goes to its new key, and of the
rows of one key the native one stays, or else the one of the least wire code.
-/
namespace KrakenSdk.Market

open KrakenSdk.Account (AssetCode)
open KrakenSdk.Conn (Symbol)
open StepSystem

/-- The fields of `RawAssetPair` (types.rs:532) its key is made of. -/
structure RawAssetPair where
  base : String
  quote : String
  deriving DecidableEq, Repr

/-- `modern_pair_key` (types.rs:570). -/
def RawAssetPair.modernPairKey (r : RawAssetPair) (wireKey : String) : String :=
  if '/' ∈ wireKey.toList ∨ r.base.isEmpty ∨ r.quote.isEmpty then wireKey
  else (AssetCode.fromWire r.base).asStr ++ "/" ++ (AssetCode.fromWire r.quote).asStr

/-- The index of a reply (rest.rs:99-105): a row whose key is no symbol is skipped. -/
def pairKeyMap (raw : HashMap String RawAssetPair) : HashMap String Symbol :=
  raw.entries.foldl (fun map row =>
    match Types.Symbol.new (row.2.modernPairKey row.1) with
    | .ok sym => map.insert row.1 sym
    | .error _ => map) ∅

section Rekey

variable {τ : Type}

/-- One row of the snapshot (rest.rs:499-510): it stays under its key, or waits with its new one. -/
def rekeyRow (map : HashMap String Symbol) (acc : HashMap String τ × List (String × String × τ))
    (row : Σ _ : String, τ) : HashMap String τ × List (String × String × τ) :=
  match map.lookup row.1 with
  | some sym => if sym ≠ row.1 then (acc.1, acc.2 ++ [(row.1, sym, row.2)]) else (acc.1.insert row.1 row.2, acc.2)
  | none => (acc.1.insert row.1 row.2, acc.2)

/-- `rekey_ticker_map` (rest.rs:493). -/
def rekeyTickerMap (tickers : HashMap String τ) (map : HashMap String Symbol) : HashMap String τ :=
  let (out, rekeyed) := tickers.entries.foldl (rekeyRow map) (∅, [])
  let rekeyed := rekeyed.mergeSort fun a b => a.1 ≤ b.1
  HashMap.insertVacant out (rekeyed.map fun row => (row.2.1, row.2.2))

end Rekey

/-! ## The client -/

/-- What a client's market namespace keeps, and what the calls of `ticker(None)` made of their snapshots. -/
structure MarketNamespace (τ : Type) where
  /-- `pairs_key_map`. -/
  pairsKeyMap : Option (HashMap String Symbol)
  results : List (HashMap String τ × HashMap String τ)

/-- A call of `ticker(None)`: what its two requests answer, the second if it is made. -/
structure AllPairs (ε τ : Type) where
  tickers : Except ε (HashMap String τ)
  assetPairs : Except ε (HashMap String RawAssetPair)

namespace MarketNamespace

variable {ε τ : Type}

def new : MarketNamespace τ := ⟨none, []⟩

/-- `get_or_try_init` on the cell: calls wait for one another, and a failed fetch leaves it empty. -/
def getOrTryInit (s : MarketNamespace τ) (assetPairs : Except ε (HashMap String RawAssetPair)) :
    MarketNamespace τ × Except ε (HashMap String Symbol) :=
  match s.pairsKeyMap with
  | some map => (s, .ok map)
  | none =>
    match assetPairs with
    | .error e => (s, .error e)
    | .ok raw => ({ s with pairsKeyMap := some (pairKeyMap raw) }, .ok (pairKeyMap raw))

/-- `ticker(None)` (rest.rs:29-71). -/
def ticker (s : MarketNamespace τ) (call : AllPairs ε τ) : MarketNamespace τ × Except ε (HashMap String τ) :=
  match call.tickers with
  | .error e => (s, .error e)
  | .ok tickers =>
    match s.getOrTryInit call.assetPairs with
    | (s, .error e) => (s, .error e)
    | (s, .ok map) => (s, .ok (rekeyTickerMap tickers map))

/-- A call, and the note of what it returned. -/
def step (s : MarketNamespace τ) (call : AllPairs ε τ) : MarketNamespace τ :=
  match call.tickers, s.ticker call with
  | .ok tickers, (s, .ok result) => { s with results := s.results ++ [(tickers, result)] }
  | _, (s, _) => s

end MarketNamespace

/-! ## Which row stays -/

section Rekey

variable {τ : Type} (tickers : HashMap String τ) (map : HashMap String Symbol)

/-- The key of a row in the result. -/
def newKey (wireKey : String) : String := (map.lookup wireKey).getD wireKey

/-- The row that stays under the key `k`: its own, if it does not move, or else that of the least wire code. -/
structure Stays (k w : String) : Prop where
  present : w ∈ tickers
  renamed : newKey map w = k
  first : ∀ w' ∈ tickers, newKey map w' = k → w' ≠ w → w = k ∨ w' ≠ k ∧ w < w'

variable {tickers map}

theorem Stays.unique {k w w' : String} (h : Stays tickers map k w) (h' : Stays tickers map k w') : w = w' := by
  by_contra hne
  have hfirst := h.first w' h'.present h'.renamed (Ne.symm hne)
  have hfirst' := h'.first w h.present h.renamed hne
  rcases hfirst with rfl | ⟨hw', hlt⟩
  · rcases hfirst' with rfl | ⟨hw, -⟩
    · exact hne rfl
    · exact hw rfl
  · rcases hfirst' with rfl | ⟨-, hlt'⟩
    · exact hw' rfl
    · exact lt_asymm hlt hlt'

/-- What the rows come to, one after the other. -/
theorem foldl_rekeyRow (rows : List (Σ _ : String, τ)) (acc : HashMap String τ × List (String × String × τ)) :
    rows.foldl (rekeyRow map) acc =
      (HashMap.insertAll acc.1 ((rows.filter fun row => newKey map row.1 = row.1).map fun row => (row.1, row.2)),
        acc.2 ++ (rows.filter fun row => newKey map row.1 ≠ row.1).map fun row => (row.1, newKey map row.1, row.2)) := by
  induction rows generalizing acc with
  | nil => simp [HashMap.insertAll]
  | cons row rows ih =>
    rw [List.foldl_cons, ih]
    cases hmap : map.lookup row.1 with
    | none => simp [rekeyRow, newKey, hmap, HashMap.insertAll_cons]
    | some sym =>
      by_cases hsym : sym = row.1
      · simp [rekeyRow, newKey, hmap, hsym, HashMap.insertAll_cons]
      · simp [rekeyRow, newKey, hmap, hsym]

/-- The rows that keep their keys. -/
theorem lookup_natives (k : String) :
    (HashMap.insertAll ∅ ((tickers.entries.filter fun row => newKey map row.1 = row.1).map fun row =>
      (row.1, row.2))).lookup k = if newKey map k = k then tickers.lookup k else none := by
  have hnodup : (((tickers.entries.filter fun row => newKey map row.1 = row.1).map fun row =>
      (row.1, row.2)).map Prod.fst).Nodup := by
    rw [List.map_map]
    exact List.Nodup.sublist (List.filter_sublist.map Sigma.fst) tickers.nodupKeys
  by_cases hk : newKey map k = k
  · rw [if_pos hk]
    cases hlookup : tickers.lookup k with
    | some t =>
      refine HashMap.lookup_insertAll_of_nodup hnodup ?_
      have hrow : (⟨k, t⟩ : Σ _ : String, τ) ∈ tickers.entries.filter fun row => newKey map row.1 = row.1 :=
        List.mem_filter.2 ⟨AList.mem_lookup_iff.1 hlookup, by simpa using hk⟩
      exact List.mem_map.2 ⟨_, hrow, rfl⟩
    | none =>
      rw [HashMap.lookup_insertAll_of_not_mem, AList.lookup_empty]
      rw [List.map_map]
      intro hmem
      obtain ⟨row, hrow, rfl⟩ := List.mem_map.1 hmem
      cases hlookup.symm.trans (AList.mem_lookup_iff.2 (List.mem_filter.1 hrow).1)
  · rw [if_neg hk, HashMap.lookup_insertAll_of_not_mem, AList.lookup_empty]
    rw [List.map_map]
    intro hmem
    obtain ⟨row, hrow, rfl⟩ := List.mem_map.1 hmem
    exact hk (by simpa using (List.mem_filter.1 hrow).2)

/-- The rows that move, in the order of their wire codes. -/
def movedRows (tickers : HashMap String τ) (map : HashMap String Symbol) : List (String × String × τ) :=
  ((tickers.entries.filter fun row => newKey map row.1 ≠ row.1).map fun row =>
    (row.1, newKey map row.1, row.2)).mergeSort fun a b => a.1 ≤ b.1

theorem mem_movedRows {row : String × String × τ} : row ∈ movedRows tickers map ↔
    tickers.lookup row.1 = some row.2.2 ∧ newKey map row.1 = row.2.1 ∧ newKey map row.1 ≠ row.1 := by
  rw [movedRows, (List.mergeSort_perm ..).mem_iff, List.mem_map]
  constructor
  · rintro ⟨row, hrow, rfl⟩
    obtain ⟨hmem, hne⟩ := List.mem_filter.1 hrow
    exact ⟨AList.mem_lookup_iff.2 hmem, rfl, by simpa using hne⟩
  · obtain ⟨w, k, t⟩ := row
    rintro ⟨hlookup, hk, hne⟩
    obtain rfl : newKey map w = k := hk
    exact ⟨⟨w, t⟩, List.mem_filter.2 ⟨AList.mem_lookup_iff.1 hlookup, by simpa using hne⟩, rfl⟩

theorem sorted_movedRows (tickers : HashMap String τ) (map : HashMap String Symbol) :
    (movedRows tickers map).Pairwise fun a b => a.1 ≤ b.1 := by
  have htrans : ∀ a b c : String × String × τ, decide (a.1 ≤ b.1) = true → decide (b.1 ≤ c.1) = true →
      decide (a.1 ≤ c.1) = true := by
    intro a b c hab hbc
    exact decide_eq_true (le_trans (of_decide_eq_true hab) (of_decide_eq_true hbc))
  have htotal : ∀ a b : String × String × τ, (decide (a.1 ≤ b.1) || decide (b.1 ≤ a.1)) = true := by
    intro a b
    simpa using le_total a.1 b.1
  exact (List.pairwise_mergeSort htrans htotal _).imp of_decide_eq_true

theorem lookup_rekeyTickerMap (k : String) : (rekeyTickerMap tickers map).lookup k =
    (if newKey map k = k then tickers.lookup k else none).or
      (((movedRows tickers map).find? (·.2.1 = k)).map (·.2.2)) := by
  rw [rekeyTickerMap, foldl_rekeyRow]
  dsimp only
  rw [HashMap.lookup_insertVacant, lookup_natives, List.nil_append, List.find?_map, Option.map_map]
  rfl

/-- A row of the result is the row that stays. -/
theorem stays_of_lookup {k : String} {t : τ} (h : (rekeyTickerMap tickers map).lookup k = some t) :
    ∃ w, Stays tickers map k w ∧ tickers.lookup w = some t := by
  rw [lookup_rekeyTickerMap] at h
  rcases Option.or_eq_some_iff.1 h with hnative | ⟨hnone, hmoved⟩
  · obtain ⟨hk, hlookup⟩ : newKey map k = k ∧ tickers.lookup k = some t := by
      split_ifs at hnative with hk
      exact ⟨hk, hnative⟩
    exact ⟨k, ⟨AList.lookup_isSome.1 (by simp [hlookup]), hk, fun _ _ _ _ => .inl rfl⟩, hlookup⟩
  · obtain ⟨row, hrow, rfl⟩ := Option.map_eq_some_iff.1 hmoved
    obtain ⟨hk, before, after, hsplit, hbefore⟩ := List.find?_eq_some_iff_append.1 hrow
    obtain rfl : row.2.1 = k := by simpa using hk
    obtain ⟨hlookup, hrenamed, hne⟩ := mem_movedRows.1 (hsplit ▸ List.mem_append_right _ (List.mem_cons_self ..))
    refine ⟨row.1, ⟨AList.lookup_isSome.1 (by simp [hlookup]), hrenamed, fun w' hw' hk' hww' => .inr ?_⟩, hlookup⟩
    have hmovedTo : w' ≠ row.2.1 := by
      rintro rfl
      obtain ⟨t', ht'⟩ := Option.isSome_iff_exists.1 (AList.lookup_isSome.2 hw')
      simp [hk', ht'] at hnone
    refine ⟨hmovedTo, lt_of_le_of_ne ?_ (Ne.symm hww')⟩
    obtain ⟨t', ht'⟩ := Option.isSome_iff_exists.1 (AList.lookup_isSome.2 hw')
    have hmem : (w', row.2.1, t') ∈ movedRows tickers map :=
      mem_movedRows.2 ⟨ht', hk', fun heq => hmovedTo (heq.symm.trans hk')⟩
    have hsorted := sorted_movedRows tickers map
    rw [hsplit] at hmem hsorted
    -- Before the row that was found no row has its key, and after it the wire codes are greater.
    rcases List.mem_append.1 hmem with hin | hin
    · simpa using hbefore _ hin
    · rcases List.mem_cons.1 hin with heq | hin
      · exact absurd (congrArg Prod.fst heq) hww'
      · exact (List.pairwise_cons.1 (List.pairwise_append.1 hsorted).2.1).1 _ hin

/-- No key is lost: if a row goes to it, a row stays there. -/
theorem lookup_isSome_of_renamed {k w : String} (hw : w ∈ tickers) (hk : newKey map w = k) :
    ((rekeyTickerMap tickers map).lookup k).isSome := by
  obtain ⟨t, ht⟩ := Option.isSome_iff_exists.1 (AList.lookup_isSome.2 hw)
  rw [lookup_rekeyTickerMap]
  by_cases hsame : w = k
  · subst hsame
    simp [hk, ht]
  · have hmem : (w, k, t) ∈ movedRows tickers map :=
      mem_movedRows.2 ⟨ht, hk, fun heq => hsame (heq.symm.trans hk)⟩
    have hfind : ((movedRows tickers map).find? (·.2.1 = k)).isSome :=
      List.find?_isSome.2 ⟨_, hmem, by simp⟩
    simp [Option.isSome_or, hfind]

/-- **Which row is under which key.** -/
theorem lookup_rekeyTickerMap_iff {k : String} {t : τ} : (rekeyTickerMap tickers map).lookup k = some t ↔
    ∃ w, Stays tickers map k w ∧ tickers.lookup w = some t := by
  refine ⟨stays_of_lookup, ?_⟩
  rintro ⟨w, hw, ht⟩
  obtain ⟨t', ht'⟩ := Option.isSome_iff_exists.1 (lookup_isSome_of_renamed hw.present hw.renamed)
  obtain ⟨w', hw', htw'⟩ := stays_of_lookup ht'
  obtain rfl := hw.unique hw'
  rw [ht', ← htw', ht]

/-- The order in which the rows of a snapshot come makes no difference. -/
theorem rekeyTickerMap_congr {tickers' : HashMap String τ} (h : ∀ w, tickers'.lookup w = tickers.lookup w) (k : String) :
    (rekeyTickerMap tickers' map).lookup k = (rekeyTickerMap tickers map).lookup k := by
  have hmem : ∀ w, w ∈ tickers' ↔ w ∈ tickers := by
    intro w
    rw [← AList.lookup_isSome, ← AList.lookup_isSome, h w]
  have hstays : ∀ w, Stays tickers' map k w ↔ Stays tickers map k w := by
    intro w
    constructor
    · exact fun hw => ⟨(hmem w).1 hw.present, hw.renamed, fun w' hw' => hw.first w' ((hmem w').2 hw')⟩
    · exact fun hw => ⟨(hmem w).2 hw.present, hw.renamed, fun w' hw' => hw.first w' ((hmem w').1 hw')⟩
  refine Option.ext fun t => ?_
  simp only [lookup_rekeyTickerMap_iff, hstays, h]

end Rekey

/-- The pair of a wire code is that of its row, if the row's key is a symbol. -/
theorem lookup_pairKeyMap (raw : HashMap String RawAssetPair) (w : String) : (pairKeyMap raw).lookup w =
    (raw.lookup w).bind fun r => (Types.Symbol.new (r.modernPairKey w)).toOption := by
  let pair (row : Σ _ : String, RawAssetPair) : Option (String × Symbol) :=
    (Types.Symbol.new (row.2.modernPairKey row.1)).toOption.map (row.1, ·)
  have hrows : pairKeyMap raw = HashMap.insertAll ∅ (raw.entries.filterMap pair) := by
    rw [pairKeyMap, HashMap.insertAll, List.foldl_filterMap]
    congr 1
    funext map row
    simp only [pair]
    cases Types.Symbol.new (row.2.modernPairKey row.1) <;> rfl
  have hpair : ∀ row p, pair row = some p → p.1 = row.1 := by
    intro row p hp
    obtain ⟨sym, -, rfl⟩ := Option.map_eq_some_iff.1 hp
    rfl
  have hnodup : ((raw.entries.filterMap pair).map Prod.fst).Nodup := by
    have hapart : raw.entries.Pairwise fun row row' => row.1 ≠ row'.1 := List.pairwise_map.1 raw.nodupKeys
    refine List.pairwise_map.2 (hapart.filterMap pair fun row row' hne p hp p' hp' => ?_)
    rw [hpair row p hp, hpair row' p' hp']
    exact hne
  rw [hrows]
  cases hsym : (raw.lookup w).bind fun r => (Types.Symbol.new (r.modernPairKey w)).toOption with
  | some sym =>
    obtain ⟨r, hr, hnew⟩ := Option.bind_eq_some_iff.1 hsym
    refine HashMap.lookup_insertAll_of_nodup hnodup (List.mem_filterMap.2 ⟨⟨w, r⟩, AList.mem_lookup_iff.1 hr, ?_⟩)
    simp [pair, hnew]
  | none =>
    rw [HashMap.lookup_insertAll_of_not_mem, AList.lookup_empty]
    intro hmem
    obtain ⟨p, hp, rfl⟩ := List.mem_map.1 hmem
    obtain ⟨row, hrow, heq⟩ := List.mem_filterMap.1 hp
    obtain ⟨sym, hnew, rfl⟩ := Option.map_eq_some_iff.1 heq
    have hlookup : raw.lookup row.1 = some row.2 := AList.mem_lookup_iff.2 hrow
    simp [hlookup, hnew] at hsym

/-! ## Over the life of a client -/

namespace MarketNamespace

variable {ε τ : Type} {s : MarketNamespace τ}

/-- What was returned was keyed by the index that is there, which came in a reply. -/
structure Inv (calls : List (AllPairs ε τ)) (s : MarketNamespace τ) : Prop where
  indexed : ∀ map, s.pairsKeyMap = some map → ∃ call ∈ calls, ∃ raw, call.assetPairs = .ok raw ∧ map = pairKeyMap raw
  keyed : ∀ tickers result, (tickers, result) ∈ s.results →
    ∃ map, s.pairsKeyMap = some map ∧ result = rekeyTickerMap tickers map

/-- A step leaves the index as it is, unless it is the first to have one. -/
theorem pairsKeyMap_step (s : MarketNamespace τ) (call : AllPairs ε τ) :
    (s.step call).pairsKeyMap = s.pairsKeyMap ∨
      s.pairsKeyMap = none ∧ ∃ raw, call.assetPairs = .ok raw ∧ (s.step call).pairsKeyMap = some (pairKeyMap raw) := by
  unfold step ticker getOrTryInit
  cases call.tickers with
  | error e => exact .inl rfl
  | ok tickers =>
    cases hmap : s.pairsKeyMap with
    | some map => exact .inl hmap
    | none =>
      cases hpairs : call.assetPairs with
      | error e => exact .inl hmap
      | ok raw => exact .inr ⟨rfl, raw, rfl, rfl⟩

theorem pairsKeyMap_exec {map : HashMap String Symbol} (h : s.pairsKeyMap = some map) (calls : List (AllPairs ε τ)) :
    (exec step s calls).pairsKeyMap = some map := by
  induction calls generalizing s with
  | nil => exact h
  | cons call calls ih =>
    refine ih ?_
    rcases pairsKeyMap_step s call with hsame | ⟨hnone, -⟩
    · rw [hsame, h]
    · simp [h] at hnone

theorem inv_step {calls : List (AllPairs ε τ)} {call : AllPairs ε τ} (hcall : call ∈ calls) (h : s.Inv calls) :
    (s.step call).Inv calls where
  indexed map hmap := by
    rcases pairsKeyMap_step s call with hsame | ⟨-, raw, hraw, hset⟩
    · exact h.indexed map (hsame ▸ hmap)
    · exact ⟨call, hcall, raw, hraw, Option.some.inj (hmap.symm.trans hset)⟩
  keyed tickers result hresult := by
    have hold : (tickers, result) ∈ s.results →
        ∃ map, (s.step call).pairsKeyMap = some map ∧ result = rekeyTickerMap tickers map := by
      intro hin
      obtain ⟨map, hmap, rfl⟩ := h.keyed tickers result hin
      exact ⟨map, pairsKeyMap_exec hmap [call], rfl⟩
    revert hold hresult
    unfold step ticker getOrTryInit
    cases call.tickers with
    | error e => exact fun hin hold => hold hin
    | ok snapshot =>
      cases hmap : s.pairsKeyMap with
      | some map =>
        intro hresult hold
        rcases List.mem_append.1 hresult with hin | hin
        · exact hold hin
        · obtain ⟨rfl, rfl⟩ := Prod.mk.inj (List.mem_singleton.1 hin)
          exact ⟨map, hmap, rfl⟩
      | none =>
        cases hpairs : call.assetPairs with
        | error e => exact fun hin hold => hold hin
        | ok raw =>
          intro hresult hold
          rcases List.mem_append.1 hresult with hin | hin
          · exact hold hin
          · obtain ⟨rfl, rfl⟩ := Prod.mk.inj (List.mem_singleton.1 hin)
            exact ⟨pairKeyMap raw, rfl, rfl⟩

theorem inv_run (calls : List (AllPairs ε τ)) : (exec step (new : MarketNamespace τ) calls).Inv calls := by
  have hreach : Reach step (fun _ call => call ∈ calls) (new : MarketNamespace τ) (exec step new calls) :=
    Reach.exec (allowed_of_forall (fun _ h => h) _)
  refine hreach.invariant ⟨by simp [new], by simp [new]⟩ fun s call h hcall => inv_step hcall h

/-- **The snapshots of all pairs over the life of a client.** Once there is an index it stays; it came in a reply, and
has for a wire code the pair of its row. Each snapshot that was returned is keyed by it: under a key is the row that
stays there, under each key some row went to there is one, and the order in which the rows came makes no difference. -/
theorem allPairs_rekeyed (calls : List (AllPairs ε τ)) :
    let s := exec step (new : MarketNamespace τ) calls
    (∀ map, s.pairsKeyMap = some map →
      (∃ call ∈ calls, ∃ raw, call.assetPairs = .ok raw ∧ ∀ w, map.lookup w =
        (raw.lookup w).bind fun r => (Types.Symbol.new (r.modernPairKey w)).toOption) ∧
      ∀ more : List (AllPairs ε τ), (exec step s more).pairsKeyMap = some map) ∧
    ∀ tickers result, (tickers, result) ∈ s.results → ∃ map, s.pairsKeyMap = some map ∧
      (∀ k t, result.lookup k = some t ↔ ∃ w, Stays tickers map k w ∧ tickers.lookup w = some t) ∧
      (∀ w ∈ tickers, (result.lookup (newKey map w)).isSome) ∧
      ∀ tickers' : HashMap String τ, (∀ w, tickers'.lookup w = tickers.lookup w) →
        ∀ k, (rekeyTickerMap tickers' map).lookup k = result.lookup k := by
  intro s
  have h : s.Inv calls := inv_run calls
  refine ⟨fun map hmap => ⟨?_, pairsKeyMap_exec hmap⟩, fun tickers result hresult => ?_⟩
  · obtain ⟨call, hcall, raw, hraw, rfl⟩ := h.indexed map hmap
    exact ⟨call, hcall, raw, hraw, lookup_pairKeyMap raw⟩
  · obtain ⟨map, hmap, rfl⟩ := h.keyed tickers result hresult
    exact ⟨map, hmap, fun k t => lookup_rekeyTickerMap_iff, fun w hw => lookup_isSome_of_renamed hw rfl,
      fun tickers' hsame => rekeyTickerMap_congr hsame⟩

end MarketNamespace

end KrakenSdk.Market
