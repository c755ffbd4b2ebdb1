import KrakenSdk.Lib.BTreeMap
import KrakenSdk.Lib.HashMap
import KrakenSdk.Trade.Replies
import KrakenSdk.Types.Decimal
import KrakenSdk.Types.Symbol
import Mathlib.Data.String.Basic
/-!
# Balances (api/account/types.rs:273-373)

A reply of `Balance` or `BalanceEx` is an object of assets by their wire codes. The typed map has modern codes for its
keys, and the table that gives them is many-to-one: of two wire codes with one modern code the row that comes last in the
object is kept (`accountsFor_iff`).
-/
namespace KrakenSdk.Account

open KrakenSdk.Conn (Json)
open KrakenSdk.Trade (structFields)
open KrakenSdk.Types (Decimal normaliseAsset)

/-- `AssetCode` (asset.rs:18), by its text. -/
structure AssetCode where
  asStr : String
  deriving DecidableEq, Repr

/-- `AssetCode::from_wire` (asset.rs:47). -/
def AssetCode.fromWire (raw : String) : AssetCode := ⟨normaliseAsset raw⟩

/-- The one error of a decode. -/
inductive AccountError where
  | malformedResponse (detail : String) (requestId : Option String)
  deriving DecidableEq, Repr

/-- `AccountError::malformed` (error.rs:69). -/
def AccountError.malformed (detail : String) : AccountError := .malformedResponse detail none

/-- `rust_decimal` and serde, with what their errors say. -/
structure DecimalReader where
  fromStr : String → Except String Decimal
  deserialize : Json → Option Decimal
  serde : Json → String

/-- `ExtendedBalanceEntry` (types.rs:317). -/
structure ExtendedBalanceEntry where
  balance : Decimal
  holdTrade : Decimal
  credit : Option Decimal
  creditUsed : Option Decimal
  deriving DecidableEq, Repr

variable {ν : Type} (rd : DecimalReader)

/-- A field that is an `Option<Decimal>`. -/
def DecimalReader.optField : Option Json → Option (Option Decimal)
  | none | some .null => some none
  | some v => (rd.deserialize v).map some

/-- `ExtendedBalanceEntry`'s `Deserialize`. -/
def ExtendedBalanceEntry.deserialize (v : Json) : Option ExtendedBalanceEntry := do
  let field ← structFields ["balance", "hold_trade", "credit", "credit_used"] 4 v
  let balance ← (field "balance").bind rd.deserialize
  let holdTrade ← (field "hold_trade").bind rd.deserialize
  let credit ← rd.optField (field "credit")
  let creditUsed ← rd.optField (field "credit_used")
  return { balance, holdTrade, credit, creditUsed }

/-- One amount of `Balance` (types.rs:288-293). -/
def balanceRow (asset : String) (raw : Json) : Except AccountError Decimal :=
  match raw.asStr? with
  | none => .error (.malformed ("balance value for " ++ asset ++ " not string"))
  | some s =>
    match rd.fromStr s with
    | .error e => .error (.malformed ("balance decode " ++ asset ++ ": " ++ e))
    | .ok amount => .ok amount

/-- One entry of `BalanceEx` (types.rs:366-368). -/
def extendedBalanceRow (asset : String) (raw : Json) : Except AccountError ExtendedBalanceEntry :=
  match ExtendedBalanceEntry.deserialize rd raw with
  | none => .error (.malformed ("extended_balance decode " ++ asset ++ ": " ++ rd.serde raw))
  | some entry => .ok entry

/-- The loop of both decoders: each row goes under the modern code of its key. -/
def insertRows (row : String → Json → Except AccountError ν) (assets : HashMap AssetCode ν) :
    List (String × Json) → Except AccountError (HashMap AssetCode ν)
  | [] => .ok assets
  | (asset, raw) :: rest =>
    match row asset raw with
    | .error e => .error e
    | .ok v => insertRows row (assets.insert (.fromWire asset) v) rest

/-- `Balance` (types.rs:276). -/
structure Balance where
  assets : HashMap AssetCode Decimal

/-- `Balance::from_value` (types.rs:282). -/
def Balance.fromValue (result : Json) : Except AccountError Balance :=
  match result.asObject? with
  | none => .error (.malformed "result not an object")
  | some obj => (insertRows (balanceRow rd) ∅ obj).map Balance.mk

/-- `ExtendedBalance` (types.rs:305). -/
structure ExtendedBalance where
  assets : HashMap AssetCode ExtendedBalanceEntry

/-- `ExtendedBalance::from_value` (types.rs:357). -/
def ExtendedBalance.fromValue (result : Json) : Except AccountError ExtendedBalance :=
  match result.asObject? with
  | none => .error (.malformed "extended_balance: result not an object")
  | some map => (insertRows (extendedBalanceRow rd) ∅ map).map ExtendedBalance.mk

/-! ## What the map accounts for -/

section

variable {row : String → Json → Except AccountError ν} {assets assets' : HashMap AssetCode ν}

/-- The rows of an object, decoded. -/
inductive Decoded (row : String → Json → Except AccountError ν) : List (String × Json) → List (AssetCode × ν) → Prop
  | nil : Decoded row [] []
  | cons {asset : String} {raw : Json} {v : ν} {rest : List (String × Json)} {rows : List (AssetCode × ν)}
    (h : row asset raw = .ok v) (hrest : Decoded row rest rows) :
    Decoded row ((asset, raw) :: rest) ((.fromWire asset, v) :: rows)

theorem Decoded.codes {obj : List (String × Json)} {rows : List (AssetCode × ν)} (h : Decoded row obj rows) :
    rows.map Prod.fst = obj.map fun p => AssetCode.fromWire p.1 := by
  induction h with
  | nil => rfl
  | cons _ _ ih => rw [List.map_cons, List.map_cons, ih]

theorem Decoded.mem {obj : List (String × Json)} {rows : List (AssetCode × ν)} (h : Decoded row obj rows) {asset : String}
    {raw : Json} (hm : (asset, raw) ∈ obj) : ∃ v, row asset raw = .ok v ∧ (AssetCode.fromWire asset, v) ∈ rows := by
  induction h with
  | nil => cases hm
  | cons hrow _ ih =>
    rcases List.mem_cons.1 hm with heq | hm
    · cases heq
      exact ⟨_, hrow, List.mem_cons_self⟩
    · obtain ⟨v, hv, hin⟩ := ih hm
      exact ⟨v, hv, List.mem_cons_of_mem _ hin⟩

/-- A decode that succeeds has inserted every row. -/
theorem insertRows_eq_ok {obj : List (String × Json)} (h : insertRows row assets obj = .ok assets') :
    ∃ rows, Decoded row obj rows ∧ assets' = HashMap.insertAll assets rows := by
  induction obj generalizing assets with
  | nil =>
    cases h
    exact ⟨[], .nil, rfl⟩
  | cons p rest ih =>
    obtain ⟨asset, raw⟩ := p
    rw [insertRows] at h
    cases hrow : row asset raw with
    | error e =>
      rw [hrow] at h
      cases h
    | ok v =>
      rw [hrow] at h
      obtain ⟨rows, hrows, hassets⟩ := ih h
      exact ⟨_, .cons hrow hrows, hassets⟩

/-- It succeeds if every row does. -/
theorem insertRows_ok {obj : List (String × Json)} (h : ∀ p ∈ obj, ∃ v, row p.1 p.2 = .ok v) :
    ∃ assets', insertRows row assets obj = .ok assets' := by
  induction obj generalizing assets with
  | nil => exact ⟨assets, rfl⟩
  | cons p rest ih =>
    obtain ⟨asset, raw⟩ := p
    obtain ⟨v, hv⟩ := h (asset, raw) List.mem_cons_self
    obtain ⟨assets', hrest⟩ := @ih (assets.insert (.fromWire asset) v) fun p hp => h p (List.mem_cons_of_mem _ hp)
    refine ⟨assets', ?_⟩
    rw [insertRows, hv]
    exact hrest

/-- As many entries as wire keys, and the amount of each wire key under its modern code. -/
structure AccountsFor (row : String → Json → Except AccountError ν) (obj : BTreeMap String Json)
    (assets : HashMap AssetCode ν) : Prop where
  len : HashMap.len assets = obj.len
  amount : ∀ asset raw, (asset, raw) ∈ obj.entries →
    ∃ v, row asset raw = .ok v ∧ assets.lookup (.fromWire asset) = some v

/-- No two wire keys have one modern code. -/
def DistinctCodes (obj : BTreeMap String Json) : Prop := (obj.entries.map fun p => AssetCode.fromWire p.1).Nodup

theorem accountsFor_iff {obj : BTreeMap String Json} (h : insertRows row ∅ obj.entries = .ok assets) :
    AccountsFor row obj assets ↔ DistinctCodes obj := by
  obtain ⟨rows, hrows, rfl⟩ := insertRows_eq_ok h
  have hlength : rows.length = obj.len := by
    rw [← List.length_map Prod.fst, hrows.codes, List.length_map]
    rfl
  have hdistinct : (rows.map Prod.fst).Nodup ↔ DistinctCodes obj := by
    rw [hrows.codes]
    exact Iff.rfl
  have hlen : HashMap.len (HashMap.insertAll (∅ : HashMap AssetCode ν) rows) = obj.len ↔ DistinctCodes obj := by
    rw [← hlength, ← Nat.zero_add rows.length, ← hdistinct]
    refine HashMap.len_insertAll_eq_iff.trans (and_iff_left fun a _ hm => ?_)
    exact AList.notMem_empty a hm
  constructor
  · intro haccounts
    exact hlen.1 haccounts.len
  · intro hcodes
    refine ⟨hlen.2 hcodes, fun asset raw hm => ?_⟩
    obtain ⟨v, hv, hin⟩ := hrows.mem hm
    exact ⟨v, hv, HashMap.lookup_insertAll_of_nodup (hdistinct.2 hcodes) hin⟩

/-- Whatever is decoded is accounted for, exactly if the codes are distinct whenever every row is decoded. -/
theorem forall_accountsFor_iff (obj : BTreeMap String Json) :
    (∀ assets, insertRows row ∅ obj.entries = .ok assets → AccountsFor row obj assets) ↔
      ((∀ p ∈ obj.entries, ∃ v, row p.1 p.2 = .ok v) → DistinctCodes obj) := by
  constructor
  · intro h hrows
    obtain ⟨assets, hassets⟩ := insertRows_ok hrows
    exact (accountsFor_iff hassets).1 (h assets hassets)
  · intro h assets hassets
    refine (accountsFor_iff hassets).2 (h fun p hp => ?_)
    obtain ⟨rows, hrows, -⟩ := insertRows_eq_ok hassets
    obtain ⟨v, hv, -⟩ := hrows.mem hp
    exact ⟨v, hv⟩

end

theorem forall_map_ok {ε α β : Type} {r : Except ε α} {f : α → β} {p : β → Prop} :
    (∀ b, r.map f = .ok b → p b) ↔ ∀ a, r = .ok a → p (f a) := by
  cases r with
  | error e => exact iff_of_true nofun nofun
  | ok a =>
    constructor
    · rintro h _ ⟨⟩
      exact h _ rfl
    · rintro h _ ⟨⟩
      exact h _ rfl

/-- **No row of a balance is lost**, exactly if no two of the keys have one modern code (or some row is refused). -/
theorem balances_accountFor_iff (obj : BTreeMap String Json) :
    ((∀ b, Balance.fromValue rd (.obj obj.entries) = .ok b → AccountsFor (balanceRow rd) obj b.assets) ↔
      ((∀ p ∈ obj.entries, ∃ v, balanceRow rd p.1 p.2 = .ok v) → DistinctCodes obj)) ∧
    ((∀ b, ExtendedBalance.fromValue rd (.obj obj.entries) = .ok b → AccountsFor (extendedBalanceRow rd) obj b.assets) ↔
      ((∀ p ∈ obj.entries, ∃ v, extendedBalanceRow rd p.1 p.2 = .ok v) → DistinctCodes obj)) := by
  constructor
  · refine Iff.trans ?_ (forall_accountsFor_iff obj)
    exact forall_map_ok (r := insertRows (balanceRow rd) ∅ obj.entries) (f := Balance.mk)
  · refine Iff.trans ?_ (forall_accountsFor_iff obj)
    exact forall_map_ok (r := insertRows (extendedBalanceRow rd) ∅ obj.entries) (f := ExtendedBalance.mk)

/-! ## Two codes of one asset -/

/-- The decimals `3` and `4`, as far as they are needed. -/
def threeOrFour : DecimalReader where
  fromStr s :=
    if s = "3" then .ok ⟨false, 3, 0, by decide, Decimal.scale_zero_le⟩
    else if s = "4" then .ok ⟨false, 4, 0, by decide, Decimal.scale_zero_le⟩
    else .error "Invalid decimal: unknown character"
  deserialize _ := none
  serde _ := ""

/-- A legacy code and its short form. -/
def twoBitcoins : BTreeMap String Json := ⟨[("XBT", .str "3"), ("XXBT", .str "4")], by decide⟩

theorem balance_lost :
    ¬ ∀ (rd : DecimalReader) (obj : BTreeMap String Json) (b : Balance),
      Balance.fromValue rd (.obj obj.entries) = .ok b → AccountsFor (balanceRow rd) obj b.assets := by
  intro h
  have hdecoded : Balance.fromValue threeOrFour (.obj twoBitcoins.entries) =
      .ok ⟨(∅ : HashMap AssetCode Decimal).insert ⟨"BTC"⟩ ⟨false, 4, 0, by decide, Decimal.scale_zero_le⟩⟩ := rfl
  have hlen := (h threeOrFour twoBitcoins _ hdecoded).len
  revert hlen
  decide

end KrakenSdk.Account
