import Mathlib.Data.Rat.Defs
import Mathlib.Algebra.Order.Ring.Rat
import Mathlib.Order.Basic
import KrakenSdk.Lib.BTreeMap
import KrakenSdk.Conn.Types
/-!
# The maintained order book (book/builder.rs, book/checksum.rs, book/wire.rs)

One book side is a `BTreeMap` in the order the exchange ranks it, so what a book hands out is sorted
by construction; `applySnapshot_depth` and `applyDelta_depth` bound it by the maintained depth.
A `Decimal` is its numeric value; how it is read from a wire string is the parameter `fromStr`
(`Decimal::from_str` of the `rust_decimal` crate).
-/
namespace KrakenSdk.Book

open KrakenSdk.Conn (Symbol Json MonotonicInstant u32Max satAdd32)

/-- `rust_decimal::Decimal`, by value. -/
abbrev Decimal := ℚ

/-- `DescPrice` (builder.rs:100): the bid-side key, highest price first. -/
abbrev DescPrice := Decimalᵒᵈ

/-- `PriceLevel` (builder.rs:14): the wire strings are kept for the checksum. -/
structure PriceLevel where
  price : Decimal
  qty : Decimal
  priceWire : String
  qtyWire : String

/-- `BookLevel` (builder.rs:28). -/
structure BookLevel where
  price : Decimal
  qty : Decimal

/-- `impl From<&PriceLevel> for BookLevel` (builder.rs:35). -/
def BookLevel.ofPriceLevel (l : PriceLevel) : BookLevel := ⟨l.price, l.qty⟩

/-- `OrderBookUpdate` (builder.rs:48). -/
structure OrderBookUpdate where
  symbol : Symbol
  bids : List BookLevel
  asks : List BookLevel
  checksum : Nat
  timestamp : Option MonotonicInstant
  exchangeTimestamp : String

/-! ## Checksum (book/checksum.rs) -/

/-- `CHECKSUM_DEPTH` (checksum.rs:11). -/
def checksumDepth : Nat := 10

/-- One bit of the reflected CRC-32 register. -/
def crcBit (crc : BitVec 32) : BitVec 32 :=
  if crc.getLsbD 0 then (crc >>> 1) ^^^ 0xEDB88320#32 else crc >>> 1

/-- One byte through the register. -/
def crcByte (crc : BitVec 32) (b : UInt8) : BitVec 32 := crcBit^[8] (crc ^^^ b.toBitVec.setWidth 32)

/-- `crc32fast::Hasher`, as its register. -/
abbrev Hasher := BitVec 32

/-- `Hasher::new`. -/
def Hasher.new : Hasher := 0xFFFFFFFF#32

/-- `Hasher::update`. -/
def Hasher.update (h : Hasher) (buf : List UInt8) : Hasher := buf.foldl crcByte h

/-- `Hasher::finalize`. -/
def Hasher.finalize (h : Hasher) : Nat := (~~~h).toNat

/-- `STRIP_BUF_LEN` (checksum.rs:34). -/
def stripBufLen : Nat := 32

/-- The locals of `update_stripped`. -/
structure StripState where
  hasher : Hasher
  buf : List UInt8
  leading : Bool

/-- One byte of `update_stripped`'s loop: dots and leading zeros go, a full buffer is flushed. -/
def stripByte (st : StripState) (b : UInt8) : StripState :=
  if b = '.'.toUInt8 then st
  else if st.leading && b == '0'.toUInt8 then st
  else if st.buf.length = stripBufLen then
    { hasher := st.hasher.update st.buf, buf := [b], leading := false }
  else { st with buf := st.buf ++ [b], leading := false }

/-- `update_stripped` (checksum.rs:37). -/
def updateStripped (h : Hasher) (s : String) : Hasher :=
  let st := s.toUTF8.toList.foldl stripByte ⟨h, [], true⟩
  st.hasher.update st.buf

/-- One level of `compute_book_crc32`'s loops. -/
def updateLevel (h : Hasher) (l : PriceLevel) : Hasher := updateStripped (updateStripped h l.priceWire) l.qtyWire

/-- `compute_book_crc32` (checksum.rs:15). -/
def computeBookCrc32 (asksTopN bidsTopN : List PriceLevel) : Nat :=
  (bidsTopN.foldl updateLevel (asksTopN.foldl updateLevel Hasher.new)).finalize

/-! ## Builder (book/builder.rs) -/

/-- `ApplyError` (builder.rs:93). -/
inductive ApplyError where
  | checksumMismatch (expected computed : Nat)
  deriving DecidableEq, Repr

/-- `OrderBookBuilder` (builder.rs:134). -/
structure OrderBookBuilder where
  symbol : Symbol
  maintainedDepth : Nat
  callerDepth : Nat
  bids : BTreeMap DescPrice PriceLevel
  asks : BTreeMap Decimal PriceLevel
  lastChecksum : Option Nat
  resyncing : Bool
  consecutiveGaps : Nat

/-- `delta_level_deletes` (builder.rs:117): only an exact zero on the wire deletes. -/
def deltaLevelDeletes (lvl : PriceLevel) : Bool :=
  !lvl.qtyWire.toUTF8.toList.any fun b => '0'.toUInt8 ≤ b && b ≤ '9'.toUInt8 && b != '0'.toUInt8

namespace OrderBookBuilder

/-- `OrderBookBuilder::new` (builder.rs:151). -/
def new (symbol : Symbol) (maintainedDepth callerDepth : Nat) : OrderBookBuilder :=
  { symbol, maintainedDepth, callerDepth, bids := .empty, asks := .empty, lastChecksum := none,
    resyncing := false, consecutiveGaps := 0 }

/-- `begin_resync` (builder.rs:190). -/
def beginResync (b : OrderBookBuilder) : OrderBookBuilder :=
  { b with bids := .empty, asks := .empty, lastChecksum := none, resyncing := true }

/-- `note_reseed_failure` (builder.rs:203): the new gap count, saturating. -/
def noteReseedFailure (b : OrderBookBuilder) : OrderBookBuilder :=
  { b with consecutiveGaps := satAdd32 b.consecutiveGaps 1 }

/-- `trim_to_depth` (builder.rs:258). -/
def trimToDepth (b : OrderBookBuilder) : OrderBookBuilder :=
  { b with bids := b.bids.truncate b.maintainedDepth, asks := b.asks.truncate b.maintainedDepth }

/-- `compute_checksum` (builder.rs:281). -/
def computeChecksum (b : OrderBookBuilder) : Nat :=
  computeBookCrc32 (b.asks.values.take checksumDepth) (b.bids.values.take checksumDepth)

/-- `validate_and_record` (builder.rs:267). -/
def validateAndRecord (b : OrderBookBuilder) (expected : Nat) : OrderBookBuilder × Except ApplyError Unit :=
  let computed := b.computeChecksum
  if computed ≠ expected then
    ({ b with consecutiveGaps := satAdd32 b.consecutiveGaps 1 }, .error (.checksumMismatch expected computed))
  else ({ b with lastChecksum := some computed, consecutiveGaps := 0 }, .ok ())

/-- `apply_snapshot` (builder.rs:209). -/
def applySnapshot (b : OrderBookBuilder) (bids asks : List PriceLevel) (checksum : Nat) :
    OrderBookBuilder × Except ApplyError Unit :=
  let seeded :=
    { b with
      bids := bids.foldl (fun m (lvl : PriceLevel) => m.insert (OrderDual.toDual lvl.price) lvl) .empty
      asks := asks.foldl (fun m (lvl : PriceLevel) => m.insert lvl.price lvl) .empty
      resyncing := false }
  seeded.trimToDepth.validateAndRecord checksum

/-- `apply_delta` (builder.rs:231). -/
def applyDelta (b : OrderBookBuilder) (bidUpdates askUpdates : List PriceLevel) (checksum : Nat) :
    OrderBookBuilder × Except ApplyError Unit :=
  let updated :=
    { b with
      bids := bidUpdates.foldl (fun m lvl =>
        if deltaLevelDeletes lvl then m.remove (OrderDual.toDual lvl.price)
        else m.insert (OrderDual.toDual lvl.price) lvl) b.bids
      asks := askUpdates.foldl (fun m lvl =>
        if deltaLevelDeletes lvl then m.remove lvl.price else m.insert lvl.price lvl) b.asks }
  updated.trimToDepth.validateAndRecord checksum

/-- `build_update` (builder.rs:302). -/
def buildUpdate (b : OrderBookBuilder) (checksum : Nat) (timestamp : Option MonotonicInstant)
    (exchangeTimestamp : String) : OrderBookUpdate :=
  { symbol := b.symbol
    bids := (b.bids.values.take b.callerDepth).map .ofPriceLevel
    asks := (b.asks.values.take b.callerDepth).map .ofPriceLevel
    checksum, timestamp, exchangeTimestamp }

/-! ## Depth -/

/-- Both sides fit the maintained depth. -/
def Trimmed (b : OrderBookBuilder) : Prop := b.bids.len ≤ b.maintainedDepth ∧ b.asks.len ≤ b.maintainedDepth

theorem trimmed_validateAndRecord {b : OrderBookBuilder} (h : b.Trimmed) (expected : Nat) :
    (b.validateAndRecord expected).1.Trimmed := by
  simp only [validateAndRecord]
  split <;> exact h

theorem trimmed_trimToDepth (b : OrderBookBuilder) : b.trimToDepth.Trimmed :=
  ⟨b.bids.len_truncate_le _, b.asks.len_truncate_le _⟩

/-- A snapshot leaves a book within its depth, whether or not its checksum matches. -/
theorem applySnapshot_depth (b : OrderBookBuilder) (bids asks : List PriceLevel) (checksum : Nat) :
    (b.applySnapshot bids asks checksum).1.Trimmed :=
  trimmed_validateAndRecord (trimmed_trimToDepth _) _

/-- A delta leaves a book within its depth, whether or not its checksum matches. -/
theorem applyDelta_depth (b : OrderBookBuilder) (bidUpdates askUpdates : List PriceLevel) (checksum : Nat) :
    (b.applyDelta bidUpdates askUpdates checksum).1.Trimmed :=
  trimmed_validateAndRecord (trimmed_trimToDepth _) _

end OrderBookBuilder

/-! ## Wire decode (book/wire.rs) -/

/-- `ParsedBook` (wire.rs:11). -/
structure ParsedBook where
  symbol : String
  bids : List PriceLevel
  asks : List PriceLevel
  checksum : Nat
  timestamp : String

/-- `RawBookLevel` (wire.rs:35). -/
structure RawBookLevel where
  price : Json
  qty : Json

/-- `RawBookData` (wire.rs:22). -/
structure RawBookData where
  symbol : String
  bids : List RawBookLevel
  asks : List RawBookLevel
  checksum : Nat
  timestamp : String

/-- A derived `Deserialize` of a struct reads an object by field name and an array by position; an
array with more items than fields is refused. -/
def structField (data : Json) (arity index : Nat) (name : String) : Option (Option Json) :=
  match data with
  | .obj _ => some (data.get? name)
  | .arr items => if items.length ≤ arity then some items[index]? else none
  | _ => none

/-- `RawBookLevel::deserialize`. -/
def RawBookLevel.deserialize (data : Json) : Option RawBookLevel := do
  let price ← (← structField data 2 0 "price")
  let qty ← (← structField data 2 1 "qty")
  pure ⟨price, qty⟩

/-- `#[serde(default)] Vec<RawBookLevel>`. -/
def levelsField : Option Json → Option (List RawBookLevel)
  | none => some []
  | some (.arr items) => items.mapM RawBookLevel.deserialize
  | some _ => none

/-- `RawBookData::deserialize`. -/
def RawBookData.deserialize (data : Json) : Option RawBookData := do
  let symbol ← (← (← structField data 5 0 "symbol")).asStr?
  let bids ← levelsField (← structField data 5 1 "bids")
  let asks ← levelsField (← structField data 5 2 "asks")
  let checksum ← ((← (← structField data 5 3 "checksum")).asU64?).filter (· ≤ u32Max)
  let timestamp ← match ← structField data 5 4 "timestamp" with
    | none => some ""
    | some v => v.asStr?
  pure ⟨symbol, bids, asks, checksum, timestamp⟩

/-- `parse_decimal` (wire.rs:96). -/
def parseDecimal (fromStr : String → Option Decimal) : Json → Option (Decimal × String)
  | .str s => (fromStr s).map (·, s)
  | .num literal => (fromStr literal).map (·, literal)
  | _ => none

/-- `RawBookLevel::into_level` (wire.rs:41). -/
def RawBookLevel.intoLevel (fromStr : String → Option Decimal) (raw : RawBookLevel) : Option PriceLevel := do
  let (price, priceWire) ← parseDecimal fromStr raw.price
  let (qty, qtyWire) ← parseDecimal fromStr raw.qty
  pure { price, qty, priceWire, qtyWire }

/-- `MAX_BOOK_LEVELS_PER_SIDE` (wire.rs:54). -/
def maxBookLevelsPerSide : Nat := 10000

/-- `parse_raw` (wire.rs:66). -/
def parseRaw (fromStr : String → Option Decimal) (raw : RawBookData) : Option ParsedBook := do
  if raw.bids.length > maxBookLevelsPerSide || raw.asks.length > maxBookLevelsPerSide then none
  else
    let bids ← raw.bids.mapM (·.intoLevel fromStr)
    let asks ← raw.asks.mapM (·.intoLevel fromStr)
    pure { symbol := raw.symbol, bids, asks, checksum := raw.checksum, timestamp := raw.timestamp }

/-- `parse_book_frame` (wire.rs:57). -/
def parseBookFrame (fromStr : String → Option Decimal) (data : Json) : Option ParsedBook :=
  (RawBookData.deserialize data).bind (parseRaw fromStr)

end KrakenSdk.Book
