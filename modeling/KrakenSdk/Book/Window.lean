import KrakenSdk.Book.Builder
/-!
# The maintained window of an exchange book

The exchange keeps a full book; the builder sees a snapshot of its best levels and then what changed
among these. `ExchangeBook` is the full book, `SideDelta` what a delta must and may mention.

**`window_refinement`**: through any sequence of books the builder holds the best `maintained_depth`
levels of each side, its checksum is the one over the true top ten, and what it hands out is sorted.
**`delta_validates_iff`**: so a delta validates exactly if it carries that checksum.
-/
namespace KrakenSdk.Book

open KrakenSdk.Conn (MonotonicInstant)

/-! ## The exchange's book -/

/-- One side: a level for each price it has, none with a wire quantity of zero. -/
structure BookSide (κ : Type) [LinearOrder κ] (key : PriceLevel → κ) where
  levels : BTreeMap κ PriceLevel
  keyed : ∀ p ∈ levels.entries, p.1 = key p.2
  nonzero : ∀ p ∈ levels.entries, deltaLevelDeletes p.2 = false

/-- Bids rank by price, the highest first. -/
def bidKey (lvl : PriceLevel) : DescPrice := OrderDual.toDual lvl.price

/-- Asks rank by price, the lowest first. -/
def askKey (lvl : PriceLevel) : Decimal := lvl.price

/-- A full book. -/
structure ExchangeBook where
  bids : BookSide DescPrice bidKey
  asks : BookSide Decimal askKey

/-- The best `n` levels of a side. -/
def BookSide.best {κ : Type} [LinearOrder κ] {key : PriceLevel → κ} (s : BookSide κ key) (n : Nat) : List PriceLevel :=
  s.levels.values.take n

section Side

variable {κ : Type} [LinearOrder κ] {key : PriceLevel → κ} {s s' : BookSide κ key} {n : Nat}

/-- The snapshot of a side lists its best levels. -/
def SideSnapshot (n : Nat) (s : BookSide κ key) (levels : List PriceLevel) : Prop :=
  ∀ lvl, lvl ∈ levels ↔ lvl ∈ s.best n

/-- The delta from `s` to `s'` mentions what left the best `n` by removal and what is new or changed among
them, in any order. Whatever else it mentions is true of `s'`. -/
structure SideDelta (n : Nat) (s s' : BookSide κ key) (levels : List PriceLevel) : Prop where
  removed : ∀ lvl ∈ s.best n, (∀ lvl' ∈ s'.levels.values, key lvl' ≠ key lvl) →
    ∃ z ∈ levels, deltaLevelDeletes z = true ∧ key z = key lvl
  changed : ∀ lvl ∈ s'.best n, lvl ∉ s.best n → lvl ∈ levels
  truthful : ∀ z ∈ levels, (deltaLevelDeletes z = true ∧ ∀ lvl' ∈ s'.levels.values, key lvl' ≠ key z) ∨
    z ∈ s'.levels.values

theorem BookSide.best_eq (s : BookSide κ key) (n : Nat) : s.best n = (s.levels.truncate n).values :=
  (List.map_take ..).symm

theorem BookSide.mem_values {s : BookSide κ key} {lvl : PriceLevel} :
    lvl ∈ s.levels.values ↔ (key lvl, lvl) ∈ s.levels.entries := by
  constructor
  · intro h
    obtain ⟨p, hp, rfl⟩ := List.mem_map.1 h
    rw [← s.keyed p hp]
    exact hp
  · exact fun h => List.mem_map.2 ⟨_, h, rfl⟩

theorem BookSide.mem_best {s : BookSide κ key} {n : Nat} {p : κ × PriceLevel} (hkey : p.1 = key p.2) :
    p.2 ∈ s.best n ↔ p ∈ (s.levels.truncate n).entries := by
  rw [best_eq]
  constructor
  · intro h
    obtain ⟨q, hq, heq⟩ := List.mem_map.1 h
    have hqk := s.keyed q (BTreeMap.mem_of_mem_truncate hq)
    obtain rfl : q = p := Prod.ext (by rw [hqk, hkey, heq]) heq
    exact hq
  · exact fun h => List.mem_map.2 ⟨p, h, rfl⟩

/-- A delta carries the window of the old book over to that of the new one. -/
theorem SideDelta.truncate_updateRows {levels : List PriceLevel} (h : SideDelta n s s' levels) :
    ((s.levels.truncate n).updateRows deltaLevelDeletes key levels).truncate n = s'.levels.truncate n := by
  have hkey : ∀ p ∈ (s.levels.truncate n).entries, p.1 = key p.2 := fun p hp => s.keyed p (BTreeMap.mem_of_mem_truncate hp)
  have hkey' : ∀ p ∈ (s'.levels.truncate n).entries, p.1 = key p.2 := fun p hp => s'.keyed p (BTreeMap.mem_of_mem_truncate hp)
  refine BTreeMap.truncate_updateRows (fun z hz => ?_) (fun p hp habsent => ?_) (fun p hp hout => ?_)
  · rcases h.truthful z hz with ⟨hdel, habsent⟩ | hmem
    · refine .inl ⟨hdel, fun p hp => ?_⟩
      rw [s'.keyed p hp]
      exact habsent p.2 (List.mem_map.2 ⟨p, hp, rfl⟩)
    · rw [BookSide.mem_values] at hmem
      exact .inr ⟨s'.nonzero _ hmem, hmem⟩
  · obtain ⟨z, hz, -, hk⟩ := h.removed p.2 ((BookSide.mem_best (hkey p hp)).2 hp) fun lvl hlvl => by
      rw [← hkey p hp]
      exact habsent _ (BookSide.mem_values.1 hlvl)
    exact ⟨z, hz, hk.trans (hkey p hp).symm⟩
  · refine ⟨p.2, h.changed p.2 ((BookSide.mem_best (hkey' p hp)).2 hp) fun hold => hout ?_, (hkey' p hp).symm⟩
    exact (BookSide.mem_best (hkey' p hp)).1 hold

/-- A snapshot is the window of its book. -/
theorem SideSnapshot.truncate_insert {levels : List PriceLevel} (h : SideSnapshot n s levels) :
    (levels.foldl (fun m lvl => m.insert (key lvl) lvl) BTreeMap.empty).truncate n = s.levels.truncate n := by
  have hempty : (BTreeMap.empty : BTreeMap κ PriceLevel) = BTreeMap.empty.truncate n :=
    BTreeMap.ext_mem fun p => by simp [BTreeMap.empty, BTreeMap.truncate]
  have hbatch : levels.foldl (fun m lvl => m.insert (key lvl) lvl) BTreeMap.empty =
      (BTreeMap.empty.truncate n).updateRows (fun _ => false) key levels := by
    rw [← hempty]
    rfl
  rw [hbatch]
  refine BTreeMap.truncate_updateRows (fun z hz => ?_) (fun p hp => ?_) (fun p hp _ => ?_)
  · have hbest := (h z).1 hz
    rw [BookSide.best_eq] at hbest
    obtain ⟨p, hp, rfl⟩ := List.mem_map.1 hbest
    exact .inr ⟨rfl, BookSide.mem_values.1 (List.mem_map.2 ⟨p, BTreeMap.mem_of_mem_truncate hp, rfl⟩)⟩
  · rw [← hempty] at hp
    cases hp
  · have hkey := s.keyed p (BTreeMap.mem_of_mem_truncate hp)
    exact ⟨p.2, (h p.2).2 ((BookSide.mem_best hkey).2 hp), hkey.symm⟩

end Side

/-! ## The builder -/

/-- A snapshot or a delta of both sides, with the checksum it carries. -/
structure BookMessage where
  bids : List PriceLevel
  asks : List PriceLevel
  checksum : Nat

/-- The message is a snapshot of the best `n` levels of `book`. -/
structure IsSnapshot (n : Nat) (book : ExchangeBook) (m : BookMessage) : Prop where
  bids : SideSnapshot n book.bids m.bids
  asks : SideSnapshot n book.asks m.asks

/-- The message is the delta from `book` to `book'` for the best `n` levels. -/
structure IsDelta (n : Nat) (book book' : ExchangeBook) (m : BookMessage) : Prop where
  bids : SideDelta n book.bids book'.bids m.bids
  asks : SideDelta n book.asks book'.asks m.asks

/-- The builder after the snapshot and the first `i` deltas, validated or not. -/
def OrderBookBuilder.replay (b : OrderBookBuilder) (snapshot : BookMessage) (deltas : Nat → BookMessage) :
    Nat → OrderBookBuilder
  | 0 => (b.applySnapshot snapshot.bids snapshot.asks snapshot.checksum).1
  | i + 1 => ((b.replay snapshot deltas i).applyDelta (deltas i).bids (deltas i).asks (deltas i).checksum).1

/-- The builder holds the best `maintained_depth` levels of each side, no more and no less. -/
structure Holds (b : OrderBookBuilder) (book : ExchangeBook) : Prop where
  bids : b.bids = book.bids.levels.truncate b.maintainedDepth
  asks : b.asks = book.asks.levels.truncate b.maintainedDepth

/-- A validation touches neither the levels nor the depths. -/
theorem validateAndRecord_rest (b : OrderBookBuilder) (expected : Nat) :
    (b.validateAndRecord expected).1.bids = b.bids ∧ (b.validateAndRecord expected).1.asks = b.asks ∧
      (b.validateAndRecord expected).1.maintainedDepth = b.maintainedDepth ∧
      (b.validateAndRecord expected).1.callerDepth = b.callerDepth := by
  unfold OrderBookBuilder.validateAndRecord
  dsimp only
  split <;> exact ⟨rfl, rfl, rfl, rfl⟩

theorem applySnapshot_rest (b : OrderBookBuilder) (m : BookMessage) :
    (b.applySnapshot m.bids m.asks m.checksum).1.maintainedDepth = b.maintainedDepth ∧
      (b.applySnapshot m.bids m.asks m.checksum).1.callerDepth = b.callerDepth :=
  (validateAndRecord_rest _ _).2.2

theorem applyDelta_rest (b : OrderBookBuilder) (m : BookMessage) :
    (b.applyDelta m.bids m.asks m.checksum).1.maintainedDepth = b.maintainedDepth ∧
      (b.applyDelta m.bids m.asks m.checksum).1.callerDepth = b.callerDepth :=
  (validateAndRecord_rest _ _).2.2

theorem holds_applySnapshot {b : OrderBookBuilder} {book : ExchangeBook} {m : BookMessage}
    (h : IsSnapshot b.maintainedDepth book m) : Holds (b.applySnapshot m.bids m.asks m.checksum).1 book := by
  obtain ⟨hdepth, -⟩ := applySnapshot_rest b m
  constructor
  · rw [hdepth, ← h.bids.truncate_insert]
    exact (validateAndRecord_rest _ _).1
  · rw [hdepth, ← h.asks.truncate_insert]
    exact (validateAndRecord_rest _ _).2.1

theorem holds_applyDelta {b : OrderBookBuilder} {book book' : ExchangeBook} {m : BookMessage} (hb : Holds b book)
    (h : IsDelta b.maintainedDepth book book' m) : Holds (b.applyDelta m.bids m.asks m.checksum).1 book' := by
  obtain ⟨hdepth, -⟩ := applyDelta_rest b m
  constructor
  · rw [hdepth, ← h.bids.truncate_updateRows, ← hb.bids]
    exact (validateAndRecord_rest _ _).1
  · rw [hdepth, ← h.asks.truncate_updateRows, ← hb.asks]
    exact (validateAndRecord_rest _ _).2.1

/-- The best few levels of the window are the best few of the book. -/
theorem values_take_truncate {κ : Type} [LinearOrder κ] {key : PriceLevel → κ} (s : BookSide κ key) {k n : Nat}
    (h : k ≤ n) : (s.levels.truncate n).values.take k = s.best k := by
  rw [← BookSide.best_eq, BookSide.best, BookSide.best, List.take_take, min_eq_left h]

/-- The levels of a side come in the order of their keys. -/
theorem BookSide.sorted_best {κ : Type} [LinearOrder κ] {key : PriceLevel → κ} (s : BookSide κ key) (n : Nat) :
    (s.best n).Pairwise fun a b => key a < key b := by
  rw [best_eq, BTreeMap.values, List.pairwise_map]
  refine (s.levels.truncate n).sorted.imp_of_mem fun {p q} hp hq hlt => ?_
  rw [← s.keyed p (BTreeMap.mem_of_mem_truncate hp), ← s.keyed q (BTreeMap.mem_of_mem_truncate hq)]
  exact hlt

/-- What the builder shows of the book: its levels, its checksum and its updates. -/
structure Shows (b : OrderBookBuilder) (book : ExchangeBook) : Prop where
  holds : Holds b book
  /-- The checksum is the one over the true top ten. -/
  checksum : b.computeChecksum = computeBookCrc32 (book.asks.best checksumDepth) (book.bids.best checksumDepth)
  /-- An update has the best `caller_depth` levels. -/
  bids : ∀ checksum timestamp exchangeTimestamp, (b.buildUpdate checksum timestamp exchangeTimestamp).bids =
    (book.bids.best b.callerDepth).map .ofPriceLevel
  asks : ∀ checksum timestamp exchangeTimestamp, (b.buildUpdate checksum timestamp exchangeTimestamp).asks =
    (book.asks.best b.callerDepth).map .ofPriceLevel
  bids_descend : ∀ checksum timestamp exchangeTimestamp,
    (b.buildUpdate checksum timestamp exchangeTimestamp).bids.Pairwise fun l l' => l'.price < l.price
  asks_ascend : ∀ checksum timestamp exchangeTimestamp,
    (b.buildUpdate checksum timestamp exchangeTimestamp).asks.Pairwise fun l l' => l.price < l'.price

theorem Holds.computeChecksum {b : OrderBookBuilder} {book : ExchangeBook} (h : Holds b book)
    (hdepth : checksumDepth ≤ b.maintainedDepth) :
    b.computeChecksum = computeBookCrc32 (book.asks.best checksumDepth) (book.bids.best checksumDepth) := by
  rw [OrderBookBuilder.computeChecksum, h.bids, h.asks, values_take_truncate _ hdepth, values_take_truncate _ hdepth]

theorem Holds.shows {b : OrderBookBuilder} {book : ExchangeBook} (h : Holds b book)
    (hdepth : checksumDepth ≤ b.maintainedDepth) (hcaller : b.callerDepth ≤ b.maintainedDepth) : Shows b book := by
  have hbids : ∀ c t e, (b.buildUpdate c t e).bids = (book.bids.best b.callerDepth).map .ofPriceLevel := by
    intro c t e
    rw [OrderBookBuilder.buildUpdate, h.bids, values_take_truncate _ hcaller]
  have hasks : ∀ c t e, (b.buildUpdate c t e).asks = (book.asks.best b.callerDepth).map .ofPriceLevel := by
    intro c t e
    rw [OrderBookBuilder.buildUpdate, h.asks, values_take_truncate _ hcaller]
  refine ⟨h, h.computeChecksum hdepth, hbids, hasks, fun c t e => ?_, fun c t e => ?_⟩
  · rw [hbids, List.pairwise_map]
    exact (book.bids.sorted_best _).imp fun hlt => hlt
  · rw [hasks, List.pairwise_map]
    exact (book.asks.sorted_best _).imp fun hlt => hlt

/-! ## Every sequence of books -/

section Replay

variable {b : OrderBookBuilder} {books : Nat → ExchangeBook} {snapshot : BookMessage} {deltas : Nat → BookMessage}

theorem replay_rest (b : OrderBookBuilder) (snapshot : BookMessage) (deltas : Nat → BookMessage) (i : Nat) :
    (b.replay snapshot deltas i).maintainedDepth = b.maintainedDepth ∧
      (b.replay snapshot deltas i).callerDepth = b.callerDepth := by
  induction i with
  | zero => exact applySnapshot_rest b snapshot
  | succ i ih =>
    obtain ⟨h1, h2⟩ := applyDelta_rest (b.replay snapshot deltas i) (deltas i)
    exact ⟨h1.trans ih.1, h2.trans ih.2⟩

theorem holds_replay (hsnapshot : IsSnapshot b.maintainedDepth (books 0) snapshot)
    (hdeltas : ∀ i, IsDelta b.maintainedDepth (books i) (books (i + 1)) (deltas i)) (i : Nat) :
    Holds (b.replay snapshot deltas i) (books i) := by
  induction i with
  | zero => exact holds_applySnapshot hsnapshot
  | succ i ih =>
    refine holds_applyDelta ih ?_
    rw [(replay_rest b snapshot deltas i).1]
    exact hdeltas i

/-- **The builder refines the window of the exchange's book**, after the snapshot and after every delta. -/
theorem window_refinement (hdepth : checksumDepth ≤ b.maintainedDepth) (hcaller : b.callerDepth ≤ b.maintainedDepth)
    (hsnapshot : IsSnapshot b.maintainedDepth (books 0) snapshot)
    (hdeltas : ∀ i, IsDelta b.maintainedDepth (books i) (books (i + 1)) (deltas i)) (i : Nat) :
    Shows (b.replay snapshot deltas i) (books i) := by
  obtain ⟨h1, h2⟩ := replay_rest b snapshot deltas i
  exact (holds_replay hsnapshot hdeltas i).shows (h1 ▸ hdepth) (h1 ▸ h2 ▸ hcaller)

/-- A bid for `price` with a wire quantity of one, or of zero. -/
def bidLevel (price : Decimal) (deletes : Bool) : PriceLevel :=
  { price, qty := if deletes then 0 else 1, priceWire := "1.0", qtyWire := if deletes then "0.0" else "1.0" }

theorem deltaLevelDeletes_bidLevel (price : Decimal) (deletes : Bool) :
    deltaLevelDeletes (bidLevel price deletes) = deletes := by
  have hwire : ∀ d : Bool, (!(if d then "0.0" else "1.0").toUTF8.toList.any fun b =>
      '0'.toUInt8 ≤ b && b ≤ '9'.toUInt8 && b != '0'.toUInt8) = d := by decide +kernel
  exact hwire deletes

/-- A book with one bid. -/
def oneBid (price : Decimal) : ExchangeBook where
  bids :=
    { levels := ⟨[(OrderDual.toDual price, bidLevel price false)], by simp⟩
      keyed := by simp [bidKey, bidLevel]
      nonzero := by simp [deltaLevelDeletes_bidLevel] }
  asks := { levels := .empty, keyed := nofun, nonzero := nofun }

/-- The only bid moves from 2 to 1. -/
def movedBid (i : Nat) : ExchangeBook := oneBid (if i = 0 then 2 else 1)

/-- One delta, whose removal comes last, and silence after it. -/
def movedDeltas (i : Nat) : BookMessage :=
  ⟨if i = 0 then [bidLevel 1 false, bidLevel 2 true] else [], [], 0⟩

theorem window_refinement_movedBid :
    Shows ((OrderBookBuilder.new "BTC/USD" 25 10).replay ⟨[bidLevel 2 false], [], 0⟩ movedDeltas 1) (movedBid 1) := by
  have hasks : ∀ p p' : Decimal, SideDelta 25 (oneBid p).asks (oneBid p').asks [] :=
    fun _ _ => ⟨nofun, nofun, nofun⟩
  refine window_refinement (by decide) (by decide) ⟨fun lvl => Iff.rfl, fun lvl => Iff.rfl⟩ (fun i => ⟨?_, ?_⟩) 1
  · cases i with
    | zero =>
      refine ⟨fun lvl hlvl _ => ?_, fun lvl hlvl _ => ?_, fun z hz => ?_⟩
      · obtain rfl := List.mem_singleton.1 (show lvl ∈ [bidLevel 2 false] from hlvl)
        exact ⟨bidLevel 2 true, by simp [movedDeltas], deltaLevelDeletes_bidLevel 2 true, rfl⟩
      · obtain rfl := List.mem_singleton.1 (show lvl ∈ [bidLevel 1 false] from hlvl)
        exact List.mem_cons_self
      · have hz' : z = bidLevel 1 false ∨ z = bidLevel 2 true := by simpa [movedDeltas] using hz
        rcases hz' with rfl | rfl
        · exact .inr List.mem_cons_self
        · refine .inl ⟨deltaLevelDeletes_bidLevel 2 true, fun lvl' hlvl' => ?_⟩
          obtain rfl := List.mem_singleton.1 (show lvl' ∈ [bidLevel 1 false] from hlvl')
          exact fun h => absurd (OrderDual.toDual.injective h) (show ¬ (1 : Decimal) = 2 by decide)
    | succ i =>
      refine ⟨fun lvl hlvl habsent => ?_, fun lvl hlvl hnew => absurd hlvl hnew, nofun⟩
      exact absurd rfl (habsent lvl (List.mem_of_mem_take hlvl))
  · exact hasks _ _

/-- **A delta validates exactly if it carries the checksum of the true top ten**: no gap is spurious. -/
theorem delta_validates_iff (hdepth : checksumDepth ≤ b.maintainedDepth)
    (hsnapshot : IsSnapshot b.maintainedDepth (books 0) snapshot)
    (hdeltas : ∀ i, IsDelta b.maintainedDepth (books i) (books (i + 1)) (deltas i)) (i : Nat) :
    ((b.replay snapshot deltas i).applyDelta (deltas i).bids (deltas i).asks (deltas i).checksum).2 = .ok () ↔
      (deltas i).checksum =
        computeBookCrc32 ((books (i + 1)).asks.best checksumDepth) ((books (i + 1)).bids.best checksumDepth) := by
  have hmaintained := (replay_rest b snapshot deltas (i + 1)).1
  have hcrc := (holds_replay hsnapshot hdeltas (i + 1)).computeChecksum (hmaintained ▸ hdepth)
  rw [OrderBookBuilder.replay, OrderBookBuilder.applyDelta] at hcrc
  rw [← hcrc, OrderBookBuilder.applyDelta]
  unfold OrderBookBuilder.validateAndRecord
  dsimp only
  split
  next hne => exact ⟨nofun, fun h => absurd h.symm hne⟩
  next heq => exact ⟨fun _ => (not_not.1 heq).symm, fun _ => rfl⟩

end Replay

end KrakenSdk.Book
