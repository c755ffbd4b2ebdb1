import KrakenSdk.Book.Window
import KrakenSdk.Lib.StepSystem
/-!
# Levels of quantity zero (book/builder.rs:26-34, 111-125, 204-247, 295-321)

A `BookLevel` promises `never zero`. A delta deletes on a wire quantity of zero, so what it inserts is nonzero
on the wire, but may be zero as a `Decimal`; a snapshot inserts whatever it lists. `neverEmpty_iff`: a
sequence of calls keeps every book free of empty levels exactly when none of its messages leaves one.
-/
namespace KrakenSdk.Book

open KrakenSdk.Conn (MonotonicInstant Symbol)
open StepSystem

/-- A call that carries levels. -/
inductive BookCall where
  | snapshot (m : BookMessage)
  | delta (m : BookMessage)

namespace BookCall

def message : BookCall → BookMessage
  | .snapshot m => m
  | .delta m => m

/-- Which of its levels delete: a snapshot inserts them all. -/
def deletes : BookCall → PriceLevel → Bool
  | .snapshot _ => fun _ => false
  | .delta _ => deltaLevelDeletes

/-- The last word of the message on some price is a level of quantity zero that it inserts. -/
def LeavesEmpty (c : BookCall) : Prop :=
  ∃ lvl, lvl.qty = 0 ∧
    (BTreeMap.Leaves c.deletes bidKey c.message.bids lvl ∨ BTreeMap.Leaves c.deletes askKey c.message.asks lvl)

/-- The levels of both sides. -/
def size (c : BookCall) : Nat := c.message.bids.length + c.message.asks.length

/-- What a side starts from: a snapshot clears it. -/
def base {κ : Type} [LinearOrder κ] (c : BookCall) (side : BTreeMap κ PriceLevel) : BTreeMap κ PriceLevel :=
  match c with
  | .snapshot _ => .empty
  | .delta _ => side

end BookCall

namespace OrderBookBuilder

/-- The builder after a call, validated or not. -/
def call (b : OrderBookBuilder) : BookCall → OrderBookBuilder
  | .snapshot m => (b.applySnapshot m.bids m.asks m.checksum).1
  | .delta m => (b.applyDelta m.bids m.asks m.checksum).1

/-- No level of the update has a quantity of zero. -/
def ShowsNoEmpty (b : OrderBookBuilder) : Prop :=
  ∀ checksum timestamp exchangeTimestamp,
    ∀ lvl ∈ (b.buildUpdate checksum timestamp exchangeTimestamp).bids ++
      (b.buildUpdate checksum timestamp exchangeTimestamp).asks, lvl.qty ≠ 0

/-! ## One call -/

variable (b : OrderBookBuilder) (c : BookCall)

theorem call_rest : (b.call c).maintainedDepth = b.maintainedDepth ∧ (b.call c).callerDepth = b.callerDepth := by
  cases c with
  | snapshot m => exact applySnapshot_rest b m
  | delta m => exact applyDelta_rest b m

/-- Each side is its base with the message's levels, cut to the depth. -/
theorem sides_call :
    (b.call c).bids = ((c.base b.bids).updateRows c.deletes bidKey c.message.bids).truncate b.maintainedDepth ∧
      (b.call c).asks = ((c.base b.asks).updateRows c.deletes askKey c.message.asks).truncate b.maintainedDepth := by
  cases c with
  | snapshot m =>
    obtain ⟨hbids, hasks, -⟩ := validateAndRecord_rest
      ({ b with
        bids := m.bids.foldl (fun s (lvl : PriceLevel) => s.insert (OrderDual.toDual lvl.price) lvl) .empty
        asks := m.asks.foldl (fun s (lvl : PriceLevel) => s.insert lvl.price lvl) .empty
        resyncing := false } : OrderBookBuilder).trimToDepth m.checksum
    exact ⟨hbids, hasks⟩
  | delta m =>
    obtain ⟨hbids, hasks, -⟩ := validateAndRecord_rest
      ({ b with
        bids := b.bids.updateRows deltaLevelDeletes bidKey m.bids
        asks := b.asks.updateRows deltaLevelDeletes askKey m.asks } : OrderBookBuilder).trimToDepth m.checksum
    exact ⟨hbids, hasks⟩

end OrderBookBuilder

/-! ## One side -/

section Side

variable {κ : Type} [LinearOrder κ] {key : PriceLevel → κ} {c : BookCall} {side : BTreeMap κ PriceLevel}
  {levels : List PriceLevel} {n : Nat}

/-- No row has a quantity of zero. -/
def NoneEmpty (side : BTreeMap κ PriceLevel) : Prop := ∀ p ∈ side.entries, p.2.qty ≠ 0

theorem noneEmpty_empty : NoneEmpty (BTreeMap.empty : BTreeMap κ PriceLevel) := by
  intro p hp
  cases hp

theorem NoneEmpty.base (h : NoneEmpty side) : NoneEmpty (c.base side) := by
  cases c with
  | snapshot m => exact noneEmpty_empty
  | delta m => exact h

/-- A batch that leaves no empty level brings none. -/
theorem NoneEmpty.call (h : NoneEmpty side) (hl : ∀ lvl, lvl.qty = 0 → ¬ BTreeMap.Leaves c.deletes key levels lvl) :
    NoneEmpty (((c.base side).updateRows c.deletes key levels).truncate n) := by
  intro p hp hzero
  rcases (BTreeMap.mem_updateRows_leaves _ _ p).1 (BTreeMap.mem_of_mem_truncate hp) with ⟨lvl, hleft, rfl⟩ | ⟨hold, -⟩
  · exact hl lvl hzero hleft
  · exact h.base p hold hzero

theorem len_base_le (c : BookCall) (side : BTreeMap κ PriceLevel) : (c.base side).len ≤ side.len := by
  cases c with
  | snapshot m => exact Nat.zero_le _
  | delta m => exact le_rfl

theorem len_call_le (key : PriceLevel → κ) (c : BookCall) (side : BTreeMap κ PriceLevel) (levels : List PriceLevel) (n : Nat) :
    (((c.base side).updateRows c.deletes key levels).truncate n).len ≤ side.len + levels.length := by
  have hrows := BTreeMap.len_updateRows_le c.deletes key (c.base side) levels
  have hbase := len_base_le c side
  have hcut := List.length_take_le' n ((c.base side).updateRows c.deletes key levels).entries
  simp only [BTreeMap.len, BTreeMap.truncate] at hrows hbase hcut ⊢
  omega

/-- Below the depth nothing is cut, and what the message leaves is shown. -/
theorem mem_values_call {lvl : PriceLevel} (h : BTreeMap.Leaves c.deletes key levels lvl)
    (hroom : side.len + levels.length ≤ n) :
    lvl ∈ ((((c.base side).updateRows c.deletes key levels).truncate n).values).take n := by
  have hrows := BTreeMap.len_updateRows_le c.deletes key (c.base side) levels
  have hbase := len_base_le c side
  have hfit : ((c.base side).updateRows c.deletes key levels).entries.length ≤ n := by
    simp only [BTreeMap.len] at hrows hbase hroom
    omega
  have hmem : (key lvl, lvl) ∈ ((c.base side).updateRows c.deletes key levels).entries :=
    (BTreeMap.mem_updateRows_leaves _ _ _).2 (.inl ⟨lvl, h, rfl⟩)
  have hcut : ((c.base side).updateRows c.deletes key levels).entries.take n =
      ((c.base side).updateRows c.deletes key levels).entries := List.take_of_length_le hfit
  have hvalues : (((c.base side).updateRows c.deletes key levels).truncate n).values =
      ((c.base side).updateRows c.deletes key levels).values := congrArg (List.map Prod.snd) hcut
  rw [hvalues, BTreeMap.values, List.take_of_length_le (by rwa [List.length_map])]
  exact List.mem_map.2 ⟨(key lvl, lvl), hmem, rfl⟩

end Side

namespace OrderBookBuilder

/-! ## Runs -/

/-- Neither side has an empty row. -/
def NoEmptyRow (b : OrderBookBuilder) : Prop := NoneEmpty b.bids ∧ NoneEmpty b.asks

theorem NoEmptyRow.shows {b : OrderBookBuilder} (h : b.NoEmptyRow) : b.ShowsNoEmpty := by
  have hside : ∀ {κ : Type} [LinearOrder κ] {side : BTreeMap κ PriceLevel}, NoneEmpty side →
      ∀ lvl ∈ (side.values.take b.callerDepth).map BookLevel.ofPriceLevel, lvl.qty ≠ 0 := by
    intro κ _ side hs lvl hlvl
    obtain ⟨row, hrow, rfl⟩ := List.mem_map.1 hlvl
    obtain ⟨p, hp, rfl⟩ := List.mem_map.1 (List.mem_of_mem_take hrow)
    exact hs p hp
  intro checksum timestamp exchangeTimestamp lvl hlvl
  rcases List.mem_append.1 hlvl with hbid | hask
  · exact hside h.1 lvl hbid
  · exact hside h.2 lvl hask

/-- The step lemma: a message that leaves no empty level brings no empty row. -/
theorem noEmptyRow_call {b : OrderBookBuilder} {c : BookCall} (h : b.NoEmptyRow) (hc : ¬ c.LeavesEmpty) :
    (b.call c).NoEmptyRow := by
  obtain ⟨hbids, hasks⟩ := b.sides_call c
  refine ⟨?_, ?_⟩
  · rw [hbids]
    exact h.1.call fun lvl hzero hleft => hc ⟨lvl, hzero, .inl hleft⟩
  · rw [hasks]
    exact h.2.call fun lvl hzero hleft => hc ⟨lvl, hzero, .inr hleft⟩

/-- A new book after some calls holds at most their levels, under the depths it was made with. -/
theorem exec_call_rest (symbol : Symbol) (n : Nat) (calls : List BookCall) :
    (exec call (new symbol n n) calls).maintainedDepth = n ∧ (exec call (new symbol n n) calls).callerDepth = n ∧
      (exec call (new symbol n n) calls).bids.len + (exec call (new symbol n n) calls).asks.len ≤
        (calls.map BookCall.size).sum := by
  induction calls using List.reverseRecOn with
  | nil => exact ⟨rfl, rfl, Nat.zero_le _⟩
  | append_singleton calls c ih =>
    obtain ⟨hm, hcd, hlen⟩ := ih
    set b := exec call (new symbol n n) calls with hb
    have hstep : exec call (new symbol n n) (calls ++ [c]) = b.call c := by rw [exec_append, exec_cons, exec_nil]
    obtain ⟨hm', hcd'⟩ := b.call_rest c
    obtain ⟨hbids, hasks⟩ := b.sides_call c
    refine ⟨hstep ▸ hm'.trans hm, hstep ▸ hcd'.trans hcd, ?_⟩
    rw [hstep, hbids, hasks, List.map_append, List.sum_append]
    have hlb := len_call_le bidKey c b.bids c.message.bids b.maintainedDepth
    have hla := len_call_le askKey c b.asks c.message.asks b.maintainedDepth
    simp only [List.map_cons, List.map_nil, List.sum_cons, List.sum_nil, BookCall.size]
    omega

/-- A book with room for all of it shows the empty level a message leaves. -/
theorem shows_leavesEmpty {b : OrderBookBuilder} {c : BookCall} (hc : c.LeavesEmpty)
    (hroom : b.bids.len + b.asks.len + c.size ≤ b.maintainedDepth) (hcaller : b.callerDepth = b.maintainedDepth) :
    ¬ (b.call c).ShowsNoEmpty := by
  intro hshows
  obtain ⟨lvl, hzero, hleft⟩ := hc
  obtain ⟨hbids, hasks⟩ := b.sides_call c
  have hdepth := (b.call_rest c).2.trans hcaller
  have hsize : c.size = c.message.bids.length + c.message.asks.length := rfl
  refine hshows 0 none "" (.ofPriceLevel lvl) ?_ hzero
  rw [buildUpdate, hdepth, hbids, hasks, List.mem_append]
  rcases hleft with hbid | hask
  · exact .inl (List.mem_map.2 ⟨lvl, mem_values_call hbid (by omega), rfl⟩)
  · exact .inr (List.mem_map.2 ⟨lvl, mem_values_call hask (by omega), rfl⟩)

/-- **A sequence of calls keeps every book free of empty levels** — of any symbol and depths, after each call —
exactly when no message of it leaves an empty level. -/
theorem neverEmpty_iff (calls : List BookCall) :
    (∀ symbol maintainedDepth callerDepth, ∀ p, p <+: calls →
        (exec call (new symbol maintainedDepth callerDepth) p).ShowsNoEmpty) ↔
      ∀ c ∈ calls, ¬ c.LeavesEmpty := by
  constructor
  · intro h c hc hempty
    obtain ⟨before, after, rfl⟩ := List.append_of_mem hc
    -- a book with room for every level up to `c`
    obtain ⟨n, hn⟩ : ∃ n, n = (before.map BookCall.size).sum + c.size := ⟨_, rfl⟩
    have hbook := h "" n n (before ++ [c]) ⟨after, by simp⟩
    obtain ⟨hm, hcd, hlen⟩ := exec_call_rest "" n before
    rw [exec_append, exec_cons, exec_nil] at hbook
    exact shows_leavesEmpty hempty (by omega) (hcd.trans hm.symm) hbook
  · rintro h symbol maintainedDepth callerDepth p ⟨rest, rfl⟩
    have hok : Allowed call (fun _ c => ¬ c.LeavesEmpty) (new symbol maintainedDepth callerDepth) p :=
      allowed_of_forall (fun c hc => h c (List.mem_append_left rest hc)) _
    have hrow : (exec call (new symbol maintainedDepth callerDepth) p).NoEmptyRow :=
      (Reach.exec hok).invariant ⟨noneEmpty_empty, noneEmpty_empty⟩ fun _ _ hb hc => noEmptyRow_call hb hc
    exact hrow.shows

/-- A snapshot with one bid of quantity `"0"`: its own checksum is the right one. -/
def zeroBid : BookMessage where
  bids := [bidLevel 1 true]
  asks := []
  checksum := computeBookCrc32 [] [bidLevel 1 true]

/-- The bid is shown. -/
theorem zeroBid_shown : ¬ ∀ (calls : List BookCall) (symbol : Symbol) (maintainedDepth callerDepth : Nat),
    (exec call (new symbol maintainedDepth callerDepth) calls).ShowsNoEmpty := by
  intro h
  have hleft : (BookCall.snapshot zeroBid).LeavesEmpty := ⟨bidLevel 1 true, rfl, .inl ⟨[], [], rfl, rfl, by simp⟩⟩
  exact shows_leavesEmpty (b := new "BTC/USD" 25 25) hleft (by decide) rfl (h [.snapshot zeroBid] "BTC/USD" 25 25)

end OrderBookBuilder

end KrakenSdk.Book
