import KrakenSdk.Lib.LruCache
import KrakenSdk.Trade.Requests
/-!
# The cl_ord_id index (rate_limit/cl_ord_id_index.rs)

Which pair an order is on, by its `cl_ord_id`. An amend or a cancel names no pair, and is charged to the pair found here.
-/
namespace KrakenSdk.RateLimit

open KrakenSdk.Conn (MonotonicInstant Symbol)
open KrakenSdk.Trade (ClOrdId)

/-- `IndexEntry` (cl_ord_id_index.rs:12). -/
structure IndexEntry where
  pair : Symbol
  sentAt : MonotonicInstant
  deriving DecidableEq, Repr

/-- `ClOrdIdPairIndex` (cl_ord_id_index.rs:20). -/
structure ClOrdIdPairIndex where
  inner : LruCache ClOrdId IndexEntry
  cap : Nat
  cap_pos : 1 ≤ cap
  len_le : HashMap.len inner ≤ cap

namespace ClOrdIdPairIndex

theorem one_le_cap (cap : Nat) : 1 ≤ max cap 1 := le_max_right cap 1

/-- `ClOrdIdPairIndex::new` (cl_ord_id_index.rs:29): the cap is at least one. -/
def new (cap : Nat) : ClOrdIdPairIndex where
  inner := ∅
  cap := max cap 1
  cap_pos := one_le_cap cap
  len_le := Nat.zero_le _

/-- `insert` (cl_ord_id_index.rs:39). -/
def insert (index : ClOrdIdPairIndex) (clOrdId : ClOrdId) (entry : IndexEntry) : ClOrdIdPairIndex :=
  { index with
    inner := index.inner.putCapped index.cap clOrdId entry
    len_le := LruCache.len_putCapped index.len_le clOrdId entry }

/-- `lookup_and_promote` (cl_ord_id_index.rs:49). -/
def lookupAndPromote (index : ClOrdIdPairIndex) (clOrdId : ClOrdId) : Option IndexEntry × ClOrdIdPairIndex :=
  (index.inner.lookup clOrdId,
    { index with
      inner := index.inner.promote clOrdId
      len_le := by rw [LruCache.len_promote]; exact index.len_le })

/-- A lookup changes what is dropped next, and no other lookup. -/
theorem lookupAndPromote_lookup (index : ClOrdIdPairIndex) (clOrdId clOrdId' : ClOrdId) :
    ((index.lookupAndPromote clOrdId).2.lookupAndPromote clOrdId').1 = (index.lookupAndPromote clOrdId').1 :=
  LruCache.lookup_promote index.inner clOrdId clOrdId'

/-- Insert each entry in turn. -/
def insertAll (index : ClOrdIdPairIndex) (entries : List (ClOrdId × IndexEntry)) : ClOrdIdPairIndex :=
  entries.foldl (fun index entry => index.insert entry.1 entry.2) index

@[simp] theorem insertAll_nil (index : ClOrdIdPairIndex) : index.insertAll [] = index := rfl

theorem inner_insertAll (index : ClOrdIdPairIndex) (entries : List (ClOrdId × IndexEntry)) :
    (index.insertAll entries).inner = index.inner.putAll index.cap entries := by
  induction entries generalizing index with
  | nil => rfl
  | cons entry entries ih => exact ih (index.insert entry.1 entry.2)

end ClOrdIdPairIndex

end KrakenSdk.RateLimit
