import KrakenSdk.Trade.Batch
import KrakenSdk.Trade.Executors
/-!
# Whose result a batch row is (executors.rs:661-855)

A rejected row carries no identifier, so the rows of a reply go to the orders of the request by position. Both decoders
read each row by itself (`orders_decodeBatchRest`, `orders_decodeAndGuardWsBatch`) and refuse any other number of rows
before anything is indexed.
-/
namespace KrakenSdk.Trade

open KrakenSdk.Conn (Json MonotonicInstant Symbol WsOp WsResponse)
open KrakenSdk.RateLimit (ClOrdIdPairIndex IndexEntry)
open KrakenSdk.Rest (RestError RetryPolicy signedPostCosted)

/-! ## The rows of a reply -/

/-- The rows of a reply over REST. -/
def restBatchRows (value : Json) : Option (List Json) :=
  (structFields ["orders"] 1 value).bind fun field => (field "orders").bind Json.asArray?

/-- The rows of a reply over WS. -/
def wsBatchRows (resp : WsResponse) : Option (List Json) := resp.result.asArray?

/-- One row over WS (ws_compose.rs:403-421). -/
def readWsBatchRow (row : Json) : BatchOrderResult where
  descr := { order := none, close := none }
  txid := idField row "order_id"
  error := (row.get? "error").bind Json.asStr?

theorem guardBatchRowCount_eq_ok {expected got : Nat} : guardBatchRowCount expected got = .ok () ↔ expected = got := by
  unfold guardBatchRowCount
  split
  next h => exact iff_of_false nofun h
  next h => exact iff_of_true rfl (not_not.1 h)

/-- A decode that is counted. -/
theorem guarded_eq_ok {expected : Nat} {decoded resp : AddOrderBatchResponse} :
    (do guardBatchRowCount expected decoded.orders.length; return decoded : Except TradeError AddOrderBatchResponse) =
      .ok resp ↔ expected = decoded.orders.length ∧ decoded = resp := by
  cases hguard : guardBatchRowCount expected decoded.orders.length with
  | ok u =>
    have hcount := guardBatchRowCount_eq_ok.1 hguard
    constructor
    · rintro ⟨⟩
      exact ⟨hcount, rfl⟩
    · rintro ⟨-, rfl⟩
      rfl
  | error e =>
    refine iff_of_false nofun ?_
    rintro ⟨hcount, -⟩
    rw [guardBatchRowCount_eq_ok.2 hcount] at hguard
    cases hguard

theorem mapM_eq_some {α β : Type} {f : α → Option β} {l : List α} {l' : List β} (h : l.mapM f = some l') :
    l.map f = l'.map some := by
  induction l generalizing l' with
  | nil =>
    cases h
    rfl
  | cons a l ih =>
    rw [List.mapM_cons] at h
    obtain ⟨b, hb, h⟩ := Option.bind_eq_some_iff.1 h
    obtain ⟨bs, hbs, h⟩ := Option.bind_eq_some_iff.1 h
    cases h
    rw [List.map_cons, List.map_cons, hb, ih hbs]

theorem decodeAddOrderBatch_eq_ok {serde : String} {value : Json} {resp : AddOrderBatchResponse}
    (h : decodeAddOrderBatch serde value = .ok resp) :
    ∃ rows, restBatchRows value = some rows ∧ rows.mapM readBatchRow = some resp.orders := by
  unfold decodeAddOrderBatch at h
  dsimp only at h
  split at h
  next => cases h
  next orders hrows =>
    cases h
    obtain ⟨field, hfield, hrows⟩ := Option.bind_eq_some_iff.1 hrows
    obtain ⟨items, hitems, hread⟩ := Option.bind_eq_some_iff.1 hrows
    exact ⟨items, by rw [restBatchRows, hfield, Option.bind_some, hitems], hread⟩

/-- Over REST: as many rows as orders, each read by itself. -/
theorem orders_decodeBatchRest {serde : String} {expected : Nat} {value : Json} {resp : AddOrderBatchResponse}
    (h : decodeBatchRest serde expected value = .ok resp) :
    ∃ rows, restBatchRows value = some rows ∧ rows.length = expected ∧ rows.map readBatchRow = resp.orders.map some := by
  unfold decodeBatchRest at h
  cases hdecode : decodeAddOrderBatch serde value with
  | error e =>
    rw [hdecode] at h
    cases h
  | ok decoded =>
    rw [hdecode] at h
    obtain ⟨hcount, rfl⟩ := guarded_eq_ok.1 h
    obtain ⟨rows, hrows, hread⟩ := decodeAddOrderBatch_eq_ok hdecode
    have hmap := mapM_eq_some hread
    have hlength := congrArg List.length hmap
    rw [List.length_map, List.length_map] at hlength
    exact ⟨rows, hrows, hlength.trans hcount.symm, hmap⟩

/-- Over WS alike. -/
theorem orders_decodeAndGuardWsBatch {expected : Nat} {reply : WsResponse} {resp : AddOrderBatchResponse}
    (h : decodeAndGuardWsBatch expected reply = .ok resp) :
    ∃ rows, wsBatchRows reply = some rows ∧ rows.length = expected ∧
      rows.map (fun row => some (readWsBatchRow row)) = resp.orders.map some := by
  unfold decodeAndGuardWsBatch decodeWsBatchAdd at h
  split at h
  next rows hresult =>
    obtain ⟨hcount, hresp⟩ := guarded_eq_ok.1 h
    refine ⟨rows, by rw [wsBatchRows, hresult]; rfl, ?_, ?_⟩
    · rw [← List.length_map readWsBatchRow, hcount]
      rfl
    · rw [← hresp, List.map_map]
      rfl
  next => cases h

/-! ## What is indexed -/

/-- The order at `i` has this identifier, and its row a txid and no error. -/
def PlacedAt (entries : List BatchOrderEntry) (rows : List BatchOrderResult) (c : ClOrdId) (i : Nat) : Prop :=
  ∃ entry line, entries[i]? = some entry ∧ rows[i]? = some line ∧ line.txid.isSome = true ∧ line.error = none ∧
    entry.clOrdId = some c

theorem mem_indexPlacedBatchRows {pair : Symbol} {entries : List BatchOrderEntry} {rows : List BatchOrderResult}
    {sentAt : MonotonicInstant} {c : ClOrdId} {e : IndexEntry} :
    (c, e) ∈ indexPlacedBatchRows pair entries rows sentAt ↔
      e = { pair, sentAt } ∧ ∃ i, PlacedAt entries rows c i := by
  simp only [indexPlacedBatchRows, List.mem_filterMap, Prod.exists, PlacedAt]
  constructor
  · rintro ⟨entry, line, hmem, hplaced⟩
    obtain ⟨i, hi⟩ := List.mem_iff_getElem?.1 hmem
    obtain ⟨hentry, hline⟩ := List.getElem?_zip_eq_some.1 hi
    split at hplaced
    next hcond =>
      obtain ⟨c', hc', hpair⟩ := Option.map_eq_some_iff.1 hplaced
      cases hpair
      rw [Bool.and_eq_true, Option.isNone_iff_eq_none] at hcond
      exact ⟨rfl, i, entry, line, hentry, hline, hcond.1, hcond.2, hc'⟩
    next => cases hplaced
  · rintro ⟨rfl, i, entry, line, hentry, hline, htxid, herror, hc⟩
    refine ⟨entry, line, List.mem_iff_getElem?.2 ⟨i, List.getElem?_zip_eq_some.2 ⟨hentry, hline⟩⟩, ?_⟩
    rw [htxid, herror, hc]
    rfl

/-- What an index gains: `entry` under the identifiers that are placed, `count` of them, and nothing else. It is bounded, so
what it had stays and what it gains is all there as far as there is room. -/
structure Gains (index index' : ClOrdIdPairIndex) (placed : ClOrdId → Prop) (entry : IndexEntry) (count : Nat) : Prop where
  gained : ∀ c e, (index'.lookupAndPromote c).1 = some e →
    (placed c ∧ e = entry) ∨ (¬ placed c ∧ (index.lookupAndPromote c).1 = some e)
  present : count ≤ index.cap → ∀ c, placed c → (index'.lookupAndPromote c).1 = some entry
  kept : HashMap.len index.inner + count ≤ index.cap → ∀ c, ¬ placed c →
    (index'.lookupAndPromote c).1 = (index.lookupAndPromote c).1

theorem mem_keys_indexPlacedBatchRows {pair : Symbol} {entries : List BatchOrderEntry} {rows : List BatchOrderResult}
    {sentAt : MonotonicInstant} {c : ClOrdId} :
    c ∈ (indexPlacedBatchRows pair entries rows sentAt).map Prod.fst ↔ ∃ i, PlacedAt entries rows c i := by
  simp only [List.mem_map, Prod.exists, exists_and_right, exists_eq_right, mem_indexPlacedBatchRows, exists_eq,
    true_and]

theorem gains_insertAll (index : ClOrdIdPairIndex) (pair : Symbol) (entries : List BatchOrderEntry)
    (rows : List BatchOrderResult) (sentAt : MonotonicInstant) :
    Gains index (index.insertAll (indexPlacedBatchRows pair entries rows sentAt))
      (fun c => ∃ i, PlacedAt entries rows c i) { pair, sentAt } (indexPlacedBatchRows pair entries rows sentAt).length where
  gained c e h := by
    simp only [ClOrdIdPairIndex.lookupAndPromote, ClOrdIdPairIndex.inner_insertAll] at h ⊢
    rcases LruCache.lookup_putAll h with hmem | ⟨hnot, hold⟩
    · obtain ⟨rfl, hplaced⟩ := mem_indexPlacedBatchRows.1 hmem
      exact .inl ⟨hplaced, rfl⟩
    · exact .inr ⟨fun hplaced => hnot (mem_keys_indexPlacedBatchRows.2 hplaced), hold⟩
  present hcap c hplaced := by
    simp only [ClOrdIdPairIndex.lookupAndPromote, ClOrdIdPairIndex.inner_insertAll]
    obtain ⟨e, hmem, hlookup⟩ := LruCache.mem_putAll (mem_keys_indexPlacedBatchRows.2 hplaced) hcap
    rw [hlookup, (mem_indexPlacedBatchRows.1 hmem).1]
  kept hroom c hnot := by
    simp only [ClOrdIdPairIndex.lookupAndPromote, ClOrdIdPairIndex.inner_insertAll]
    exact LruCache.lookup_putAll_of_not_mem (fun hmem => hnot (mem_keys_indexPlacedBatchRows.1 hmem)) hroom

/-! ## The call -/

/-- The call returns what its decode says of a reply, or it has no result to return and indexes nothing. -/
def OrderRun.Follows {α ρ : Type} (r : OrderRun α) (reply : Option ρ) (decode : ρ → Decoded α) : Prop :=
  (∃ value f, reply = some value ∧ r.indexed = (decode value).indexed ∧ r.result = some ((decode value).result.mapError f)) ∨
    (r.indexed = [] ∧ ∀ a, r.result ≠ some (.ok a))

/-- The reply of a POST. -/
def RestMeets.reply (w : RestMeets) (policy : RetryPolicy) : Option Json :=
  (signedPostCosted policy w.defaultMaxAttempts w.attempts).bind Except.toOption

/-- The reply over WS. -/
def WsMeets.reply (w : WsMeets) : Option WsResponse := w.recv.bind Except.toOption

theorem RestMeets.post_follows {α : Type} (w : RestMeets) (path : String) (form : List (String × String))
    (policy : RetryPolicy) (guard : Option CancelEmitGuard) (emit : Except RestError Json → List OrderEvent)
    (decode : Json → Decoded α) : (w.post path form policy guard emit decode).Follows (w.reply policy) decode := by
  unfold RestMeets.post RestMeets.reply
  rcases signedPostCosted policy w.defaultMaxAttempts w.attempts with _ | e | value
  · exact .inr ⟨rfl, nofun⟩
  · exact .inr ⟨rfl, nofun⟩
  · exact .inl ⟨value, _, rfl, rfl, rfl⟩

theorem WsMeets.send_follows {α : Type} (w : WsMeets) (op : WsOp) (orderOp : OrderOp) (params : Json)
    (decode : WsResponse → Decoded α) : (w.send op orderOp none none params none decode).Follows w.reply decode := by
  unfold WsMeets.send WsMeets.reply
  rcases w.recv with _ | e | resp
  · exact .inr ⟨rfl, nofun⟩
  · exact .inr ⟨rfl, nofun⟩
  · exact .inl ⟨resp, _, rfl, rfl, rfl⟩

theorem OrderRun.Reaches.follows {α ρ : Type} {r wire : OrderRun α} {checked : Prop} (h : r.Reaches checked wire)
    {reply : Option ρ} {decode : ρ → Decoded α} (hwire : wire.Follows reply decode) : r.Follows reply decode := by
  rcases h with ⟨-, -, -, hindexed, hresult⟩ | ⟨-, rfl⟩
  · exact .inr ⟨hindexed, hresult⟩
  · exact hwire

theorem indexBatch_eq_ok {req : AddOrderBatchRequest} {sentAt : MonotonicInstant}
    {decoded : Except TradeError AddOrderBatchResponse} {f : TradeError → TradeError} {resp : AddOrderBatchResponse}
    (h : (indexBatch req sentAt decoded).result.mapError f = .ok resp) :
    decoded = .ok resp ∧
      (indexBatch req sentAt decoded).indexed = indexPlacedBatchRows req.pair req.orders resp.orders sentAt := by
  cases decoded with
  | error e => cases h
  | ok resp' =>
    cases h
    exact ⟨rfl, rfl⟩

theorem indexBatch_error {req : AddOrderBatchRequest} {sentAt : MonotonicInstant}
    {decoded : Except TradeError AddOrderBatchResponse} {f : TradeError → TradeError}
    (h : ∀ resp, (indexBatch req sentAt decoded).result.mapError f ≠ .ok resp) : (indexBatch req sentAt decoded).indexed = [] := by
  cases decoded with
  | error e => rfl
  | ok resp => exact absurd rfl (h resp)

/-- A batch call and its reply, whose rows are read by `rows` and `readRow`. -/
structure Attributed {ρ : Type} (req : AddOrderBatchRequest) (index : ClOrdIdPairIndex) (run : OrderRun AddOrderBatchResponse)
    (reply : Option ρ) (rows : ρ → Option (List Json)) (readRow : Json → Option BatchOrderResult)
    (sentAt : MonotonicInstant) : Prop where
  ok : ∀ resp, run.result = some (.ok resp) → ∃ value items, reply = some value ∧ rows value = some items ∧
    items.length = req.orders.length ∧ items.map readRow = resp.orders.map some ∧
    Gains index (index.insertAll run.indexed) (fun c => ∃ i, PlacedAt req.orders resp.orders c i)
      { pair := req.pair, sentAt } run.indexed.length
  otherwise : (∀ resp, run.result ≠ some (.ok resp)) → index.insertAll run.indexed = index

theorem OrderRun.Follows.attributed {ρ : Type} {req : AddOrderBatchRequest} {run : OrderRun AddOrderBatchResponse}
    {reply : Option ρ} {decode : ρ → Except TradeError AddOrderBatchResponse} {rows : ρ → Option (List Json)}
    {readRow : Json → Option BatchOrderResult} {sentAt : MonotonicInstant}
    (h : run.Follows reply fun value => indexBatch req sentAt (decode value))
    (hdecode : ∀ value resp, decode value = .ok resp → ∃ items, rows value = some items ∧
      items.length = req.orders.length ∧ items.map readRow = resp.orders.map some)
    (index : ClOrdIdPairIndex) : Attributed req index run reply rows readRow sentAt where
  ok resp hresult := by
    rcases h with ⟨value, f, hreply, hindexed, hrun⟩ | ⟨-, hnot⟩
    · rw [hrun] at hresult
      obtain ⟨hok, hrows⟩ := indexBatch_eq_ok (Option.some.inj hresult)
      obtain ⟨items, hitems, hcount, hread⟩ := hdecode value resp hok
      refine ⟨value, items, hreply, hitems, hcount, hread, ?_⟩
      rw [hindexed, hrows]
      exact gains_insertAll index req.pair req.orders resp.orders sentAt
    · exact absurd hresult (hnot resp)
  otherwise hnot := by
    rcases h with ⟨value, f, -, hindexed, hrun⟩ | ⟨hindexed, -⟩
    · rw [hindexed, indexBatch_error fun resp heq => hnot resp (hrun.trans (congrArg some heq))]
      rfl
    · rw [hindexed]
      rfl

/-- **Batch results go to their orders**, on either transport: `Ok` has as many rows as there are orders, each read by
itself, and the index gains the orders that are placed; without `Ok` it is as it was. -/
theorem batch_attributed (req : AddOrderBatchRequest) (index : ClOrdIdPairIndex) :
    (∀ w : RestMeets, Attributed req index (orderBatchRest req w) (w.reply (placementPolicy req.validateOnly))
      restBatchRows readBatchRow w.sentAt) ∧
    (∀ w : WsMeets, Attributed req index (orderBatchWs req w) w.reply wsBatchRows (fun row => some (readWsBatchRow row))
      w.calledAt) := by
  constructor
  · intro w
    obtain ⟨path, hreaches⟩ := orderBatchRest_reaches req w
    exact (hreaches.follows (w.post_follows ..)).attributed (fun _ _ => orders_decodeBatchRest) index
  · intro w
    obtain ⟨params, hreaches⟩ := orderBatchWs_reaches req w
    exact (hreaches.follows (w.send_follows ..)).attributed (fun _ _ => orders_decodeAndGuardWsBatch) index

/-- A batch of two orders that are both placed. -/
def placedPair : AddOrderBatchRequest where
  pair := "BTC/USD"
  orders := [{ marketEntry .buy with clOrdId := some ⟨"first"⟩ }, { marketEntry .sell with clOrdId := some ⟨"second"⟩ }]
  deadline := none
  validateOnly := false

/-- The reply to it. -/
def placedPairMeets : RestMeets where
  bus := true
  route := .ok "/0/private/AddOrderBatch"
  requestId := "request"
  charged := true
  sentAt := 0
  defaultMaxAttempts := 1
  attempts := [{
    headroom := true
    sign := .ok ()
    send := .responded 200 (.ok (.obj [("error", .arr []), ("result", .obj [("orders", .arr [
      .obj [("txid", .str "O1")], .obj [("txid", .str "O2")]])])])) }]
  dropped := false
  serde := ""

/-- An index with room for one: of the two orders placed it has the second. -/
theorem index_without_first :
    ¬ ∀ (req : AddOrderBatchRequest) (index : ClOrdIdPairIndex) (w : RestMeets) (resp : AddOrderBatchResponse),
      (orderBatchRest req w).result = some (.ok resp) → ∀ c, (∃ i, PlacedAt req.orders resp.orders c i) →
      ((index.insertAll (orderBatchRest req w).indexed).lookupAndPromote c).1 =
        some { pair := req.pair, sentAt := w.sentAt } := by
  intro h
  have hfirst := h placedPair (.new 1) placedPairMeets
    { orders := [⟨⟨none, none⟩, some "O1", none⟩, ⟨⟨none, none⟩, some "O2", none⟩] } rfl ⟨"first"⟩
    ⟨0, _, _, rfl, rfl, rfl, rfl, rfl⟩
  revert hfirst
  decide +kernel

end KrakenSdk.Trade
