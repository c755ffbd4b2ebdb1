import KrakenSdk.Trade.WsCompose
/-!
# A batch is its orders

A batch and a single order have hand-written encoders and checks of their own. On both transports an entry is sent as
the single order would be, under its own keys, and a batch is valid when its orders are and one transport takes them
all (`batch_pointwise`).
-/
namespace KrakenSdk.Trade

open KrakenSdk.Conn (Symbol Json strStartsWith)
open OptionalFields

/-- An entry as an order of its own. -/
def AddOrderBatchRequest.order (req : AddOrderBatchRequest) (e : BatchOrderEntry) : OrderRequest where
  side := e.side
  pair := req.pair
  volume := e.volume
  orderType := e.ordertype
  price := e.price
  price2 := e.price2
  leverage := e.leverage
  margin := e.margin
  oflags := e.oflags.getD []
  reduceOnly := e.reduceOnly
  stpType := e.stpType
  trigger := e.trigger
  timeInForce := e.timeInForce
  displayVol := e.displayVol
  startTime := e.startTime
  expireTime := e.expireTime
  deadline := req.deadline
  userref := e.userref
  clOrdId := e.clOrdId
  conditionalClose := e.conditionalClose
  validateOnly := req.validateOnly

/-! ## REST -/

/-- A field of entry `i`. -/
def tagged (i : Nat) (k : String) : Bool := strStartsWith k ("orders[" ++ Nat.repr i ++ "][")

/-- The key in a batch of the field of an order. -/
def batchKey (i : Nat) : String → String
  | "close[ordertype]" => bracketed i "close" ++ "[ordertype]"
  | "close[price]" => bracketed i "close" ++ "[price]"
  | "close[price2]" => bracketed i "close" ++ "[price2]"
  | k => bracketed i k

/-- Digits that end at the same mark are the same. -/
theorem eq_of_prefix_mark {c : Char} {ds ds' rest rest' : List Char} (hds : c ∉ ds) (hds' : c ∉ ds')
    (h : ds ++ c :: rest <+: ds' ++ c :: rest') : ds = ds' := by
  obtain ⟨tail, h⟩ := h
  have htake : ∀ {l : List Char}, c ∉ l → ∀ r, (l ++ c :: r).takeWhile (· ≠ c) = l := by
    intro l hl r
    rw [List.takeWhile_append_of_pos fun a ha => by simpa using ne_of_mem_of_not_mem ha hl]
    simp
  have hcut := congrArg (List.takeWhile (· ≠ c)) h
  rwa [List.append_assoc, List.cons_append, htake hds, htake hds'] at hcut

/-- The number in a key is the number of its entry. -/
theorem tagged_append (i j : Nat) (k rest : String) : tagged i (bracketed j k ++ rest) = decide (i = j) := by
  have hmark : ∀ n, ']' ∉ Nat.toDigits 10 n := by
    intro n hmem
    have hdigit := Nat.isDigit_of_mem_toDigits (by decide) (by decide) hmem
    cases hdigit
  have hopen : "][".toList = [']', '['] := by decide +kernel
  rw [Bool.eq_iff_iff, decide_eq_true_iff, tagged, strStartsWith_iff]
  simp only [bracketed, String.toList_append, List.append_assoc, Nat.toList_repr, List.prefix_append_right_inj, hopen,
    List.cons_append, List.nil_append]
  constructor
  · intro h
    have hdigits := eq_of_prefix_mark (hmark i) (hmark j) h
    exact Types.repr_injective (String.toList_injective (by rwa [Nat.toList_repr, Nat.toList_repr]))
  · rintro rfl
    exact (List.prefix_append_right_inj _).2 ⟨_, rfl⟩

theorem tagged_bracketed (i j : Nat) (k : String) : tagged i (bracketed j k) = decide (i = j) := by
  have h := tagged_append i j k ""
  rwa [String.append_empty] at h

/-- The rows with the number of an entry are its rows. -/
theorem filter_rows (e : BatchOrderEntry) (i j : Nat) :
    (e.rows j).filter (fun row => tagged i row.1) = if i = j then e.rows j else [] := by
  by_cases h : i = j
  · simp [BatchOrderEntry.rows, pushForm, tagged_bracketed, tagged_append, h]
  · simp [BatchOrderEntry.rows, pushForm, tagged_bracketed, tagged_append, h]

/-- A choice of one index is the part of that index. -/
theorem flatMap_zipIdx_single {α β : Type*} {l : List α} {f : α → Nat → List β} {i k : Nat} {x : α} (hx : l[i]? = some x) :
    ((l.zipIdx k).flatMap fun p => if k + i = p.2 then f p.1 p.2 else []) = f x (k + i) := by
  induction l generalizing i k with
  | nil => cases hx
  | cons y l ih =>
    cases i with
    | zero =>
      obtain rfl : y = x := by simpa using hx
      have hrest : ((l.zipIdx (k + 1)).flatMap fun p => if k + 0 = p.2 then f p.1 p.2 else []) = [] := by
        refine List.flatMap_eq_nil_iff.2 fun p hp => if_neg ?_
        have hle := (List.mem_zipIdx hp).1
        omega
      rw [List.zipIdx_cons, List.flatMap_cons, hrest]
      simp
    | succ i =>
      have htail := ih (k := k + 1) (i := i) (by simpa using hx)
      rw [List.zipIdx_cons, List.flatMap_cons, if_neg (by omega), List.nil_append]
      rwa [show k + (i + 1) = k + 1 + i by omega]

/-- A key that does not begin like `orders` has no number. -/
theorem tagged_of_head (i : Nat) {k : String} (h : k.toList.head? ≠ some 'o') : tagged i k = false := by
  rw [Bool.eq_false_iff]
  intro htagged
  obtain ⟨rest, hk⟩ := strStartsWith_iff.1 htagged
  have hopen : "orders[".toList = 'o' :: "rders[".toList := by decide +kernel
  rw [String.toList_append, String.toList_append, hopen] at hk
  rw [← hk] at h
  simp at h

/-- **The fields of an entry** in the form of a batch. -/
theorem filter_toForm {req : AddOrderBatchRequest} {i : Nat} {e : BatchOrderEntry} (he : req.orders[i]? = some e) :
    req.toForm.filter (fun p => tagged i p.1) = emit (e.rows i) := by
  have hpair : tagged i "pair" = false := tagged_of_head i (by decide +kernel)
  have hvalidate : tagged i "validate" = false := tagged_of_head i (by decide +kernel)
  have hentry := flatMap_zipIdx_single (f := fun (e : BatchOrderEntry) n => e.rows n) (k := 0) he
  rw [Nat.zero_add] at hentry
  rw [AddOrderBatchRequest.toForm, filter_emit]
  simp only [List.filter_append, List.filter_cons, List.filter_nil, hpair, hvalidate, List.filter_flatMap, filter_rows]
  simpa using congrArg emit hentry

/-! ## The same fields in another order -/

/-- Two lists that show the same items by their places, each place once. -/
theorem perm_of_places {α : Type*} (places : List Nat) (n : Nat) (item : Nat → α) (hplaces : places.Perm (List.range n))
    {l l' : List α} (h : l = places.map item) (h' : l' = (List.range n).map item) : l.Perm l' := by
  rw [h, h']
  exact hplaces.map item

theorem oflagsToWire_getD (flags : Option (List OFlag)) : oflagsToWire (flags.getD []) = flags.bind oflagsToWire := by
  cases flags with
  | none => rfl
  | some flags => rfl

/-- The rows of the order of an entry, under their keys in the batch. -/
theorem rows_perm (req : AddOrderBatchRequest) (e : BatchOrderEntry) (i : Nat) :
    ((((req.order e).rows ++ [("type", some e.side.display)]).filter fun row => row.1 ≠ "pair" && row.1 ≠ "validate").map
      fun row => (batchKey i row.1, row.2)).Perm (e.rows i) := by
  refine perm_of_places [2, 1, 3, 4, 5, 14, 6, 7, 8, 15, 9, 10, 11, 13, 12, 16, 17, 18, 0] 19
    (fun n => (e.rows i).getD n ("", none)) (by decide) ?_ rfl
  simp [OrderRequest.rows, AddOrderBatchRequest.order, pushForm, BatchOrderEntry.rows, batchKey, oflagsToWire_getD]

/-- **An entry is sent on REST as its order is**, without the fields of the batch. -/
theorem entry_form {req : AddOrderBatchRequest} {i : Nat} {e : BatchOrderEntry} (he : req.orders[i]? = some e) :
    (((req.order e).toForm.filter fun p => p.1 ≠ "pair" && p.1 ≠ "validate").map fun p => (batchKey i p.1, p.2)).Perm
      (req.toForm.filter fun p => tagged i p.1) := by
  have hrows : (req.order e).toForm = emit ((req.order e).rows ++ [("type", some e.side.display)]) :=
    (emit_append (req.order e).rows [("type", some e.side.display)]).symm
  have hkept := filter_emit (fun k => k ≠ "pair" && k ≠ "validate") ((req.order e).rows ++ [("type", some e.side.display)])
  rw [filter_toForm he, hrows, hkept, map_emit]
  exact emit_perm (rows_perm req e i)

/-! ## WS -/

/-- The params of an order without the fields of the batch. -/
def OrderRequest.entryParams (r : OrderRequest) : Json := JsonMap.toJson (((addOrderMap r.wsView).remove "symbol").remove "validate")

/-- The rows of an entry but the last, `validate`. -/
def frontRows (view : AddOrderWsView) : List (String × Option Json) :=
  headRows view ++ pricesRows view ++ flagRows view.oflags ++ (tailRows view).dropLast

theorem validate_not_mem_frontRows (view : AddOrderWsView) (v : Option Json) : ("validate", v) ∉ frontRows view := by
  intro hmem
  have hkey : "validate" ∈ keys (frontRows view) := List.mem_map.2 ⟨_, hmem, rfl⟩
  revert hkey
  show "validate" ∉ ["order_type", "side", "order_qty", "symbol", "cl_ord_id", "triggers", "limit_price", "limit_price_type",
    "post_only", "fee_preference", "no_mpp", "margin", "reduce_only", "stp_type", "time_in_force", "display_qty",
    "effective_time", "expire_time", "order_userref", "conditional"]
  decide

theorem entry_map (req : AddOrderBatchRequest) (e : BatchOrderEntry) :
    (addOrderMap (e.wsView req.pair)).remove "symbol" =
      ((addOrderMap (req.order e).wsView).remove "symbol").remove "validate" := by
  have hentry : wsRows (e.wsView req.pair) = frontRows (e.wsView req.pair) ++ [("validate", none)] := rfl
  have horder : wsRows (req.order e).wsView = frontRows (e.wsView req.pair) ++ [("validate", whenSet req.validateOnly)] := rfl
  refine BTreeMap.ext_mem fun p => ?_
  rw [BTreeMap.mem_remove, BTreeMap.mem_remove, BTreeMap.mem_remove, addOrderMap_eq, addOrderMap_eq,
    mem_ofRows (nodup_keys_wsRows _), mem_ofRows (nodup_keys_wsRows _), hentry, horder]
  simp only [List.mem_append, List.mem_singleton, Prod.mk.injEq]
  constructor
  · rintro ⟨hfront | ⟨-, hnone⟩, hsymbol⟩
    · refine ⟨⟨.inl hfront, hsymbol⟩, fun hkey => ?_⟩
      rw [hkey] at hfront
      exact validate_not_mem_frontRows _ _ hfront
    · cases hnone
  · rintro ⟨⟨hfront | ⟨hkey, -⟩, hsymbol⟩, hvalidate⟩
    · exact ⟨.inl hfront, hsymbol⟩
    · exact absurd hkey hvalidate

/-- What only REST can send. -/
def BatchOrderEntry.RestOnly (e : BatchOrderEntry) : Prop :=
  e.leverage.isSome ∨ ∃ c ∈ e.conditionalClose, c.price.isOffset = true ∨ ∃ p ∈ c.price2, p.isOffset = true

theorem isSome_wsBlocked {e : BatchOrderEntry} : e.wsBlocked.isSome ↔ e.RestOnly := by
  unfold BatchOrderEntry.wsBlocked BatchOrderEntry.RestOnly wsUnrepresentableField
  by_cases hleverage : e.leverage.isSome = true
  · simp [hleverage]
  · cases hclose : e.conditionalClose with
    | none => simp [hleverage, ConditionalClose.flatLegs]
    | some c =>
      by_cases hprice : c.price.isOffset = true
      · simp [hleverage, hprice, ConditionalClose.flatLegs]
      · cases hprice2 : c.price2 with
        | none => simp [hleverage, hprice, hprice2, ConditionalClose.flatLegs]
        | some p => by_cases hp : p.isOffset = true <;> simp [hleverage, hprice, hprice2, hp, ConditionalClose.flatLegs]

/-- The entries, up to the first that WS does not take. -/
theorem mapM_composeEntry (req : AddOrderBatchRequest) (orders : List BatchOrderEntry) :
    orders.mapM (composeEntry req.pair) = match orders.findSome? BatchOrderEntry.wsBlocked with
      | some field => .error (.wsUnsupportedOrderField field)
      | none => .ok (orders.map fun e => (req.order e).entryParams) := by
  induction orders with
  | nil => rfl
  | cons e orders ih =>
    rw [List.mapM_cons, List.findSome?_cons, ih, composeEntry]
    cases e.wsBlocked with
    | some field => rfl
    | none =>
      rw [entry_map]
      cases orders.findSome? BatchOrderEntry.wsBlocked <;> rfl

/-- **The params of a batch** are those of its orders, unless WS does not take one of them. -/
theorem composeBatchAddParams_eq (req : AddOrderBatchRequest) :
    composeBatchAddParams req = match req.orders.findSome? BatchOrderEntry.wsBlocked with
      | some field => .error (.wsUnsupportedOrderField field)
      | none => .ok (JsonMap.toJson (ofRows [("symbol", some (.str req.pair)),
          ("orders", some (.arr (req.orders.map fun e => (req.order e).entryParams))), ("validate", whenSet req.validateOnly)])) := by
  rw [composeBatchAddParams, mapM_composeEntry]
  cases req.orders.findSome? BatchOrderEntry.wsBlocked <;> rfl

/-! ## Checks -/

theorem forM_eq_ok {α : Type*} {l : List α} {f : α → Except TradeError Unit} : l.forM f = .ok () ↔ ∀ a ∈ l, f a = .ok () := by
  induction l with
  | nil => simp [pure, Except.pure]
  | cons a l ih =>
    have hstep : (a :: l).forM f = (f a >>= fun _ => l.forM f) := rfl
    rw [hstep, bind_eq_ok, ih, List.forall_mem_cons]

/-- The checks of a single order, the one of its identifiers apart. -/
theorem order_valid {req : AddOrderBatchRequest} {e : BatchOrderEntry} :
    { req.order e with clOrdId := none }.validate = .ok () ↔ req.deadline = none ∧ ¬ (e.margin = true ∧ e.RestOnly) ∧
      e.validate = .ok () := by
  have hblocked : ({ req.order e with clOrdId := none } : OrderRequest).wsBlocked = e.wsBlocked := rfl
  rw [OrderRequest.validate_eq_ok, hblocked, isSome_wsBlocked, BatchOrderEntry.validate]
  simp only [bind_eq_ok, AddOrderBatchRequest.order]
  constructor
  · rintro ⟨hdeadline, -, hplaceable, hgates, htrailing, hclose⟩
    exact ⟨hdeadline, hplaceable, htrailing, hgates, hclose⟩
  · rintro ⟨hdeadline, hplaceable, htrailing, hgates, hclose⟩
    exact ⟨hdeadline, by simp, hplaceable, hgates, htrailing, hclose⟩

theorem AddOrderBatchRequest.validate_eq_ok {req : AddOrderBatchRequest} (hlen : req.orders.length < 2 ^ 32) :
    req.validate = .ok () ↔ req.deadline = none ∧ (2 ≤ req.orders.length ∧ req.orders.length ≤ 15) ∧
      (∀ e ∈ req.orders, { req.order e with clOrdId := none }.validate = .ok ()) ∧
      ¬ ((∃ e ∈ req.orders, e.margin = true) ∧ ∃ e ∈ req.orders, e.RestOnly) := by
  simp only [AddOrderBatchRequest.validate, bind_eq_ok, rejectUnsupportedDeadline_eq_ok, Nat.mod_eq_of_lt hlen,
    rejectBatchSize_eq_ok, rejectUnplaceable_eq_ok, List.findSome?_isSome_iff, isSome_restUnrepresentableField,
    isSome_wsBlocked, forM_eq_ok, order_valid]
  constructor
  · rintro ⟨hdeadline, hsize, hone, hentries⟩
    refine ⟨hdeadline, hsize, fun e he => ⟨hdeadline, fun hboth => ?_, hentries e he⟩, hone⟩
    exact hone ⟨⟨e, he, hboth.1⟩, ⟨e, he, hboth.2⟩⟩
  · rintro ⟨hdeadline, hsize, hentries, hone⟩
    exact ⟨hdeadline, hsize, hone, fun e he => (hentries e he).2.2⟩

/-- **A batch is its orders**: in its form, in its params and in its checks. -/
theorem batch_pointwise (req : AddOrderBatchRequest) (hlen : req.orders.length < 2 ^ 32) :
    (∀ i e, req.orders[i]? = some e →
      (((req.order e).toForm.filter fun p => p.1 ≠ "pair" && p.1 ≠ "validate").map fun p => (batchKey i p.1, p.2)).Perm
        (req.toForm.filter fun p => tagged i p.1)) ∧
    (composeBatchAddParams req = match req.orders.findSome? BatchOrderEntry.wsBlocked with
      | some field => .error (.wsUnsupportedOrderField field)
      | none => .ok (JsonMap.toJson (ofRows [("symbol", some (.str req.pair)),
          ("orders", some (.arr (req.orders.map fun e => (req.order e).entryParams))),
          ("validate", whenSet req.validateOnly)]))) ∧
    (req.validate = .ok () ↔ req.deadline = none ∧ (2 ≤ req.orders.length ∧ req.orders.length ≤ 15) ∧
      (∀ e ∈ req.orders, { req.order e with clOrdId := none }.validate = .ok ()) ∧
      ¬ ((∃ e ∈ req.orders, e.margin = true) ∧ ∃ e ∈ req.orders, e.RestOnly)) :=
  ⟨fun _ _ he => entry_form he, composeBatchAddParams_eq req, AddOrderBatchRequest.validate_eq_ok hlen⟩

/-- A market order in a batch. -/
def marketEntry (side : Side) : BatchOrderEntry where
  ordertype := .market
  side := side
  volume := ⟨false, 1, 0, by decide, Types.Decimal.scale_zero_le⟩
  price := none
  price2 := none
  leverage := none
  margin := false
  reduceOnly := none
  stpType := none
  trigger := none
  displayVol := none
  startTime := none
  expireTime := none
  clOrdId := none
  userref := none
  oflags := none
  timeInForce := none
  conditionalClose := none

theorem batch_pointwise_markets :
    AddOrderBatchRequest.validate ⟨"BTC/USD", [marketEntry .buy, marketEntry .sell], none, false⟩ = .ok () := by
  refine (batch_pointwise _ (by decide)).2.2.2 ⟨rfl, by decide, ?_, ?_⟩
  · intro e he
    rcases List.mem_pair.1 he with rfl | rfl <;> rfl
  · rintro ⟨⟨e, he, hmargin⟩, -⟩
    rcases List.mem_pair.1 he with rfl | rfl <;> cases hmargin

end KrakenSdk.Trade
