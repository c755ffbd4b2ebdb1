import KrakenSdk.Rest.Surface
/-!
# Finding an order again (rest/surface.rs:422-500, 569-600)

`find_order_by_cl_ord_id` reads OpenOrders and then ClosedOrders. The order itself goes on living
while it does: it may be placed or closed before, between and after the two reads.

**`sound_iff`**: the walk answers soundly unless an answer is malformed while the other one carries
no order. `first_order_in_map` gives `None` for a missing wrapper, for a wrapper that is not an
object and for a wrapper whose first key is empty, just as for the empty one.
-/
namespace KrakenSdk.Rest

open KrakenSdk.Conn (Json)

/-! ## The walk (surface.rs) -/

/-- `OrderStatus` (api/account/types.rs:109). -/
inductive OrderStatus where
  | pending | opened | closed | canceled | expired | unknown
  deriving DecidableEq, Repr

/-- `LifecyclePosition` (types.rs:30). -/
inductive LifecyclePosition where
  | opened | closed
  deriving DecidableEq, Repr

/-- `ReconciliationOutcome` (types.rs:41). -/
inductive ReconciliationOutcome where
  | found (txid : String) (status : OrderStatus) (lifecycle : LifecyclePosition)
  | notPlaced
  | unknown
  deriving DecidableEq, Repr

/-- `parse_order_status` (surface.rs:586). -/
def parseOrderStatus (s : String) : OrderStatus :=
  if s = "pending" then .pending
  else if s = "open" then .opened
  else if s = "closed" then .closed
  else if s = "canceled" then .canceled
  else if s = "expired" then .expired
  else .unknown

/-- `first_order_in_map` (surface.rs:571). -/
def firstOrderInMap (result : Json) (wrapper : String) : Option (String × OrderStatus) :=
  match (result.get? wrapper).bind Json.asObject? with
  | none | some [] => none
  | some ((txid, row) :: _) =>
    if txid.isEmpty then none
    else some (txid, (((row.get? "status").bind Json.asStr?).map parseOrderStatus).getD .unknown)

/-- The field of the result value each leg reads. -/
def LifecyclePosition.wrapper : LifecyclePosition → String
  | .opened => "open"
  | .closed => "closed"

/-- What the world holds for one walk: the request ids minted for its legs, what their attempts
meet, and the engine's default attempt budget. -/
structure Legs where
  openId : String
  closedId : String
  openLeg : List Attempt
  closedLeg : List Attempt
  defaultMaxAttempts : Nat

/-- What the OpenOrders call returns, once it does. -/
def Legs.openResult (l : Legs) : Option (Except RestError Json) :=
  signedPostCosted .idempotent l.defaultMaxAttempts l.openLeg

/-- What the ClosedOrders call returns, once it does. -/
def Legs.closedResult (l : Legs) : Option (Except RestError Json) :=
  signedPostCosted .idempotent l.defaultMaxAttempts l.closedLeg

/-- `walk_reconciliation` (surface.rs:434); `none` is a walk that still waits for a leg. -/
def walkReconciliation (l : Legs) : Option (Except (String × RestError) ReconciliationOutcome) :=
  match l.openResult with
  | none => none
  | some (.error e) => some (.error (l.openId, e))
  | some (.ok opened) =>
    match firstOrderInMap opened "open" with
    | some found => some (.ok (.found found.1 found.2 .opened))
    | none =>
      match l.closedResult with
      | none => none
      | some (.error e) => some (.error (l.closedId, e))
      | some (.ok closed) =>
        match firstOrderInMap closed "closed" with
        | some found => some (.ok (.found found.1 found.2 .closed))
        | none => some (.ok .notPlaced)

/-- `OrderReconciliationEvent`. -/
structure OrderReconciliationEvent where
  clOrdId : String
  outcome : ReconciliationOutcome
  deriving DecidableEq, Repr

/-- `find_order_by_cl_ord_id` (surface.rs:424), with the events it publishes. -/
def findOrderByClOrdId (clOrdId : String) (l : Legs) :
    Option (Except (String × RestError) ReconciliationOutcome) × List OrderReconciliationEvent :=
  match walkReconciliation l with
  | some (.ok outcome) => (some (.ok outcome), [{ clOrdId, outcome }])
  | other => (other, [])

@[simp] theorem findOrderByClOrdId_fst (clOrdId : String) (l : Legs) :
    (findOrderByClOrdId clOrdId l).1 = walkReconciliation l := by
  unfold findOrderByClOrdId
  split
  · rename_i h
    exact h.symm
  · rfl

/-- Exactly one event for an answered walk, carrying its outcome, and none for a failed one. -/
theorem findOrderByClOrdId_events (clOrdId : String) (l : Legs) (e : OrderReconciliationEvent) :
    e ∈ (findOrderByClOrdId clOrdId l).2 ↔
      e.clOrdId = clOrdId ∧ walkReconciliation l = some (.ok e.outcome) := by
  unfold findOrderByClOrdId
  split
  · rename_i outcome h
    rw [List.mem_singleton]
    constructor
    · rintro rfl
      exact ⟨rfl, h⟩
    · rintro ⟨rfl, ho⟩
      rw [h] at ho
      cases e
      simpa using ho.symm
  · rename_i h
    constructor
    · rintro ⟨⟩
    · rintro ⟨-, ho⟩
      exact absurd ho (h e.outcome)

/-! ## The shapes of an answer -/

/-- The wrapper is an object without any order. -/
def EmptyWrapper (result : Json) (wrapper : String) : Prop := result.get? wrapper = some (.obj [])

/-- The wrapper is an object whose first key is a transaction id. -/
def HasOrder (result : Json) (wrapper : String) : Prop :=
  ∃ txid row rest, txid ≠ "" ∧ result.get? wrapper = some (.obj ((txid, row) :: rest))

/-- The wrapper is missing, is not an object, or its first key is empty. -/
def Malformed (result : Json) (wrapper : String) : Prop :=
  ∀ fields, result.get? wrapper = some (.obj fields) → ∃ row rest, fields = ("", row) :: rest

theorem asObject?_eq_some {v : Json} {fields : List (String × Json)} (h : v.asObject? = some fields) :
    v = .obj fields := by
  cases v with
  | obj fs => exact congrArg Json.obj (Option.some.inj h)
  | null | bool _ | num _ | str _ | arr _ => cases h

/-- What `first_order_in_map` finds is the first entry of the wrapper. -/
theorem firstOrderInMap_some {result : Json} {wrapper txid : String} {status : OrderStatus}
    (h : firstOrderInMap result wrapper = some (txid, status)) :
    txid ≠ "" ∧ ∃ row rest, result.get? wrapper = some (.obj ((txid, row) :: rest)) := by
  unfold firstOrderInMap at h
  split at h
  · cases h
  · cases h
  · rename_i key row rest hobj
    split at h
    · cases h
    · rename_i hkey
      obtain ⟨rfl, -⟩ := Prod.mk.inj (Option.some.inj h)
      obtain ⟨v, hget, hv⟩ := Option.bind_eq_some_iff.mp hobj
      rw [asObject?_eq_some hv] at hget
      exact ⟨by simpa using hkey, row, rest, hget⟩

theorem firstOrderInMap_cons {result row : Json} {wrapper txid : String} {rest : List (String × Json)}
    (hget : result.get? wrapper = some (.obj ((txid, row) :: rest))) (htxid : txid ≠ "") :
    ∃ status, firstOrderInMap result wrapper = some (txid, status) := by
  have hobj : (result.get? wrapper).bind Json.asObject? = some ((txid, row) :: rest) := by rw [hget]; rfl
  have hkey : ¬ txid.isEmpty = true := by simpa using htxid
  simp only [firstOrderInMap, hobj, if_neg hkey]
  exact ⟨_, rfl⟩

theorem hasOrder_iff (result : Json) (wrapper : String) :
    HasOrder result wrapper ↔ (firstOrderInMap result wrapper).isSome := by
  constructor
  · rintro ⟨txid, row, rest, htxid, hget⟩
    obtain ⟨status, h⟩ := firstOrderInMap_cons hget htxid
    rw [h]
    rfl
  · intro h
    obtain ⟨⟨txid, status⟩, hfound⟩ := Option.isSome_iff_exists.mp h
    obtain ⟨htxid, row, rest, hget⟩ := firstOrderInMap_some hfound
    exact ⟨txid, row, rest, htxid, hget⟩

/-- An answer without a first order is empty or malformed, and never both. -/
theorem emptyWrapper_iff {result : Json} {wrapper : String} (h : firstOrderInMap result wrapper = none) :
    EmptyWrapper result wrapper ↔ ¬ Malformed result wrapper := by
  constructor
  · intro hempty hmal
    obtain ⟨row, rest, hcons⟩ := hmal [] hempty
    cases hcons
  · intro hmal
    unfold Malformed at hmal
    push Not at hmal
    obtain ⟨fields, hget, hfirst⟩ := hmal
    cases fields with
    | nil => exact hget
    | cons entry rest =>
      obtain ⟨txid, row⟩ := entry
      -- a non-empty first key would have been found
      have htxid : txid ≠ "" := by
        rintro rfl
        exact hfirst row rest rfl
      obtain ⟨status, hfound⟩ := firstOrderInMap_cons hget htxid
      rw [h] at hfound
      cases hfound

theorem malformed_not_hasOrder {result : Json} {wrapper : String} (h : Malformed result wrapper) :
    firstOrderInMap result wrapper = none := by
  cases hfirst : firstOrderInMap result wrapper with
  | none => rfl
  | some found =>
    obtain ⟨htxid, row, rest, hget⟩ := firstOrderInMap_some (show _ = some (found.1, found.2) from hfirst)
    obtain ⟨row', rest', hcons⟩ := h _ hget
    exact absurd (congrArg (fun l => (l.head?.map Prod.fst)) hcons) (by simpa using htxid)

/-! ## The order behind the client order id -/

/-- The order of one client order id: absent until it is placed, open until it is closed. -/
structure OrderLife where
  txid : String
  txid_ne : txid ≠ ""
  placedAt : Option Nat
  closedAt : Option Nat
  /-- Only a placed order closes, and not before it was placed. -/
  placed_le_closed : ∀ c ∈ closedAt, ∃ p ∈ placedAt, p ≤ c

/-- The order had been placed at the instant `t`. -/
def OrderLife.PlacedBy (o : OrderLife) (t : Nat) : Prop := ∃ p ∈ o.placedAt, p ≤ t

/-- The order had been closed at the instant `t`. -/
def OrderLife.ClosedBy (o : OrderLife) (t : Nat) : Prop := ∃ c ∈ o.closedAt, c ≤ t

/-- Where the order stands at the instant `t`. -/
def OrderLife.Stands (o : OrderLife) (t : Nat) : LifecyclePosition → Prop
  | .opened => o.PlacedBy t ∧ ¬ o.ClosedBy t
  | .closed => o.ClosedBy t

/-- Placement and closing are for good. -/
theorem OrderLife.ClosedBy.mono {o : OrderLife} {t t' : Nat} (h : o.ClosedBy t) (hle : t ≤ t') : o.ClosedBy t' := by
  obtain ⟨c, hc, hct⟩ := h
  exact ⟨c, hc, le_trans hct hle⟩

theorem OrderLife.PlacedBy.mono {o : OrderLife} {t t' : Nat} (h : o.PlacedBy t) (hle : t ≤ t') : o.PlacedBy t' := by
  obtain ⟨p, hp, hpt⟩ := h
  exact ⟨p, hp, le_trans hpt hle⟩

/-- A result value that tells the truth about the order at the instant `t`: its wrapper is an object
that holds the order's row and no other if the order stands there, and no row if it does not. -/
def Faithful (o : OrderLife) (t : Nat) (leg : LifecyclePosition) (result : Json) : Prop :=
  ∃ fields, result.get? leg.wrapper = some (.obj fields) ∧
    (o.Stands t leg → fields.map Prod.fst = [o.txid]) ∧ (¬ o.Stands t leg → fields = [])

/-- A faithful answer about an order that stands there is found. -/
theorem Faithful.found {o : OrderLife} {t : Nat} {leg : LifecyclePosition} {result : Json}
    (h : Faithful o t leg result) (hs : o.Stands t leg) :
    ∃ status, firstOrderInMap result leg.wrapper = some (o.txid, status) := by
  obtain ⟨fields, hget, hin, -⟩ := h
  obtain ⟨⟨txid, row⟩, hfields, htxid⟩ := List.map_eq_singleton_iff.mp (hin hs)
  subst hfields
  obtain rfl : txid = o.txid := htxid
  exact firstOrderInMap_cons hget o.txid_ne

theorem Faithful.notFound {o : OrderLife} {t : Nat} {leg : LifecyclePosition} {result : Json}
    (h : Faithful o t leg result) (hs : ¬ o.Stands t leg) : firstOrderInMap result leg.wrapper = none := by
  obtain ⟨fields, hget, -, hout⟩ := h
  rw [hout hs] at hget
  simp only [firstOrderInMap, hget, Option.bind_some, Json.asObject?]

/-- One walk and the life of the order while it runs. -/
structure Walk extends Legs where
  order : OrderLife
  /-- The instants at which the walk starts and at which each endpoint reads its book. -/
  startedAt : Nat
  openReadAt : Nat
  closedReadAt : Nat
  started_le : startedAt ≤ openReadAt
  reads_in_order : openReadAt ≤ closedReadAt

/-- What the walk returns. -/
def Walk.outcome (w : Walk) : Option (Except (String × RestError) ReconciliationOutcome) :=
  walkReconciliation w.toLegs

/-! ## Soundness -/

/-- (a) `NotPlaced` is answered for two empty wrappers only. -/
def Walk.NotPlacedSound (w : Walk) : Prop :=
  w.outcome = some (.ok .notPlaced) →
    ∃ opened closed, w.openResult = some (.ok opened) ∧ w.closedResult = some (.ok closed) ∧
      EmptyWrapper opened "open" ∧ EmptyWrapper closed "closed"

/-- (b) A faithful walk that began after the placement finds the order. The ClosedOrders answer
counts only where the walk asks for it. -/
def Walk.FindsPlaced (w : Walk) : Prop :=
  ∀ opened, w.openResult = some (.ok opened) → Faithful w.order w.openReadAt .opened opened →
    (firstOrderInMap opened "open" = none →
      ∃ closed, w.closedResult = some (.ok closed) ∧ Faithful w.order w.closedReadAt .closed closed) →
    w.order.PlacedBy w.startedAt →
    ∃ status lifecycle, w.outcome = some (.ok (.found w.order.txid status lifecycle))

/-- The answer of a leg. -/
def Walk.result (w : Walk) : LifecyclePosition → Option (Except RestError Json)
  | .opened => w.openResult
  | .closed => w.closedResult

/-- (c) A txid that is found is a key of the wrapper it is attributed to. -/
def Walk.FoundIsKey (w : Walk) : Prop :=
  ∀ txid status lifecycle, w.outcome = some (.ok (.found txid status lifecycle)) →
    ∃ result fields, w.result lifecycle = some (.ok result) ∧
      result.get? lifecycle.wrapper = some (.obj fields) ∧ txid ∈ fields.map Prod.fst

/-- The three together. -/
structure Walk.Sound (w : Walk) : Prop where
  notPlaced : w.NotPlacedSound
  findsPlaced : w.FindsPlaced
  foundIsKey : w.FoundIsKey

/-- How an outcome comes about. -/
theorem walkReconciliation_cases {l : Legs} {outcome : ReconciliationOutcome}
    (h : walkReconciliation l = some (.ok outcome)) :
    ∃ opened, l.openResult = some (.ok opened) ∧
      ((∃ txid status, firstOrderInMap opened "open" = some (txid, status) ∧
          outcome = .found txid status .opened) ∨
       (firstOrderInMap opened "open" = none ∧ ∃ closed, l.closedResult = some (.ok closed) ∧
          ((∃ txid status, firstOrderInMap closed "closed" = some (txid, status) ∧
              outcome = .found txid status .closed) ∨
           (firstOrderInMap closed "closed" = none ∧ outcome = .notPlaced)))) := by
  unfold walkReconciliation at h
  split at h
  · cases h
  · cases h
  · rename_i opened hopened
    refine ⟨opened, hopened, ?_⟩
    split at h
    · rename_i found hfound
      cases h
      exact Or.inl ⟨_, _, hfound, rfl⟩
    · rename_i hnone
      refine Or.inr ⟨hnone, ?_⟩
      split at h
      · cases h
      · cases h
      · rename_i closed hclosed
        refine ⟨closed, hclosed, ?_⟩
        split at h
        · rename_i found hfound
          cases h
          exact Or.inl ⟨_, _, hfound, rfl⟩
        · rename_i hnone'
          cases h
          exact Or.inr ⟨hnone', rfl⟩

theorem walkReconciliation_notPlaced {l : Legs} {opened closed : Json} (hopened : l.openResult = some (.ok opened))
    (hclosed : l.closedResult = some (.ok closed)) (ho : firstOrderInMap opened "open" = none)
    (hc : firstOrderInMap closed "closed" = none) : walkReconciliation l = some (.ok .notPlaced) := by
  simp only [walkReconciliation, hopened, ho, hclosed, hc]

/-- (b) holds of every walk: an order that closes between the two reads is read at its new place,
because ClosedOrders is the second one. -/
theorem Walk.findsPlaced (w : Walk) : w.FindsPlaced := by
  intro opened hopened hfaithful hclosed hplaced
  have hplacedOpen : w.order.PlacedBy w.openReadAt := hplaced.mono w.started_le
  by_cases hc : w.order.ClosedBy w.openReadAt
  · -- already closed at the first read, hence at the second
    have hnone : firstOrderInMap opened "open" = none := hfaithful.notFound (fun h => h.2 hc)
    obtain ⟨closed, hcl, hfaithful'⟩ := hclosed hnone
    obtain ⟨status, hfound⟩ := hfaithful'.found (hc.mono w.reads_in_order)
    rw [LifecyclePosition.wrapper] at hfound
    refine ⟨status, .closed, ?_⟩
    simp only [Walk.outcome, walkReconciliation, hopened, hnone, hcl, hfound]
  · obtain ⟨status, hfound⟩ := hfaithful.found ⟨hplacedOpen, hc⟩
    rw [LifecyclePosition.wrapper] at hfound
    refine ⟨status, .opened, ?_⟩
    simp only [Walk.outcome, walkReconciliation, hopened, hfound]

theorem firstOrderInMap_key {result : Json} {wrapper txid : String} {status : OrderStatus}
    (h : firstOrderInMap result wrapper = some (txid, status)) :
    ∃ fields, result.get? wrapper = some (.obj fields) ∧ txid ∈ fields.map Prod.fst := by
  obtain ⟨-, row, rest, hget⟩ := firstOrderInMap_some h
  exact ⟨_, hget, List.mem_cons_self⟩

/-- (c) holds of every walk. -/
theorem Walk.foundIsKey (w : Walk) : w.FoundIsKey := by
  intro txid status lifecycle h
  obtain ⟨opened, hopened, hcases⟩ := walkReconciliation_cases h
  rcases hcases with ⟨txid', status', hfound, heq⟩ | ⟨-, closed, hclosed, hcases⟩
  · obtain ⟨rfl, rfl, rfl⟩ := ReconciliationOutcome.found.inj heq
    obtain ⟨fields, hget, hmem⟩ := firstOrderInMap_key hfound
    exact ⟨opened, fields, hopened, hget, hmem⟩
  · rcases hcases with ⟨txid', status', hfound, heq⟩ | ⟨-, heq⟩
    · obtain ⟨rfl, rfl, rfl⟩ := ReconciliationOutcome.found.inj heq
      obtain ⟨fields, hget, hmem⟩ := firstOrderInMap_key hfound
      exact ⟨closed, fields, hclosed, hget, hmem⟩
    · cases heq

/-- A malformed answer comes with an order in the other one. -/
def Walk.MalformedHasOther (w : Walk) : Prop :=
  ∀ opened closed, w.openResult = some (.ok opened) → w.closedResult = some (.ok closed) →
    (Malformed opened "open" → HasOrder closed "closed") ∧ (Malformed closed "closed" → HasOrder opened "open")

/-- **A walk is sound exactly if no malformed answer meets one without an order.** -/
theorem Walk.sound_iff (w : Walk) : w.Sound ↔ w.MalformedHasOther := by
  constructor
  · intro hsound opened closed hopened hclosed
    -- were neither read to give an order, the walk would answer `NotPlaced`
    have hempty : firstOrderInMap opened "open" = none → firstOrderInMap closed "closed" = none →
        EmptyWrapper opened "open" ∧ EmptyWrapper closed "closed" := by
      intro ho hc
      obtain ⟨opened', closed', hopened', hclosed', heo, hec⟩ :=
        hsound.notPlaced (walkReconciliation_notPlaced hopened hclosed ho hc)
      obtain rfl : opened = opened' := Except.ok.inj (Option.some.inj (hopened.symm.trans hopened'))
      obtain rfl : closed = closed' := Except.ok.inj (Option.some.inj (hclosed.symm.trans hclosed'))
      exact ⟨heo, hec⟩
    constructor
    · intro hmal
      have ho := malformed_not_hasOrder hmal
      by_contra hno
      rw [hasOrder_iff, Option.not_isSome_iff_eq_none] at hno
      exact (emptyWrapper_iff ho).mp (hempty ho hno).1 hmal
    · intro hmal
      have hc := malformed_not_hasOrder hmal
      by_contra hno
      rw [hasOrder_iff, Option.not_isSome_iff_eq_none] at hno
      exact (emptyWrapper_iff hc).mp (hempty hno hc).2 hmal
  · intro hother
    refine ⟨?_, w.findsPlaced, w.foundIsKey⟩
    intro h
    obtain ⟨opened, hopened, hcases⟩ := walkReconciliation_cases h
    rcases hcases with ⟨_, _, _, heq⟩ | ⟨ho, closed, hclosed, hcases⟩
    · cases heq
    · rcases hcases with ⟨_, _, _, heq⟩ | ⟨hc, -⟩
      · cases heq
      · obtain ⟨hmalo, hmalc⟩ := hother opened closed hopened hclosed
        rw [hasOrder_iff, hc] at hmalo
        rw [hasOrder_iff, ho] at hmalc
        exact ⟨opened, closed, hopened, hclosed, (emptyWrapper_iff ho).mpr fun h => absurd (hmalo h) nofun,
          (emptyWrapper_iff hc).mpr fun h => absurd (hmalc h) nofun⟩

/-- A leg answered at the first attempt. -/
def answeredLeg (body : Json) : List Attempt :=
  [{ headroom := true, sign := .ok (), send := .responded 200 (.ok body) }]

/-- Both endpoints answer `{"error":[],"result":{}}`: no wrapper at all, and the walk says that the
order was never placed. -/
theorem notPlaced_without_wrapper :
    ¬ ∀ w : Walk, w.Sound := by
  intro h
  let body : Json := .obj [("error", .arr []), ("result", .obj [])]
  let w : Walk := {
    openId := "a", closedId := "b", openLeg := answeredLeg body, closedLeg := answeredLeg body,
    defaultMaxAttempts := 3
    order := { txid := "T", txid_ne := by decide, placedAt := some 0, closedAt := none, placed_le_closed := nofun }
    startedAt := 1, openReadAt := 2, closedReadAt := 3, started_le := by decide, reads_in_order := by decide }
  obtain ⟨opened, closed, hopened, -, hempty, -⟩ := (h w).notPlaced rfl
  have hresult : w.openResult = some (.ok (.obj [])) := rfl
  obtain rfl := Except.ok.inj (Option.some.inj (hopened.symm.trans hresult))
  cases hempty

end KrakenSdk.Rest
