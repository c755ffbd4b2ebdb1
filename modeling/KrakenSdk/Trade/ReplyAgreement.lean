import KrakenSdk.Trade.Replies
/-!
# The decoders of the two transports (ws_compose.rs:463-544, executors.rs:352-367, 566-570, 622-634)

REST reads a reply into a struct, WS takes the fields it wants from the value. `decoders_agree_iff` says for which
replies of an amend, a `cancel_all` and a `cancel_all_orders_after` what WS accepts is what REST reads.
-/
namespace KrakenSdk.Trade

open KrakenSdk.Conn (Json WsResponse)

/-- A reply that succeeded with these fields. -/
def successReply (reqId : Nat) (fields : List (String × Json)) : WsResponse :=
  { reqId, success := true, result := .obj fields, error := none }

/-- The name REST has for a field; WS also takes the names with an underscore. -/
def restName (name : String) : String :=
  if name = "current_time" then "currentTime" else if name = "trigger_time" then "triggerTime" else name

/-- The same fields under the names of REST. -/
def restSpelling (fields : List (String × Json)) : List (String × Json) :=
  fields.map fun field => (restName field.1, field.2)

/-- No field is there under both names. -/
def OneSpelling (fields : List (String × Json)) : Prop :=
  ((Json.obj fields).get? "currentTime" = none ∨ (Json.obj fields).get? "current_time" = none) ∧
    ((Json.obj fields).get? "triggerTime" = none ∨ (Json.obj fields).get? "trigger_time" = none)

/-- The field under either name. -/
def eitherField (fields : List (String × Json)) (name wsName : String) : Option Json :=
  ((Json.obj fields).get? name).or ((Json.obj fields).get? wsName)

/-! ## Renaming -/

theorem get?_cons (name : String) (field : String × Json) (rest : List (String × Json)) :
    (Json.obj (field :: rest)).get? name = if field.1 = name then some field.2 else (Json.obj rest).get? name := by
  by_cases h : field.1 = name
  · simp [Json.get?, h]
  · simp [Json.get?, h]

/-- A name that no other is renamed to keeps its field. -/
theorem get?_restSpelling_of_only {name : String} (hname : ∀ k, restName k = name ↔ k = name)
    (fields : List (String × Json)) :
    (Json.obj (restSpelling fields)).get? name = (Json.obj fields).get? name := by
  induction fields with
  | nil => rfl
  | cons field rest ih =>
    rw [restSpelling, List.map_cons, get?_cons, get?_cons, ← restSpelling, ih]
    simp only [hname]

/-- A name with a second one has the field of whichever is there. -/
theorem get?_restSpelling {name wsName : String} (hname : ∀ k, restName k = name ↔ k = name ∨ k = wsName)
    {fields : List (String × Json)}
    (hone : (Json.obj fields).get? name = none ∨ (Json.obj fields).get? wsName = none) :
    (Json.obj (restSpelling fields)).get? name = eitherField fields name wsName := by
  unfold eitherField
  induction fields with
  | nil => rfl
  | cons field rest ih =>
    rw [restSpelling, List.map_cons, get?_cons, ← restSpelling]
    simp only [hname, get?_cons] at *
    by_cases h1 : field.1 = name
    · rw [if_pos (.inl h1), if_pos h1]
      rfl
    · by_cases h2 : field.1 = wsName
      · have habsent : (Json.obj rest).get? name = none := by
          rcases hone with h | h
          · rwa [if_neg h1] at h
          · rw [if_pos h2] at h
            cases h
        rw [if_pos (.inr h2), if_neg h1, if_pos h2, habsent]
        rfl
      · rw [if_neg h1, if_neg h2] at *
        rw [if_neg (by rintro (h | h); exacts [h1 h, h2 h])]
        exact ih hone

theorem restName_eq_current (k : String) : restName k = "currentTime" ↔ k = "currentTime" ∨ k = "current_time" := by
  unfold restName
  split_ifs <;> simp_all

theorem restName_eq_trigger (k : String) : restName k = "triggerTime" ↔ k = "triggerTime" ∨ k = "trigger_time" := by
  unfold restName
  split_ifs <;> simp_all

theorem restName_eq_amendId (k : String) : restName k = "amend_id" ↔ k = "amend_id" := by
  unfold restName
  split_ifs <;> simp_all

theorem restName_eq_count (k : String) : restName k = "count" ↔ k = "count" := by
  unfold restName
  split_ifs <;> simp_all

/-! ## Agreement -/

/-- The replies that both transports decode into one type. -/
inductive ReplyOp where
  | amendOrder | cancelAll | cancelAllOrdersAfter
  deriving DecidableEq, Repr

/-- The switch is off in the reply itself. -/
def Disarmed (fields : List (String × Json)) : Prop :=
  ∀ v, eitherField fields "triggerTime" "trigger_time" = some v → v = .str "" ∨ v = .str "0"

/-- What WS accepts of a successful reply REST reads as the same value; a count is the one in the reply, and a switch
that is reported disarmed is off in the reply. -/
def Agrees (serde : String) (reqId : Nat) (fields : List (String × Json)) : ReplyOp → Prop
  | .amendOrder => ∀ v, decodeWsAmendOrder (successReply reqId fields) = .ok v →
      decodeAmendOrder serde (.obj (restSpelling fields)) = .ok v
  | .cancelAll => ∀ v, decodeWsCancelAll (successReply reqId fields) = .ok v →
      decodeCancelAll serde (.obj (restSpelling fields)) = .ok v ∧
        ((Json.obj fields).get? "count").bind Json.asU64? = some v.count
  | .cancelAllOrdersAfter => ∀ v, decodeWsDeadman (successReply reqId fields) = .ok v →
      decodeDeadman serde (.obj (restSpelling fields)) = .ok v ∧ (v.triggerTime = none → Disarmed fields)

/-- The replies whose fields are as REST wants them: a count that fits, a current time, and a trigger time that is a
string if it is there. -/
def AsRestWants (fields : List (String × Json)) : ReplyOp → Prop
  | .amendOrder => True
  | .cancelAll => ∀ n, ((Json.obj fields).get? "count").bind Json.asU64? = some n → n < 2 ^ 32
  | .cancelAllOrdersAfter =>
    (∃ s, eitherField fields "currentTime" "current_time" = some (.str s)) ∧
      ∀ v, eitherField fields "triggerTime" "trigger_time" = some v → ∃ s, v = .str s

theorem agrees_amendOrder (serde : String) (reqId : Nat) (fields : List (String × Json)) :
    Agrees serde reqId fields .amendOrder := by
  intro v hv
  have hname := get?_restSpelling_of_only restName_eq_amendId fields
  unfold decodeWsAmendOrder idField at hv
  unfold decodeAmendOrder
  simp only [successReply, structFields, Option.bind_some, hname, strField] at hv ⊢
  cases hfield : ((Json.obj fields).get? "amend_id").bind Json.asStr? with
  | none => rw [hfield] at hv; cases hv
  | some amendId =>
    rw [hfield] at hv
    by_cases hempty : amendId.isEmpty = true
    · simp [nonEmpty, hempty] at hv
    · simpa [nonEmpty, hempty] using hv

theorem agrees_cancelAll_iff (serde : String) (reqId : Nat) (fields : List (String × Json)) :
    Agrees serde reqId fields .cancelAll ↔ AsRestWants fields .cancelAll := by
  have hname := get?_restSpelling_of_only restName_eq_count fields
  simp only [Agrees, AsRestWants, decodeWsCancelAll, decodeCancelAll, successReply, structFields, Option.bind_some,
    hname, u32Field]
  cases hcount : ((Json.obj fields).get? "count").bind Json.asU64? with
  | none => simp
  | some n =>
    by_cases hfits : n < 2 ^ 32
    · rw [show (some n).filter (fun k => decide (k < 2 ^ 32)) = some n from if_pos (decide_eq_true hfits)]
      constructor
      · rintro - m ⟨⟩
        exact hfits
      · rintro - v ⟨⟩
        rw [Nat.mod_eq_of_lt hfits]
        exact ⟨rfl, rfl⟩
    · rw [show (some n).filter (fun k => decide (k < 2 ^ 32)) = none from if_neg (by rwa [decide_eq_true_eq])]
      constructor
      · intro h
        obtain ⟨hrest, -⟩ := h _ rfl
        cases hrest
      · intro h
        exact absurd (h n rfl) hfits

/-- What WS reads of the two times; it never fails. -/
theorem decodeWsDeadman_success (reqId : Nat) (fields : List (String × Json)) :
    decodeWsDeadman (successReply reqId fields) = .ok {
      currentTime := ((eitherField fields "currentTime" "current_time").bind Json.asStr?).getD ""
      triggerTime := armedAt (((eitherField fields "triggerTime" "trigger_time").bind Json.asStr?).getD "") } := rfl

/-- REST reads the two times if both can be read. -/
theorem decodeDeadman_ok_iff (serde : String) {fields : List (String × Json)} (hone : OneSpelling fields)
    (v : DeadmanResponse) :
    decodeDeadman serde (.obj (restSpelling fields)) = .ok v ↔
      ∃ triggerTime, strField (eitherField fields "currentTime" "current_time") = some v.currentTime ∧
        strFieldOrDefault (eitherField fields "triggerTime" "trigger_time") = some triggerTime ∧
        v.triggerTime = armedAt triggerTime := by
  have hcurrent := get?_restSpelling restName_eq_current hone.1
  have htrigger := get?_restSpelling restName_eq_trigger hone.2
  unfold decodeDeadman
  simp only [structFields, Option.bind_eq_bind, Option.bind_some, hcurrent, htrigger]
  cases strField (eitherField fields "currentTime" "current_time") with
  | none => simp
  | some currentTime =>
    cases strFieldOrDefault (eitherField fields "triggerTime" "trigger_time") with
    | none => simp
    | some triggerTime =>
      obtain ⟨c, t⟩ := v
      simp [DeadmanResponse.mk.injEq, eq_comm]

theorem agrees_cancelAllOrdersAfter_iff (serde : String) (reqId : Nat) {fields : List (String × Json)}
    (hone : OneSpelling fields) :
    Agrees serde reqId fields .cancelAllOrdersAfter ↔ AsRestWants fields .cancelAllOrdersAfter := by
  simp only [Agrees, AsRestWants, decodeWsDeadman_success, decodeDeadman_ok_iff serde hone, Disarmed]
  generalize eitherField fields "currentTime" "current_time" = current
  generalize eitherField fields "triggerTime" "trigger_time" = trigger
  constructor
  · intro h
    obtain ⟨⟨triggerTime, hcurrent, htrigger, -⟩, -⟩ := h _ rfl
    constructor
    · obtain ⟨j, rfl, hj⟩ := Option.bind_eq_some_iff.mp hcurrent
      cases j <;> cases hj
      exact ⟨_, rfl⟩
    · rintro j rfl
      cases j <;> cases htrigger
      exact ⟨_, rfl⟩
  · rintro ⟨⟨s, rfl⟩, htrigger⟩ v ⟨⟩
    cases trigger with
    | none => exact ⟨⟨"", rfl, rfl, rfl⟩, fun _ w hw => by cases hw⟩
    | some j =>
      obtain ⟨t, rfl⟩ := htrigger j rfl
      refine ⟨⟨t, rfl, rfl, rfl⟩, ?_⟩
      rintro hnone w ⟨⟩
      by_cases ht : t = "" ∨ t = "0"
      · rcases ht with rfl | rfl
        · exact .inl rfl
        · exact .inr rfl
      · exact absurd hnone (by simp [Json.asStr?, armedAt, ht])

/-- **WS and REST agree exactly on the replies that are as REST wants them.** -/
theorem decoders_agree_iff (serde : String) (reqId : Nat) (fields : List (String × Json)) (hone : OneSpelling fields)
    (op : ReplyOp) : Agrees serde reqId fields op ↔ AsRestWants fields op := by
  cases op with
  | amendOrder => exact ⟨fun _ => trivial, fun _ => agrees_amendOrder serde reqId fields⟩
  | cancelAll => exact agrees_cancelAll_iff serde reqId fields
  | cancelAllOrdersAfter => exact agrees_cancelAllOrdersAfter_iff serde reqId hone

/-- A count that does not fit is cut to zero, and a switch armed at a time that is no string reads as disarmed. -/
theorem decoders_disagree :
    decodeWsCancelAll (successReply 1 [("count", .num "4294967296")]) = .ok { count := 0 } ∧
    decodeWsDeadman (successReply 2
      [("currentTime", .str "2024-01-01T00:00:00Z"), ("triggerTime", .num "1704067260")]) =
        .ok { currentTime := "2024-01-01T00:00:00Z", triggerTime := none } ∧
    ¬ ∀ (serde : String) (reqId : Nat) (fields : List (String × Json)), OneSpelling fields →
      ∀ op, Agrees serde reqId fields op := by
  have hcount : decodeWsCancelAll (successReply 1 [("count", .num "4294967296")]) = .ok { count := 0 } := by
    decide +kernel
  refine ⟨hcount, by decide +kernel, fun hall => ?_⟩
  have hone : OneSpelling [("count", .num "4294967296")] := ⟨.inl rfl, .inl rfl⟩
  have hwant := ((hall "" 1 _ hone .cancelAll) _ hcount).2
  have hread : ((Json.obj [("count", .num "4294967296")]).get? "count").bind Json.asU64? = some 4294967296 := by
    decide +kernel
  rw [hread] at hwant
  cases hwant

theorem decoders_agree_iff_underscores :
    Agrees "" 3 [("current_time", .str "2024-01-01T00:00:00Z"), ("trigger_time", .str "0")] .cancelAllOrdersAfter ↔
      AsRestWants [("current_time", .str "2024-01-01T00:00:00Z"), ("trigger_time", .str "0")] .cancelAllOrdersAfter :=
  decoders_agree_iff "" 3 _ ⟨.inl rfl, .inl rfl⟩ .cancelAllOrdersAfter

end KrakenSdk.Trade
