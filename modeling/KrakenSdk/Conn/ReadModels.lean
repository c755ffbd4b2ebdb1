import KrakenSdk.Conn.MirrorRows
/-!
# Read models of the subscriptions (api/ws_surface/mod.rs:492-640)

`list_active`, `find_by_channel` and `status_summary` read the mirror on the caller's thread, in whatever order its
iterator gives the rows, and lay the state of the connections over them. What they say is compared with the registry
itself: with the slots, with the replay after a reconnect, and with a forced teardown, which are all in the one order
of `subscription_order_key`.

| here | source |
| --- | --- |
| `projectedState` | `SubscriptionRegistry::project_state` |
| `MirrorRead` | what a call finds: the flags of the bus, `conn_failed_sample`, the mirror under its lock |
| `MirrorRead.listActive`, `findByChannel`, `statusSummary` | the functions of these names |

`readModels_agree`: after every sequence of operations by callers that subscribe as the namespaces do, the three are
views of one list, and that list is the registry's.
-/
namespace KrakenSdk.Conn

open KrakenSdk.Book (Decimal)
open StepSystem

/-! ## What a caller sees -/

/-- `SubscribeFailureCause` (api/subscription_types.rs:93). -/
inductive SubscribeFailureCause where
  | subscribeAckBudgetExhausted
  | nonTransientWireRejection (code message : String)
  | capabilityRevoked | clientClosed | connectionFailed | authHandshakeFailed
  deriving DecidableEq, Repr

/-- `SubscriptionState` (api/subscription_types.rs:81). -/
inductive SubscriptionState where
  | active | pending
  | failed (cause : SubscribeFailureCause)
  deriving DecidableEq, Repr

namespace SubscriptionState

/-- `matches!(state, SubscriptionState::Failed(_))`. -/
def isFailed : SubscriptionState → Bool
  | .failed _ => true
  | _ => false

end SubscriptionState

/-- `project_state` (subscription_registry.rs:724). -/
def projectedState : EntrySubState → SubscriptionState
  | .pending => .pending
  | .acked => .active
  | .terminated cause lastError =>
    .failed <| match cause with
      | .subscribeAckBudgetExhausted => .subscribeAckBudgetExhausted
      | .nonTransientWireRejection => .nonTransientWireRejection (lastError.getD "") (lastError.getD "")
      | .capabilityRevoked => .capabilityRevoked
      | .clientClosed => .clientClosed

/-- `ws_url_for` (ws_surface/mod.rs:643). -/
def wsUrlFor : ChannelName → WsUrl
  | .executions | .balances => .authUrl
  | _ => .publicUrl

/-- `project_with_connection` (ws_surface/mod.rs:602). -/
def projectWithConnection (connFailed : Bool × Bool) (channel : ChannelName) (state : SubscriptionState) :
    SubscriptionState :=
  if state.isFailed then state
  else if (match wsUrlFor channel with | .publicUrl => connFailed.1 | .authUrl => connFailed.2) then
    .failed .connectionFailed
  else state

/-- The connection is failed for good; without a supervisor none is. -/
def connFailedAt (supervisor : Option (WsUrl → ConnectionState)) (url : WsUrl) : Bool :=
  supervisor.any fun currentState => currentState url = .failed

/-- `conn_failed_sample` (ws_surface/mod.rs:623). -/
def connFailedSample (supervisor : Option (WsUrl → ConnectionState)) : Bool × Bool :=
  (connFailedAt supervisor .publicUrl, connFailedAt supervisor .authUrl)

/-- The errors of `SubscriptionError` that a read can end in (api/subscription_types.rs:12). -/
inductive ReadError where
  | clientClosed | loopDead
  deriving DecidableEq, Repr

/-- `SubscriptionInfo` (api/subscription_types.rs:118). -/
structure SubscriptionInfo where
  channel : ChannelName
  pair : Option Symbol
  state : SubscriptionState
  deriving DecidableEq, Repr

/-- The key of a row. -/
def SubscriptionInfo.key (info : SubscriptionInfo) : EntryKey := (info.channel, info.pair)

/-- `SubscriptionRef` (api/subscription_types.rs:131). -/
structure SubscriptionRef where
  channel : ChannelName
  symbol : Option Symbol
  state : SubscriptionState
  registeredAtMonotonic : Nat
  deriving DecidableEq, Repr

/-- A `SubscriptionRef` less its instant. -/
def SubscriptionRef.info (ref : SubscriptionRef) : SubscriptionInfo := ⟨ref.channel, ref.symbol, ref.state⟩

/-- `SubscriptionsSummary` (api/subscription_types.rs:145), its counts `u32`. -/
structure SubscriptionsSummary where
  total : Nat := 0
  active : Nat := 0
  pending : Nat := 0
  failed : Nat := 0
  byChannel : HashMap ChannelName Nat := ∅

namespace SubscriptionsSummary

/-- One row more (ws_surface/mod.rs:577-589). -/
def count (s : SubscriptionsSummary) (info : SubscriptionInfo) : SubscriptionsSummary :=
  let s := { s with total := inc32 s.total }
  let s := match info.state with
    | .active => { s with active := inc32 s.active }
    | .pending => { s with pending := inc32 s.pending }
    | .failed _ => { s with failed := inc32 s.failed }
  { s with byChannel := s.byChannel.insert info.channel (inc32 ((s.byChannel.lookup info.channel).getD 0)) }

end SubscriptionsSummary

/-- The rows of a mirror. -/
abbrev MirrorRows := List (Σ _ : EntryKey, MirrorRow)

/-- What a call of a read model finds. The iterator gives the rows of the mirror in any order. -/
structure MirrorRead (r : SubscriptionRegistry) where
  loopFailed : Bool
  shuttingDown : Bool
  supervisor : Option (WsUrl → ConnectionState)
  rows : MirrorRows
  perm : rows.Perm r.mirror.entries

namespace MirrorRead

variable {r : SubscriptionRegistry} (c : MirrorRead r)

/-- `read_model_mirror` (ws_surface/mod.rs:497). -/
def readModelMirror : Except ReadError MirrorRows :=
  if c.loopFailed then .error .loopDead
  else if c.shuttingDown then .error .clientClosed
  else if r.mirrorPoisoned then .error .loopDead
  else .ok c.rows

/-- What a row of the mirror is shown as. -/
def shown (row : Σ _ : EntryKey, MirrorRow) : SubscriptionInfo where
  channel := row.1.1
  pair := row.1.2
  state := projectWithConnection (connFailedSample c.supervisor) row.1.1 (projectedState row.2.state)

/-- `list_active` (ws_surface/mod.rs:509). -/
def listActive : Except ReadError (List SubscriptionInfo) := do
  let mirror ← c.readModelMirror
  return (mirror.map c.shown).mergeSort fun a b => orderKeyLe (a.channel, a.pair) (b.channel, b.pair)

/-- `find_by_channel` (ws_surface/mod.rs:533). -/
def findByChannel (channel : ChannelName) : Except ReadError (List SubscriptionRef) := do
  let wire := channel.wireChannel
  let mirror ← c.readModelMirror
  let refs := (mirror.filter fun row => row.1.1 = wire).map fun row =>
    { channel := row.1.1
      symbol := row.1.2
      state := projectWithConnection (connFailedSample c.supervisor) row.1.1 (projectedState row.2.state)
      registeredAtMonotonic := row.2.registeredAt / 1000000 % 2 ^ 64 : SubscriptionRef }
  return refs.mergeSort fun a b => orderKeyLe (a.channel, a.symbol) (b.channel, b.symbol)

/-- `status_summary` (ws_surface/mod.rs:566). -/
def statusSummary : Except ReadError SubscriptionsSummary := do
  let mirror ← c.readModelMirror
  return mirror.foldl (fun summary row => summary.count (c.shown row)) {}

end MirrorRead

/-! ## The replay order

`Book` and `BookRaw` share a wire name, so the order tells keys apart only if they are of wire channels. -/

/-- `subscription_order_key` compared. -/
def orderKeyCmp : EntryKey → EntryKey → Ordering :=
  compareLex (compareOn fun key => key.2.isSome)
    (compareLex (compareOn fun key => key.1.wireName) (compareOn fun key => key.2))

theorem orderKeyLe_eq (a b : EntryKey) : orderKeyLe a b = (orderKeyCmp a b).isLE := rfl

instance : Std.TransCmp orderKeyCmp := inferInstanceAs (Std.TransCmp (compareLex _ (compareLex _ _)))

theorem orderKeyLe_trans (a b c : EntryKey) (hab : orderKeyLe a b = true) (hbc : orderKeyLe b c = true) :
    orderKeyLe a c = true := by
  rw [orderKeyLe_eq] at *
  exact Std.TransCmp.isLE_trans hab hbc

theorem orderKeyCmp_swap (a b : EntryKey) : orderKeyCmp b a = (orderKeyCmp a b).swap :=
  Std.OrientedCmp.eq_swap

theorem orderKeyLe_total (a b : EntryKey) : (orderKeyLe a b || orderKeyLe b a) = true := by
  rw [orderKeyLe_eq, orderKeyLe_eq, orderKeyCmp_swap a b]
  cases orderKeyCmp a b <;> rfl

/-- The key is of a channel that the wire knows. -/
def WireKey (key : EntryKey) : Prop := key.1.wireChannel = key.1

theorem wireName_inj {a b : ChannelName} (ha : a.wireChannel = a) (hb : b.wireChannel = b)
    (h : a.wireName = b.wireName) : a = b := by
  cases a <;> cases b <;> simp_all [ChannelName.wireChannel, ChannelName.wireName]

theorem orderKeyLe_antisymm {a b : EntryKey} (ha : WireKey a) (hb : WireKey b) (hab : orderKeyLe a b = true)
    (hba : orderKeyLe b a = true) : a = b := by
  have heq : orderKeyCmp a b = .eq := by
    rw [orderKeyLe_eq, orderKeyCmp_swap a b] at hba
    rw [orderKeyLe_eq] at hab
    cases h : orderKeyCmp a b <;> simp_all
  simp only [orderKeyCmp, compareLex_eq_eq, compareOn, Std.LawfulEqCmp.compare_eq_iff_eq] at heq
  exact Prod.ext (wireName_inj ha hb heq.2.1) heq.2.2

/-- Sorting what is told apart by wire keys gives the one sorted list of it, whatever the order before. -/
theorem mergeSort_orderKey {α : Type} (key : α → EntryKey) {l l' : List α} (hperm : l.Perm l')
    (hsorted : l'.Pairwise fun a b => orderKeyLe (key a) (key b) = true) (hwire : ∀ a ∈ l', WireKey (key a))
    (hone : ∀ a ∈ l', ∀ b ∈ l', key a = key b → a = b) :
    l.mergeSort (fun a b => orderKeyLe (key a) (key b)) = l' := by
  have hmem : ∀ a, a ∈ l.mergeSort (fun a b => orderKeyLe (key a) (key b)) ↔ a ∈ l' :=
    fun a => ((List.mergeSort_perm ..).trans hperm).mem_iff
  refine List.Perm.eq_of_pairwise (fun a b ha hb hab hba => ?_) (List.pairwise_mergeSort ?_ ?_ l) hsorted
    ((List.mergeSort_perm ..).trans hperm)
  · have ha' := (hmem a).1 ha
    exact hone a ha' b hb (orderKeyLe_antisymm (hwire a ha') (hwire b hb) hab hba)
  · exact fun a b c => orderKeyLe_trans (key a) (key b) (key c)
  · exact fun a b => orderKeyLe_total (key a) (key b)

/-! ## Counting -/

/-- The summary counts the rows, each count modulo its width. -/
structure Summarizes (s : SubscriptionsSummary) (rows : List SubscriptionInfo) : Prop where
  total : s.total = rows.length % 2 ^ 32
  active : s.active = rows.countP (·.state = .active) % 2 ^ 32
  pending : s.pending = rows.countP (·.state = .pending) % 2 ^ 32
  failed : s.failed = rows.countP (·.state.isFailed) % 2 ^ 32
  byChannel : ∀ channel, s.byChannel.lookup channel =
    if ∃ info ∈ rows, info.channel = channel then some (rows.countP (·.channel = channel) % 2 ^ 32) else none

theorem inc32_mod (n : Nat) : inc32 (n % 4294967296) = (n + 1) % 4294967296 := by
  unfold inc32
  omega

theorem Summarizes.perm {s : SubscriptionsSummary} {rows rows' : List SubscriptionInfo} (h : Summarizes s rows)
    (hperm : rows.Perm rows') : Summarizes s rows' where
  total := by rw [h.total, hperm.length_eq]
  active := by rw [h.active, hperm.countP_eq]
  pending := by rw [h.pending, hperm.countP_eq]
  failed := by rw [h.failed, hperm.countP_eq]
  byChannel channel := by
    rw [h.byChannel, hperm.countP_eq]
    simp only [hperm.mem_iff]

theorem summarizes_count {s : SubscriptionsSummary} {rows : List SubscriptionInfo} (h : Summarizes s rows)
    (info : SubscriptionInfo) : Summarizes (s.count info) (rows ++ [info]) where
  total := by
    cases hstate : info.state <;>
      simp [SubscriptionsSummary.count, hstate, h.total, inc32_mod]
  active := by
    cases hstate : info.state <;>
      simp [SubscriptionsSummary.count, hstate, h.active, inc32_mod, List.countP_append]
  pending := by
    cases hstate : info.state <;>
      simp [SubscriptionsSummary.count, hstate, h.pending, inc32_mod, List.countP_append]
  failed := by
    cases hstate : info.state <;>
      simp [SubscriptionsSummary.count, hstate, h.failed, inc32_mod, List.countP_append, SubscriptionState.isFailed]
  byChannel channel := by
    have hmap : (s.count info).byChannel =
        s.byChannel.insert info.channel (inc32 ((s.byChannel.lookup info.channel).getD 0)) := by
      cases hstate : info.state <;> simp [SubscriptionsSummary.count, hstate]
    rw [hmap, HashMap.lookup_insert_ite]
    by_cases hc : channel = info.channel
    · subst hc
      have hex : ∃ row ∈ rows ++ [info], row.channel = info.channel := ⟨info, by simp, rfl⟩
      rw [if_pos rfl, if_pos hex, h.byChannel, List.countP_append]
      by_cases hold : ∃ row ∈ rows, row.channel = info.channel
      · simp [hold, inc32_mod]
      · have hnone : rows.countP (·.channel = info.channel) = 0 := by
          simpa [List.countP_eq_zero] using hold
        simp [hold, hnone, inc32]
    · have hne : ¬ info.channel = channel := fun heq => hc heq.symm
      rw [if_neg hc, h.byChannel, List.countP_append]
      simp [hne, or_and_right, exists_or]

theorem summarizes_foldl (rows : List SubscriptionInfo) : Summarizes (rows.foldl .count {}) rows := by
  induction rows using List.reverseRecOn with
  | nil => exact ⟨rfl, rfl, rfl, rfl, by simp⟩
  | append_singleton rows info ih =>
    rw [List.foldl_append]
    exact summarizes_count ih info

/-- What a caller is shown of an entry. -/
def SubscriptionEntry.shown (connFailed : Bool × Bool) (e : SubscriptionEntry) : SubscriptionInfo where
  channel := e.channel
  pair := e.pair
  state := projectWithConnection connFailed e.channel (projectedState e.state)

/-! ## What callers subscribe -/

namespace SubscriptionRegistry

variable {r r' : SubscriptionRegistry}

/-- A registration is of a wire channel, on the connection of that channel (`subscribe_with_ref`,
ws_surface/mod.rs:384-393, and what the namespaces pass it). -/
def Subscribes (_ : SubscriptionRegistry) (op : (String → Option Decimal) × RegistryOp) : Prop :=
  match op.2 with
  | .register url channel _ _ _ _ => channel.wireChannel = channel ∧ url = wsUrlFor channel
  | _ => True

/-- Every entry is of a wire channel and on its connection. -/
def Routed (r : SubscriptionRegistry) : Prop :=
  ∀ key e, r.entry key = some e → WireKey key ∧ e.url = wsUrlFor key.1

theorem Routed.of_shrinks (h : r.Routed) (hs : Shrinks r r') : r'.Routed := by
  intro key e' he'
  obtain ⟨e, he, hw⟩ := hs key e' he'
  obtain ⟨hwire, hurl⟩ := h key e he
  exact ⟨hwire, hw.url.trans hurl⟩

theorem routed_register (h : r.Routed) {entry : SubscriptionEntry} (hwire : WireKey entry.key)
    (hurl : entry.url = wsUrlFor entry.key.1) (now : MonotonicInstant) (guardBacked : Bool) :
    (r.register entry now guardBacked).1.Routed := by
  intro key e he
  rw [entry_register] at he
  split_ifs at he with hk
  · subst hk
    refine ⟨hwire, ?_⟩
    obtain rfl := Option.some.inj he
    unfold registered
    split
    · exact hurl
    · next e₀ he₀ =>
      have hold := (h _ e₀ he₀).2
      split <;> exact hold
  · exact h key e he

theorem routed_apply (h : r.Routed) (op : (String → Option Decimal) × RegistryOp) (hop : r.Subscribes op) :
    (r.apply op.1 op.2).Routed := by
  obtain ⟨fromStr, op⟩ := op
  cases op with
  | register url channel pair params now guardBacked =>
    exact @routed_register r h (.new url channel pair params) hop.1 hop.2 now guardBacked
  | release key => exact h.of_shrinks (shrinks_releaseInner r key true)
  | recordGuardRef handlerId key =>
    refine h.of_shrinks (.of_entry fun key' => ?_)
    simp only [apply, recordGuardRef]
    split <;> rfl
  | releaseGuardRef handlerId key => exact h.of_shrinks (shrinks_releaseGuardRef r handlerId key)
  | deregister key => exact h.of_shrinks (shrinks_deregister fun _ _ => rfl)
  | deregisterAll channel => exact h.of_shrinks (shrinks_deregisterAll r channel)
  | noteAcked key => exact h.of_shrinks (shrinks_noteAcked r key)
  | noteTerminated key cause lastError => exact h.of_shrinks (shrinks_noteTerminated r key cause lastError)
  | handleUpdate key isSnapshot data => exact h.of_shrinks (shrinks_handleUpdate fromStr r key isSnapshot data)
  | beginBookResync channel pair => exact h.of_shrinks (shrinks_beginBookResync r channel pair)
  | noteReseedTimeout channel pair => exact h.of_shrinks (shrinks_noteReseedTimeout r channel pair)
  | noteSequence channel seq isSnapshot => exact h.of_shrinks (shrinks_noteSequence r channel seq isSnapshot)

/-- What callers that subscribe as the namespaces do make of a registry. -/
abbrev Subscribed (r r' : SubscriptionRegistry) : Prop :=
  Reach (fun r (op : (String → Option Decimal) × RegistryOp) => r.apply op.1 op.2) Subscribes r r'

theorem routed_run (h : Subscribed new r) : r.Routed := by
  refine h.invariant ?_ fun r op hr hop => routed_apply hr op hop
  intro key e he
  obtain ⟨ch, _ | sym⟩ := key <;> exact absurd he (by simp [new, entry, HashMap.lookup₂])

theorem shown_subscribed (h : Subscribed new r) : Shown r :=
  h.invariant shown_new fun _ op hr _ => shown_apply op.1 hr op.2

/-! ## The entries in the replay order -/

theorem sorted_sortByOrderKey (es : List SubscriptionEntry) :
    (sortByOrderKey es).Pairwise fun e e' => orderKeyLe e.key e'.key = true :=
  List.pairwise_mergeSort (fun e e' e'' => orderKeyLe_trans e.key e'.key e''.key)
    (fun e e' => orderKeyLe_total e.key e'.key) es

/-- Some of the entries, sorted, are those of the sorted entries. -/
theorem sortByOrderKey_filter (hkeyed : ∀ key e, r.entry key = some e → e.key = key) (h : r.Routed)
    {es : List SubscriptionEntry} {p : SubscriptionEntry → Bool} (hperm : es.Perm (r.allEntries.filter p)) :
    sortByOrderKey es = (sortByOrderKey r.allEntries).filter p := by
  have hslot : ∀ e ∈ (sortByOrderKey r.allEntries).filter p, r.entry e.key = some e := by
    intro e he
    obtain ⟨key, hkey⟩ := (mem_allEntries r e).1 (mem_sortByOrderKey.1 (List.mem_filter.1 he).1)
    rw [hkeyed key e hkey]
    exact hkey
  refine mergeSort_orderKey SubscriptionEntry.key ?_ ((sorted_sortByOrderKey _).filter p) ?_ ?_
  · exact hperm.trans ((List.mergeSort_perm ..).symm.filter p)
  · exact fun e he => (h e.key e (hslot e he)).1
  · intro e he e' he' hk
    exact Option.some.inj ((hslot e he).symm.trans ((congrArg r.entry hk).trans (hslot e' he')))

theorem nodup_keys_allEntries (hkeyed : ∀ key e, r.entry key = some e → e.key = key) :
    (r.allEntries.map SubscriptionEntry.key).Nodup := by
  rw [allEntries, List.map_append, List.nodup_append]
  have hwide : ∀ ch e, r.channelWide.lookup ch = some e → e.key = (ch, none) :=
    fun ch e he => hkeyed (ch, none) e he
  have hpair : ∀ ch sym e, HashMap.lookup₂ r.entries ch sym = some e → e.key = (ch, some sym) :=
    fun ch sym e he => hkeyed (ch, some sym) e he
  refine ⟨HashMap.nodup_map_values (fun ch ch' heq => (Prod.mk.inj heq).1) hwide, ?_, ?_⟩
  · refine HashMap.nodup_map_values₂ (fun ch sym ch' sym' heq => ?_) hpair
    exact ⟨(Prod.mk.inj heq).1, Option.some.inj (Prod.mk.inj heq).2⟩
  · intro key hkey key' hkey' heq
    obtain ⟨e, he, rfl⟩ := List.mem_map.1 hkey
    obtain ⟨e', he', rfl⟩ := List.mem_map.1 hkey'
    obtain ⟨ch, hch⟩ := (HashMap.mem_values_iff ..).1 he
    obtain ⟨ch', sym, hsym⟩ := (HashMap.mem_values₂_iff ..).1 he'
    rw [hwide ch e hch, hpair ch' sym e' hsym] at heq
    simp at heq

theorem nodup_keys_channelEntries (hkeyed : ∀ key e, r.entry key = some e → e.key = key) (ch : ChannelName) :
    ((r.channelEntries ch).map SubscriptionEntry.key).Nodup := by
  rw [channelEntries, List.map_append, List.nodup_append]
  have hpair : ∀ inner, r.entries.lookup ch = some inner → ∀ sym e, inner.lookup sym = some e →
      e.key = (ch, some sym) := by
    intro inner hinner sym e he
    exact hkeyed (ch, some sym) e (by simp only [entry, HashMap.lookup₂, hinner, Option.bind_some, he])
  refine ⟨?_, ?_, ?_⟩
  · cases r.channelWide.lookup ch <;> simp
  · cases hinner : r.entries.lookup ch with
    | none => simp
    | some inner =>
      exact HashMap.nodup_map_values (fun sym sym' heq => Option.some.inj (Prod.mk.inj heq).2) (hpair inner hinner)
  · intro key hkey key' hkey' heq
    obtain ⟨e, he, rfl⟩ := List.mem_map.1 hkey
    obtain ⟨e', he', rfl⟩ := List.mem_map.1 hkey'
    have hwide : e.key = (ch, none) := hkeyed (ch, none) e (Option.mem_toList.1 he)
    cases hinner : r.entries.lookup ch with
    | none => simp [hinner] at he'
    | some inner =>
      obtain ⟨sym, hsym⟩ := (HashMap.mem_values_iff inner e').1 (by simpa [hinner] using he')
      rw [hwide, hpair inner hinner sym e' hsym] at heq
      simp at heq

/-- The mirror has a row for each entry and for nothing else. -/
theorem perm_keys_mirror (h : Shown r) :
    (r.mirror.entries.map Sigma.fst).Perm (r.allEntries.map SubscriptionEntry.key) := by
  have hkeyed : ∀ key e, r.entry key = some e → e.key = key := fun key => (h.slot key).keyed
  refine (List.perm_ext_iff_of_nodup r.mirror.nodupKeys (nodup_keys_allEntries hkeyed)).2 fun key => ?_
  have hrow : key ∈ r.mirror.entries.map Sigma.fst ↔ (r.mirror.lookup key).isSome := AList.lookup_isSome.symm
  have hslot : (r.mirror.lookup key).isSome = (r.entry key).isSome := by
    have := congrArg Option.isSome (h.slot key).mirrored
    simpa using this
  refine hrow.trans ?_
  rw [hslot, List.mem_map]
  constructor
  · intro hsome
    obtain ⟨e, he⟩ := Option.isSome_iff_exists.1 hsome
    exact ⟨e, (mem_allEntries r e).2 ⟨key, he⟩, hkeyed key e he⟩
  · rintro ⟨e, he, rfl⟩
    obtain ⟨key, hkey⟩ := (mem_allEntries r e).1 he
    rw [hkeyed key e hkey, hkey]
    rfl

/-- What is shown of a key. -/
def shownAt (r : SubscriptionRegistry) (connFailed : Bool × Bool) (key : EntryKey) : SubscriptionInfo where
  channel := key.1
  pair := key.2
  state := projectWithConnection connFailed key.1 (((r.entry key).map (projectedState ·.state)).getD .pending)

/-- The rows of the mirror, as shown, are the entries. -/
theorem perm_shown (h : Shown r) (c : MirrorRead r) :
    (c.rows.map c.shown).Perm (r.allEntries.map (SubscriptionEntry.shown (connFailedSample c.supervisor))) := by
  have hkeyed : ∀ key e, r.entry key = some e → e.key = key := fun key => (h.slot key).keyed
  have hrows : c.rows.map c.shown = (c.rows.map Sigma.fst).map (r.shownAt (connFailedSample c.supervisor)) := by
    rw [List.map_map]
    refine List.map_congr_left fun row hrow => ?_
    have hlookup : r.mirror.lookup row.1 = some row.2 := AList.mem_lookup_iff.2 (c.perm.mem_iff.1 hrow)
    have hstate : some row.2.state = (r.entry row.1).map (·.state) := by
      rw [← (h.slot row.1).mirrored, hlookup]
      rfl
    obtain ⟨e, he, hes⟩ := Option.map_eq_some_iff.1 hstate.symm
    simp [MirrorRead.shown, shownAt, he, hes]
  have hentries : r.allEntries.map (SubscriptionEntry.shown (connFailedSample c.supervisor)) =
      (r.allEntries.map SubscriptionEntry.key).map (r.shownAt (connFailedSample c.supervisor)) := by
    rw [List.map_map]
    refine List.map_congr_left fun e he => ?_
    obtain ⟨key, hkey⟩ := (mem_allEntries r e).1 he
    obtain rfl := hkeyed key e hkey
    simp only [Function.comp_apply, SubscriptionEntry.shown, shownAt, hkey, Option.map_some, Option.getD_some]
    rfl
  rw [hrows, hentries]
  exact (((c.perm.map Sigma.fst).trans (perm_keys_mirror h)).map _)

/-! ## The three views -/

theorem readModelMirror_ok (h : Shown r) {c : MirrorRead r} (hopen : c.loopFailed = false)
    (hrun : c.shuttingDown = false) : c.readModelMirror = .ok c.rows := by
  simp [MirrorRead.readModelMirror, hopen, hrun, h.lock]

/-- Whatever is read in, sorted: the shown entries that are picked, in the replay order. -/
theorem mergeSort_shown (h : Shown r) (hr : r.Routed) (connFailed : Bool × Bool) {p : ChannelName → Bool}
    {infos : List SubscriptionInfo}
    (hperm : infos.Perm ((r.allEntries.map (·.shown connFailed)).filter fun info => p info.channel)) :
    infos.mergeSort (fun a b => orderKeyLe a.key b.key) =
      ((sortByOrderKey r.allEntries).map (·.shown connFailed)).filter fun info => p info.channel := by
  have hkeyed : ∀ key e, r.entry key = some e → e.key = key := fun key => (h.slot key).keyed
  have hmem : ∀ info ∈
      ((sortByOrderKey r.allEntries).map (·.shown connFailed)).filter (fun info => p info.channel), ∃ e,
        r.entry info.key = some e ∧ e.shown connFailed = info := by
    intro info hinfo
    obtain ⟨e, he, rfl⟩ := List.mem_map.1 (List.mem_filter.1 hinfo).1
    obtain ⟨key, hkey⟩ := (mem_allEntries r e).1 (mem_sortByOrderKey.1 he)
    exact ⟨e, (congrArg r.entry (hkeyed key e hkey)).trans hkey, rfl⟩
  refine mergeSort_orderKey SubscriptionInfo.key ?_ ?_ ?_ ?_
  · exact hperm.trans (((List.mergeSort_perm ..).symm.map _).filter _)
  · exact (List.pairwise_map.2 (sorted_sortByOrderKey _)).filter _
  · intro info hinfo
    obtain ⟨e, he, -⟩ := hmem info hinfo
    exact (hr _ e he).1
  · intro info hinfo info' hinfo' hk
    obtain ⟨e, he, rfl⟩ := hmem info hinfo
    obtain ⟨e', he', rfl⟩ := hmem info' hinfo'
    rw [hk, he'] at he
    rw [Option.some.inj he]

theorem listActive_eq (h : Shown r) (hr : r.Routed) {c : MirrorRead r} (hopen : c.loopFailed = false)
    (hrun : c.shuttingDown = false) :
    c.listActive = .ok ((sortByOrderKey r.allEntries).map (·.shown (connFailedSample c.supervisor))) := by
  have hsort := mergeSort_shown (p := fun _ => true) h hr (connFailedSample c.supervisor)
    (by simpa using perm_shown h c)
  simp only [List.filter_true] at hsort
  rw [MirrorRead.listActive, readModelMirror_ok h hopen hrun, ← hsort]
  rfl

theorem findByChannel_eq (h : Shown r) (hr : r.Routed) {c : MirrorRead r} (hopen : c.loopFailed = false)
    (hrun : c.shuttingDown = false) (channel : ChannelName) :
    ∃ refs, c.findByChannel channel = .ok refs ∧
      refs.map (·.info) = ((sortByOrderKey r.allEntries).map (·.shown (connFailedSample c.supervisor))).filter
        (fun info => info.channel = channel.wireChannel) ∧
      ∀ ref ∈ refs, ∃ row, r.mirror.lookup (ref.channel, ref.symbol) = some row ∧
        ref.registeredAtMonotonic = row.registeredAt / 1000000 % 2 ^ 64 := by
  refine ⟨_, by rw [MirrorRead.findByChannel, readModelMirror_ok h hopen hrun]; rfl, ?_, ?_⟩
  · refine (List.map_mergeSort (s := fun a b : SubscriptionInfo => orderKeyLe a.key b.key) (f := SubscriptionRef.info)
      fun _ _ _ _ => rfl).trans ?_
    refine mergeSort_shown (p := fun ch => ch = channel.wireChannel) h hr _ ?_
    rw [List.map_map]
    have hfilter := ((perm_shown h c).filter fun info => info.channel = channel.wireChannel)
    rw [List.filter_map] at hfilter
    exact hfilter
  · intro ref href
    obtain ⟨row, hrow, rfl⟩ := List.mem_map.1 ((List.mergeSort_perm ..).mem_iff.1 href)
    exact ⟨row.2, AList.mem_lookup_iff.2 (c.perm.mem_iff.1 (List.mem_filter.1 hrow).1), rfl⟩

theorem statusSummary_eq (h : Shown r) {c : MirrorRead r} (hopen : c.loopFailed = false)
    (hrun : c.shuttingDown = false) :
    ∃ summary, c.statusSummary = .ok summary ∧
      Summarizes summary ((sortByOrderKey r.allEntries).map (·.shown (connFailedSample c.supervisor))) := by
  refine ⟨_, by rw [MirrorRead.statusSummary, readModelMirror_ok h hopen hrun]; rfl, ?_⟩
  rw [← List.foldl_map]
  exact (summarizes_foldl _).perm ((perm_shown h c).trans ((List.mergeSort_perm ..).symm.map _))

/-! ## The registry's own orders -/

theorem deregisterAll_eq (h : Shown r) (hr : r.Routed) (channel : Option ChannelName) :
    (r.deregisterAll channel).2.map Prod.fst =
      (sortByOrderKey r.allEntries).filter fun e => ∀ ch ∈ channel, e.channel = ch := by
  have hkeyed : ∀ key e, r.entry key = some e → e.key = key := fun key => (h.slot key).keyed
  cases channel with
  | none => simp [deregisterAll, allEntries, bumpEpoch, Function.comp_def]
  | some ch =>
    have hlist : (r.deregisterAll (some ch)).2.map Prod.fst = sortByOrderKey (r.channelEntries ch) := by
      simp [deregisterAll, channelEntries, bumpEpoch, Function.comp_def]
    rw [hlist]
    refine sortByOrderKey_filter hkeyed hr ?_
    refine (List.perm_ext_iff_of_nodup ?_ ?_).2 fun e => ?_
    · exact (nodup_keys_channelEntries hkeyed ch).of_map _
    · exact (nodup_keys_allEntries hkeyed).of_map _ |>.filter _
    · rw [mem_channelEntries, List.mem_filter, mem_allEntries]
      constructor
      · rintro ⟨pair, he⟩
        refine ⟨⟨(ch, pair), he⟩, ?_⟩
        simpa using show e.channel = ch from congrArg Prod.fst (hkeyed (ch, pair) e he)
      · rintro ⟨⟨key, he⟩, hch⟩
        obtain rfl := hkeyed key e he
        obtain rfl : e.channel = ch := by simpa using hch
        exact ⟨e.pair, he⟩

/-- The replay of a connection is of its entries that are not tombstones. -/
theorem entriesForResubscribeSorted_eq (h : Shown r) (hr : r.Routed) (url : WsUrl) :
    r.entriesForResubscribeSorted url =
      (sortByOrderKey r.allEntries).filter fun e => wsUrlFor e.channel = url ∧ ¬ e.isTombstone := by
  have hkeyed : ∀ key e, r.entry key = some e → e.key = key := fun key => (h.slot key).keyed
  refine sortByOrderKey_filter hkeyed hr (List.Perm.of_eq (List.filter_congr fun e he => ?_))
  obtain ⟨key, hkey⟩ := (mem_allEntries r e).1 he
  rw [(hr key e hkey).2, ← hkeyed key e hkey]
  rfl

/-- A row is failed if its entry is a tombstone or its connection is failed. -/
theorem isFailed_shown (supervisor : Option (WsUrl → ConnectionState)) (e : SubscriptionEntry) :
    (e.shown (connFailedSample supervisor)).state.isFailed =
      (e.isTombstone || connFailedAt supervisor (wsUrlFor e.channel)) := by
  have hstate : (projectedState e.state).isFailed = e.isTombstone := by
    unfold SubscriptionEntry.isTombstone
    cases e.state <;> rfl
  have hconn : (match wsUrlFor e.channel with
      | .publicUrl => (connFailedSample supervisor).1
      | .authUrl => (connFailedSample supervisor).2) = connFailedAt supervisor (wsUrlFor e.channel) := by
    cases wsUrlFor e.channel <;> rfl
  simp only [SubscriptionEntry.shown, projectWithConnection, hconn, hstate]
  cases htomb : e.isTombstone with
  | true => simpa [htomb] using hstate
  | false =>
    cases hf : connFailedAt supervisor (wsUrlFor e.channel) with
    | true => rfl
    | false => simpa [htomb] using hstate

/-- **The read models are views of the registry.** After every sequence of operations of callers that subscribe as the
namespaces do, and whatever order the mirror is read in: `list_active` gives each entry once, in the replay order;
`find_by_channel` gives the rows of the channel, each with the instant its mirror row was written; `status_summary`
counts the rows; a forced teardown removes the entries of the rows in their order; and what a reconnect replays is the
rows that are not failed, while no row of a failed connection is anything else. -/
theorem readModels_agree (h : Subscribed new r) (c : MirrorRead r) (hopen : c.loopFailed = false)
    (hrun : c.shuttingDown = false) :
    let entries := sortByOrderKey r.allEntries
    let shown : SubscriptionEntry → SubscriptionInfo := (·.shown (connFailedSample c.supervisor))
    let rows := entries.map shown
    ((∀ e, e ∈ entries ↔ r.entry e.key = some e) ∧ (entries.map SubscriptionEntry.key).Nodup ∧
        (entries.map SubscriptionEntry.key).Pairwise (orderKeyLe · ·)) ∧
      c.listActive = .ok rows ∧
      (∀ channel, ∃ refs, c.findByChannel channel = .ok refs ∧
        refs.map (·.info) = rows.filter (·.channel = channel.wireChannel) ∧
        ∀ ref ∈ refs, ∃ row, r.mirror.lookup (ref.channel, ref.symbol) = some row ∧
          ref.registeredAtMonotonic = row.registeredAt / 1000000 % 2 ^ 64) ∧
      (∃ summary, c.statusSummary = .ok summary ∧ Summarizes summary rows) ∧
      (∀ channel, (r.deregisterAll channel).2.map (fun removed => shown removed.1) =
        rows.filter fun info => ∀ ch ∈ channel, info.channel = ch) ∧
      ∀ url,
        if connFailedAt c.supervisor url then ∀ info ∈ rows, wsUrlFor info.channel = url → info.state.isFailed
        else (r.entriesForResubscribeSorted url).map shown =
          rows.filter fun info => wsUrlFor info.channel = url ∧ ¬ info.state.isFailed := by
  intro entries shown rows
  have hs : Shown r := shown_subscribed h
  have hr : r.Routed := routed_run h
  have hkeyed : ∀ key e, r.entry key = some e → e.key = key := fun key => (hs.slot key).keyed
  refine ⟨⟨fun e => ?_, ?_, List.pairwise_map.2 (sorted_sortByOrderKey _)⟩, listActive_eq hs hr hopen hrun,
    findByChannel_eq hs hr hopen hrun, statusSummary_eq hs hopen hrun, fun channel => ?_, fun url => ?_⟩
  · rw [mem_sortByOrderKey, mem_allEntries]
    constructor
    · rintro ⟨key, hkey⟩
      rw [hkeyed key e hkey, hkey]
    · exact fun he => ⟨e.key, he⟩
  · exact ((List.mergeSort_perm ..).map _).nodup_iff.2 (nodup_keys_allEntries hkeyed)
  · have hmap := congrArg (List.map shown) (deregisterAll_eq hs hr channel)
    rw [List.map_map] at hmap
    refine hmap.trans ?_
    rw [List.filter_map]
    rfl
  · split_ifs with hf
    · intro info hinfo hurl
      obtain ⟨e, he, rfl⟩ := List.mem_map.1 hinfo
      rw [isFailed_shown, show wsUrlFor e.channel = url from hurl, hf, Bool.or_true]
    · rw [entriesForResubscribeSorted_eq hs hr, List.filter_map]
      congr 1
      refine List.filter_congr fun e he => ?_
      have hchannel : (shown e).channel = e.channel := rfl
      have hfailed : (shown e).state.isFailed = (e.isTombstone || connFailedAt c.supervisor (wsUrlFor e.channel)) :=
        isFailed_shown c.supervisor e
      by_cases hurl : wsUrlFor e.channel = url
      · subst hurl
        rw [Bool.not_eq_true] at hf
        rw [hf, Bool.or_false] at hfailed
        simp only [Function.comp_apply, hchannel, hfailed]
      · simp only [Function.comp_apply, hchannel, hurl, false_and]

/-- A ticker and the executions, acknowledged one after the other, and read last row first. -/
def twoRows : List ((String → Option Decimal) × RegistryOp) :=
  [(fun _ => none, .register .publicUrl .ticker (some "BTC/USD") (.ticker none none) 5 false),
    (fun _ => none, .register .authUrl .executions none .executions 7 false),
    (fun _ => none, .noteAcked (.executions, none))]

theorem readModels_agree_twoRows :
    let r := exec (fun r (op : (String → Option Decimal) × RegistryOp) => r.apply op.1 op.2) new twoRows
    let c : MirrorRead r :=
      { loopFailed := false, shuttingDown := false
        supervisor := some fun url => if url = .authUrl then .failed else .opened
        rows := r.mirror.entries.reverse, perm := List.reverse_perm _ }
    c.listActive = .ok ((sortByOrderKey r.allEntries).map (·.shown (connFailedSample c.supervisor))) := by
  intro r c
  have h : Subscribed new r :=
    @Reach.exec _ _ _ _ _ twoRows ⟨⟨rfl, rfl⟩, ⟨rfl, rfl⟩, trivial, trivial⟩
  exact (readModels_agree h c rfl rfl).2.1

end SubscriptionRegistry

end KrakenSdk.Conn
