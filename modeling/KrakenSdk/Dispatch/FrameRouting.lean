import KrakenSdk.Types.Symbol
import KrakenSdk.Conn.BookRecovery
import KrakenSdk.Dispatch.HandlerRegistry
/-!
# Routing a data frame (dispatch/io_reactor/frame_routing.rs:614-870)

Each entry of a frame first drives the registry, then fans out to the handlers of its channel; a
book entry fans out twice, to `on_book` and to `on_book_raw`. `on_book` gets the maintained update
where there is one and nothing on a gap, but on `PassThrough` it gets the raw entry decoded anew,
whether the entry holds a builder or not.

**`maintainedOnly_iff`**: over every book frame, an entry whose book is maintained delivers only
validated updates exactly if no entry reaches the decoder under a spelling its builder does not know.
-/
namespace KrakenSdk.Dispatch

open KrakenSdk.Conn (Json ChannelName Symbol EntryKey HandlerId MonotonicInstant SubscriptionRegistry BookDriveOutcome)
open KrakenSdk.Book (Decimal PriceLevel BookLevel ParsedBook OrderBookBuilder OrderBookUpdate RawBookData parseRaw
  parseBookFrame)

/-! ## Decoders (api/ws_decode.rs, api/market/ws.rs) -/

/-- `BookDelta` (builder.rs:69). -/
structure BookDelta where
  symbol : Symbol
  bids : List PriceLevel
  asks : List PriceLevel
  checksum : Nat
  isSnapshot : Bool
  timestamp : Option MonotonicInstant
  exchangeTimestamp : String

/-- `extract_data` (ws_decode.rs:14). -/
def extractData (v : Json) : Option Json := v.get? "data"

/-- `parse_book_frame_owned` (wire.rs:62): `from_value` where `parse_book_frame` deserializes. -/
def parseBookFrameOwned (fromStr : String → Option Decimal) (data : Json) : Option ParsedBook :=
  (RawBookData.deserialize data).bind (parseRaw fromStr)

/-- `decode_book` (ws.rs:302). -/
def decodeBook (fromStr : String → Option Decimal) (v : Json) : Option OrderBookUpdate := do
  let data ← extractData v
  let parsed ← parseBookFrameOwned fromStr data
  let symbol ← (Types.Symbol.new parsed.symbol).toOption
  pure
    { symbol
      bids := parsed.bids.map .ofPriceLevel
      asks := parsed.asks.map .ofPriceLevel
      checksum := parsed.checksum
      timestamp := none
      exchangeTimestamp := parsed.timestamp }

/-- `decode_book_raw` (ws.rs:317). -/
def decodeBookRaw (fromStr : String → Option Decimal) (v : Json) : Option BookDelta := do
  let isSnapshot := (((v.get? "type").bind Json.asStr?).map (· == "snapshot")).getD false
  let data ← extractData v
  let parsed ← parseBookFrameOwned fromStr data
  let symbol ← (Types.Symbol.new parsed.symbol).toOption
  pure
    { symbol, bids := parsed.bids, asks := parsed.asks, checksum := parsed.checksum, isSnapshot
      timestamp := none, exchangeTimestamp := parsed.timestamp }

/-- A decoded payload; `other` is that of the channels besides the book's. -/
inductive DataPayload (P : Type*) where
  | book (update : OrderBookUpdate)
  | bookRaw (delta : BookDelta)
  | other (payload : P)

/-- `HandlerDecodeOutcome` (handler_registry.rs:54), or the panic `catch_unwind` caught. -/
inductive HandlerDecodeOutcome (P : Type*) where
  | deliver (payload : P)
  | decodeFailed
  | panicked (message : String)

/-- The decoder `wrap_typed` builds (ws_decode.rs:24). -/
def HandlerDecodeOutcome.ofOption {P : Type*} : Option P → HandlerDecodeOutcome P
  | some payload => .deliver payload
  | none => .decodeFailed

/-! ## Routing -/

/-- `ChannelName::from_wire_str` (channel.rs:77). -/
def fromWireStr (s : String) : Option ChannelName :=
  if s = "ticker" then some .ticker
  else if s = "book" then some .book
  else if s = "trade" then some .trade
  else if s = "ohlc" then some .ohlc
  else if s = "status" then some .status
  else if s = "executions" then some .executions
  else if s = "balances" then some .balances
  else if s = "heartbeat" then some .heartbeat
  else none

/-- What the routing of a frame publishes or records; the throttles of the last two are not modelled. -/
inductive RouteEffect (P : Type*) where
  | publishData (channel : ChannelName) (handlerId : HandlerId) (payload : DataPayload P)
  /-- `ChannelGapEvent`. -/
  | channelGap (channel : ChannelName) (dropped : Nat)
  /-- `OrderBookGapEvent` and `SubscriptionGapEvent` for a CRC mismatch. -/
  | bookGap (symbol : Symbol)
  /-- `SubscriptionGapEvent` for a malformed frame. -/
  | malformedFrame (channel : ChannelName) (symbol : Symbol)
  /-- `HandlerPanicWarning`. -/
  | handlerPanic (channel : ChannelName) (handlerId : HandlerId) (message : String)
  /-- `record_drop_and_maybe_emit`. -/
  | recordDrop (channel : ChannelName)
  /-- `suppress_warn_throttled`. -/
  | suppressWarn (site : String) (channel : Option ChannelName)

/-- What routing reads besides the registry: the decimal parser, the decoders the other channels'
registrations bring, the handlers, and whether the bus still lives. -/
structure Router (P : Type*) where
  fromStr : String → Option Decimal
  decodeOther : ChannelName → Json → HandlerDecodeOutcome P
  handlers : HandlerRegistry Unit
  busAlive : Bool

namespace Router

variable {P : Type*}

/-- The `decode` of the handlers of a channel: `on_book` registers `decode_book`, `on_book_raw`
registers `decode_book_raw`. -/
def decode (c : Router P) (channel : ChannelName) (v : Json) : HandlerDecodeOutcome (DataPayload P) :=
  match channel with
  | .book => .ofOption ((decodeBook c.fromStr v).map .book)
  | .bookRaw => .ofOption ((decodeBookRaw c.fromStr v).map .bookRaw)
  | channel =>
    match c.decodeOther channel v with
    | .deliver payload => .deliver (.other payload)
    | .decodeFailed => .decodeFailed
    | .panicked message => .panicked message

/-- `json!({ "type": msg_type, "data": entry })`. -/
def envelope (msgType : String) (entry : Json) : Json := .obj [("type", .str msgType), ("data", entry)]

/-- The maintained `Book` fan is skipped on a gap and during a resync. -/
def withheld : BookDriveOutcome → Bool
  | .gap _ _ | .awaitingSnapshot | .gapBudgetExhausted => true
  | .passThrough | .maintained _ => false

/-- `publish_data` of one payload to each handler. -/
def publishAll (fan : ChannelName) (handlers : List (HandlerEntry Unit)) (payload : DataPayload P) : List (RouteEffect P) :=
  handlers.map fun h => .publishData fan h.id payload

/-- The fan-out to one channel (frame_routing.rs:737-868). -/
def fanOut (c : Router P) (channel : ChannelName) (symbol : Option Symbol) (outcome : BookDriveOutcome)
    (msgType : String) (entry : Json) (fan : ChannelName) : List (RouteEffect P) :=
  if fan = .book ∧ withheld outcome then []
  else match c.handlers.handlersFor fan with
    | [] =>
      -- a book entry is dropped only when `on_book_raw` has no handler either
      if fan = channel ∧ channel ≠ .status ∧
          (channel ≠ .book ∨ c.handlers.handlersFor .bookRaw = []) then [.recordDrop channel]
      else []
    | h :: hs =>
      match fan, outcome with
      | .book, .maintained update => if c.busAlive then publishAll .book (h :: hs) (.book update) else []
      | fan, _ =>
        if !c.busAlive then []
        else match c.decode fan (envelope msgType entry) with
          | .deliver payload => publishAll fan (h :: hs) payload
          | .decodeFailed =>
            match symbol with
            | some sym => [.malformedFrame fan sym]
            | none => [.suppressWarn "decode-fail-no-symbol" (some fan)]
          | .panicked message => [.handlerPanic fan h.id message]

/-- The gap branch (frame_routing.rs:697-735): its events, and the pair to resubscribe. -/
def gapEvents (c : Router P) (symbol : Option Symbol) (outcome : BookDriveOutcome) : List (RouteEffect P) × List Symbol :=
  match outcome with
  | .gap _ _ | .gapBudgetExhausted =>
    match symbol with
    | some sym =>
      (if c.busAlive then [.bookGap sym] else [],
        match outcome with
        | .gap _ _ => [sym]
        | _ => [])
    | none => ([.suppressWarn "crc-gap-no-symbol" none], [])
  | _ => ([], [])

/-- The routing symbol of an entry. -/
def routingSymbol (entry : Json) : Option Symbol :=
  ((entry.get? "symbol").bind Json.asStr?).bind fun s => (Types.Symbol.new s).toOption

/-- One entry of the frame: the registry it leaves, what it publishes, the gaps it reports. -/
def routeEntry (c : Router P) (channel : ChannelName) (msgType : String) (registry : SubscriptionRegistry)
    (entry : Json) : SubscriptionRegistry × List (RouteEffect P) × List Symbol :=
  let symbol := routingSymbol entry
  let (registry, outcome) := registry.handleUpdate c.fromStr (channel, symbol) (msgType == "snapshot") entry
  let (events, gaps) := c.gapEvents symbol outcome
  let targets := if channel = .book then [ChannelName.book, .bookRaw] else [channel]
  (registry, events ++ targets.flatMap (c.fanOut channel symbol outcome msgType entry), gaps)

/-- The loop over the entries. -/
def routeEntries (c : Router P) (channel : ChannelName) (msgType : String) :
    SubscriptionRegistry → List Json → SubscriptionRegistry × List (RouteEffect P) × List Symbol
  | registry, [] => (registry, [], [])
  | registry, entry :: entries =>
    let (registry, effects, gaps) := c.routeEntry channel msgType registry entry
    let (registry, effects', gaps') := routeEntries c channel msgType registry entries
    (registry, effects ++ effects', gaps ++ gaps')

/-- The sequence check of the account channels (frame_routing.rs:646-658). -/
def sequenceCheck (c : Router P) (channel : ChannelName) (msgType : String) (registry : SubscriptionRegistry)
    (json : Json) : SubscriptionRegistry × List (RouteEffect P) :=
  if channel = .executions ∨ channel = .balances then
    match (json.get? "sequence").bind Json.asU64? with
    | some seq =>
      let (registry, gap) := registry.noteSequence channel seq (msgType == "snapshot")
      (registry, match gap with
        | some dropped => if c.busAlive then [.channelGap channel dropped] else []
        | none => [])
    | none => (registry, [])
  else (registry, [])

/-- `route_text_frame` (frame_routing.rs:614). -/
def routeTextFrame (c : Router P) (registry : SubscriptionRegistry) (json : Json) :
    SubscriptionRegistry × List (RouteEffect P) × List Symbol :=
  match ((json.get? "channel").bind Json.asStr?).bind fromWireStr, (json.get? "type").bind Json.asStr? with
  | some channel, some msgType =>
    if msgType ≠ "update" ∧ msgType ≠ "snapshot" then (registry, [], [])
    else
      let (registry, events) := c.sequenceCheck channel msgType registry json
      match (json.get? "data").bind Json.asArray? with
      | none => (registry, events ++ [.suppressWarn "non-array-data" (some channel)], [])
      | some data =>
        let (registry, effects, gaps) := c.routeEntries channel msgType registry data
        (registry, events ++ effects, gaps)
  | _, _ => (registry, [], [])

/-! ## What reaches `on_book` -/

end Router

/-- The payload of a delivery to the `on_book` handlers. -/
def RouteEffect.bookPayload? {P : Type*} : RouteEffect P → Option (DataPayload P)
  | .publishData .book _ payload => some payload
  | _ => none

/-- The payloads handed to the `on_book` handlers. -/
def onBookPayloads {P : Type*} (effects : List (RouteEffect P)) : List (DataPayload P) :=
  effects.filterMap RouteEffect.bookPayload?

namespace Router

variable {P : Type*} {c : Router P}

/-- A delivery to `on_book` can happen at all. -/
def CanDeliver (c : Router P) : Prop := c.busAlive = true ∧ c.handlers.handlersFor .book ≠ []

theorem onBookPayloads_append (es es' : List (RouteEffect P)) :
    onBookPayloads (es ++ es') = onBookPayloads es ++ onBookPayloads es' := List.filterMap_append

theorem onBookPayloads_publishAll (handlers : List (HandlerEntry Unit)) (payload : DataPayload P) :
    onBookPayloads (publishAll .book handlers payload) = handlers.map fun _ => payload := by
  rw [onBookPayloads, publishAll, List.filterMap_map]
  induction handlers with
  | nil => rfl
  | cons h hs ih => rw [List.filterMap_cons, List.map_cons, ih]; rfl

theorem onBookPayloads_gapEvents (symbol : Option Symbol) (outcome : BookDriveOutcome) :
    onBookPayloads (c.gapEvents symbol outcome).1 = [] := by
  unfold gapEvents
  cases outcome with
  | passThrough | maintained _ | awaitingSnapshot => rfl
  | gap _ _ | gapBudgetExhausted =>
    cases symbol with
    | none => rfl
    | some sym =>
      dsimp only
      split <;> rfl

/-- Nothing of the raw fan goes to `on_book`. -/
theorem onBookPayloads_rawFan (channel : ChannelName) (symbol : Option Symbol) (outcome : BookDriveOutcome)
    (msgType : String) (entry : Json) :
    onBookPayloads (c.fanOut channel symbol outcome msgType entry .bookRaw) = [] := by
  have hpub : ∀ (hs : List (HandlerEntry Unit)) (payload : DataPayload P), onBookPayloads (publishAll .bookRaw hs payload) = [] := by
    intro hs payload
    refine List.filterMap_eq_nil_iff.2 fun e he => ?_
    obtain ⟨h, -, rfl⟩ := List.mem_map.1 he
    rfl
  unfold fanOut
  rw [if_neg (by simp)]
  cases hh : c.handlers.handlersFor .bookRaw with
  | nil =>
    dsimp only
    split <;> rfl
  | cons h hs =>
    dsimp only
    split
    · rfl
    · split
      · exact hpub _ _
      · split <;> rfl
      · rfl

/-- What `on_book` gets of one entry, by the registry's outcome. -/
theorem onBookPayloads_bookFan (symbol : Option Symbol) (outcome : BookDriveOutcome) (msgType : String) (entry : Json)
    {p : DataPayload P} (h : p ∈ onBookPayloads (c.fanOut .book symbol outcome msgType entry .book)) :
    c.CanDeliver ∧ ((∃ update, outcome = .maintained update ∧ p = .book update) ∨
      (outcome = .passThrough ∧ ∃ update, decodeBook c.fromStr (envelope msgType entry) = some update ∧ p = .book update)) := by
  unfold fanOut at h
  by_cases hw : withheld outcome = true
  · rw [if_pos ⟨rfl, hw⟩] at h
    cases h
  · rw [if_neg fun hc => hw hc.2] at h
    cases hh : c.handlers.handlersFor .book with
    | nil =>
      rw [hh] at h
      dsimp only at h
      split at h <;> cases h
    | cons e es =>
      rw [hh] at h
      have hmem : ∀ payload, p ∈ onBookPayloads (publishAll .book (e :: es) payload) → p = payload := by
        intro payload hp
        rw [onBookPayloads_publishAll] at hp
        obtain ⟨-, -, rfl⟩ := List.mem_map.1 hp
        rfl
      cases halive : c.busAlive with
      | false =>
        rw [halive] at h
        cases outcome <;> cases h
      | true =>
        refine ⟨⟨halive, by simp [hh]⟩, ?_⟩
        rw [halive] at h
        cases outcome with
        | maintained update => exact .inl ⟨update, rfl, hmem _ h⟩
        | gap _ _ | awaitingSnapshot | gapBudgetExhausted => exact absurd rfl hw
        | passThrough =>
          refine .inr ⟨rfl, ?_⟩
          dsimp only [decode] at h
          cases hd : decodeBook c.fromStr (envelope msgType entry) with
          | some update =>
            rw [hd] at h
            exact ⟨update, rfl, hmem _ h⟩
          | none =>
            rw [hd] at h
            cases symbol <;> cases h

theorem mem_onBookPayloads_decoded {symbol : Option Symbol} {msgType : String} {entry : Json} {update : OrderBookUpdate}
    (hc : c.CanDeliver) (hd : decodeBook c.fromStr (envelope msgType entry) = some update) :
    .book update ∈ onBookPayloads (c.fanOut .book symbol .passThrough msgType entry .book) := by
  obtain ⟨halive, hne⟩ := hc
  obtain ⟨e, es, hh⟩ := List.exists_cons_of_ne_nil hne
  have hrun : c.fanOut .book symbol .passThrough msgType entry .book = publishAll .book (e :: es) (.book update) := by
    simp only [fanOut, withheld, hh, halive, decode, hd, Option.map_some, HandlerDecodeOutcome.ofOption]
    rfl
  rw [hrun, onBookPayloads_publishAll]
  exact List.mem_cons_self

theorem routeEntry_book (msgType : String) (registry : SubscriptionRegistry) (entry : Json) :
    (c.routeEntry .book msgType registry entry).1 =
        (registry.handleUpdate c.fromStr (.book, routingSymbol entry) (msgType == "snapshot") entry).1 ∧
      onBookPayloads (c.routeEntry .book msgType registry entry).2.1 =
        onBookPayloads (c.fanOut .book (routingSymbol entry)
          (registry.handleUpdate c.fromStr (.book, routingSymbol entry) (msgType == "snapshot") entry).2 msgType entry .book) := by
  refine ⟨rfl, ?_⟩
  simp only [routeEntry, if_true, List.flatMap_cons, List.flatMap_nil, List.append_nil, onBookPayloads_append,
    onBookPayloads_gapEvents, onBookPayloads_rawFan, List.nil_append]

/-! ## Entries whose book is maintained -/

/-- The registry key a book entry is routed to. -/
def routedKey (entry : Json) : EntryKey := (.book, routingSymbol entry)

/-- The entry names its book otherwise than the builder does, and gets as far as being decoded: no
resync window holds it back, it parses, and its spelling makes a symbol. -/
def Misspelt (c : Router P) (msgType : String) (b : OrderBookBuilder) (entry : Json) : Prop :=
  (b.resyncing = true → msgType = "snapshot") ∧
    ∃ parsed, parseBookFrame c.fromStr entry = some parsed ∧ parsed.symbol ≠ b.symbol ∧
      ∃ symbol, Types.Symbol.new parsed.symbol = .ok symbol

/-- The payload is the maintained update, rebuilt from the builder the entry left, whose checksum is
the frame's. -/
def Validated (c : Router P) (msgType : String) (registry : SubscriptionRegistry) (entry : Json)
    (payload : DataPayload P) : Prop :=
  ∃ b' update parsed, (c.routeEntry .book msgType registry entry).1.builderAt (routedKey entry) = some b' ∧
    (registry.handleUpdate c.fromStr (routedKey entry) (msgType == "snapshot") entry).2 = .maintained update ∧
    payload = .book update ∧ parseBookFrame c.fromStr entry = some parsed ∧
    b'.computeChecksum = parsed.checksum ∧ update = b'.buildUpdate parsed.checksum none parsed.timestamp

/-- The decoder of `on_book` accepts the entries that parse under a symbol. -/
theorem decodeBook_envelope (fromStr : String → Option Decimal) (msgType : String) (entry : Json) :
    (∃ update, decodeBook fromStr (envelope msgType entry) = some update) ↔
      ∃ parsed, parseBookFrame fromStr entry = some parsed ∧ ∃ symbol, Types.Symbol.new parsed.symbol = .ok symbol := by
  have hdata : extractData (envelope msgType entry) = some entry := by
    simp [extractData, envelope, Json.get?]
  have hparse : parseBookFrameOwned fromStr entry = parseBookFrame fromStr entry := rfl
  unfold decodeBook
  rw [hdata]
  dsimp only [bind, Option.bind]
  rw [hparse]
  cases parseBookFrame fromStr entry with
  | none => simp
  | some parsed =>
    dsimp only
    cases hsym : Types.Symbol.new parsed.symbol with
    | error e =>
      have hno : (Types.Symbol.new parsed.symbol).toOption = none := by rw [hsym]; rfl
      simp [hsym, Except.toOption]
    | ok symbol => simp [hsym, Except.toOption, pure]

/-- **One entry**: what it hands to `on_book` is validated unless the entry is misspelt and there is
someone to hand it to. -/
theorem validated_iff {msgType : String} {registry : SubscriptionRegistry} {entry : Json} {b : OrderBookBuilder}
    (hb : registry.builderAt (routedKey entry) = some b) :
    (((c.routeEntry .book msgType registry entry).1.builderAt (routedKey entry)).isSome →
        ∀ payload ∈ onBookPayloads (c.routeEntry .book msgType registry entry).2.1,
          c.Validated msgType registry entry payload) ↔ (c.CanDeliver → ¬ c.Misspelt msgType b entry) := by
  obtain ⟨hreg, hpay⟩ := routeEntry_book (c := c) msgType registry entry
  have hout := SubscriptionRegistry.handleUpdate_outcome c.fromStr registry (routedKey entry) (msgType == "snapshot") entry
  rw [hb] at hout
  dsimp only at hout
  constructor
  · rintro hall hcan ⟨hwindow, parsed, hparse, hne, symbol, hsym⟩
    -- the mismatch passes the frame through, the builder stays, and the entry is decoded anew
    have hdrive : Conn.SubscriptionEntry.driveBuilder c.fromStr b (msgType == "snapshot") entry = (b, .passThrough) := by
      have hno : ¬ (b.resyncing && !(msgType == "snapshot")) = true := by
        cases hr : b.resyncing with
        | false => simp
        | true => simp [hwindow hr]
      rw [Conn.SubscriptionEntry.driveBuilder, if_neg hno, hparse]
      dsimp only
      rw [if_pos hne]
    have hpass : (registry.handleUpdate c.fromStr (routedKey entry) (msgType == "snapshot") entry).2 = .passThrough := by
      rw [hout, hdrive]
    have hkept : (c.routeEntry .book msgType registry entry).1.builderAt (routedKey entry) = some b := by
      rw [hreg, ← routedKey, SubscriptionRegistry.handleUpdate_builderAt, if_pos rfl, hb, Option.bind_some, hdrive]
    obtain ⟨update, hd⟩ := (decodeBook_envelope c.fromStr msgType entry).2 ⟨parsed, hparse, symbol, hsym⟩
    have hmem : .book update ∈ onBookPayloads (c.fanOut .book (routingSymbol entry) .passThrough msgType entry .book) :=
      mem_onBookPayloads_decoded hcan hd
    rw [← routedKey, hpass] at hpay
    rw [← hpay] at hmem
    obtain ⟨-, update', -, -, hmaintained, -⟩ := hall (by rw [hkept]; rfl) _ hmem
    rw [hpass] at hmaintained
    cases hmaintained
  · intro hspelt _ payload hp
    rw [hpay] at hp
    obtain ⟨hcan, hcases⟩ := onBookPayloads_bookFan _ _ _ _ hp
    rcases hcases with ⟨update, hmaintained, rfl⟩ | ⟨hpass, update, hd, rfl⟩
    · obtain ⟨_, b', parsed, -, hreach, hat, hcrc, hupdate⟩ := SubscriptionRegistry.handleUpdate_maintained hmaintained
      exact ⟨b', update, parsed, by rw [hreg]; exact hat, hmaintained, rfl, hreach.2.1, hcrc, hupdate⟩
    · -- a decoded entry that its builder did not take is misspelt
      exfalso
      obtain ⟨parsed, hparse, hsym⟩ := (decodeBook_envelope c.fromStr msgType entry).1 ⟨update, hd⟩
      refine hspelt hcan ⟨fun hr => ?_, parsed, hparse, fun heq => ?_, hsym⟩
      · by_contra hne
        have hno : (b.resyncing && !(msgType == "snapshot")) = true := by simp [hr, hne]
        rw [← routedKey, hout, Conn.SubscriptionEntry.driveBuilder, if_pos hno] at hpass
        cases hpass
      · by_cases hwindow : b.resyncing = true → (msgType == "snapshot") = true
        · rw [← routedKey, hout, Conn.driveBuilder_reaches ⟨hwindow, hparse, heq⟩] at hpass
          rcases Conn.applyFrame_cases b (msgType == "snapshot") parsed with ⟨hok, -, -⟩ | ⟨computed, herr, -, -⟩
          · rw [hok] at hpass
            cases hpass
          · rw [herr] at hpass
            dsimp only at hpass
            split at hpass <;> cases hpass
        · push Not at hwindow
          have hno : (b.resyncing && !(msgType == "snapshot")) = true := by simpa using hwindow
          rw [← routedKey, hout, Conn.SubscriptionEntry.driveBuilder, if_pos hno] at hpass
          cases hpass

/-! ## Whole frames -/

/-- A frame of the book channel with its entries. -/
structure BookFrame (json : Json) (msgType : String) (data : List Json) : Prop where
  channel : (json.get? "channel").bind Json.asStr? = some "book"
  type : (json.get? "type").bind Json.asStr? = some msgType
  isData : msgType = "update" ∨ msgType = "snapshot"
  entries : (json.get? "data").bind Json.asArray? = some data

/-- A book frame is routed entry by entry. -/
theorem routeTextFrame_book {json : Json} {msgType : String} {data : List Json} (h : BookFrame json msgType data)
    (registry : SubscriptionRegistry) : c.routeTextFrame registry json = c.routeEntries .book msgType registry data := by
  have hchannel : ((json.get? "channel").bind Json.asStr?).bind fromWireStr = some .book := by
    rw [h.channel]
    rfl
  have hdata : ¬ (msgType ≠ "update" ∧ msgType ≠ "snapshot") := by
    rintro ⟨hu, hs⟩
    exact h.isData.elim hu hs
  simp only [routeTextFrame, hchannel, h.type, if_neg hdata, sequenceCheck, h.entries]
  simp

/-- The steps of the loop: the registry each entry finds, and the entry. -/
def entrySteps (c : Router P) (msgType : String) : SubscriptionRegistry → List Json → List (SubscriptionRegistry × Json)
  | _, [] => []
  | registry, entry :: entries =>
    (registry, entry) :: entrySteps c msgType (c.routeEntry .book msgType registry entry).1 entries

/-- What `on_book` gets of a frame is what it gets of the entries, in order. -/
theorem onBookPayloads_routeEntries (msgType : String) (registry : SubscriptionRegistry) (data : List Json) :
    onBookPayloads (c.routeEntries .book msgType registry data).2.1 =
      (c.entrySteps msgType registry data).flatMap fun step =>
        onBookPayloads (c.routeEntry .book msgType step.1 step.2).2.1 := by
  induction data generalizing registry with
  | nil => rfl
  | cons entry entries ih =>
    rw [entrySteps, List.flatMap_cons, ← ih]
    exact onBookPayloads_append _ _

/-- Whenever the book an entry is routed to is maintained before it and after it, all that `on_book` gets
of the entry is validated. -/
def MaintainedOnly (c : Router P) (registry : SubscriptionRegistry) (json : Json) : Prop :=
  ∀ msgType data, BookFrame json msgType data → ∀ step ∈ c.entrySteps msgType registry data,
    (step.1.builderAt (routedKey step.2)).isSome →
    ((c.routeEntry .book msgType step.1 step.2).1.builderAt (routedKey step.2)).isSome →
    ∀ payload ∈ onBookPayloads (c.routeEntry .book msgType step.1 step.2).2.1,
      c.Validated msgType step.1 step.2 payload

/-- No entry that finds a builder is misspelt, where there is someone to deliver to. -/
def WellSpelt (c : Router P) (registry : SubscriptionRegistry) (json : Json) : Prop :=
  c.CanDeliver → ∀ msgType data, BookFrame json msgType data → ∀ step ∈ c.entrySteps msgType registry data,
    ∀ b, step.1.builderAt (routedKey step.2) = some b → ¬ c.Misspelt msgType b step.2

/-- **A maintained book delivers only validated updates exactly if its entries are spelt as its builder
spells them.** -/
theorem maintainedOnly_iff (c : Router P) (registry : SubscriptionRegistry) (json : Json) :
    c.MaintainedOnly registry json ↔ c.WellSpelt registry json := by
  constructor
  · intro h hcan msgType data hframe step hstep b hb
    exact (validated_iff hb).1 (h msgType data hframe step hstep (by rw [hb]; rfl)) hcan
  · intro h msgType data hframe step hstep hbefore
    obtain ⟨b, hb⟩ := Option.isSome_iff_exists.1 hbefore
    exact (validated_iff hb).2 fun hcan => h hcan msgType data hframe step hstep b hb

/-- A registry with one maintained `BTC/USD` book. -/
def btcRegistry : SubscriptionRegistry :=
  (SubscriptionRegistry.new.register (.new .publicUrl .book (some "BTC/USD") (.book .d10)) 0 false).1

/-- An `on_book` handler on a live bus. -/
def onBookRouter : Router Unit where
  fromStr := fun _ => none
  decodeOther := fun _ _ => .decodeFailed
  handlers := (HandlerRegistry.new ∅).registerWithId .book 1 ()
  busAlive := true

/-- A snapshot whose only fault besides its checksum is its lower-case symbol. -/
def lowerCaseFrame : Json :=
  .obj [("channel", .str "book"), ("type", .str "snapshot"),
    ("data", .arr [.obj [("symbol", .str "btc/usd"), ("checksum", .num "7")]])]

/-- The lower-case entry is routed to the `BTC/USD` builder, which passes it through, and `on_book` gets
it unvalidated. -/
theorem lowerCase_unvalidated : ¬ onBookRouter.MaintainedOnly btcRegistry lowerCaseFrame := by
  rw [maintainedOnly_iff]
  intro h
  have hframe : BookFrame lowerCaseFrame "snapshot" [.obj [("symbol", .str "btc/usd"), ("checksum", .num "7")]] :=
    ⟨rfl, rfl, .inr rfl, rfl⟩
  have hb : btcRegistry.builderAt (.book, some "BTC/USD") = some (.new "BTC/USD" 25 10) := rfl
  refine h ⟨rfl, by simp [onBookRouter, HandlerRegistry.handlersFor_registerWithId]⟩ _ _ hframe _ List.mem_cons_self
    (.new "BTC/USD" 25 10) hb ⟨fun _ => rfl, ?_⟩
  exact ⟨⟨"btc/usd", [], [], 7, ""⟩, rfl, by decide, "BTC/USD", rfl⟩

end Router

end KrakenSdk.Dispatch
