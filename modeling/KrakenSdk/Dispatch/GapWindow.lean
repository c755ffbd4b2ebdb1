import KrakenSdk.Dispatch.ArmRegistry
/-!
# Between a CRC gap and the next snapshot (dispatch/io_reactor/frame_routing.rs:86-98, 678-734, 874-934)

After `drive_update` reports a `Gap` the book's deltas are to be dropped until a snapshot comes. The window that
drops them is opened by `recover_book_gap`, and that runs only when the whole frame has been routed: a later
entry of the same frame still reaches the builder. `noFold_of_clean`: nothing else in the reactor lets a delta
into the window, except a registration that starts the entry anew.
-/
namespace KrakenSdk.Dispatch

open KrakenSdk.Conn KrakenSdk.Conn.SubscriptionRegistry
open KrakenSdk.Book (Decimal OrderBookBuilder parseBookFrame)

/-! ## What is seen of one book -/

/-- What happens to the maintained book of a pair. -/
inductive BookEvent where
  /-- `apply_delta`: folded into the builder, and counted if it misses its checksum. -/
  | delta
  /-- `apply_snapshot`. -/
  | snapshot
  /-- `drive_update` returned `Gap`. -/
  | gap
  /-- A `BookGap` for `recover_book_gap`: one unsubscribe and resubscribe. -/
  | scheduled
  /-- The reseed timer fired. -/
  | timeout
  deriving DecidableEq, Repr

/-- What ends the window of a gap. -/
def BookEvent.closes : BookEvent → Bool
  | .snapshot | .timeout => true
  | _ => false

/-- In no window of a gap is a delta folded, or a second resubscribe scheduled. -/
def NoFoldInWindow (trace : List BookEvent) : Prop :=
  ∀ before window after, trace = before ++ .gap :: window ++ after → (∀ e ∈ window, e.closes = false) →
    .delta ∉ window ∧ window.count .scheduled ≤ 1

/-- The resubscribes scheduled in the open window; none where no gap is open. -/
abbrev Window := Option Nat

/-- One event more. -/
def Window.next (w : Window) : BookEvent → Window
  | .delta => w
  | .snapshot | .timeout => none
  | .gap => some (w.getD 0)
  | .scheduled => w.map (· + 1)

/-- No event of the trace falls into an open window where it must not. -/
def Quiet : Window → List BookEvent → Prop
  | _, [] => True
  | w, e :: trace => (e = .delta → w = none) ∧ (e = .scheduled → ∀ n, w = some n → n = 0) ∧ Quiet (w.next e) trace

theorem quiet_append (w : Window) (t t' : List BookEvent) : Quiet w (t ++ t') ↔ Quiet w t ∧ Quiet (t.foldl Window.next w) t' := by
  induction t generalizing w with
  | nil => simp [Quiet]
  | cons e t ih => simp only [List.cons_append, Quiet, List.foldl_cons, ih, and_assoc]

/-- In an open window of `n` there is no delta, and room for `1 - n` resubscribes. -/
theorem quiet_window {n : Nat} {window : List BookEvent} (h : Quiet (some n) window)
    (hopen : ∀ e ∈ window, e.closes = false) (hn : n ≤ 1) : .delta ∉ window ∧ window.count .scheduled + n ≤ 1 := by
  induction window generalizing n with
  | nil => exact ⟨List.not_mem_nil, by simpa using hn⟩
  | cons e window ih =>
    obtain ⟨hdelta, hsched, hrest⟩ := h
    have hopen' : ∀ e ∈ window, e.closes = false := fun e he => hopen e (List.mem_cons_of_mem _ he)
    cases e with
    | delta => exact absurd (hdelta rfl) (by simp)
    | snapshot | timeout => exact absurd (hopen _ List.mem_cons_self) (by simp [BookEvent.closes])
    | gap =>
      obtain ⟨h1, h2⟩ := ih hrest hopen' hn
      exact ⟨by simpa using h1, by simpa using h2⟩
    | scheduled =>
      obtain rfl := hsched rfl n rfl
      obtain ⟨h1, h2⟩ := ih hrest hopen' le_rfl
      refine ⟨by simpa using h1, ?_⟩
      rw [List.count_cons_self]
      omega

theorem window_le_one {w : Window} {t : List BookEvent} (h : Quiet w t) (hw : ∀ n, w = some n → n ≤ 1) :
    ∀ n, t.foldl Window.next w = some n → n ≤ 1 := by
  induction t generalizing w with
  | nil => exact hw
  | cons e t ih =>
    obtain ⟨-, hsched, hrest⟩ := h
    refine ih hrest fun n hn => ?_
    cases e with
    | delta => exact hw n hn
    | snapshot | timeout => cases hn
    | gap =>
      cases w with
      | none =>
        cases hn
        exact Nat.zero_le 1
      | some k => exact hw n hn
    | scheduled =>
      cases w with
      | none => cases hn
      | some k =>
        cases hn
        rw [hsched rfl k rfl]

theorem noFold_of_quiet {trace : List BookEvent} (h : Quiet none trace) : NoFoldInWindow trace := by
  rintro before window after rfl hopen
  rw [quiet_append, quiet_append] at h
  obtain ⟨⟨hbefore, -, -, hwindow⟩, -⟩ := h
  have hle := window_le_one hbefore (by simp)
  have hgap : (before.foldl Window.next none).next .gap = some ((before.foldl Window.next none).getD 0) := rfl
  rw [hgap] at hwindow
  have hn : (before.foldl Window.next none).getD 0 ≤ 1 := by
    cases hw : before.foldl Window.next none with
    | none => exact Nat.zero_le 1
    | some n => exact hle n hw
  obtain ⟨h1, h2⟩ := quiet_window hwindow hopen hn
  exact ⟨h1, by omega⟩

/-! ## The events of an entry and of a frame -/

namespace Router

variable (c : Router Unit) (sym : Symbol)

/-- What `drive_update` applies: nothing to a book that waits for its snapshot, or of a frame it cannot read or
that is not its own. -/
def applied (fromStr : String → Option Decimal) (builder : Option OrderBookBuilder) (isSnapshot : Bool) (entry : Json) :
    List BookEvent :=
  match builder with
  | none => []
  | some b =>
    if b.resyncing && !isSnapshot then []
    else match parseBookFrame fromStr entry with
      | none => []
      | some parsed => if parsed.symbol ≠ b.symbol then [] else [if isSnapshot then .snapshot else .delta]

/-- A `Gap` is reported. -/
def reported : BookDriveOutcome → List BookEvent
  | .gap _ _ => [.gap]
  | _ => []

/-- One entry, seen from the book of `sym`. -/
def entryEvents (channel : ChannelName) (msgType : String) (r : SubscriptionRegistry) (entry : Json) : List BookEvent :=
  (if (channel, routingSymbol entry) = bookKey sym then
      applied c.fromStr (r.builderAt (bookKey sym)) (msgType == "snapshot") entry ++
        reported (r.handleUpdate c.fromStr (bookKey sym) (msgType == "snapshot") entry).2
    else []) ++
    ((c.routeEntry channel msgType r entry).2.2.filter (· = sym)).map fun _ => .scheduled

/-- The entries of a frame, in order. -/
def entriesEvents (channel : ChannelName) (msgType : String) : SubscriptionRegistry → List Json → List BookEvent
  | _, [] => []
  | r, entry :: data =>
    c.entryEvents sym channel msgType r entry ++
      entriesEvents channel msgType (c.routeEntry channel msgType r entry).1 data

/-- A frame, as `route_text_frame` reads it. -/
def frameEvents (r : SubscriptionRegistry) (json : Json) : List BookEvent :=
  match ((json.get? "channel").bind Json.asStr?).bind fromWireStr, (json.get? "type").bind Json.asStr? with
  | some channel, some msgType =>
    if msgType ≠ "update" ∧ msgType ≠ "snapshot" then []
    else match (json.get? "data").bind Json.asArray? with
      | none => []
      | some data => c.entriesEvents sym channel msgType (c.sequenceCheck channel msgType r json).1 data
  | _, _ => []

/-- The entry parses and is spelt as the builder of the pair spells it. -/
def Readable (r : SubscriptionRegistry) (entry : Json) : Prop :=
  routingSymbol entry = some sym ∧ ∃ b parsed, r.builderAt (bookKey sym) = some b ∧
    parseBookFrame c.fromStr entry = some parsed ∧ parsed.symbol = b.symbol

/-- After an entry that reports a gap of the pair comes another readable one. -/
def RepeatsAfterGap (msgType : String) : SubscriptionRegistry → List Json → Prop
  | _, [] => False
  | r, entry :: data =>
    (.gap ∈ c.entryEvents sym .book msgType r entry ∧
        ∃ later ∈ data, c.Readable sym (c.routeEntry .book msgType r entry).1 later) ∨
      RepeatsAfterGap msgType (c.routeEntry .book msgType r entry).1 data

/-! ## One entry -/

/-- The book of the pair lets no delta in. -/
def Held (r : SubscriptionRegistry) : Prop := ∀ b, r.builderAt (bookKey sym) = some b → b.resyncing = true

/-- Only the `Book` channel has builders. -/
def BookOnly (r : SubscriptionRegistry) : Prop := ∀ key b, r.builderAt key = some b → key.1 = .book

variable {c sym} {r : SubscriptionRegistry} {msgType : String} {entry : Json}

theorem applied_eq (fromStr : String → Option Decimal) (b : OrderBookBuilder) (isSnapshot : Bool) (entry : Json) :
    (applied fromStr (some b) isSnapshot entry = [if isSnapshot then .snapshot else .delta] ∧
        ∃ parsed, ReachesBook fromStr b isSnapshot entry parsed) ∨
      (applied fromStr (some b) isSnapshot entry = [] ∧ ∀ parsed, ¬ ReachesBook fromStr b isSnapshot entry parsed) := by
  unfold applied
  dsimp only
  by_cases hwindow : (b.resyncing && !isSnapshot) = true
  · rw [if_pos hwindow]
    refine .inr ⟨rfl, ?_⟩
    rintro parsed ⟨hw, -, -⟩
    rw [Bool.and_eq_true, Bool.not_eq_true'] at hwindow
    exact absurd (hw hwindow.1) (by simp [hwindow.2])
  · rw [if_neg hwindow]
    cases hparse : parseBookFrame fromStr entry with
    | none =>
      refine .inr ⟨rfl, ?_⟩
      rintro parsed ⟨-, hp, -⟩
      rw [hparse] at hp
      cases hp
    | some parsed =>
      dsimp only
      by_cases hsym : parsed.symbol = b.symbol
      · rw [if_neg (not_not.2 hsym)]
        refine .inl ⟨rfl, parsed, ?_, hparse, hsym⟩
        intro hres
        simpa [hres] using hwindow
      · rw [if_pos hsym]
        refine .inr ⟨rfl, ?_⟩
        rintro parsed' ⟨-, hp, hs⟩
        obtain rfl := Option.some.inj (hparse.symm.trans hp)
        exact hsym hs

theorem registry_routeEntry (c : Router Unit) (channel : ChannelName) (msgType : String) (r : SubscriptionRegistry) (entry : Json) :
    (c.routeEntry channel msgType r entry).1 =
      (r.handleUpdate c.fromStr (channel, routingSymbol entry) (msgType == "snapshot") entry).1 := rfl

theorem gaps_routeEntry (c : Router Unit) (channel : ChannelName) (msgType : String) (r : SubscriptionRegistry) (entry : Json) :
    (c.routeEntry channel msgType r entry).2.2 = (c.gapEvents (routingSymbol entry)
      (r.handleUpdate c.fromStr (channel, routingSymbol entry) (msgType == "snapshot") entry).2).2 := rfl

/-- Only a `Gap` with a routing symbol is handed to `recover_book_gap`. -/
theorem mem_gapEvents {symbol : Option Symbol} {outcome : BookDriveOutcome} (h : sym ∈ (c.gapEvents symbol outcome).2) :
    symbol = some sym ∧ ∃ expected computed, outcome = .gap expected computed := by
  unfold gapEvents at h
  cases outcome with
  | passThrough | maintained _ | awaitingSnapshot => cases h
  | gapBudgetExhausted => cases symbol <;> cases h
  | gap expected computed =>
    cases symbol with
    | none => cases h
    | some sym' =>
      obtain rfl := List.mem_singleton.1 h
      exact ⟨rfl, expected, computed, rfl⟩

/-- The event of an application. -/
def appliedEvent (msgType : String) : BookEvent := if msgType == "snapshot" then .snapshot else .delta

/-- What one entry can be to the book of the pair: nothing, an application, or one that reports a gap. -/
inductive EntryStep (c : Router Unit) (sym : Symbol) (channel : ChannelName) (msgType : String) (r : SubscriptionRegistry)
    (entry : Json) : Prop
  | silent (he : c.entryEvents sym channel msgType r entry = [])
      (hb : (c.routeEntry channel msgType r entry).1.builderAt (bookKey sym) = r.builderAt (bookKey sym))
  | applies {b : OrderBookBuilder} (he : c.entryEvents sym channel msgType r entry = [appliedEvent msgType])
      (hb : r.builderAt (bookKey sym) = some b) (hopen : (msgType == "snapshot") = false → b.resyncing = false)
      (hread : c.Readable sym r entry)
  | gaps {b : OrderBookBuilder} (hch : channel = .book)
      (he : c.entryEvents sym channel msgType r entry = [appliedEvent msgType, .gap, .scheduled])
      (hb : r.builderAt (bookKey sym) = some b) (hopen : (msgType == "snapshot") = false → b.resyncing = false)
      (hread : c.Readable sym r entry) (hgap : sym ∈ (c.routeEntry channel msgType r entry).2.2)

theorem entryStep (c : Router Unit) (sym : Symbol) (channel : ChannelName) (msgType : String) (entry : Json)
    (hbook : BookOnly r) : EntryStep c sym channel msgType r entry := by
  have hbuilder := handleUpdate_builderAt c.fromStr r (channel, routingSymbol entry) (bookKey sym) (msgType == "snapshot") entry
  have houtcome := handleUpdate_outcome c.fromStr r (channel, routingSymbol entry) (msgType == "snapshot") entry
  rw [← registry_routeEntry] at hbuilder
  by_cases hkey : (channel, routingSymbol entry) = bookKey sym
  · have hsym : routingSymbol entry = some sym := congrArg Prod.snd hkey
    have hevents : c.entryEvents sym channel msgType r entry =
        (applied c.fromStr (r.builderAt (bookKey sym)) (msgType == "snapshot") entry ++
          reported (r.handleUpdate c.fromStr (bookKey sym) (msgType == "snapshot") entry).2) ++
        ((c.gapEvents (some sym) (r.handleUpdate c.fromStr (bookKey sym) (msgType == "snapshot") entry).2).2.filter
          (· = sym)).map fun _ => .scheduled := by
      rw [entryEvents, if_pos hkey, gaps_routeEntry, hkey, hsym]
    have hgaps := gaps_routeEntry c channel msgType r entry
    rw [hkey, hsym] at hgaps
    rw [hkey, if_pos rfl] at hbuilder
    rw [hkey] at houtcome
    rw [houtcome] at hevents hgaps
    cases hb : r.builderAt (bookKey sym) with
    | none =>
      rw [hb] at hevents hbuilder
      exact .silent hevents (hbuilder.trans hb.symm)
    | some b =>
      rw [hb] at hevents hbuilder hgaps
      dsimp only [Option.bind_some] at hevents hbuilder hgaps
      rcases applied_eq c.fromStr b (msgType == "snapshot") entry with
        ⟨happ, parsed, hreach⟩ | ⟨happ, hno⟩
      · have hopen : (msgType == "snapshot") = false → b.resyncing = false := by
          intro hsnap
          by_contra hres
          exact absurd (hreach.1 (by simpa using hres)) (by simp [hsnap])
        have hread : c.Readable sym r entry := ⟨hsym, b, parsed, hb, hreach.2.1, hreach.2.2⟩
        rw [driveBuilder_reaches hreach] at hevents hgaps
        rw [happ] at hevents
        rcases applyFrame_cases b (msgType == "snapshot") parsed with ⟨hok, -, -⟩ | ⟨computed, herr, -, -⟩
        · rw [hok] at hevents
          exact .applies hevents hb hopen hread
        · rw [herr] at hevents hgaps
          dsimp only at hevents hgaps
          by_cases hmax : maxConsecutiveBookGaps ≤ (applyFrame b (msgType == "snapshot") parsed).1.consecutiveGaps
          · rw [if_pos hmax] at hevents
            exact .applies hevents hb hopen hread
          · rw [if_neg hmax] at hevents hgaps
            refine .gaps (congrArg Prod.fst hkey) ?_ hb hopen hread (by rw [hgaps]; exact List.mem_singleton.2 rfl)
            rw [hevents]
            simp [reported, gapEvents, appliedEvent]
      · rw [happ] at hevents
        rcases driveBuilder_stops hno with hstop | hstop
        · rw [hstop] at hevents hbuilder
          exact .silent hevents (hbuilder.trans hb.symm)
        · rw [hstop] at hevents hbuilder
          exact .silent hevents (hbuilder.trans hb.symm)
  · rw [if_neg (Ne.symm hkey)] at hbuilder
    refine .silent ?_ hbuilder
    rw [entryEvents, if_neg hkey, List.nil_append, List.map_eq_nil_iff, List.filter_eq_nil_iff]
    intro sym' hmem heq
    obtain rfl : sym' = sym := by simpa using heq
    rw [gaps_routeEntry] at hmem
    obtain ⟨hroute, expected, computed, hgap⟩ := mem_gapEvents hmem
    -- a gap needs a builder, and only the book channel has one
    rw [hroute] at houtcome hgap hkey
    cases hb : r.builderAt (channel, some sym') with
    | none =>
      rw [hb] at houtcome
      rw [houtcome] at hgap
      cases hgap
    | some b => exact hkey (by rw [show channel = .book from hbook _ b hb]; rfl)

theorem Held.of_builderAt {r' : SubscriptionRegistry} (h : Held sym r) (hb : r'.builderAt (bookKey sym) = r.builderAt (bookKey sym)) :
    Held sym r' := fun b hb' => h b (hb.symm.trans hb')

theorem Held.of_keeps {r' : SubscriptionRegistry} (h : Held sym r) (hk : KeepsBuilders r r') : Held sym r' := by
  intro b hb
  rcases hk (bookKey sym) with hsame | hnone
  · exact h b (hsame.symm.trans hb)
  · rw [hnone] at hb
    cases hb

theorem bookOnly_routeEntry (c : Router Unit) (channel : ChannelName) (msgType : String) (entry : Json) (h : BookOnly r) :
    BookOnly (c.routeEntry channel msgType r entry).1 := by
  intro key b hb
  rw [registry_routeEntry, handleUpdate_builderAt] at hb
  split_ifs at hb with hkey
  · subst hkey
    obtain ⟨b₀, hb₀, -⟩ := Option.bind_eq_some_iff.1 hb
    exact h _ b₀ hb₀
  · exact h key b hb

/-- An application to a held book is a snapshot's. -/
theorem not_held {b : OrderBookBuilder} (hb : r.builderAt (bookKey sym) = some b)
    (hopen : (msgType == "snapshot") = false → b.resyncing = false) (hupdate : (msgType == "snapshot") = false) :
    ¬ Held sym r := by
  intro h
  exact absurd (h b hb) (by simp [hopen hupdate])

/-! ## The entries of a frame -/

/-- Nothing reaches the book if no readable entry comes. -/
theorem silent_entries {channel : ChannelName} {data : List Json}
    (hbook : BookOnly r) (hno : ∀ later ∈ data, ¬ c.Readable sym r later) : c.entriesEvents sym channel msgType r data = [] := by
  induction data generalizing r with
  | nil => rfl
  | cons entry data ih =>
    have hhead := hno entry List.mem_cons_self
    cases entryStep c sym channel msgType entry hbook with
    | silent he hb =>
      rw [entriesEvents, he, List.nil_append]
      refine ih (bookOnly_routeEntry c channel msgType entry hbook) ?_
      rintro later hlater ⟨hroute, b, parsed, hb', hparse, hsym⟩
      exact hno later (List.mem_cons_of_mem _ hlater) ⟨hroute, b, parsed, hb.symm.trans hb', hparse, hsym⟩
    | applies he hb hopen hread => exact absurd hread hhead
    | gaps hch he hb hopen hread hgap => exact absurd hread hhead

/-- An update frame: a delta finds no gap open, and a gap of the frame is its last event. -/
theorem quiet_update {channel : ChannelName} (hupdate : (msgType == "snapshot") = false) {data : List Json} {w : Window}
    (hbook : BookOnly r) (hrep : channel = .book → ¬ c.RepeatsAfterGap sym msgType r data) (hw : w ≠ none → Held sym r) :
    Quiet w (c.entriesEvents sym channel msgType r data) ∧
      ((c.entriesEvents sym channel msgType r data).foldl Window.next w ≠ none →
        Held sym (c.routeEntries channel msgType r data).1 ∨ sym ∈ (c.routeEntries channel msgType r data).2.2) := by
  have hdelta : appliedEvent msgType = .delta := by simp [appliedEvent, hupdate]
  induction data generalizing r w with
  | nil => exact ⟨trivial, fun h => .inl (hw h)⟩
  | cons entry data ih =>
    have hbook' := bookOnly_routeEntry c channel msgType entry hbook
    have hrep' : channel = .book → ¬ c.RepeatsAfterGap sym msgType (c.routeEntry channel msgType r entry).1 data := by
      rintro rfl h
      exact hrep rfl (.inr h)
    have hrest : ∀ {w : Window}, (w ≠ none → Held sym (c.routeEntry channel msgType r entry).1) → _ :=
      fun {w} hw => ih (w := w) hbook' hrep' hw
    have hmore : ∀ {P : Prop}, P ∨ sym ∈ (c.routeEntries channel msgType (c.routeEntry channel msgType r entry).1 data).2.2 →
        P ∨ sym ∈ (c.routeEntries channel msgType r (entry :: data)).2.2 :=
      fun h => h.imp_right fun hmem => List.mem_append_right _ hmem
    cases entryStep c sym channel msgType entry hbook with
    | silent he hb =>
      rw [entriesEvents, he, List.nil_append]
      obtain ⟨h1, h2⟩ := hrest (w := w) fun hne => (hw hne).of_builderAt hb
      exact ⟨h1, fun hne => hmore (h2 hne)⟩
    | applies he hb hopen hread =>
      obtain rfl : w = none := by
        by_contra hne
        exact not_held hb hopen hupdate (hw hne)
      obtain ⟨h1, h2⟩ := hrest (w := none) fun hne => absurd rfl hne
      rw [entriesEvents, he, hdelta]
      exact ⟨⟨fun _ => rfl, nofun, h1⟩, fun hne => hmore (h2 hne)⟩
    | gaps hch he hb hopen hread hgap =>
      obtain rfl : w = none := by
        by_contra hne
        exact not_held hb hopen hupdate (hw hne)
      subst hch
      have hno : ∀ later ∈ data, ¬ c.Readable sym (c.routeEntry .book msgType r entry).1 later := by
        intro later hlater hlr
        exact hrep rfl (.inl ⟨by rw [he]; simp, later, hlater, hlr⟩)
      rw [entriesEvents, he, hdelta, silent_entries hbook' hno]
      refine ⟨⟨fun _ => rfl, nofun, nofun, nofun, nofun, ?_, trivial⟩, fun _ => .inr (List.mem_append_left _ hgap)⟩
      rintro - n hn
      cases hn
      rfl

/-- A snapshot frame has no delta, and what is open after it is a gap it reported, or was open before. -/
theorem quiet_snapshot (c : Router Unit) (channel : ChannelName) (hsnapshot : (msgType == "snapshot") = true)
    (data : List Json) {w : Window}
    {P : Prop} (hbook : BookOnly r) (hw : w ≠ none → Held sym r ∨ P) :
    Quiet w (c.entriesEvents sym channel msgType r data) ∧
      ((c.entriesEvents sym channel msgType r data).foldl Window.next w ≠ none →
        Held sym (c.routeEntries channel msgType r data).1 ∨ P ∨ sym ∈ (c.routeEntries channel msgType r data).2.2) := by
  have hsnap : appliedEvent msgType = .snapshot := by simp [appliedEvent, hsnapshot]
  induction data generalizing r w P with
  | nil => exact ⟨trivial, fun h => (hw h).imp_right .inl⟩
  | cons entry data ih =>
    have hbook' := bookOnly_routeEntry c channel msgType entry hbook
    have hrest : ∀ sym', sym' ∈ (c.routeEntries channel msgType (c.routeEntry channel msgType r entry).1 data).2.2 →
        sym' ∈ (c.routeEntries channel msgType r (entry :: data)).2.2 := fun _ h => List.mem_append_right _ h
    cases entryStep c sym channel msgType entry hbook with
    | silent he hb =>
      rw [entriesEvents, he, List.nil_append]
      obtain ⟨h1, h2⟩ := ih (w := w) (P := P) hbook' fun hne => (hw hne).imp_left (·.of_builderAt hb)
      exact ⟨h1, fun hne => (h2 hne).imp_right (Or.imp_right (hrest sym))⟩
    | applies he hb hopen hread =>
      obtain ⟨h1, h2⟩ := ih (w := none) (P := P) hbook' fun hne => absurd rfl hne
      rw [entriesEvents, he, hsnap]
      exact ⟨⟨nofun, nofun, h1⟩, fun hne => (h2 hne).imp_right (Or.imp_right (hrest sym))⟩
    | gaps hch he hb hopen hread hgap =>
      obtain ⟨h1, h2⟩ := ih (w := some 1) (P := True) hbook' fun _ => .inr trivial
      rw [entriesEvents, he, hsnap]
      refine ⟨⟨nofun, nofun, nofun, nofun, nofun, ?_, h1⟩, fun _ => .inr (.inr (List.mem_append_left _ hgap))⟩
      rintro - n hn
      cases hn
      rfl

theorem eq_book_of_fromWireStr {name : String} (h : fromWireStr name = some .book) : name = "book" := by
  by_contra hne
  unfold fromWireStr at h
  simp only [if_neg hne] at h
  split_ifs at h
  all_goals cases h

theorem builderAt_sequenceCheck (c : Router Unit) (channel : ChannelName) (msgType : String) (r : SubscriptionRegistry)
    (json : Json) : KeepsBuilders r (c.sequenceCheck channel msgType r json).1 := by
  unfold sequenceCheck
  split
  · split
    · exact .noteSequence r channel _ _
    · exact .refl r
  · exact .refl r

theorem BookOnly.of_keeps {r' : SubscriptionRegistry} (h : BookOnly r) (hk : KeepsBuilders r r') : BookOnly r' := by
  intro key b hb
  rcases hk key with hsame | hnone
  · exact h key b (hsame.symm.trans hb)
  · rw [hnone] at hb
    cases hb

/-- **A frame.** Its deltas find no gap open, and a gap open after it holds the book or is handed to
`recover_book_gap`. -/
theorem quiet_frame {json : Json} {w : Window} (hbook : BookOnly r)
    (hclean : ∀ data, BookFrame json "update" data → ¬ c.RepeatsAfterGap sym "update" r data) (hw : w ≠ none → Held sym r) :
    Quiet w (c.frameEvents sym r json) ∧ ((c.frameEvents sym r json).foldl Window.next w ≠ none →
      Held sym (c.routeTextFrame r json).1 ∨ sym ∈ (c.routeTextFrame r json).2.2) := by
  unfold frameEvents routeTextFrame
  cases hchannel : ((json.get? "channel").bind Json.asStr?).bind fromWireStr with
  | none => exact ⟨trivial, fun h => .inl (hw h)⟩
  | some channel =>
    cases htype : (json.get? "type").bind Json.asStr? with
    | none => exact ⟨trivial, fun h => .inl (hw h)⟩
    | some msgType =>
      dsimp only
      by_cases hdata : msgType ≠ "update" ∧ msgType ≠ "snapshot"
      · rw [if_pos hdata, if_pos hdata]
        exact ⟨trivial, fun h => .inl (hw h)⟩
      · rw [if_neg hdata, if_neg hdata]
        have hkeep := builderAt_sequenceCheck c channel msgType r json
        have hw' : w ≠ none → Held sym (c.sequenceCheck channel msgType r json).1 := fun hne => (hw hne).of_keeps hkeep
        cases hentries : (json.get? "data").bind Json.asArray? with
        | none => exact ⟨trivial, fun h => .inl (hw' h)⟩
        | some data =>
          dsimp only
          by_cases hsnapshot : (msgType == "snapshot") = true
          · obtain ⟨h1, h2⟩ := quiet_snapshot c channel hsnapshot data (P := False) (hbook.of_keeps hkeep)
              fun hne => .inl (hw' hne)
            exact ⟨h1, fun hne => (h2 hne).imp_right fun h => h.resolve_left not_false⟩
          · have hupdate : msgType = "update" := by
              by_contra hne
              exact hdata ⟨hne, by simpa using hsnapshot⟩
            refine quiet_update (by simpa using hsnapshot) (hbook.of_keeps hkeep) ?_ hw'
            rintro rfl
            obtain ⟨name, hname, hwire⟩ := Option.bind_eq_some_iff.1 hchannel
            obtain rfl := eq_book_of_fromWireStr hwire
            subst hupdate
            have hsame : (c.sequenceCheck .book "update" r json).1 = r := by simp [sequenceCheck]
            rw [hsame]
            exact hclean data ⟨hname, htype, .inl rfl, hentries⟩

/-! ## The other operations -/

theorem resyncing_noteReseedTimeout {channel : ChannelName} {pair : Symbol} {key : EntryKey} {b' : OrderBookBuilder}
    (h : (r.noteReseedTimeout channel pair).1.builderAt key = some b') :
    ∃ b, r.builderAt key = some b ∧ b'.resyncing = b.resyncing := by
  unfold noteReseedTimeout at h
  split at h
  · exact ⟨b', h, rfl⟩
  · rename_i e he
    split_ifs at h
    · exact ⟨b', h, rfl⟩
    · split at h
      · exact ⟨b', h, rfl⟩
      · rename_i b hb
        split_ifs at h
        · exact ⟨b', h, rfl⟩
        · rw [builderAt_entryMut] at h
          split_ifs at h with hk
          · rw [he] at h
            cases h
          · exact ⟨b', h, rfl⟩
        · rw [builderAt_entryMut] at h
          split_ifs at h with hk
          · rw [he] at h
            obtain rfl := Option.some.inj h
            exact ⟨b, by rw [hk, builderAt, he]; exact hb, rfl⟩
          · exact ⟨b', h, rfl⟩

theorem resyncing_beginBookResync {channel : ChannelName} {pair : Symbol} {key : EntryKey} {b' : OrderBookBuilder}
    (h : (r.beginBookResync channel pair).builderAt key = some b') :
    (key = (channel, some pair) ∧ b'.resyncing = true ∧ ∃ b, r.builderAt key = some b) ∨
      (key ≠ (channel, some pair) ∧ r.builderAt key = some b') := by
  unfold beginBookResync at h
  rw [builderAt_entryMut] at h
  split_ifs at h with hk
  · obtain ⟨e, he, hmap⟩ := Option.bind_eq_some_iff.1 h
    obtain ⟨b, hb, rfl⟩ := Option.map_eq_some_iff.1 hmap
    exact .inl ⟨hk, rfl, b, by rw [hk, builderAt, he]; exact hb⟩
  · exact .inr ⟨hk, h⟩

/-- After `recover_book_gap` of its own gap, or of any other, a held book is held. -/
theorem held_resyncs {gaps : List Symbol} (h : Held sym r ∨ sym ∈ gaps) :
    Held sym (gaps.foldl (·.beginBookResync .book ·) r) := by
  induction gaps generalizing r with
  | nil => exact h.resolve_right List.not_mem_nil
  | cons pair gaps ih =>
    have hone : ∀ b, (r.beginBookResync .book pair).builderAt (bookKey sym) = some b →
        b.resyncing = true ∨ (sym ≠ pair ∧ r.builderAt (bookKey sym) = some b) := by
      intro b hb
      rcases resyncing_beginBookResync hb with ⟨-, hres, -⟩ | ⟨hne, hb'⟩
      · exact .inl hres
      · exact .inr ⟨fun heq => hne (by rw [heq]; rfl), hb'⟩
    rw [List.foldl_cons]
    apply ih
    rcases h with hheld | hmem
    · left
      intro b hb
      exact (hone b hb).elim id fun h => hheld b h.2
    · rcases List.mem_cons.1 hmem with rfl | hmem
      · left
        intro b hb
        exact (hone b hb).resolve_right fun h => h.1 rfl
      · exact .inr hmem

theorem bookOnly_apply (fromStr : String → Option Decimal) (h : BookOnly r) (op : RegistryOp) :
    BookOnly (r.apply fromStr op) := by
  cases op with
  | register url channel pair params now guardBacked =>
    intro key b hb
    rw [show (r.apply fromStr (.register url channel pair params now guardBacked)).builderAt key = _ from
      builderAt_register r url channel pair params now guardBacked key] at hb
    split_ifs at hb with hstart
    · rw [hstart.1]
      unfold SubscriptionEntry.seedBuilder at hb
      split at hb
      · rfl
      · cases hb
    · exact h key b hb
  | release key => exact h.of_keeps (.releaseInner r key true)
  | recordGuardRef handlerId key => exact h.of_keeps (.recordGuardRef r handlerId key)
  | releaseGuardRef handlerId key => exact h.of_keeps (.releaseGuardRef r handlerId key)
  | deregister key => exact h.of_keeps (.deregister r key)
  | deregisterAll channel => exact h.of_keeps (.deregisterAll r channel)
  | noteAcked key => exact h.of_keeps (.noteAcked r key)
  | noteTerminated key cause lastError => exact h.of_keeps (.noteTerminated r key cause lastError)
  | noteSequence channel seq isSnapshot => exact h.of_keeps (.noteSequence r channel seq isSnapshot)
  | handleUpdate key isSnapshot data =>
    intro key' b hb
    rw [show (r.apply fromStr (.handleUpdate key isSnapshot data)).builderAt key' = _ from
      handleUpdate_builderAt fromStr r key key' isSnapshot data] at hb
    split_ifs at hb with hkey
    · subst hkey
      obtain ⟨b₀, hb₀, -⟩ := Option.bind_eq_some_iff.1 hb
      exact h _ b₀ hb₀
    · exact h key' b hb
  | beginBookResync channel pair =>
    intro key b hb
    rcases resyncing_beginBookResync hb with ⟨-, -, b₀, hb₀⟩ | ⟨-, hb₀⟩
    · exact h key b₀ hb₀
    · exact h key b hb₀
  | noteReseedTimeout channel pair =>
    intro key b hb
    obtain ⟨b₀, hb₀, -⟩ := resyncing_noteReseedTimeout hb
    exact h key b₀ hb₀

theorem bookOnly_new : BookOnly .new := by
  rintro ⟨channel, _ | pair⟩ b hb
  · cases hb
  · cases hb

theorem bookOnly_of_opRun (h : OpRun .new r) : BookOnly r := h.invariant bookOnly_new fun _ op h _ => bookOnly_apply op.1 h op.2

end Router

/-! ## Runs -/

namespace IoReactor

open Router (Held bookOnly_of_opRun)

variable (sym : Symbol)

/-- What an arm does to the book of the pair. -/
def armEvents (s : IoReactor) (l : ArmLabel) : List BookEvent :=
  match l.arm with
  | .textFrame url json =>
    if (s.sockets url).isSome && s.IsData l.env url json then l.env.router.frameEvents sym s.registry json else []
  | .timer url event => if s.reseedFired url event = some sym then [.timeout] else []
  | _ => []

/-- One of the registrations of a batch starts the book entry of the pair: there is none, or one without a holder. -/
def StartsBook (env : ArmEnv) (url : WsUrl) (refId : Option HandlerId) : SubscriptionRegistry → List Registration → Prop
  | _, [] => False
  | r, reg :: regs =>
    (bookKey sym = (reg.channel, reg.pair) ∧ r.Starts (bookKey sym)) ∨
      StartsBook env url refId (registryAfter r env url refId reg) regs

/-- A reactor and the window of the pair's last gap. -/
abbrev Watched := IoReactor × Window

def watch (p : Watched) (l : ArmLabel) : Watched := (p.1.step l, (armEvents sym p.1 l).foldl Window.next p.2)

/-- The arm lets no delta into a window: an update frame carries no readable entry of the pair after one that
reports a gap, and the book's entry is not started anew while its gap is open. -/
def CleanArm (p : Watched) (l : ArmLabel) : Prop :=
  match l.arm with
  | .textFrame url json => (p.1.sockets url).isSome → p.1.IsData l.env url json = true →
      ∀ data, Router.BookFrame json "update" data → ¬ l.env.router.RepeatsAfterGap sym "update" p.1.registry data
  | .registerBatch url entries refId => p.2 ≠ none → ¬ StartsBook sym l.env url refId p.1.registry entries
  | _ => True

/-- What the trace of one pair says, over a run. -/
def bookTrace (s : IoReactor) (ls : List ArmLabel) : List BookEvent := StepSystem.along step (armEvents sym) s ls

/-- While a gap is open the book lets no delta in. -/
structure Guarded (p : Watched) : Prop where
  ops : p.1.FromOps
  held : p.2 ≠ none → Held sym p.1.registry

variable {sym} {r : SubscriptionRegistry}

theorem held_registryAfter {env : ArmEnv} {url : WsUrl} {refId : Option HandlerId} {reg : Registration} (h : Held sym r)
    (hstart : ¬ (bookKey sym = (reg.channel, reg.pair) ∧ r.Starts (bookKey sym))) :
    Held sym (registryAfter r env url refId reg) := by
  have hreg := builderAt_register r url reg.channel reg.pair reg.params env.now refId.isSome (bookKey sym)
  rw [if_neg hstart] at hreg
  refine h.of_builderAt (Eq.trans ?_ hreg)
  unfold registryAfter builderAt
  cases refId with
  | none => rfl
  | some id => exact congrArg (·.bind (·.builder)) (entry_recordGuardRef _ _ _ _)

theorem held_registerBatch {env : ArmEnv} {url : WsUrl} {refId : Option HandlerId} {regs : List Registration}
    (h : Held sym r) (hstart : ¬ StartsBook sym env url refId r regs) :
    Held sym (regs.foldl (fun r reg => registryAfter r env url refId reg) r) := by
  induction regs generalizing r with
  | nil => exact h
  | cons reg regs ih =>
    rw [StartsBook, not_or] at hstart
    exact ih (held_registryAfter h hstart.1) hstart.2

theorem keepsBuilders_foldl {α : Type} {f : SubscriptionRegistry → α → SubscriptionRegistry}
    (hf : ∀ r a, KeepsBuilders r (f r a)) (r : SubscriptionRegistry) (l : List α) : KeepsBuilders r (l.foldl f r) := by
  induction l generalizing r with
  | nil => exact .refl r
  | cons a l ih => exact (hf r a).trans (ih _)

/-- An arm that shows the book nothing and keeps or drops its builder. -/
theorem quiet_of_keeps {s : IoReactor} {w : Window} {l : ArmLabel} (h : Guarded sym (s, w)) (hops : (s.step l).FromOps)
    (hev : armEvents sym s l = []) (hk : KeepsBuilders s.registry (s.step l).registry) :
    Quiet w (armEvents sym s l) ∧ Guarded sym (watch sym (s, w) l) := by
  rw [watch, hev]
  exact ⟨trivial, hops, fun hne => (h.held hne).of_keeps hk⟩

theorem quiet_textFrame {s : IoReactor} {w : Window} {env : ArmEnv} {url : WsUrl} {json : Json} (h : Guarded sym (s, w))
    (hops : (s.step ⟨env, .textFrame url json⟩).FromOps) (hclean : CleanArm sym (s, w) ⟨env, .textFrame url json⟩) :
    Quiet w (armEvents sym s ⟨env, .textFrame url json⟩) ∧ Guarded sym (watch sym (s, w) ⟨env, .textFrame url json⟩) := by
  have hreg : (s.step ⟨env, .textFrame url json⟩).registry =
      if (s.sockets url).isSome then (s.textFrame env url json).registry else s.registry := registry_whenMapped ..
  by_cases hmap : (s.sockets url).isSome
  · rw [if_pos hmap] at hreg
    by_cases hdata : s.IsData env url json = true
    · have hev : armEvents sym s ⟨env, .textFrame url json⟩ = env.router.frameEvents sym s.registry json := by
        simp only [armEvents, hmap, hdata, Bool.and_self, if_true]
      obtain ⟨hquiet, hafter⟩ := Router.quiet_frame (bookOnly_of_opRun h.ops) (hclean hmap hdata) h.held
      rw [watch, hev]
      refine ⟨hquiet, hops, fun hne => ?_⟩
      show Held sym (s.step ⟨env, .textFrame url json⟩).registry
      rw [hreg, registry_textFrame_data s env url hdata]
      exact Router.held_resyncs (hafter hne)
    · refine quiet_of_keeps h hops (by simp [armEvents, hdata]) ?_
      rw [hreg]
      rcases registry_textFrame_consumed s env url (by simpa using hdata) with hr | ⟨key, hr⟩ | ⟨key, cause, lastError, hr⟩
      · rw [hr]
        exact .refl _
      · rw [hr]
        exact .noteAcked _ key
      · rw [hr]
        exact .noteTerminated _ key cause lastError
  · rw [if_neg hmap] at hreg
    refine quiet_of_keeps h hops (by simp [armEvents, hmap]) ?_
    rw [hreg]
    exact .refl _

theorem quiet_timer {s : IoReactor} {w : Window} {env : ArmEnv} {url : WsUrl} {event : FsmEvent} (h : Guarded sym (s, w))
    (hops : (s.step ⟨env, .timer url event⟩).FromOps) :
    Quiet w (armEvents sym s ⟨env, .timer url event⟩) ∧ Guarded sym (watch sym (s, w) ⟨env, .timer url event⟩) := by
  have hreg : (s.step ⟨env, .timer url event⟩).registry = _ := registry_timer s env url event
  by_cases hfired : s.reseedFired url event = some sym
  · have hev : armEvents sym s ⟨env, .timer url event⟩ = [.timeout] := if_pos hfired
    rw [watch, hev]
    exact ⟨⟨nofun, nofun, trivial⟩, hops, fun hne => absurd rfl hne⟩
  · have hev : armEvents sym s ⟨env, .timer url event⟩ = [] := if_neg hfired
    rw [watch, hev]
    refine ⟨trivial, hops, fun hne => ?_⟩
    show Held sym (s.step ⟨env, .timer url event⟩).registry
    rw [hreg]
    cases s.reseedFired url event with
    | none => exact h.held hne
    | some symbol =>
      intro b hb
      obtain ⟨b₀, hb₀, hres⟩ := Router.resyncing_noteReseedTimeout hb
      rw [hres]
      exact h.held hne b₀ hb₀

/-- The step lemma. -/
theorem quiet_step {p : Watched} {l : ArmLabel} (h : Guarded sym p) (hclean : CleanArm sym p l) :
    Quiet p.2 (armEvents sym p.1 l) ∧ Guarded sym (watch sym p l) := by
  obtain ⟨s, w⟩ := p
  obtain ⟨env, arm⟩ := l
  obtain ⟨hops, hheld⟩ := h
  have hops' : (s.step ⟨env, arm⟩).FromOps := hops.trans (opRun_step _)
  have hguard : Guarded sym (s, w) := ⟨hops, hheld⟩
  by_cases hl : leavesRegistry arm = true
  · have hev : armEvents sym s ⟨env, arm⟩ = [] := by cases arm <;> first | rfl | cases hl
    exact quiet_of_keeps hguard hops' hev (by rw [registry_step hl]; exact .refl _)
  · cases arm with
    | registerBatch url entries refId =>
      refine ⟨trivial, hops', fun hne => ?_⟩
      show Held sym (s.registerBatch env url refId entries).registry
      rw [registry_registerBatch]
      exact held_registerBatch (hheld hne) (hclean hne)
    | deregister channel pair =>
      refine quiet_of_keeps hguard hops' rfl ?_
      simp only [step]
      rw [registry_deregisterOne]
      exact .releaseInner _ _ true
    | deregisterAll channel =>
      refine quiet_of_keeps hguard hops' rfl ?_
      simp only [step]
      rw [registry_deregisterAll]
      exact .deregisterAll _ _
    | guardDrop handlerId channel symbols =>
      refine quiet_of_keeps hguard hops' rfl ?_
      simp only [step]
      rw [registry_guardDrop]
      exact keepsBuilders_foldl (fun r key => .releaseGuardRef r handlerId key) _ _
    | textFrame url json => exact quiet_textFrame hguard hops' hclean
    | timer url event => exact quiet_timer hguard hops'
    | _ => exact absurd rfl hl

/-- **No delta into a window.** In every run whose arms are clean for the pair, after a `Gap` no delta is folded
into the pair's book and no second resubscribe is scheduled until a snapshot is applied or the reseed timer
fires. -/
theorem noFold_of_clean (sym : Symbol) (knobs : Knobs) (ls : List ArmLabel)
    (hclean : StepSystem.Allowed (watch sym) (CleanArm sym) (init knobs, none) ls) :
    NoFoldInWindow (bookTrace sym (init knobs) ls) := by
  have hrun : ∀ (ls : List ArmLabel) (p : Watched), Guarded sym p → StepSystem.Allowed (watch sym) (CleanArm sym) p ls →
      Quiet p.2 (bookTrace sym p.1 ls) := by
    intro ls
    induction ls with
    | nil => exact fun p _ _ => trivial
    | cons l ls ih =>
      rintro p hp ⟨hl, hls⟩
      obtain ⟨hquiet, hp'⟩ := quiet_step hp hl
      exact (quiet_append _ _ _).2 ⟨hquiet, ih (watch sym p l) hp' hls⟩
  exact noFold_of_quiet (hrun ls (init knobs, none) ⟨fromOps_run knobs [], fun h => absurd rfl h⟩ hclean)

/-! ## A gap and the next frame, and a gap and the next entry -/

/-- An entry that misses its checksum. -/
def badEntry : Json := .obj [("symbol", .str "BTC/USD"), ("checksum", .num "7")]

def updateFrame (data : List Json) : Json := .obj [("channel", .str "book"), ("type", .str "update"), ("data", .arr data)]

/-- A `BTC/USD` book is registered; then come these update frames. -/
def bookRun (frames : List (List Json)) : List ArmLabel :=
  ⟨bringUpEnv 1, .registerBatch .publicUrl [⟨.book, some "BTC/USD", .book .d10⟩] none⟩ ::
    frames.map fun data => ⟨bringUpEnv 1, .textFrame .publicUrl (updateFrame data)⟩

/-- One entry a frame: the second is dropped. -/
theorem noFold_of_clean_bookRun :
    NoFoldInWindow (bookTrace "BTC/USD" (init (bringUpEnv 0).knobs) (bookRun [[badEntry], [badEntry]])) := by
  have hframe : ∀ (r : SubscriptionRegistry) data, Router.BookFrame (updateFrame [badEntry]) "update" data →
      ¬ (bringUpEnv 1).router.RepeatsAfterGap "BTC/USD" "update" r data := by
    rintro r data ⟨-, -, -, hentries⟩
    obtain rfl : [badEntry] = data := Option.some.inj hentries
    rintro (⟨-, later, hlater, -⟩ | h)
    · cases hlater
    · exact h
  exact noFold_of_clean _ _ _ ⟨fun h => absurd rfl h, fun _ _ => hframe _, fun _ _ => hframe _, trivial⟩

/-- Both entries in one frame: the second is folded and counted, and a second resubscribe scheduled. -/
theorem oneFrame_folds : ¬ ∀ (sym : Symbol) (knobs : Knobs) (ls : List ArmLabel), NoFoldInWindow (bookTrace sym (init knobs) ls) := by
  intro h
  have htrace : bookTrace "BTC/USD" (init (bringUpEnv 0).knobs) (bookRun [[badEntry, badEntry]]) =
      [.delta, .gap, .scheduled, .delta, .gap, .scheduled] := by decide +kernel
  have hno := h "BTC/USD" (bringUpEnv 0).knobs (bookRun [[badEntry, badEntry]])
  rw [htrace] at hno
  exact (hno [.delta] [.scheduled, .delta] [.gap, .scheduled] rfl (by decide)).1 (by decide)

end IoReactor

end KrakenSdk.Dispatch
