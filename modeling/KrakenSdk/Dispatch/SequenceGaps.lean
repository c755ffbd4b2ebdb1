import KrakenSdk.Dispatch.FrameRouting
/-!
# Sequence gaps on the account channels (frame_routing.rs:646-658, subscription_registry.rs:120-136)

Every data frame of `executions` or `balances` shows its sequence to the tracker of the channel-wide entry before
anything of it is decoded. `sequenceGaps_accounted`: over any frames, those of other channels in between, each frame
reports what lies between its sequence and the one before, and after a snapshot the reports add up.
-/
namespace KrakenSdk.Dispatch

open KrakenSdk.Conn

variable {P : Type*}

/-- The counts that `ChannelGapEvent` reports for a channel. -/
def droppedCounts (channel : ChannelName) (effects : List (RouteEffect P)) : List Nat :=
  effects.filterMap fun
    | .channelGap ch dropped => if ch = channel then some dropped else none
    | _ => none

/-- The sequence of a data frame of the channel, and whether the frame is a snapshot. -/
def frameSequence (channel : ChannelName) (json : Json) : Option (Nat × Bool) :=
  match ((json.get? "channel").bind Json.asStr?).bind fromWireStr, (json.get? "type").bind Json.asStr? with
  | some ch, some msgType =>
    if ch = channel ∧ (msgType = "update" ∨ msgType = "snapshot") then
      ((json.get? "sequence").bind Json.asU64?).map (·, msgType == "snapshot")
    else none
  | _, _ => none

/-- The frames in order, each with the handlers and decoders of its time. -/
def routeFrames : SubscriptionRegistry → List (Router P × Json) → SubscriptionRegistry × List (RouteEffect P)
  | r, [] => (r, [])
  | r, (c, json) :: frames =>
    let (r, effects, _) := c.routeTextFrame r json
    let (r, effects') := routeFrames r frames
    (r, effects ++ effects')

/-- The sequences of the channel, in order. -/
def sequences (channel : ChannelName) (frames : List (Router P × Json)) : List (Nat × Bool) :=
  frames.filterMap fun f => frameSequence channel f.2

/-- The tracker of the channel-wide entry. -/
def trackerOf (r : SubscriptionRegistry) (channel : ChannelName) : Option SequenceTracker :=
  (r.entry (channel, none)).map (·.seqTracker)

/-! ## What leaves the tracker alone -/

theorem seqTracker_driveUpdate (fromStr : String → Option Book.Decimal) (e : SubscriptionEntry) (isSnapshot : Bool)
    (data : Json) : (e.driveUpdate fromStr isSnapshot data).1.seqTracker = e.seqTracker := by
  unfold SubscriptionEntry.driveUpdate
  split
  · rfl
  · split <;> rfl

theorem trackerOf_handleUpdate (fromStr : String → Option Book.Decimal) (r : SubscriptionRegistry) (key : EntryKey)
    (isSnapshot : Bool) (data : Json) (channel : ChannelName) :
    trackerOf (r.handleUpdate fromStr key isSnapshot data).1 channel = trackerOf r channel := by
  unfold SubscriptionRegistry.handleUpdate trackerOf
  cases he : r.entry key with
  | none => rfl
  | some e =>
    dsimp only
    rw [SubscriptionRegistry.entry_entryMut]
    by_cases hk : (channel, none) = key
    · rw [if_pos hk, hk, he, Option.map_some, Option.map_some, Option.map_some, seqTracker_driveUpdate]
    · rw [if_neg hk]

theorem trackerOf_routeEntries (c : Router P) (ch : ChannelName) (msgType : String) (r : SubscriptionRegistry)
    (entries : List Json) (channel : ChannelName) :
    trackerOf (c.routeEntries ch msgType r entries).1 channel = trackerOf r channel := by
  induction entries generalizing r with
  | nil => rfl
  | cons entry entries ih =>
    simp only [Router.routeEntries, Router.routeEntry]
    rw [ih, trackerOf_handleUpdate]

theorem droppedCounts_append (channel : ChannelName) (es es' : List (RouteEffect P)) :
    droppedCounts channel (es ++ es') = droppedCounts channel es ++ droppedCounts channel es' := List.filterMap_append

/-- The fan-out reports no sequence gap. -/
theorem droppedCounts_fanOut (c : Router P) (ch : ChannelName) (symbol : Option Symbol) (outcome : BookDriveOutcome)
    (msgType : String) (entry : Json) (fan channel : ChannelName) :
    droppedCounts channel (c.fanOut ch symbol outcome msgType entry fan) = [] := by
  have hpub : ∀ (fan : ChannelName) (hs : List (HandlerEntry Unit)) (payload : DataPayload P),
      droppedCounts channel (Router.publishAll fan hs payload) = [] := by
    intro fan hs payload
    refine List.filterMap_eq_nil_iff.2 fun e he => ?_
    obtain ⟨h, -, rfl⟩ := List.mem_map.1 he
    rfl
  unfold Router.fanOut
  split
  · rfl
  · split
    · split <;> rfl
    · split
      · split
        · exact hpub _ _ _
        · rfl
      · split
        · rfl
        · split
          · exact hpub _ _ _
          · split <;> rfl
          · rfl

theorem droppedCounts_gapEvents (c : Router P) (symbol : Option Symbol) (outcome : BookDriveOutcome)
    (channel : ChannelName) : droppedCounts channel (c.gapEvents symbol outcome).1 = [] := by
  unfold Router.gapEvents
  cases outcome with
  | passThrough | maintained _ | awaitingSnapshot => rfl
  | gap _ _ | gapBudgetExhausted =>
    cases symbol with
    | none => rfl
    | some sym =>
      dsimp only
      split <;> rfl

theorem droppedCounts_routeEntries (c : Router P) (ch : ChannelName) (msgType : String) (r : SubscriptionRegistry)
    (entries : List Json) (channel : ChannelName) :
    droppedCounts channel (c.routeEntries ch msgType r entries).2.1 = [] := by
  induction entries generalizing r with
  | nil => rfl
  | cons entry entries ih =>
    have hfan : ∀ targets : List ChannelName, droppedCounts channel (targets.flatMap
        (c.fanOut ch (Router.routingSymbol entry) (r.handleUpdate c.fromStr (ch, Router.routingSymbol entry)
          (msgType == "snapshot") entry).2 msgType entry)) = [] := by
      intro targets
      induction targets with
      | nil => rfl
      | cons fan targets ih => rw [List.flatMap_cons, droppedCounts_append, droppedCounts_fanOut, ih, List.append_nil]
    simp only [Router.routeEntries, Router.routeEntry]
    rw [droppedCounts_append, droppedCounts_append, droppedCounts_gapEvents, hfan, ih]
    rfl

/-! ## One frame -/

/-- The sequence check of a frame, as it shows on a channel. -/
theorem sequenceCheck_spec {c : Router P} (halive : c.busAlive = true) {channel : ChannelName}
    (haccount : channel = .executions ∨ channel = .balances) {r : SubscriptionRegistry} {t : SequenceTracker}
    (ht : trackerOf r channel = some t) (ch : ChannelName) (msgType : String) (json : Json) :
    let seen := if ch = channel then ((json.get? "sequence").bind Json.asU64?).map (·, msgType == "snapshot") else none
    trackerOf (c.sequenceCheck ch msgType r json).1 channel = some ((seen.map (·.1)).or t) ∧
      droppedCounts channel (c.sequenceCheck ch msgType r json).2 =
        (seen.bind fun s => (t.observe s.1 s.2).2).toList := by
  unfold Router.sequenceCheck
  by_cases hch : ch = channel
  · subst hch
    rw [if_pos haccount, if_pos rfl]
    cases hseq : (json.get? "sequence").bind Json.asU64? with
    | none => exact ⟨ht, rfl⟩
    | some seq =>
      obtain ⟨e, he, rfl⟩ := Option.map_eq_some_iff.mp ht
      have hnote : r.noteSequence ch seq (msgType == "snapshot") =
          (r.entryMut (ch, none) ({ · with seqTracker := some seq }),
            (e.seqTracker.observe seq (msgType == "snapshot")).2) := by
        unfold SubscriptionRegistry.noteSequence
        rw [he]
        rfl
      simp only [hnote, Option.map_some, Option.bind_some]
      constructor
      · rw [trackerOf, SubscriptionRegistry.entry_entryMut, if_pos rfl, he]
        rfl
      · cases (e.seqTracker.observe seq (msgType == "snapshot")).2 with
        | none => rfl
        | some dropped => simp [droppedCounts, halive]
  · rw [if_neg hch]
    split
    · cases hseq : (json.get? "sequence").bind Json.asU64? with
      | none => exact ⟨ht, rfl⟩
      | some seq =>
        have hframe : trackerOf (r.noteSequence ch seq (msgType == "snapshot")).1 channel = trackerOf r channel := by
          unfold SubscriptionRegistry.noteSequence trackerOf
          cases r.entry (ch, none) with
          | none => rfl
          | some e =>
            dsimp only
            rw [SubscriptionRegistry.entry_entryMut, if_neg (by simpa using Ne.symm hch)]
        refine ⟨hframe.trans ht, ?_⟩
        dsimp only
        cases (r.noteSequence ch seq (msgType == "snapshot")).2 with
        | none => rfl
        | some dropped => simp [droppedCounts, hch]
    · exact ⟨ht, rfl⟩

/-- **What one frame does to the tracker and what it reports.** -/
theorem routeTextFrame_sequence {c : Router P} (halive : c.busAlive = true) {channel : ChannelName}
    (haccount : channel = .executions ∨ channel = .balances) {r : SubscriptionRegistry} {t : SequenceTracker}
    (ht : trackerOf r channel = some t) (json : Json) :
    trackerOf (c.routeTextFrame r json).1 channel = some (((frameSequence channel json).map (·.1)).or t) ∧
      droppedCounts channel (c.routeTextFrame r json).2.1 =
        ((frameSequence channel json).bind fun s => (t.observe s.1 s.2).2).toList := by
  unfold Router.routeTextFrame frameSequence
  cases hch : ((json.get? "channel").bind Json.asStr?).bind fromWireStr with
  | none => exact ⟨ht, rfl⟩
  | some ch =>
    cases htype : (json.get? "type").bind Json.asStr? with
    | none => exact ⟨ht, rfl⟩
    | some msgType =>
      dsimp only
      by_cases hdata : msgType = "update" ∨ msgType = "snapshot"
      · have hspec := sequenceCheck_spec (c := c) halive haccount ht ch msgType json
        have hneg : ¬ (msgType ≠ "update" ∧ msgType ≠ "snapshot") := by
          rintro ⟨h1, h2⟩
          exact hdata.elim h1 h2
        simp only [hdata, and_true] at hspec ⊢
        rw [if_neg hneg]
        cases (json.get? "data").bind Json.asArray? with
        | none =>
          dsimp only
          rw [droppedCounts_append]
          exact ⟨hspec.1, (List.append_nil _).trans hspec.2⟩
        | some data =>
          dsimp only
          rw [droppedCounts_append, droppedCounts_routeEntries, trackerOf_routeEntries, List.append_nil]
          exact hspec
      · have hpos : msgType ≠ "update" ∧ msgType ≠ "snapshot" := not_or.mp hdata
        rw [if_pos hpos, if_neg (fun h => hdata h.2)]
        exact ⟨ht, rfl⟩

/-! ## Any frames -/

/-- The tracker holds the last sequence seen. -/
theorem trackerOf_routeFrames {channel : ChannelName} (haccount : channel = .executions ∨ channel = .balances)
    {frames : List (Router P × Json)} (halive : ∀ f ∈ frames, f.1.busAlive = true) {r : SubscriptionRegistry}
    {t : SequenceTracker} (ht : trackerOf r channel = some t) :
    trackerOf (routeFrames r frames).1 channel = some (((sequences channel frames).getLast?.map (·.1)).or t) := by
  induction frames generalizing r t with
  | nil => exact ht
  | cons f frames ih =>
    obtain ⟨c, json⟩ := f
    have hstep := (routeTextFrame_sequence (halive _ List.mem_cons_self) haccount ht json).1
    have hrest := ih (fun f hf => halive f (List.mem_cons_of_mem _ hf)) hstep
    change trackerOf (routeFrames (c.routeTextFrame r json).1 frames).1 channel = _
    rw [hrest]
    unfold sequences
    rw [List.filterMap_cons]
    cases frameSequence channel json with
    | none => rfl
    | some s =>
      cases hlast : (List.filterMap (fun f : Router P × Json => frameSequence channel f.2) frames).getLast? with
      | none =>
        rw [List.getLast?_eq_none_iff] at hlast
        rw [hlast]
        rfl
      | some last =>
        simp [List.getLast?_cons, hlast]

/-- The reports of frames one after the other. -/
theorem droppedCounts_routeFrames_cons (channel : ChannelName) (r : SubscriptionRegistry) (f : Router P × Json)
    (frames : List (Router P × Json)) :
    droppedCounts channel (routeFrames r (f :: frames)).2 =
      droppedCounts channel (f.1.routeTextFrame r f.2).2.1 ++
        droppedCounts channel (routeFrames (f.1.routeTextFrame r f.2).1 frames).2 := droppedCounts_append _ _ _

/-- From a sequence on, strictly increasing updates report together what they leave out. -/
theorem sum_droppedCounts {channel : ChannelName} (haccount : channel = .executions ∨ channel = .balances)
    {frames : List (Router P × Json)} (halive : ∀ f ∈ frames, f.1.busAlive = true) {r : SubscriptionRegistry}
    {last : Nat} (ht : trackerOf r channel = some (some last))
    (hupdates : ∀ s ∈ sequences channel frames, s.2 = false)
    (hchain : (last :: (sequences channel frames).map (·.1)).IsChain fun a b => a < b ∧ b - a < 2 ^ 32) :
    (droppedCounts channel (routeFrames r frames).2).sum + (sequences channel frames).length + last =
      (((sequences channel frames).map (·.1)).getLast?).getD last := by
  induction frames generalizing r last with
  | nil => simp [routeFrames, droppedCounts, sequences]
  | cons f frames ih =>
    obtain ⟨c, json⟩ := f
    obtain ⟨hnext, hreport⟩ := routeTextFrame_sequence (halive _ List.mem_cons_self) haccount ht json
    have hrest := @ih (fun f hf => halive f (List.mem_cons_of_mem _ hf)) (c.routeTextFrame r json).1
    rw [droppedCounts_routeFrames_cons, List.sum_append, hreport]
    unfold sequences at *
    rw [List.filterMap_cons] at *
    cases hs : frameSequence channel json with
    | none =>
      rw [hs] at hnext hupdates hchain
      simpa using hrest hnext hupdates hchain
    | some s =>
      obtain ⟨seq, isSnapshot⟩ := s
      rw [hs] at hnext hupdates hchain
      obtain rfl : isSnapshot = false := hupdates _ List.mem_cons_self
      rw [List.map_cons, List.isChain_cons_cons] at hchain
      obtain ⟨⟨hlt, hstep⟩, hchain⟩ := hchain
      have hsum := hrest hnext (fun s hs => hupdates s (List.mem_cons_of_mem _ hs)) hchain
      dsimp only at hsum hlt hstep
      have hseen : (((SequenceTracker.observe (some last) seq false).2).toList).sum = seq - last - 1 := by
        unfold SequenceTracker.observe
        by_cases hgap : last + 1 < seq
        · have hfits : min (seq - last - 1) u32Max = seq - last - 1 := Nat.min_eq_left (by unfold u32Max; omega)
          simp [hgap, hfits]
        · simp [hgap]
          omega
      simp only [Option.bind_some, hseen, List.length_cons, List.map_cons, List.getLast?_cons, Option.getD_some]
      omega

/-- The counts the frame reports for the channel when it is routed after `pre`. -/
def reportedAfter (channel : ChannelName) (r : SubscriptionRegistry) (pre : List (Router P × Json))
    (f : Router P × Json) : List Nat :=
  droppedCounts channel (f.1.routeTextFrame (routeFrames r pre).1 f.2).2.1

/-- What one frame owes after the frames before it: nothing if it is of another channel, has no sequence or is a
snapshot; nothing if its sequence is the successor of the previous one or does not exceed it; else what lies between. -/
structure FrameAccounted (channel : ChannelName) (r : SubscriptionRegistry) (pre : List (Router P × Json))
    (f : Router P × Json) : Prop where
  other : frameSequence channel f.2 = none → reportedAfter channel r pre f = []
  snapshot : ∀ seq, frameSequence channel f.2 = some (seq, true) → reportedAfter channel r pre f = []
  noJump : ∀ seq prev, frameSequence channel f.2 = some (seq, false) →
    (sequences channel pre).getLast?.map (·.1) = some prev → seq ≤ prev + 1 → reportedAfter channel r pre f = []
  jump : ∀ seq prev, frameSequence channel f.2 = some (seq, false) →
    (sequences channel pre).getLast?.map (·.1) = some prev → prev + 1 < seq → seq - prev < 2 ^ 32 →
    reportedAfter channel r pre f = [seq - prev - 1]

theorem frameAccounted {channel : ChannelName} (haccount : channel = .executions ∨ channel = .balances)
    {r : SubscriptionRegistry} {t : SequenceTracker} (ht : trackerOf r channel = some t)
    {pre : List (Router P × Json)} (hpre : ∀ f ∈ pre, f.1.busAlive = true) {f : Router P × Json}
    (hf : f.1.busAlive = true) : FrameAccounted channel r pre f := by
  have hreport : reportedAfter channel r pre f = _ :=
    (routeTextFrame_sequence hf haccount (trackerOf_routeFrames haccount hpre ht) f.2).2
  constructor
  · intro hs
    rw [hreport, hs]
    rfl
  · intro seq hs
    rw [hreport, hs]
    rfl
  · intro seq prev hs hprev hle
    have hnot : ¬ prev + 1 < seq := Nat.not_lt.mpr hle
    rw [hreport, hs, hprev]
    simp [SequenceTracker.observe, hnot]
  · intro seq prev hs hprev hlt hstep
    have hfits : min (seq - prev - 1) u32Max = seq - prev - 1 := Nat.min_eq_left (by unfold u32Max; omega)
    rw [hreport, hs, hprev]
    simp [SequenceTracker.observe, hlt, hfits]

/-- **Sequence gaps are accounted exactly.** Over any frames routed while the channel-wide entry is there: every frame
reports what it owes; and from any snapshot on, as long as updates with increasing sequences follow, the reports add
up to the last sequence less the snapshot's and less the number of updates. -/
theorem sequenceGaps_accounted (channel : ChannelName) (haccount : channel = .executions ∨ channel = .balances)
    (r : SubscriptionRegistry) (hentry : (r.entry (channel, none)).isSome) (frames : List (Router P × Json))
    (halive : ∀ f ∈ frames, f.1.busAlive = true) :
    (∀ pre f post, frames = pre ++ f :: post → FrameAccounted channel r pre f) ∧
    ∀ pre snapshot updates post s0, frames = pre ++ snapshot :: (updates ++ post) →
      frameSequence channel snapshot.2 = some (s0, true) → (∀ s ∈ sequences channel updates, s.2 = false) →
      (s0 :: (sequences channel updates).map (·.1)).IsChain (fun a b => a < b ∧ b - a < 2 ^ 32) →
      (droppedCounts channel (routeFrames (routeFrames r (pre ++ [snapshot])).1 updates).2).sum =
        ((((sequences channel updates).map (·.1)).getLast?).getD s0 - s0) - (sequences channel updates).length := by
  obtain ⟨e, he⟩ := Option.isSome_iff_exists.mp hentry
  have ht : trackerOf r channel = some e.seqTracker := by rw [trackerOf, he, Option.map_some]
  constructor
  · rintro pre f post rfl
    exact frameAccounted haccount ht (fun g hg => halive g (List.mem_append_left _ hg))
      (halive f (List.mem_append_right _ List.mem_cons_self))
  · rintro pre snapshot updates post s0 rfl hsnap hupdates hchain
    have hmem : ∀ g ∈ pre ++ [snapshot], g.1.busAlive = true := by
      intro g hg
      apply halive
      simp only [List.mem_append, List.mem_cons, List.not_mem_nil, or_false] at hg ⊢
      exact hg.imp_right .inl
    have hseen : sequences channel (pre ++ [snapshot]) = sequences channel pre ++ [(s0, true)] := by
      simp [sequences, hsnap]
    have hlast : trackerOf (routeFrames r (pre ++ [snapshot])).1 channel = some (some s0) := by
      rw [trackerOf_routeFrames haccount hmem ht, hseen, List.getLast?_concat]
      rfl
    have hsum := sum_droppedCounts haccount
      (fun g hg => halive g (List.mem_append_right _ (List.mem_cons_of_mem _ (List.mem_append_left _ hg))))
      hlast hupdates hchain
    omega

/-- The registry with the executions entry and nothing else. -/
def executionsRegistry : SubscriptionRegistry :=
  (SubscriptionRegistry.new.register (.new .authUrl .executions none .executions) 0 false).1

/-- A router without handlers whose bus lives. -/
def idleRouter : Router Unit := ⟨fun _ => none, fun _ _ => .decodeFailed, .new ∅, true⟩

def executionsFrame (msgType : String) (sequence : String) : Router Unit × Json :=
  (idleRouter, .obj [("channel", .str "executions"), ("type", .str msgType), ("sequence", .num sequence)])

theorem sequenceGaps_accounted_executions :
    (∀ pre f post, [executionsFrame "snapshot" "5", executionsFrame "update" "6", executionsFrame "update" "9"] =
      pre ++ f :: post → FrameAccounted .executions executionsRegistry pre f) ∧
    ∀ pre snapshot updates post s0,
      [executionsFrame "snapshot" "5", executionsFrame "update" "6", executionsFrame "update" "9"] =
        pre ++ snapshot :: (updates ++ post) →
      frameSequence .executions snapshot.2 = some (s0, true) →
      (∀ s ∈ sequences .executions updates, s.2 = false) →
      (s0 :: (sequences .executions updates).map (·.1)).IsChain (fun a b => a < b ∧ b - a < 2 ^ 32) →
      (droppedCounts .executions (routeFrames (routeFrames executionsRegistry (pre ++ [snapshot])).1 updates).2).sum =
        ((((sequences .executions updates).map (·.1)).getLast?).getD s0 - s0) -
          (sequences .executions updates).length :=
  sequenceGaps_accounted .executions (.inl rfl) executionsRegistry (by decide) _ (by
    intro f hf
    simp only [List.mem_cons, List.not_mem_nil, or_false] at hf
    rcases hf with rfl | rfl | rfl <;> rfl)

example : droppedCounts .executions (routeFrames executionsRegistry
    [executionsFrame "snapshot" "5", executionsFrame "update" "6", executionsFrame "update" "9"]).2 = [2] := by
  decide +kernel

end KrakenSdk.Dispatch
