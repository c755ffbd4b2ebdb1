import KrakenSdk.Conn.RegistryCoherence
/-!
# Bounded recovery of a maintained book

A CRC mismatch (`drive_update`) and a missed reseed snapshot (`note_reseed_timeout`) count on one
streak, `consecutive_gaps` of the builder, which `begin_resync` keeps and only a validating apply
resets.

**`bounded_recovery`**: over any sequence of registry operations, at most
`MAX_CONSECUTIVE_BOOK_GAPS - 1` failures of a pair's book are answered by another try before one
validates, the next one ends maintenance, and then frames pass through until a registration starts
the entry anew. `gapsAt` reads the streak; `Streak` is what the outcomes alone say about it.
-/
namespace KrakenSdk.Conn

open KrakenSdk.Book (OrderBookBuilder OrderBookUpdate ParsedBook ApplyError Decimal parseBookFrame)
open StepSystem

/-! ## One frame -/

/-- The book a parsed frame leads to, by snapshot or by delta. -/
def applyFrame (b : OrderBookBuilder) (isSnapshot : Bool) (parsed : ParsedBook) :
    OrderBookBuilder × Except ApplyError Unit :=
  if isSnapshot then b.applySnapshot parsed.bids parsed.asks parsed.checksum
  else b.applyDelta parsed.bids parsed.asks parsed.checksum

/-- The frame gets as far as the book: no resync window holds it back, it parses, and it names the
book's symbol. -/
def ReachesBook (fromStr : String → Option Decimal) (b : OrderBookBuilder) (isSnapshot : Bool) (data : Json)
    (parsed : ParsedBook) : Prop :=
  (b.resyncing = true → isSnapshot = true) ∧ parseBookFrame fromStr data = some parsed ∧ parsed.symbol = b.symbol

/-- What a validation leaves: the streak reset, or one longer with the mismatch. -/
theorem validateAndRecord_cases (b : OrderBookBuilder) (expected : Nat) :
    ((b.validateAndRecord expected).2 = .ok () ∧ (b.validateAndRecord expected).1.computeChecksum = expected ∧
      (b.validateAndRecord expected).1.consecutiveGaps = 0) ∨
    (∃ computed, (b.validateAndRecord expected).2 = .error (.checksumMismatch expected computed) ∧
      (b.validateAndRecord expected).1.computeChecksum ≠ expected ∧
      (b.validateAndRecord expected).1.consecutiveGaps = satAdd32 b.consecutiveGaps 1) := by
  unfold OrderBookBuilder.validateAndRecord
  dsimp only
  by_cases h : b.computeChecksum = expected
  · rw [if_neg (not_not.2 h)]
    exact .inl ⟨rfl, h, rfl⟩
  · rw [if_pos h]
    exact .inr ⟨_, rfl, h, rfl⟩

/-- An apply is a validation of the trimmed book, whose streak is still the one from before. -/
theorem applyFrame_eq (b : OrderBookBuilder) (isSnapshot : Bool) (parsed : ParsedBook) :
    ∃ b₁ : OrderBookBuilder, b₁.consecutiveGaps = b.consecutiveGaps ∧ b₁.symbol = b.symbol ∧
      applyFrame b isSnapshot parsed = b₁.validateAndRecord parsed.checksum := by
  cases isSnapshot
  · refine ⟨_, ?_, ?_, rfl⟩ <;> rfl
  · refine ⟨_, ?_, ?_, rfl⟩ <;> rfl

theorem applyFrame_cases (b : OrderBookBuilder) (isSnapshot : Bool) (parsed : ParsedBook) :
    ((applyFrame b isSnapshot parsed).2 = .ok () ∧
      (applyFrame b isSnapshot parsed).1.computeChecksum = parsed.checksum ∧
      (applyFrame b isSnapshot parsed).1.consecutiveGaps = 0) ∨
    (∃ computed, (applyFrame b isSnapshot parsed).2 = .error (.checksumMismatch parsed.checksum computed) ∧
      (applyFrame b isSnapshot parsed).1.computeChecksum ≠ parsed.checksum ∧
      (applyFrame b isSnapshot parsed).1.consecutiveGaps = satAdd32 b.consecutiveGaps 1) := by
  obtain ⟨b₁, hgaps, -, heq⟩ := applyFrame_eq b isSnapshot parsed
  rw [heq, ← hgaps]
  exact validateAndRecord_cases b₁ parsed.checksum

/-- What `drive_update` does with a frame that gets as far as the book. -/
theorem driveBuilder_reaches {fromStr : String → Option Decimal} {b : OrderBookBuilder} {isSnapshot : Bool}
    {data : Json} {parsed : ParsedBook} (h : ReachesBook fromStr b isSnapshot data parsed) :
    SubscriptionEntry.driveBuilder fromStr b isSnapshot data =
      ((applyFrame b isSnapshot parsed).1, match (applyFrame b isSnapshot parsed).2 with
        | .ok () => .maintained ((applyFrame b isSnapshot parsed).1.buildUpdate parsed.checksum none parsed.timestamp)
        | .error (.checksumMismatch expected computed) =>
          if maxConsecutiveBookGaps ≤ (applyFrame b isSnapshot parsed).1.consecutiveGaps then .gapBudgetExhausted
          else .gap expected computed) := by
  obtain ⟨hwindow, hparse, hsym⟩ := h
  have hno : ¬ (b.resyncing && !isSnapshot) = true := by
    cases hb : b.resyncing with
    | false => simp
    | true => simp [hwindow hb]
  rw [SubscriptionEntry.driveBuilder, if_neg hno, hparse]
  dsimp only
  rw [if_neg (not_not.2 hsym)]
  have hif : (if isSnapshot then b.applySnapshot parsed.bids parsed.asks parsed.checksum
      else b.applyDelta parsed.bids parsed.asks parsed.checksum) = applyFrame b isSnapshot parsed := rfl
  rw [hif]
  cases hres : (applyFrame b isSnapshot parsed).2 with
  | ok u => rfl
  | error e =>
    obtain ⟨expected, computed⟩ := e
    dsimp only
    by_cases hmax : maxConsecutiveBookGaps ≤ (applyFrame b isSnapshot parsed).1.consecutiveGaps
    · rw [if_pos hmax, if_pos hmax]
    · rw [if_neg hmax, if_neg hmax]

/-- A frame that does not get as far leaves the book alone and is no failure. -/
theorem driveBuilder_stops {fromStr : String → Option Decimal} {b : OrderBookBuilder} {isSnapshot : Bool}
    {data : Json} (h : ∀ parsed, ¬ ReachesBook fromStr b isSnapshot data parsed) :
    SubscriptionEntry.driveBuilder fromStr b isSnapshot data = (b, .awaitingSnapshot) ∨
      SubscriptionEntry.driveBuilder fromStr b isSnapshot data = (b, .passThrough) := by
  unfold SubscriptionEntry.driveBuilder
  by_cases hwindow : (b.resyncing && !isSnapshot) = true
  · rw [if_pos hwindow]
    exact .inl rfl
  · rw [if_neg hwindow]
    refine .inr ?_
    cases hparse : parseBookFrame fromStr data with
    | none => rfl
    | some parsed =>
      dsimp only
      by_cases hsym : parsed.symbol = b.symbol
      · refine absurd ⟨fun hb => ?_, hparse, hsym⟩ (h parsed)
        simpa [hb] using hwindow
      · rw [if_pos hsym]

namespace SubscriptionRegistry

/-! ## The builder of one key -/

/-- The builder of the entry at `key`. -/
def builderAt (r : SubscriptionRegistry) (key : EntryKey) : Option OrderBookBuilder :=
  (r.entry key).bind (·.builder)

/-- Every key keeps its builder or loses it. -/
def KeepsBuilders (r r' : SubscriptionRegistry) : Prop :=
  ∀ key, r'.builderAt key = r.builderAt key ∨ r'.builderAt key = none

namespace KeepsBuilders

variable {r r' r'' : SubscriptionRegistry}

theorem refl (r : SubscriptionRegistry) : KeepsBuilders r r := fun _ => .inl rfl

theorem trans (h : KeepsBuilders r r') (h' : KeepsBuilders r' r'') : KeepsBuilders r r'' := by
  intro key
  rcases h' key with h1 | h1
  · rcases h key with h2 | h2
    · exact .inl (h1.trans h2)
    · exact .inr (h1.trans h2)
  · exact .inr h1

/-- It is enough that every slot is kept, lost or changed in other fields. -/
theorem of_slots (h : ∀ key, r'.entry key = r.entry key ∨ r'.entry key = none) : KeepsBuilders r r' := by
  intro key
  rcases h key with h1 | h1
  · exact .inl (by rw [builderAt, h1, builderAt])
  · exact .inr (by rw [builderAt, h1, Option.bind_none])

theorem entryMut (r : SubscriptionRegistry) (key : EntryKey) {f : SubscriptionEntry → SubscriptionEntry}
    (hf : ∀ e, (f e).builder = e.builder) : KeepsBuilders r (r.entryMut key f) := by
  intro key'
  refine .inl ?_
  unfold builderAt
  rw [entry_entryMut]
  by_cases hk : key' = key
  · rw [if_pos hk, hk]
    cases r.entry key with
    | none => rfl
    | some e => exact hf e
  · rw [if_neg hk]

theorem bumpEpoch (r : SubscriptionRegistry) : KeepsBuilders r r.bumpEpoch := of_slots fun _ => .inl rfl

theorem mirrorWrite (r : SubscriptionRegistry) (f : SubscriptionMirror → SubscriptionMirror) :
    KeepsBuilders r (r.mirrorWrite f) := of_slots fun key => .inl (entry_mirrorWrite r f key)

theorem deregister (r : SubscriptionRegistry) (key : EntryKey) : KeepsBuilders r (r.deregister key) := by
  refine of_slots fun key' => ?_
  rw [entry_deregister]
  by_cases hk : key' = key
  · rw [if_pos hk]
    exact .inr rfl
  · rw [if_neg hk]
    exact .inl rfl

theorem releaseInner (r : SubscriptionRegistry) (key : EntryKey) (allowCredit : Bool) :
    KeepsBuilders r (r.releaseInner key allowCredit).1 := by
  unfold SubscriptionRegistry.releaseInner
  split
  · exact refl r
  · split
    · exact entryMut r key fun _ => rfl
    split
    · exact refl r
    split
    · dsimp only
      split
      · refine KeepsBuilders.trans ?_ (deregister _ key)
        exact entryMut r key fun _ => rfl
      · exact entryMut r key fun _ => rfl
    · dsimp only
      split
      · refine (bumpEpoch r).trans (KeepsBuilders.trans ?_ (deregister _ key))
        exact entryMut _ key fun _ => rfl
      · exact (bumpEpoch r).trans (entryMut _ key fun _ => rfl)

theorem releaseGuardRef (r : SubscriptionRegistry) (handlerId : HandlerId) (key : EntryKey) :
    KeepsBuilders r (r.releaseGuardRef handlerId key).1 := by
  have hrefs : KeepsBuilders r { r with guardRefs := r.guardRefs.erase (handlerId, key) } := of_slots fun _ => .inl rfl
  unfold SubscriptionRegistry.releaseGuardRef
  dsimp only
  split
  · split
    · exact hrefs
    · exact hrefs.trans (releaseInner _ key false)
  · exact hrefs.trans (releaseInner _ key false)

theorem recordGuardRef (r : SubscriptionRegistry) (handlerId : HandlerId) (key : EntryKey) :
    KeepsBuilders r (r.recordGuardRef handlerId key) := by
  unfold SubscriptionRegistry.recordGuardRef
  split
  · exact of_slots fun _ => .inl rfl
  · exact refl r

theorem deregisterAll (r : SubscriptionRegistry) (channel : Option ChannelName) :
    KeepsBuilders r (r.deregisterAll channel).1 := by
  cases channel with
  | none =>
    refine KeepsBuilders.trans ?_ (mirrorWrite { r.bumpEpoch with channelWide := ∅, entries := ∅ } _)
    exact of_slots fun ⟨ch, pair⟩ => .inr (by cases pair <;> rfl)
  | some ch =>
    refine KeepsBuilders.trans ?_ (mirrorWrite
      { r.bumpEpoch with channelWide := r.channelWide.erase ch, entries := r.entries.erase ch } _)
    refine of_slots fun ⟨ch', pair⟩ => ?_
    by_cases hch : ch' = ch
    · refine .inr ?_
      cases pair with
      | none => exact (HashMap.lookup_erase_ite ..).trans (if_pos hch)
      | some sym => simp only [entry, HashMap.lookup₂, HashMap.lookup_erase_ite, if_pos hch, Option.bind_none]
    · refine .inl ?_
      cases pair with
      | none => exact (HashMap.lookup_erase_ite ..).trans (if_neg hch)
      | some sym => simp only [entry, HashMap.lookup₂, HashMap.lookup_erase_ite, if_neg hch]

theorem noteAcked (r : SubscriptionRegistry) (key : EntryKey) : KeepsBuilders r (r.noteAcked key) := by
  unfold SubscriptionRegistry.noteAcked
  split
  · split
    · refine KeepsBuilders.trans ?_ (mirrorWrite _ _)
      exact entryMut r key fun _ => rfl
    · exact refl r
  · exact refl r

theorem noteTerminated (r : SubscriptionRegistry) (key : EntryKey) (cause : TerminationCause)
    (lastError : Option String) : KeepsBuilders r (r.noteTerminated key cause lastError) := by
  unfold SubscriptionRegistry.noteTerminated
  split
  · split
    · exact refl r
    · refine KeepsBuilders.trans (KeepsBuilders.trans ?_ (bumpEpoch _)) (mirrorWrite _ _)
      exact entryMut r key fun _ => rfl
  · exact refl r

theorem noteSequence (r : SubscriptionRegistry) (channel : ChannelName) (seq : Nat) (isSnapshot : Bool) :
    KeepsBuilders r (r.noteSequence channel seq isSnapshot).1 := by
  unfold SubscriptionRegistry.noteSequence
  split
  · exact refl r
  · exact entryMut r _ fun _ => rfl

end KeepsBuilders

/-- A registration starts the entry of its key: there is none, or one without a holder. -/
def Starts (r : SubscriptionRegistry) (key : EntryKey) : Prop := ∀ e, r.entry key = some e → e.count = 0

instance (r : SubscriptionRegistry) (key : EntryKey) : Decidable (r.Starts key) :=
  decidable_of_iff ((r.entry key).all (·.count = 0) = true) (by
    unfold Starts
    cases r.entry key <;> simp)

theorem builder_registered (r : SubscriptionRegistry) (entry : SubscriptionEntry) (guardBacked : Bool) :
    (r.registered entry guardBacked).builder =
      if r.Starts entry.key then entry.builder else r.builderAt entry.key := by
  rcases Option.eq_none_or_eq_some (r.entry entry.key) with he | ⟨e, he⟩
  · simp [registered, Starts, he]
  · by_cases hc : e.count = 0
    · simp [registered, Starts, he, hc]
    · simp [registered, Starts, builderAt, he, hc]

theorem builderAt_register (r : SubscriptionRegistry) (url : WsUrl) (channel : ChannelName) (pair : Option Symbol)
    (params : SubscribeParams) (now : MonotonicInstant) (guardBacked : Bool) (key : EntryKey) :
    (r.register (.new url channel pair params) now guardBacked).1.builderAt key =
      if key = (channel, pair) ∧ r.Starts key then SubscriptionEntry.seedBuilder channel pair params
      else r.builderAt key := by
  have hkey : (SubscriptionEntry.new url channel pair params).key = (channel, pair) := rfl
  rw [builderAt, entry_register, hkey]
  by_cases hk : key = (channel, pair)
  · subst hk
    rw [if_pos rfl, Option.bind_some, builder_registered, hkey]
    simp only [true_and]
    rfl
  · rw [if_neg hk, if_neg (fun h => hk h.1), builderAt]

theorem builderAt_entryMut (r : SubscriptionRegistry) (key key' : EntryKey) (f : SubscriptionEntry → SubscriptionEntry) :
    (r.entryMut key f).builderAt key' =
      if key' = key then (r.entry key).bind fun e => (f e).builder else r.builderAt key' := by
  unfold builderAt
  rw [entry_entryMut]
  by_cases hk : key' = key
  · rw [if_pos hk, if_pos hk, Option.bind_map]
    rfl
  · rw [if_neg hk, if_neg hk]

theorem handleUpdate_builderAt (fromStr : String → Option Decimal) (r : SubscriptionRegistry) (key key' : EntryKey)
    (isSnapshot : Bool) (data : Json) :
    (r.handleUpdate fromStr key isSnapshot data).1.builderAt key' =
      if key' = key then (r.builderAt key).bind fun b =>
        match SubscriptionEntry.driveBuilder fromStr b isSnapshot data with
        | (_, .gapBudgetExhausted) => none
        | (b, _) => some b
      else r.builderAt key' := by
  unfold handleUpdate
  rcases Option.eq_none_or_eq_some (r.entry key) with he | ⟨e, he⟩
  · have hnone : r.builderAt key = none := by rw [builderAt, he, Option.bind_none]
    rw [he, hnone, Option.bind_none]
    dsimp only
    by_cases hk : key' = key
    · rw [if_pos hk, hk, hnone]
    · rw [if_neg hk]
  · have hb : r.builderAt key = e.builder := by rw [builderAt, he, Option.bind_some]
    rw [he, hb]
    dsimp only
    rw [builderAt_entryMut, he, Option.bind_some]
    by_cases hk : key' = key
    · rw [if_pos hk, if_pos hk]
      unfold SubscriptionEntry.driveUpdate
      cases hbuilder : e.builder with
      | none => exact hbuilder
      | some b =>
        dsimp only [Option.bind_some]
        generalize SubscriptionEntry.driveBuilder fromStr b isSnapshot data = driven
        obtain ⟨b', outcome⟩ := driven
        cases outcome <;> rfl
    · rw [if_neg hk, if_neg hk]

theorem handleUpdate_outcome (fromStr : String → Option Decimal) (r : SubscriptionRegistry) (key : EntryKey)
    (isSnapshot : Bool) (data : Json) :
    (r.handleUpdate fromStr key isSnapshot data).2 = match r.builderAt key with
      | none => .passThrough
      | some b => (SubscriptionEntry.driveBuilder fromStr b isSnapshot data).2 := by
  unfold handleUpdate builderAt
  rcases Option.eq_none_or_eq_some (r.entry key) with he | ⟨e, he⟩
  · rw [he]
    rfl
  · rw [he, Option.bind_some]
    dsimp only
    unfold SubscriptionEntry.driveUpdate
    cases e.builder with
    | none => rfl
    | some b =>
      dsimp only
      generalize SubscriptionEntry.driveBuilder fromStr b isSnapshot data = driven
      obtain ⟨b', outcome⟩ := driven
      cases outcome <;> rfl

/-- **A `Maintained` update is the validated book's**: the frame's own checksum is the one computed over
the book the update was built from. -/
theorem handleUpdate_maintained {fromStr : String → Option Decimal} {r : SubscriptionRegistry} {key : EntryKey}
    {isSnapshot : Bool} {data : Json} {update : OrderBookUpdate}
    (h : (r.handleUpdate fromStr key isSnapshot data).2 = .maintained update) :
    ∃ b b' parsed, r.builderAt key = some b ∧ ReachesBook fromStr b isSnapshot data parsed ∧
      (r.handleUpdate fromStr key isSnapshot data).1.builderAt key = some b' ∧
      b'.computeChecksum = parsed.checksum ∧ update = b'.buildUpdate parsed.checksum none parsed.timestamp := by
  rw [handleUpdate_outcome] at h
  have hat := handleUpdate_builderAt fromStr r key key isSnapshot data
  rw [if_pos rfl] at hat
  cases hb : r.builderAt key with
  | none =>
    rw [hb] at h
    cases h
  | some b =>
    rw [hb] at h hat
    dsimp only [Option.bind_some] at h hat
    by_cases hreach : ∃ parsed, ReachesBook fromStr b isSnapshot data parsed
    · obtain ⟨parsed, hreach⟩ := hreach
      rw [driveBuilder_reaches hreach] at h hat
      rcases applyFrame_cases b isSnapshot parsed with ⟨hok, hcrc, -⟩ | ⟨computed, herr, -, -⟩
      · rw [hok] at h hat
        exact ⟨b, _, parsed, rfl, hreach, hat, hcrc, (BookDriveOutcome.maintained.inj h).symm⟩
      · rw [herr] at h
        dsimp only at h
        split at h <;> cases h
    · rcases driveBuilder_stops (not_exists.1 hreach) with hstop | hstop
      · rw [hstop] at h
        cases h
      · rw [hstop] at h
        cases h

end SubscriptionRegistry

/-! ## Outcomes -/

/-- What an operation reports about the book of one pair. -/
inductive RecoveryOutcome where
  | drove (outcome : BookDriveOutcome)
  | timedOut (outcome : ReseedTimeoutOutcome)
  /-- A registration started the entry. -/
  | started
  | silent

namespace RecoveryOutcome

/-- `Gap` or `Retry`. -/
def retried : RecoveryOutcome → Bool
  | .drove (.gap _ _) | .timedOut .retry => true
  | _ => false

/-- `GapBudgetExhausted` or `Exhausted`. -/
def exhausted : RecoveryOutcome → Bool
  | .drove .gapBudgetExhausted | .timedOut .exhausted => true
  | _ => false

/-- `Maintained`. -/
def maintained : RecoveryOutcome → Bool
  | .drove (.maintained _) => true
  | _ => false

/-- The streak begins again: a book validated or the entry was started. -/
def resets : RecoveryOutcome → Bool
  | .drove (.maintained _) | .started => true
  | _ => false

/-- What an entry without a builder answers. -/
def idle : RecoveryOutcome → Bool
  | .drove .passThrough | .timedOut .staleNoOp | .silent => true
  | _ => false

end RecoveryOutcome

/-- The key a pair's book has. -/
def bookKey (sym : Symbol) : EntryKey := (.book, some sym)

namespace SubscriptionRegistry

/-- The outcome of `op` for the book of `sym`. -/
def outcomeAt (fromStr : String → Option Decimal) (sym : Symbol) (r : SubscriptionRegistry) : RegistryOp → RecoveryOutcome
  | .handleUpdate key isSnapshot data =>
    if key = bookKey sym then .drove (r.handleUpdate fromStr key isSnapshot data).2 else .silent
  | .noteReseedTimeout channel pair =>
    if (channel, some pair) = bookKey sym then .timedOut (r.noteReseedTimeout channel pair).2 else .silent
  | .register _ channel pair _ _ _ =>
    if bookKey sym = (channel, pair) ∧ r.Starts (bookKey sym) then .started else .silent
  | _ => .silent

/-- The operation is a failure of the book of `sym`: a frame that gets as far as the book and misses
its checksum, or a reseed timer that finds a live book still waiting for its snapshot. -/
def Fails (fromStr : String → Option Decimal) (sym : Symbol) (r : SubscriptionRegistry) : RegistryOp → Prop
  | .handleUpdate key isSnapshot data =>
    key = bookKey sym ∧ ∃ b parsed, r.builderAt key = some b ∧ ReachesBook fromStr b isSnapshot data parsed ∧
      (applyFrame b isSnapshot parsed).1.computeChecksum ≠ parsed.checksum
  | .noteReseedTimeout channel pair =>
    (channel, some pair) = bookKey sym ∧ ∃ e b, r.entry (bookKey sym) = some e ∧ e.isTombstone = false ∧
      e.builder = some b ∧ b.resyncing = true
  | _ => False

/-! ## What one operation does to the book of a pair -/

/-- The ways an operation can meet the book of `sym`. -/
inductive RecoveryStep (fromStr : String → Option Decimal) (sym : Symbol) (r : SubscriptionRegistry) (op : RegistryOp) :
    Prop
  | starts (ho : r.outcomeAt fromStr sym op = .started) (hf : ¬ r.Fails fromStr sym op)
      (hb : ∀ b', (r.apply fromStr op).builderAt (bookKey sym) = some b' → b'.consecutiveGaps = 0)
  | leaves (ho : (r.outcomeAt fromStr sym op).idle = true ∨ r.outcomeAt fromStr sym op = .drove .awaitingSnapshot)
      (hf : ¬ r.Fails fromStr sym op)
      (hb : ∀ b', (r.apply fromStr op).builderAt (bookKey sym) = some b' →
        ∃ b, r.builderAt (bookKey sym) = some b ∧ b'.consecutiveGaps = b.consecutiveGaps)
      (hn : r.builderAt (bookKey sym) = none → (r.outcomeAt fromStr sym op).idle = true)
  | validates {b b' : OrderBookBuilder} {update : OrderBookUpdate}
      (ho : r.outcomeAt fromStr sym op = .drove (.maintained update)) (hf : ¬ r.Fails fromStr sym op)
      (hb : r.builderAt (bookKey sym) = some b) (hb' : (r.apply fromStr op).builderAt (bookKey sym) = some b')
      (hg : b'.consecutiveGaps = 0)
  | fails {b : OrderBookBuilder} (hf : r.Fails fromStr sym op) (hb : r.builderAt (bookKey sym) = some b)
      (hend : maxConsecutiveBookGaps ≤ satAdd32 b.consecutiveGaps 1 →
        (r.outcomeAt fromStr sym op).exhausted = true ∧ (r.apply fromStr op).builderAt (bookKey sym) = none)
      (hretry : satAdd32 b.consecutiveGaps 1 < maxConsecutiveBookGaps →
        (r.outcomeAt fromStr sym op).retried = true ∧
          ∃ b', (r.apply fromStr op).builderAt (bookKey sym) = some b' ∧
            b'.consecutiveGaps = satAdd32 b.consecutiveGaps 1)

variable {fromStr : String → Option Decimal} {sym : Symbol} {r : SubscriptionRegistry}

/-- An operation that keeps the builders and reports nothing. -/
theorem RecoveryStep.of_keeps {op : RegistryOp} (h : KeepsBuilders r (r.apply fromStr op))
    (ho : r.outcomeAt fromStr sym op = .silent) (hf : ¬ r.Fails fromStr sym op) : RecoveryStep fromStr sym r op := by
  refine .leaves (.inl (by rw [ho]; rfl)) hf (fun b' hb' => ?_) (fun _ => by rw [ho]; rfl)
  rcases h (bookKey sym) with hk | hk
  · exact ⟨b', hk.symm.trans hb', rfl⟩
  · rw [hk] at hb'
    cases hb'

theorem recoveryStep_handleUpdate (key : EntryKey) (isSnapshot : Bool) (data : Json) :
    RecoveryStep fromStr sym r (.handleUpdate key isSnapshot data) := by
  by_cases hk : key = bookKey sym
  · subst hk
    have ho : r.outcomeAt fromStr sym (.handleUpdate (bookKey sym) isSnapshot data) =
        .drove (r.handleUpdate fromStr (bookKey sym) isSnapshot data).2 := if_pos rfl
    rw [handleUpdate_outcome] at ho
    have hat : (r.apply fromStr (.handleUpdate (bookKey sym) isSnapshot data)).builderAt (bookKey sym) = _ :=
      (handleUpdate_builderAt fromStr r (bookKey sym) (bookKey sym) isSnapshot data).trans (if_pos rfl)
    cases hb : r.builderAt (bookKey sym) with
    | none =>
      rw [hb] at ho hat
      refine .leaves (.inl (by rw [ho]; rfl)) ?_ (fun b' hb' => ?_) (fun _ => by rw [ho]; rfl)
      · rintro ⟨-, b, parsed, hb', -⟩
        rw [hb] at hb'
        cases hb'
      · rw [hat] at hb'
        cases hb'
    | some b =>
      rw [hb] at ho hat
      dsimp only [Option.bind_some] at ho hat
      by_cases hreach : ∃ parsed, ReachesBook fromStr b isSnapshot data parsed
      · obtain ⟨parsed, hreach⟩ := hreach
        rw [driveBuilder_reaches hreach] at ho hat
        rcases applyFrame_cases b isSnapshot parsed with ⟨hok, hcrc, hgaps⟩ | ⟨computed, herr, hcrc, hgaps⟩
        · rw [hok] at ho hat
          refine .validates ho ?_ hb hat hgaps
          rintro ⟨-, b₁, parsed', hb₁, hreach', hne⟩
          obtain rfl := Option.some.inj (hb.symm.trans hb₁)
          obtain rfl := Option.some.inj (hreach.2.1.symm.trans hreach'.2.1)
          exact hne hcrc
        · rw [herr] at ho hat
          dsimp only at ho hat
          rw [hgaps] at ho hat
          refine .fails ⟨rfl, b, parsed, hb, hreach, hcrc⟩ hb (fun hmax => ?_) (fun hlt => ?_)
          · rw [if_pos hmax] at ho hat
            exact ⟨by rw [ho]; rfl, hat⟩
          · rw [if_neg (by omega)] at ho hat
            exact ⟨by rw [ho]; rfl, _, hat, hgaps⟩
      · have hno := not_exists.1 hreach
        have hfails : ¬ r.Fails fromStr sym (.handleUpdate (bookKey sym) isSnapshot data) := by
          rintro ⟨-, b₁, parsed, hb₁, hreach', -⟩
          obtain rfl := Option.some.inj (hb.symm.trans hb₁)
          exact hno parsed hreach'
        rcases driveBuilder_stops hno with hstop | hstop
        · rw [hstop] at ho hat
          refine .leaves (.inr ho) hfails (fun b' hb' => ?_) (fun hn => by rw [hb] at hn; cases hn)
          exact ⟨b, hb, by rw [← Option.some.inj (hat.symm.trans hb')]⟩
        · rw [hstop] at ho hat
          refine .leaves (.inl (by rw [ho]; rfl)) hfails (fun b' hb' => ?_) (fun hn => by rw [hb] at hn; cases hn)
          exact ⟨b, hb, by rw [← Option.some.inj (hat.symm.trans hb')]⟩
  · have hat : (r.apply fromStr (.handleUpdate key isSnapshot data)).builderAt (bookKey sym) = r.builderAt (bookKey sym) :=
      (handleUpdate_builderAt fromStr r key (bookKey sym) isSnapshot data).trans (if_neg fun h => hk h.symm)
    have ho : r.outcomeAt fromStr sym (.handleUpdate key isSnapshot data) = .silent := if_neg hk
    refine .leaves (.inl (by rw [ho]; rfl)) (fun h => hk h.1) (fun b' hb' => ?_) (fun _ => by rw [ho]; rfl)
    exact ⟨b', hat.symm.trans hb', rfl⟩

theorem recoveryStep_beginBookResync (channel : ChannelName) (pair : Symbol) :
    RecoveryStep fromStr sym r (.beginBookResync channel pair) := by
  have ho : r.outcomeAt fromStr sym (.beginBookResync channel pair) = .silent := rfl
  have hat := builderAt_entryMut r (channel, some pair) (bookKey sym) fun e => { e with builder := e.builder.map (·.beginResync) }
  refine .leaves (.inl (by rw [ho]; rfl)) (fun h => h) (fun b' hb' => ?_) (fun _ => by rw [ho]; rfl)
  change (r.beginBookResync channel pair).builderAt (bookKey sym) = some b' at hb'
  rw [beginBookResync, hat] at hb'
  by_cases hk : bookKey sym = (channel, some pair)
  · rw [if_pos hk] at hb'
    obtain ⟨e, he, hb'⟩ := Option.bind_eq_some_iff.1 hb'
    obtain ⟨b, hb, rfl⟩ := Option.map_eq_some_iff.1 hb'
    exact ⟨b, by rw [builderAt, hk, he, Option.bind_some, hb], rfl⟩
  · rw [if_neg hk] at hb'
    exact ⟨b', hb', rfl⟩

theorem recoveryStep_noteReseedTimeout (channel : ChannelName) (pair : Symbol) :
    RecoveryStep fromStr sym r (.noteReseedTimeout channel pair) := by
  by_cases hk : (channel, some pair) = bookKey sym
  · obtain ⟨rfl, hsym⟩ := Prod.mk.inj hk
    obtain rfl := Option.some.inj hsym
    have ho : r.outcomeAt fromStr pair (.noteReseedTimeout .book pair) = .timedOut (r.noteReseedTimeout .book pair).2 :=
      if_pos rfl
    have hat : (r.apply fromStr (.noteReseedTimeout .book pair)).builderAt (bookKey pair) =
      (r.noteReseedTimeout .book pair).1.builderAt (bookKey pair) := rfl
    -- the ways out that find nothing to count
    have hstale : r.noteReseedTimeout .book pair = (r, .staleNoOp) →
        ¬ r.Fails fromStr pair (.noteReseedTimeout .book pair) →
        RecoveryStep fromStr pair r (.noteReseedTimeout .book pair) := by
      intro h hf
      rw [h] at ho hat
      exact .leaves (.inl (by rw [ho]; rfl)) hf (fun b' hb' => ⟨b', hat.symm.trans hb', rfl⟩) (fun _ => by rw [ho]; rfl)
    rcases Option.eq_none_or_eq_some (r.entry (bookKey pair)) with he | ⟨e, he⟩
    · refine hstale (by simp only [noteReseedTimeout, show r.entry (.book, some pair) = none from he]) ?_
      rintro ⟨-, e, b, he', -⟩
      rw [he] at he'
      cases he'
    · have he₀ : r.entry (.book, some pair) = some e := he
      cases ht : e.isTombstone with
      | true =>
        refine hstale (by simp only [noteReseedTimeout, he₀, ht, if_true]) ?_
        rintro ⟨-, e', b, he', ht', -⟩
        obtain rfl := Option.some.inj (he.symm.trans he')
        rw [ht] at ht'
        cases ht'
      | false =>
        cases hbuilder : e.builder with
        | none =>
          refine hstale (by simp [noteReseedTimeout, he₀, ht, hbuilder]) ?_
          rintro ⟨-, e', b, he', -, hb', -⟩
          obtain rfl := Option.some.inj (he.symm.trans he')
          rw [hbuilder] at hb'
          cases hb'
        | some b =>
          cases hres : b.resyncing with
          | false =>
            refine hstale (by simp [noteReseedTimeout, he₀, ht, hbuilder, hres]) ?_
            rintro ⟨-, e', b', he', -, hb', hres'⟩
            obtain rfl := Option.some.inj (he.symm.trans he')
            obtain rfl := Option.some.inj (hbuilder.symm.trans hb')
            rw [hres] at hres'
            cases hres'
          | true =>
            have hcount : b.noteReseedFailure.consecutiveGaps = satAdd32 b.consecutiveGaps 1 := rfl
            have hwrite : ∀ builder, (r.entryMut (bookKey pair) ({ · with builder })).builderAt (bookKey pair) = builder := by
              intro builder
              rw [builderAt_entryMut, if_pos rfl, he]
              rfl
            refine .fails ⟨rfl, e, b, he, ht, hbuilder, hres⟩ (by rw [builderAt, he, Option.bind_some, hbuilder])
              (fun hmax => ?_) (fun hlt => ?_)
            · have hrun : r.noteReseedTimeout .book pair =
                  (r.entryMut (.book, some pair) ({ · with builder := none }), .exhausted) := by
                simp [noteReseedTimeout, he₀, ht, hbuilder, hres, hcount, hmax]
              rw [hrun] at ho hat
              exact ⟨by rw [ho]; rfl, hat.trans (hwrite none)⟩
            · have hrun : r.noteReseedTimeout .book pair =
                  (r.entryMut (.book, some pair) ({ · with builder := some b.noteReseedFailure }), .retry) := by
                simp [noteReseedTimeout, he₀, ht, hbuilder, hres, hcount, hlt]
              rw [hrun] at ho hat
              exact ⟨by rw [ho]; rfl, _, hat.trans (hwrite _), hcount⟩
  · have ho : r.outcomeAt fromStr sym (.noteReseedTimeout channel pair) = .silent := if_neg hk
    have hkeep : (r.noteReseedTimeout channel pair).1.builderAt (bookKey sym) = r.builderAt (bookKey sym) := by
      unfold noteReseedTimeout
      split
      · rfl
      · split
        · rfl
        · split
          · rfl
          · split
            · rfl
            · split
              · rw [builderAt_entryMut, if_neg fun h => hk h.symm]
              · rw [builderAt_entryMut, if_neg fun h => hk h.symm]
    refine .leaves (.inl (by rw [ho]; rfl)) (fun h => hk h.1) (fun b' hb' => ⟨b', hkeep.symm.trans hb', rfl⟩) (fun _ => by rw [ho]; rfl)

/-- A seeded builder has no failure behind it. -/
theorem seedBuilder_gaps {channel : ChannelName} {pair : Option Symbol} {params : SubscribeParams} {b : OrderBookBuilder}
    (h : SubscriptionEntry.seedBuilder channel pair params = some b) : b.consecutiveGaps = 0 := by
  unfold SubscriptionEntry.seedBuilder at h
  split at h
  · obtain rfl := Option.some.inj h
    rfl
  · cases h

theorem recoveryStep_register (url : WsUrl) (channel : ChannelName) (pair : Option Symbol) (params : SubscribeParams)
    (now : MonotonicInstant) (guardBacked : Bool) :
    RecoveryStep fromStr sym r (.register url channel pair params now guardBacked) := by
  have hat : (r.apply fromStr (.register url channel pair params now guardBacked)).builderAt (bookKey sym) = _ :=
    builderAt_register r url channel pair params now guardBacked (bookKey sym)
  by_cases hstart : bookKey sym = (channel, pair) ∧ r.Starts (bookKey sym)
  · rw [if_pos hstart] at hat
    refine .starts (if_pos hstart) (fun h => h) (fun b' hb' => ?_)
    exact seedBuilder_gaps (hat.symm.trans hb')
  · rw [if_neg hstart] at hat
    have ho : r.outcomeAt fromStr sym (.register url channel pair params now guardBacked) = .silent := if_neg hstart
    exact .leaves (.inl (by rw [ho]; rfl)) (fun h => h) (fun b' hb' => ⟨b', hat.symm.trans hb', rfl⟩) (fun _ => by rw [ho]; rfl)

/-- Every operation meets the book of `sym` in one of the four ways. -/
theorem recoveryStep (op : RegistryOp) : RecoveryStep fromStr sym r op := by
  cases op with
  | register url channel pair params now guardBacked => exact recoveryStep_register url channel pair params now guardBacked
  | release key => exact .of_keeps (.releaseInner r key true) rfl (fun h => h)
  | recordGuardRef handlerId key => exact .of_keeps (.recordGuardRef r handlerId key) rfl (fun h => h)
  | releaseGuardRef handlerId key => exact .of_keeps (.releaseGuardRef r handlerId key) rfl (fun h => h)
  | deregister key => exact .of_keeps (.deregister r key) rfl (fun h => h)
  | deregisterAll channel => exact .of_keeps (.deregisterAll r channel) rfl (fun h => h)
  | noteAcked key => exact .of_keeps (.noteAcked r key) rfl (fun h => h)
  | noteTerminated key cause lastError => exact .of_keeps (.noteTerminated r key cause lastError) rfl (fun h => h)
  | handleUpdate key isSnapshot data => exact recoveryStep_handleUpdate key isSnapshot data
  | beginBookResync channel pair => exact recoveryStep_beginBookResync channel pair
  | noteReseedTimeout channel pair => exact recoveryStep_noteReseedTimeout channel pair
  | noteSequence channel seq isSnapshot => exact .of_keeps (.noteSequence r channel seq isSnapshot) rfl (fun h => h)

end SubscriptionRegistry

/-! ## The streak -/

/-- What the outcomes so far say: how many failures were answered by another try since a book last
validated or the entry was started, and whether maintenance has ended. -/
structure Streak where
  failures : Nat := 0
  ended : Bool := false

namespace Streak

/-- One outcome more. -/
def note (s : Streak) (o : RecoveryOutcome) : Streak :=
  if o.resets then {}
  else if o.retried then { s with failures := s.failures + 1 }
  else if o.exhausted then { s with ended := true }
  else s

/-- The streak of a list of outcomes. -/
def of (os : List RecoveryOutcome) : Streak := os.foldl note {}

@[simp] theorem of_append_one (os : List RecoveryOutcome) (o : RecoveryOutcome) : of (os ++ [o]) = (of os).note o := by
  rw [of, List.foldl_append, List.foldl_cons, List.foldl_nil, of]

theorem note_idle {o : RecoveryOutcome} (h : o.idle = true ∨ o = .drove .awaitingSnapshot) (s : Streak) : s.note o = s := by
  rcases h with h | rfl
  · cases o with
    | drove x => cases x <;> first | rfl | cases h
    | timedOut x => cases x <;> first | rfl | cases h
    | started => cases h
    | silent => rfl
  · rfl

theorem resets_of_retried {o : RecoveryOutcome} (h : o.retried = true) : o.resets = false := by
  cases o with
  | drove x => cases x <;> first | rfl | cases h
  | timedOut x => rfl
  | started => cases h
  | silent => rfl

theorem of_exhausted {o : RecoveryOutcome} (h : o.exhausted = true) : o.resets = false ∧ o.retried = false := by
  cases o with
  | drove x => cases x <;> first | exact ⟨rfl, rfl⟩ | cases h
  | timedOut x => cases x <;> first | exact ⟨rfl, rfl⟩ | cases h
  | started => cases h
  | silent => cases h

theorem note_retried {o : RecoveryOutcome} (h : o.retried = true) (s : Streak) :
    s.note o = { s with failures := s.failures + 1 } := by simp [note, resets_of_retried h, h]

theorem note_exhausted {o : RecoveryOutcome} (h : o.exhausted = true) (s : Streak) :
    s.note o = { s with ended := true } := by simp [note, of_exhausted h, h]

/-- Outcomes that do not reset are all on the streak. -/
theorem countP_le (pre mid : List RecoveryOutcome) (h : ∀ o ∈ mid, o.resets = false) :
    mid.countP (·.retried) ≤ (of (pre ++ mid)).failures := by
  induction mid using List.reverseRecOn with
  | nil => simp
  | append_singleton mid o ih =>
    have hle := ih fun o' ho' => h o' (by simp [ho'])
    have ho := h o (by simp)
    rw [← List.append_assoc, of_append_one, List.countP_append, List.countP_singleton]
    unfold note
    rw [ho, if_neg Bool.false_ne_true]
    by_cases hr : o.retried = true
    · rw [if_pos hr, if_pos hr]
      simp only
      omega
    · rw [if_neg hr, if_neg hr]
      split <;> simpa using hle

end Streak

/-- What the streak allows an operation to report. -/
structure Answered (s : Streak) (o : RecoveryOutcome) : Prop where
  retried : o.retried = true → s.failures + 1 < maxConsecutiveBookGaps ∧ s.ended = false
  exhausted : o.exhausted = true → s.failures + 1 = maxConsecutiveBookGaps ∧ s.ended = false
  ended : s.ended = true → o.idle = true ∨ o = .started

namespace SubscriptionRegistry

variable {fromStr : String → Option Decimal} {sym : Symbol} {r : SubscriptionRegistry}

/-- The builder counts what the outcomes say, within the budget, and is gone once maintenance ended. -/
structure StreakInv (sym : Symbol) (r : SubscriptionRegistry) (s : Streak) : Prop where
  budget : s.failures < maxConsecutiveBookGaps
  counts : ∀ b, r.builderAt (bookKey sym) = some b → b.consecutiveGaps = s.failures ∧ s.ended = false

theorem budget_pos : 0 < maxConsecutiveBookGaps := by decide

theorem satAdd32_failures {n : Nat} (h : n < maxConsecutiveBookGaps) : satAdd32 n 1 = n + 1 := by
  have hmax : maxConsecutiveBookGaps < u32Max := by decide
  exact Nat.min_eq_left (by omega)

/-- One operation: what it reports is what the streak allows, and the streak goes on counting. -/
theorem streakInv_step {s : Streak} (h : StreakInv sym r s) (op : RegistryOp) :
    Answered s (r.outcomeAt fromStr sym op) ∧
      StreakInv sym (r.apply fromStr op) (s.note (r.outcomeAt fromStr sym op)) ∧
      (r.Fails fromStr sym op ↔
        (r.outcomeAt fromStr sym op).retried = true ∨ (r.outcomeAt fromStr sym op).exhausted = true) := by
  rcases (recoveryStep op : RecoveryStep fromStr sym r op) with
    ⟨ho, hf, hb⟩ | ⟨ho, hf, hb, hn⟩ | ⟨ho, hf, hb, hb', hg⟩ | ⟨hf, hb, hend, hretry⟩
  · rw [ho]
    refine ⟨⟨nofun, nofun, fun _ => .inr rfl⟩, ⟨budget_pos, fun b' hb' => ⟨hb b' hb', rfl⟩⟩, ?_⟩
    exact ⟨fun h => absurd h hf, fun h => by rcases h with h | h <;> cases h⟩
  · have hquiet : (r.outcomeAt fromStr sym op).retried = false ∧ (r.outcomeAt fromStr sym op).exhausted = false := by
      rcases ho with ho | ho
      · revert ho
        cases r.outcomeAt fromStr sym op with
        | drove x => cases x <;> simp [RecoveryOutcome.idle, RecoveryOutcome.retried, RecoveryOutcome.exhausted]
        | timedOut x => cases x <;> simp [RecoveryOutcome.idle, RecoveryOutcome.retried, RecoveryOutcome.exhausted]
        | started => simp [RecoveryOutcome.idle]
        | silent => simp [RecoveryOutcome.retried, RecoveryOutcome.exhausted]
      · rw [ho]
        exact ⟨rfl, rfl⟩
    rw [Streak.note_idle ho]
    refine ⟨⟨by simp [hquiet], by simp [hquiet], fun hs => .inl (hn ?_)⟩, ⟨h.budget, fun b' hb' => ?_⟩, by simp [hquiet, hf]⟩
    · -- maintenance has ended, so there is no builder
      cases hat : r.builderAt (bookKey sym) with
      | none => rfl
      | some b => exact absurd (h.counts b hat).2 (by simp [hs])
    · obtain ⟨b, hat, hgaps⟩ := hb b' hb'
      obtain ⟨hc, he⟩ := h.counts b hat
      exact ⟨hgaps.trans hc, he⟩
  · rw [ho]
    have hlive := (h.counts _ hb).2
    refine ⟨⟨nofun, nofun, fun hs => absurd hs (by simp [hlive])⟩, ⟨budget_pos, fun b₁ hb₁ => ?_⟩, ?_⟩
    · obtain rfl := Option.some.inj (hb'.symm.trans hb₁)
      exact ⟨hg, rfl⟩
    · exact ⟨fun h => absurd h hf, fun h => by rcases h with h | h <;> cases h⟩
  · obtain ⟨hc, hlive⟩ := h.counts _ hb
    rw [hc, satAdd32_failures h.budget] at hend hretry
    have hbudget := h.budget
    by_cases hmax : maxConsecutiveBookGaps ≤ s.failures + 1
    · obtain ⟨ho, hgone⟩ := hend hmax
      obtain ⟨-, hnr⟩ := Streak.of_exhausted ho
      rw [Streak.note_exhausted ho]
      refine ⟨⟨by simp [hnr], fun _ => ⟨by omega, hlive⟩, by simp [hlive]⟩, ⟨h.budget, fun b₁ hb₁ => ?_⟩, by simp [hf, ho]⟩
      rw [hgone] at hb₁
      cases hb₁
    · obtain ⟨ho, b', hb', hgaps⟩ := hretry (by omega)
      have hne : (r.outcomeAt fromStr sym op).exhausted = false := by
        cases hx : (r.outcomeAt fromStr sym op).exhausted with
        | false => rfl
        | true => exact absurd ho (by simp [(Streak.of_exhausted hx).2])
      rw [Streak.note_retried ho]
      refine ⟨⟨fun _ => ⟨by omega, hlive⟩, by simp [hne], by simp [hlive]⟩, ⟨by simp only; omega, fun b₁ hb₁ => ?_⟩, by simp [hf, ho]⟩
      obtain rfl := Option.some.inj (hb'.symm.trans hb₁)
      exact ⟨hgaps, hlive⟩

/-! ## Runs -/

/-- The outcomes of a run for the book of `sym`, one for each operation. -/
def outcomes (fromStr : String → Option Decimal) (sym : Symbol) (ops : List RegistryOp) : List RecoveryOutcome :=
  along (apply fromStr) (fun r op => [r.outcomeAt fromStr sym op]) new ops

theorem outcomes_append_one (ops : List RegistryOp) (op : RegistryOp) :
    outcomes fromStr sym (ops ++ [op]) =
      outcomes fromStr sym ops ++ [(exec (apply fromStr) new ops).outcomeAt fromStr sym op] := by
  rw [outcomes, along_append, along, along, List.append_nil, outcomes]

theorem streakInv_run (ops : List RegistryOp) :
    StreakInv sym (exec (apply fromStr) new ops) (.of (outcomes fromStr sym ops)) := by
  induction ops using List.reverseRecOn with
  | nil => exact ⟨budget_pos, fun b hb => by cases hb⟩
  | append_singleton ops op ih =>
    rw [outcomes_append_one, Streak.of_append_one, exec_append]
    exact (streakInv_step ih op).2.1

theorem answered_run {ops : List RegistryOp} {pre post : List RecoveryOutcome} {o : RecoveryOutcome}
    (h : outcomes fromStr sym ops = pre ++ o :: post) : Answered (.of pre) o := by
  obtain ⟨ops₁, op, ops₂, -, rfl, rfl⟩ := along_split h
  exact (streakInv_step (streakInv_run ops₁) op).1

/-- Once ended, maintenance stays ended until a registration starts the entry. -/
theorem ended_run {ops : List RegistryOp} {pre mid post : List RecoveryOutcome} {o : RecoveryOutcome}
    (h : outcomes fromStr sym ops = pre ++ o :: mid ++ post) (ho : o.exhausted = true)
    (hmid : ∀ o' ∈ mid, o' ≠ .started) : (Streak.of (pre ++ o :: mid)).ended = true := by
  induction mid using List.reverseRecOn generalizing post with
  | nil => rw [Streak.of_append_one, Streak.note_exhausted ho]
  | append_singleton mid o' ih =>
    have hsplit : outcomes fromStr sym ops = pre ++ o :: mid ++ o' :: post := by rw [h]; simp
    have hended := ih hsplit fun x hx => hmid x (by simp [hx])
    have hidle : o'.idle = true :=
      ((answered_run hsplit).ended hended).resolve_right (hmid o' (by simp))
    rw [← List.cons_append, ← List.append_assoc, Streak.of_append_one, Streak.note_idle (.inl hidle)]
    exact hended

/-- Gap recovery of the book of `sym` along a run. -/
structure BoundedRecovery (fromStr : String → Option Decimal) (sym : Symbol) (ops : List RegistryOp) : Prop where
  /-- With no book validated and no entry started in between, at most four outcomes are `Gap` or `Retry`. -/
  budget : ∀ pre mid post, outcomes fromStr sym ops = pre ++ mid ++ post → (∀ o ∈ mid, o.resets = false) →
    mid.countP (·.retried) ≤ maxConsecutiveBookGaps - 1
  /-- The failure after the fourth is `GapBudgetExhausted` or `Exhausted`. -/
  next : ∀ pre mid o post, outcomes fromStr sym ops = pre ++ mid ++ o :: post → (∀ o ∈ mid, o.resets = false) →
    mid.countP (·.retried) = maxConsecutiveBookGaps - 1 → o.retried = true ∨ o.exhausted = true → o.exhausted = true
  /-- The failures are the mismatches of applied frames and the timeouts of waiting books. -/
  failures : ∀ ops₁ op ops₂, ops = ops₁ ++ op :: ops₂ →
    ((exec (apply fromStr) new ops₁).Fails fromStr sym op ↔
      ((exec (apply fromStr) new ops₁).outcomeAt fromStr sym op).retried = true ∨
        ((exec (apply fromStr) new ops₁).outcomeAt fromStr sym op).exhausted = true)
  /-- After it every frame passes through and nothing fails until the entry is started again. -/
  ended : ∀ pre o mid o' post, outcomes fromStr sym ops = pre ++ o :: mid ++ o' :: post → o.exhausted = true →
    (∀ x ∈ mid, x ≠ .started) → o'.idle = true ∨ o' = .started
  /-- And the builder is gone. -/
  gone : ∀ ops₁ ops₂ pre o mid, ops = ops₁ ++ ops₂ → outcomes fromStr sym ops₁ = pre ++ o :: mid →
    o.exhausted = true → (∀ x ∈ mid, x ≠ .started) → (exec (apply fromStr) new ops₁).builderAt (bookKey sym) = none
  /-- A `Maintained` update is built from a book whose checksum is the frame's. -/
  validated : ∀ ops₁ ops₂ isSnapshot data update,
    ops = ops₁ ++ .handleUpdate (bookKey sym) isSnapshot data :: ops₂ →
    (exec (apply fromStr) new ops₁).outcomeAt fromStr sym (.handleUpdate (bookKey sym) isSnapshot data) =
      .drove (.maintained update) →
    ∃ b' parsed, parseBookFrame fromStr data = some parsed ∧
      (exec (apply fromStr) new (ops₁ ++ [.handleUpdate (bookKey sym) isSnapshot data])).builderAt (bookKey sym) = some b' ∧
      b'.computeChecksum = parsed.checksum ∧ update = b'.buildUpdate parsed.checksum none parsed.timestamp

/-- **Gap recovery is bounded**, over every sequence of registry operations. -/
theorem bounded_recovery (fromStr : String → Option Decimal) (sym : Symbol) (ops : List RegistryOp) :
    BoundedRecovery fromStr sym ops where
  budget pre mid post h hmid := by
    have hcount := Streak.countP_le pre mid hmid
    -- the streak after `mid` is the streak of a run
    have hrun : (Streak.of (pre ++ mid)).failures < maxConsecutiveBookGaps := by
      cases post with
      | nil =>
        rw [← List.append_nil (pre ++ mid), ← h]
        exact (streakInv_run ops).budget
      | cons o post =>
        obtain ⟨ops₁, op, ops₂, -, hpre, -⟩ := along_split h
        rw [← hpre]
        exact (streakInv_run ops₁).budget
    omega
  next pre mid o post h hmid hfour ho := by
    have hcount := Streak.countP_le pre mid hmid
    rcases ho with ho | ho
    · have hlt := ((answered_run h).retried ho).1
      omega
    · exact ho
  failures ops₁ op ops₂ _ := (streakInv_step (streakInv_run ops₁) op).2.2
  ended pre o mid o' post h ho hmid := (answered_run h).ended (ended_run h ho hmid)
  gone ops₁ ops₂ pre o mid _ hout ho hmid := by
    have hended := ended_run (by rw [hout, List.append_nil]) ho hmid
    rw [← hout] at hended
    cases hat : (exec (apply fromStr) new ops₁).builderAt (bookKey sym) with
    | none => rfl
    | some b => exact absurd ((streakInv_run ops₁).counts b hat).2 (by simp [hended])
  validated ops₁ ops₂ isSnapshot data update _ ho := by
    rw [outcomeAt, if_pos rfl] at ho
    obtain ⟨b, b', parsed, -, hreach, hat, hcrc, hupdate⟩ := handleUpdate_maintained (RecoveryOutcome.drove.inj ho)
    refine ⟨b', parsed, hreach.2.1, ?_, hcrc, hupdate⟩
    rw [exec_append]
    exact hat

end SubscriptionRegistry

end KrakenSdk.Conn
