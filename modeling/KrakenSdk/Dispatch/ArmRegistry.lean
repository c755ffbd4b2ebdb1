import KrakenSdk.Conn.MirrorRows
import KrakenSdk.Dispatch.SubscriptionReplay
/-!
# What each arm does to the registry (dispatch/io_reactor)

An equation for each arm, in the registry's own operations, so that what is proved of these operations holds
along a run of the reactor (`fromOps_run`).
-/
namespace KrakenSdk.Dispatch.IoReactor

open KrakenSdk.Conn KrakenSdk.Conn.SubscriptionRegistry
open StepSystem (Reach anyStep)

variable (s : IoReactor) (env : ArmEnv) (url : WsUrl)

@[simp] theorem registry_updateConn (f : ManagedConnection → ManagedConnection) :
    (s.updateConn url f).registry = s.registry := rfl

@[simp] theorem registry_project : (s.project url).registry = s.registry := rfl

@[simp] theorem registry_dropDeadSocket : (s.dropDeadSocket url).registry = s.registry := by
  unfold dropDeadSocket
  split_ifs <;> rfl

/-! ## The caller arm -/

theorem registry_registerOneAndEmit (refId : Option HandlerId) (reg : Registration) :
    (s.registerOneAndEmit env url refId reg).registry = registryAfter s.registry env url refId reg := by
  have hstart : ∀ t : IoReactor, (t.startIfIdle env url).registry = t.registry := fun t => (startIfIdle_public t env url).1
  have hsub : ∀ (t : IoReactor) (f : SubscribeFrame), (t.subscribeFirst env url f).registry = t.registry := by
    intro t f
    unfold subscribeFirst
    cases url with
    | publicUrl => rfl
    | authUrl =>
      dsimp only
      split_ifs <;> rfl
  rw [registerOneAndEmit_eq]
  split_ifs
  · rw [hsub, hstart]
  · rw [hstart]

theorem registry_registerBatch (refId : Option HandlerId) (regs : List Registration) :
    (s.registerBatch env url refId regs).registry =
      regs.foldl (fun r reg => registryAfter r env url refId reg) s.registry := by
  unfold registerBatch
  induction regs generalizing s with
  | nil => rfl
  | cons reg regs ih => rw [List.foldl_cons, ih, registry_dropDeadSocket, registry_registerOneAndEmit, List.foldl_cons]

theorem registry_deregisterOne (channel : ChannelName) (pair : Option Symbol) :
    (s.deregisterOne env channel pair).registry = (s.registry.release (channel.wireChannel, pair)).1 := by
  unfold deregisterOne
  dsimp only
  split_ifs <;> rfl

theorem registry_teardown (removed : List (SubscriptionEntry × RemovedEntryKind)) :
    (removed.foldl (fun s e => s.teardownReleasedKey e.1.key) s).registry = s.registry := by
  induction removed generalizing s with
  | nil => rfl
  | cons e removed ih => exact ih _

theorem registry_deregisterAll (channel : Option ChannelName) :
    (s.deregisterAll env channel).registry = (s.registry.deregisterAll (channel.map ChannelName.wireChannel)).1 := by
  have htear := registry_teardown
    { s with registry := (s.registry.deregisterAll (channel.map ChannelName.wireChannel)).1 }
    (s.registry.deregisterAll (channel.map ChannelName.wireChannel)).2
  unfold deregisterAll
  dsimp only
  split_ifs <;> exact htear

/-- The keys a guard drop releases. -/
def guardTargets (channel : ChannelName) (symbols : List Symbol) : List EntryKey :=
  if symbols = [] then [(channel.wireChannel, none)] else symbols.map fun sym => (channel.wireChannel, some sym)

theorem registry_guardDrop (handlerId : HandlerId) (channel : ChannelName) (symbols : List Symbol) :
    (s.guardDrop env handlerId channel symbols).registry =
      (guardTargets channel symbols).foldl (fun r key => (r.releaseGuardRef handlerId key).1) s.registry := by
  have hone : ∀ (acc : IoReactor × Bool) (key : EntryKey),
      (dropGuardRef handlerId acc key).1.registry = (acc.1.registry.releaseGuardRef handlerId key).1 := by
    intro acc key
    unfold dropGuardRef
    dsimp only
    split_ifs <;> rfl
  have hall : ∀ (targets : List EntryKey) (acc : IoReactor × Bool), (targets.foldl (dropGuardRef handlerId) acc).1.registry =
      targets.foldl (fun r key => (r.releaseGuardRef handlerId key).1) acc.1.registry := by
    intro targets
    induction targets with
    | nil => exact fun acc => rfl
    | cons key targets ih =>
      intro acc
      rw [List.foldl_cons, ih, hone, List.foldl_cons]
  have htargets := hall (guardTargets channel symbols) (s, false)
  unfold guardTargets at htargets ⊢
  unfold guardDrop
  dsimp only
  split_ifs at htargets ⊢ <;> exact htargets

/-! ## The upgrade and the refresh arm -/

theorem registry_takeOutcome : (s.takeOutcome env).registry = s.registry := by
  have hok : ∀ (t : IoReactor) url connectionId, (t.upgradeOk env url connectionId).registry = t.registry := by
    intro t url connectionId
    unfold upgradeOk
    dsimp only
    split_ifs <;> rfl
  unfold takeOutcome
  split
  · rfl
  · unfold upgradeArm
    split
    · split_ifs
      · exact hok _ _ _
      · rfl
    · exact registry_dropDeadSocket _ _

theorem registry_refreshed (requestId : Nat) (result : Except AuthError Unit) :
    (s.refreshed env requestId result).registry = s.registry := by
  unfold refreshed
  dsimp only
  split_ifs <;> rfl

/-! ## The frame arm -/

theorem registry_recoverBookGap (symbol : Symbol) :
    (recoverBookGap env url s symbol).registry = s.registry.beginBookResync .book symbol := by
  unfold recoverBookGap
  dsimp only
  split <;> rfl

theorem registry_recoverBookGaps (gaps : List Symbol) :
    (gaps.foldl (recoverBookGap env url) s).registry = gaps.foldl (·.beginBookResync .book ·) s.registry := by
  induction gaps generalizing s with
  | nil => rfl
  | cons symbol gaps ih => rw [List.foldl_cons, ih, registry_recoverBookGap, List.foldl_cons]

/-- A subscribe ack acknowledges an entry, terminates one, or leaves the registry alone. -/
theorem registry_handleSubAck_cases (json : Json) :
    (s.handleSubAck env url json).2.registry = s.registry ∨
      (∃ key, (s.handleSubAck env url json).2.registry = s.registry.noteAcked key) ∨
      ∃ key cause lastError, (s.handleSubAck env url json).2.registry = s.registry.noteTerminated key cause lastError := by
  have hhand : ∀ key success error, (s.handshakeAck env url key success error).registry =
      if success then s.registry.noteAcked key else s.registry := by
    intro key success error
    unfold handshakeAck
    cases success with
    | true =>
      simp only [if_true]
      split_ifs <;> rfl
    | false => rfl
  have hlate : ∀ key success, (s.lateAck env url key success).registry = s.registry := by
    intro key success
    unfold lateAck
    split_ifs <;> rfl
  unfold handleSubAck
  split
  · exact .inl rfl
  · dsimp only
    split
    · exact .inl rfl
    · rename_i key _
      split_ifs
      · dsimp only
        rw [hhand]
        split_ifs
        · exact .inr (.inl ⟨key, rfl⟩)
        · exact .inl rfl
      · exact .inl (hlate _ _)
      · dsimp only
        unfold armedAck
        dsimp only
        split_ifs
        · exact .inr (.inl ⟨key, rfl⟩)
        · exact .inl rfl
        · exact .inr (.inr ⟨key, _, _, rfl⟩)
  · exact .inl rfl

/-- A frame that is not for `handle_sub_ack` leaves it the way it came. -/
theorem handleSubAck_unconsumed {json : Json} (h : (s.handleSubAck env url json).1 = false) :
    (s.handleSubAck env url json).2 = s := by
  have hcases : (s.handleSubAck env url json).1 = true ∨ (s.handleSubAck env url json).2 = s := by
    unfold handleSubAck
    split
    · exact .inl rfl
    · dsimp only
      split
      · exact .inl rfl
      · split_ifs
        · exact .inl rfl
        · exact .inl rfl
        · exact .inl rfl
    · exact .inr rfl
  exact hcases.resolve_left (by simp [h])

theorem registry_requestResponse (json : Json) : (s.requestResponse env url json).2.registry = s.registry := by
  unfold requestResponse
  cases url <;> rfl

/-- The frame is neither a request response nor a subscribe ack: it comes to `route_text_frame`. -/
def IsData (s : IoReactor) (env : ArmEnv) (url : WsUrl) (json : Json) : Bool :=
  let s := s.updateConn url (·.noteInboundActivity env.toEnv)
  !(s.requestResponse env url json).1 && !((s.requestResponse env url json).2.handleSubAck env url json).1

theorem registry_textFrame_data {json : Json} (h : s.IsData env url json = true) :
    (s.textFrame env url json).registry =
      (env.router.routeTextFrame s.registry json).2.2.foldl (·.beginBookResync .book ·)
        (env.router.routeTextFrame s.registry json).1 := by
  have hreq := registry_requestResponse (s.updateConn url (·.noteInboundActivity env.toEnv)) env url json
  unfold IsData at h
  unfold textFrame
  dsimp only at h ⊢
  generalize (s.updateConn url (·.noteInboundActivity env.toEnv)).requestResponse env url json = req at h hreq ⊢
  obtain ⟨consumed, t⟩ := req
  rw [Bool.and_eq_true, Bool.not_eq_true', Bool.not_eq_true'] at h
  obtain ⟨h1, h2⟩ := h
  obtain rfl : consumed = false := h1
  have hsame := handleSubAck_unconsumed t env url h2
  dsimp only at h2 hreq ⊢
  generalize t.handleSubAck env url json = ack at h2 hsame ⊢
  obtain ⟨consumed, u⟩ := ack
  obtain rfl : consumed = false := h2
  obtain rfl : u = t := hsame
  dsimp only
  rw [registry_recoverBookGaps, show u.registry = s.registry from hreq]

theorem registry_textFrame_consumed {json : Json} (h : s.IsData env url json = false) :
    (s.textFrame env url json).registry = s.registry ∨
      (∃ key, (s.textFrame env url json).registry = s.registry.noteAcked key) ∨
      ∃ key cause lastError, (s.textFrame env url json).registry = s.registry.noteTerminated key cause lastError := by
  have hreq := registry_requestResponse (s.updateConn url (·.noteInboundActivity env.toEnv)) env url json
  unfold IsData at h
  unfold textFrame
  dsimp only at h ⊢
  generalize (s.updateConn url (·.noteInboundActivity env.toEnv)).requestResponse env url json = req at h hreq ⊢
  obtain ⟨consumed, t⟩ := req
  dsimp only at h hreq ⊢
  have hreg : t.registry = s.registry := hreq
  cases consumed with
  | true => exact .inl hreg
  | false =>
    have hack := registry_handleSubAck_cases t env url json
    rw [hreg] at hack
    dsimp only at h ⊢
    generalize t.handleSubAck env url json = ack at h hack ⊢
    obtain ⟨consumed, u⟩ := ack
    obtain rfl : consumed = true := by simpa using h
    exact hack

/-! ## The timer arm -/

theorem registry_handleBookReseedTimeout (pair : Option Symbol) :
    (s.handleBookReseedTimeout env url pair).registry = match pair with
      | none => s.registry
      | some symbol => (s.registry.noteReseedTimeout .book symbol).1 := by
  unfold handleBookReseedTimeout
  cases pair with
  | none => rfl
  | some symbol =>
    dsimp only
    split <;> rfl

/-- The pair whose reseed timer fires. -/
def reseedFired (s : IoReactor) (url : WsUrl) (event : FsmEvent) : Option Symbol :=
  if timerArmed (s.conns url) event then
    match event with
    | .timerBookReseedSnapshot _ pair => pair
    | _ => none
  else none

theorem registry_timer (event : FsmEvent) : (s.timer env url event).registry = match s.reseedFired url event with
    | none => s.registry
    | some symbol => (s.registry.noteReseedTimeout .book symbol).1 := by
  unfold timer reseedFired
  split_ifs
  · cases event with
    | timerBookReseedSnapshot channel pair =>
      exact registry_handleBookReseedTimeout (s.updateConn url (·.popTimerForEvent (.timerBookReseedSnapshot channel pair)))
        env url pair
    | _ => rfl
  · rfl

/-! ## Runs -/

variable {s}

/-- One operation. -/
theorem opRun_apply (fromStr : String → Option KrakenSdk.Book.Decimal) (r : SubscriptionRegistry) (op : RegistryOp) :
    OpRun r (r.apply fromStr op) := Reach.step (fromStr, op) .init trivial

/-- An operation that reads no decimal. -/
theorem opRun_op (r : SubscriptionRegistry) (op : RegistryOp) : OpRun r (r.apply (fun _ => none) op) :=
  opRun_apply _ r op

/-- The same operation for each item of a list. -/
theorem opRun_foldl {α : Type} {f : SubscriptionRegistry → α → SubscriptionRegistry} (hf : ∀ r a, OpRun r (f r a))
    (r : SubscriptionRegistry) (l : List α) : OpRun r (l.foldl f r) := by
  induction l generalizing r with
  | nil => exact .init
  | cons a l ih => exact (hf r a).trans (ih _)

theorem opRun_registryAfter (r : SubscriptionRegistry) (refId : Option HandlerId) (reg : Registration) :
    OpRun r (registryAfter r env url refId reg) := by
  have h := opRun_op r (.register url reg.channel reg.pair reg.params env.now refId.isSome)
  unfold registryAfter
  cases refId with
  | none => exact h
  | some id => exact h.trans (opRun_op _ (.recordGuardRef id (reg.channel, reg.pair)))

theorem opRun_routeTextFrame (c : Router Unit) (r : SubscriptionRegistry) (json : Json) :
    OpRun r (c.routeTextFrame r json).1 := by
  have hentries : ∀ channel msgType data (r : SubscriptionRegistry), OpRun r (c.routeEntries channel msgType r data).1 := by
    intro channel msgType data
    induction data with
    | nil => exact fun r => .init
    | cons entry data ih =>
      intro r
      have h := opRun_apply c.fromStr r (.handleUpdate (channel, Router.routingSymbol entry) (msgType == "snapshot") entry)
      exact h.trans (ih _)
  have hseq : ∀ channel msgType (r : SubscriptionRegistry), OpRun r (c.sequenceCheck channel msgType r json).1 := by
    intro channel msgType r
    unfold Router.sequenceCheck
    split
    · split
      · exact opRun_op r (.noteSequence channel _ _)
      · exact .init
    · exact .init
  unfold Router.routeTextFrame
  split
  · split_ifs
    · exact .init
    · dsimp only
      split
      · exact hseq _ _ r
      · exact (hseq _ _ r).trans (hentries _ _ _ _)
  · exact .init

theorem opRun_textFrame (json : Json) : OpRun s.registry (s.textFrame env url json).registry := by
  by_cases hdata : s.IsData env url json = true
  · rw [registry_textFrame_data s env url hdata]
    exact (opRun_routeTextFrame env.router s.registry json).trans
      (opRun_foldl (fun r sym => opRun_op r (.beginBookResync .book sym)) _ _)
  · rcases registry_textFrame_consumed s env url (Bool.not_eq_true _ ▸ hdata) with h | ⟨key, h⟩ | ⟨key, cause, lastError, h⟩
    · rw [h]
      exact .init
    · rw [h]
      exact opRun_op s.registry (.noteAcked key)
    · rw [h]
      exact opRun_op s.registry (.noteTerminated key cause lastError)

theorem registry_whenMapped (s : IoReactor) (url : WsUrl) (next : IoReactor) : (s.whenMapped url next).registry =
    if (s.sockets url).isSome then next.registry else s.registry := by
  unfold whenMapped
  split_ifs <;> rfl

/-- The arms that do not touch the registry. -/
def leavesRegistry : Arm → Bool
  | .registerBatch .. | .deregister .. | .deregisterAll .. | .guardDrop .. | .textFrame .. | .timer .. => false
  | _ => true

theorem registry_step {l : ArmLabel} (h : leavesRegistry l.arm = true) : (s.step l).registry = s.registry := by
  obtain ⟨env, arm⟩ := l
  have hmapped : ∀ (url : WsUrl) {next : IoReactor}, next.registry = s.registry → (s.whenMapped url next).registry = s.registry := by
    intro url next hnext
    rw [registry_whenMapped, hnext, ite_self]
  have hsend : ∀ (t : IoReactor) q, (t.trySend q).2.registry = t.registry := by
    intro t q
    unfold trySend
    split_ifs <;> rfl
  have hclose : ∀ url event, (s.driveWireClose env url event).registry = s.registry := by
    intro url event
    unfold driveWireClose
    dsimp only
    split_ifs <;> rfl
  cases arm with
  | registerBatch _ _ _ | deregister _ _ | deregisterAll _ | guardDrop _ _ _ | textFrame _ _ | timer _ _ => cases h
  | reportOk url connectionId =>
    have hq := hsend s ⟨connectionId, .ok url connectionId, fun _ _ h => (UpgradeOutcome.ok.inj h).2⟩
    simp only [step, reportOk]
    split <;> rename_i t ht <;> rw [ht] at hq
    · exact hq
    · exact hq
  | reportFallback =>
    simp only [step, reportFallback]
    split
    · rfl
    · exact hsend _ _
  | reportFailed url connectionId kind transient => exact hsend s _
  | callerEvent url event => rfl
  | wsRequestFrame f => rfl
  | abandonWsRequest reqId => rfl
  | takeOutcome => exact registry_takeOutcome s env
  | refreshed requestId result => exact registry_refreshed s env requestId result
  | otherFrame url => exact hmapped url rfl
  | closeFrame url code reason => exact hmapped url (hclose url _)
  | recvError url error => exact hmapped url (hclose url _)

theorem opRun_step (l : ArmLabel) : OpRun s.registry (s.step l).registry := by
  by_cases hl : leavesRegistry l.arm = true
  · rw [registry_step hl]
    exact .init
  · obtain ⟨env, arm⟩ := l
    cases arm with
    | registerBatch url entries refId =>
      simp only [step]
      rw [registry_registerBatch]
      exact opRun_foldl (fun r reg => opRun_registryAfter env url r refId reg) _ _
    | deregister channel pair =>
      simp only [step]
      rw [registry_deregisterOne]
      exact opRun_op s.registry (.release (channel.wireChannel, pair))
    | deregisterAll channel =>
      simp only [step]
      rw [registry_deregisterAll]
      exact opRun_op s.registry (.deregisterAll (channel.map ChannelName.wireChannel))
    | guardDrop handlerId channel symbols =>
      simp only [step]
      rw [registry_guardDrop]
      exact opRun_foldl (fun r key => opRun_op r (.releaseGuardRef handlerId key)) _ _
    | textFrame url json =>
      simp only [step]
      rw [registry_whenMapped]
      split_ifs
      · exact opRun_textFrame env url json
      · exact .init
    | timer url event =>
      simp only [step]
      rw [registry_timer]
      split
      · exact .init
      · rename_i symbol _
        exact opRun_op s.registry (.noteReseedTimeout .book symbol)
    | _ => exact absurd rfl hl

/-! ## Only a registration brings an entry to life -/

theorem shrinks_foldl {α : Type} {f : SubscriptionRegistry → α → SubscriptionRegistry} (hf : ∀ r a, Shrinks r (f r a))
    (r : SubscriptionRegistry) (l : List α) : Shrinks r (l.foldl f r) := by
  induction l generalizing r with
  | nil => exact .refl r
  | cons a l ih => exact (hf r a).trans (ih _)

theorem shrinks_textFrame (s : IoReactor) (json : Json) : Shrinks s.registry (s.textFrame env url json).registry := by
  by_cases hdata : s.IsData env url json = true
  · rw [registry_textFrame_data s env url hdata]
    exact (shrinks_routeTextFrame env.router s.registry json).trans
      (shrinks_foldl (fun r sym => shrinks_beginBookResync r .book sym) _ _)
  · rcases registry_textFrame_consumed s env url (Bool.not_eq_true _ ▸ hdata) with h | ⟨key, h⟩ | ⟨key, cause, lastError, h⟩
    · rw [h]
      exact .refl _
    · rw [h]
      exact shrinks_noteAcked _ key
    · rw [h]
      exact shrinks_noteTerminated _ key cause lastError

theorem shrinks_step (s : IoReactor) {l : ArmLabel} (hl : ∀ url regs refId, l.arm ≠ .registerBatch url regs refId) :
    Shrinks s.registry (s.step l).registry := by
  obtain ⟨env, arm⟩ := l
  by_cases hleaves : leavesRegistry arm = true
  · rw [registry_step hleaves]
    exact .refl _
  · cases arm with
    | registerBatch url regs refId => exact absurd rfl (hl url regs refId)
    | deregister channel pair =>
      simp only [step]
      rw [registry_deregisterOne]
      exact shrinks_releaseInner _ _ _
    | deregisterAll channel =>
      simp only [step]
      rw [registry_deregisterAll]
      exact shrinks_deregisterAll _ _
    | guardDrop handlerId channel symbols =>
      simp only [step]
      rw [registry_guardDrop]
      exact shrinks_foldl (fun r key => shrinks_releaseGuardRef r handlerId key) _ _
    | textFrame url json =>
      simp only [step]
      rw [registry_whenMapped]
      split_ifs
      · exact shrinks_textFrame env url s json
      · exact .refl _
    | timer url event =>
      simp only [step]
      rw [registry_timer]
      split
      · exact .refl _
      · exact shrinks_noteReseedTimeout _ _ _
    | _ => exact absurd rfl hleaves

/-- The registry comes from operations on an empty one. -/
def FromOps (s : IoReactor) : Prop := OpRun .new s.registry

theorem fromOps_run (knobs : Knobs) (ls : List ArmLabel) : (run knobs ls).FromOps := by
  have hstep : ∀ (s : IoReactor) l, s.FromOps → anyStep s l → (s.step l).FromOps := fun s l h _ => h.trans (opRun_step l)
  have hinit : (init knobs).FromOps := by
    unfold FromOps
    exact Reach.init
  exact (StepSystem.reach_anyStep (init knobs) ls).invariant hinit hstep

end KrakenSdk.Dispatch.IoReactor
