import KrakenSdk.Conn.Types
import KrakenSdk.Lib.HashMap
import KrakenSdk.Lib.StepSystem
/-!
# Handlers and their presence mirror (dispatch/handler_registry.rs, api/ws_surface/mod.rs:182-226)

A caller raises the channel's count in the mirror, then posts its `Register`; a rejected post takes
the count back. The reactor takes the messages in order: a `Register` is mirror-silent, and a
deregistration lowers the count when it removed a handler. Each mirror access of a caller and each
message is one step; a step that is not enabled changes nothing.

* `presence_exact`: with fresh ids, the mirrored count is the registered handlers, the posted
  registrations and the bumps not yet posted or compensated; when nothing of these is left,
  `has_handlers` is false.
-/
namespace KrakenSdk.Dispatch

open KrakenSdk.Conn (ChannelName HandlerId)
open StepSystem

variable {β : Type*}

/-! ## `PresenceMirror` -/

/-- `PresenceMirror` (handler_registry.rs:102), without its lock. -/
abbrev PresenceMirror := HashMap ChannelName Nat

namespace PresenceMirror

/-- The count of a channel, 0 without a row. -/
def count (m : PresenceMirror) (channel : ChannelName) : Nat := (m.lookup channel).getD 0

/-- `*mirror.entry(channel).or_insert(0) += 1`. -/
def bump (m : PresenceMirror) (channel : ChannelName) : PresenceMirror := m.insert channel (m.count channel + 1)

/-- The decrement of `deregister` and of the compensation: a row that reaches 0 goes. -/
def unbump (m : PresenceMirror) (channel : ChannelName) : PresenceMirror :=
  match m.lookup channel with
  | some count => if count - 1 = 0 then m.erase channel else m.insert channel (count - 1)
  | none => m

/-- `presence_has_handlers` (handler_registry.rs:208). -/
def hasHandlers (m : PresenceMirror) (channel : ChannelName) : Bool := (m.lookup channel).any (0 < ·)

theorem count_bump (m : PresenceMirror) (ch ch' : ChannelName) :
    (m.bump ch).count ch' = if ch' = ch then m.count ch + 1 else m.count ch' := by
  simp only [bump, count, HashMap.lookup_insert_ite]
  split <;> simp

theorem count_unbump (m : PresenceMirror) (ch ch' : ChannelName) :
    (m.unbump ch).count ch' = if ch' = ch then m.count ch - 1 else m.count ch' := by
  unfold unbump
  cases hl : m.lookup ch with
  | none =>
    by_cases hc : ch' = ch
    · subst hc
      simp [count, hl]
    · simp [hc]
  | some c =>
    dsimp only
    split
    next hz =>
      simp only [count, HashMap.lookup_erase_ite, hl]
      split <;> simp [hz]
    next =>
      simp only [count, HashMap.lookup_insert_ite, hl]
      split <;> simp

theorem hasHandlers_iff (m : PresenceMirror) (ch : ChannelName) : m.hasHandlers ch = true ↔ 0 < m.count ch := by
  unfold hasHandlers count
  cases m.lookup ch <;> simp

end PresenceMirror

/-! ## `HandlerRegistry` -/

/-- `HandlerEntry` (handler_registry.rs:106). -/
structure HandlerEntry (β : Type*) where
  id : HandlerId
  callback : β

/-- `HandlerRegistry` (handler_registry.rs:122). -/
structure HandlerRegistry (β : Type*) where
  handlers : HashMap ChannelName (List (HandlerEntry β))
  presenceMirror : PresenceMirror

namespace HandlerRegistry

/-- `HandlerRegistry::new` (handler_registry.rs:135). -/
def new (presenceMirror : PresenceMirror) : HandlerRegistry β := { handlers := ∅, presenceMirror }

/-- `handlers_for` (handler_registry.rs:199). -/
def handlersFor (r : HandlerRegistry β) (channel : ChannelName) : List (HandlerEntry β) :=
  (r.handlers.lookup channel).getD []

/-- `register_with_id` (handler_registry.rs:161): it leaves the mirror alone. -/
def registerWithId (r : HandlerRegistry β) (channel : ChannelName) (id : HandlerId) (callback : β) :
    HandlerRegistry β :=
  { r with handlers := r.handlers.insert channel (r.handlersFor channel ++ [⟨id, callback⟩]) }

/-- `deregister` (handler_registry.rs:175): the mirror follows a confirmed removal. -/
def deregister (r : HandlerRegistry β) (channel : ChannelName) (id : HandlerId) : HandlerRegistry β :=
  match r.handlers.lookup channel with
  | none => r
  | some vec =>
    let kept := vec.filter (·.id ≠ id)
    let r := { r with handlers := r.handlers.insert channel kept }
    if vec.length = kept.length then r else { r with presenceMirror := r.presenceMirror.unbump channel }

@[simp] theorem handlersFor_withMirror (r : HandlerRegistry β) (m : PresenceMirror) (ch : ChannelName) :
    ({ r with presenceMirror := m } : HandlerRegistry β).handlersFor ch = r.handlersFor ch := rfl

theorem handlersFor_registerWithId (r : HandlerRegistry β) (ch ch' : ChannelName) (id : HandlerId) (cb : β) :
    (r.registerWithId ch id cb).handlersFor ch' =
      if ch' = ch then r.handlersFor ch ++ [⟨id, cb⟩] else r.handlersFor ch' := by
  simp only [registerWithId, handlersFor, HashMap.lookup_insert_ite]
  split <;> rfl

theorem handlersFor_deregister (r : HandlerRegistry β) (ch ch' : ChannelName) (id : HandlerId) :
    (r.deregister ch id).handlersFor ch' =
      if ch' = ch then (r.handlersFor ch).filter (·.id ≠ id) else r.handlersFor ch' := by
  unfold deregister
  cases hl : r.handlers.lookup ch with
  | none =>
    by_cases hc : ch' = ch
    · subst hc
      simp [handlersFor, hl]
    · simp [hc]
  | some vec =>
    have hr : ∀ m : PresenceMirror, ({ handlers := r.handlers.insert ch (vec.filter (·.id ≠ id)), presenceMirror := m }
        : HandlerRegistry β).handlersFor ch' =
        if ch' = ch then (r.handlersFor ch).filter (·.id ≠ id) else r.handlersFor ch' := by
      intro m
      simp only [handlersFor, HashMap.lookup_insert_ite, hl]
      split <;> rfl
    dsimp only
    split
    · exact hr _
    · exact hr _

theorem length_filter_ne (entries : List (HandlerEntry β)) (id : HandlerId) :
    (entries.filter (·.id ≠ id)).length + entries.countP (·.id = id) = entries.length := by
  have hsum := List.length_eq_countP_add_countP (fun e : HandlerEntry β => decide (e.id = id)) (l := entries)
  have hrest : (entries.filter (·.id ≠ id)).length =
      entries.countP (fun e => decide ¬ decide (e.id = id) = true) := by
    rw [← List.countP_eq_length_filter]
    exact List.countP_congr fun e _ => by simp
  omega

/-- The mirror loses one exactly when a handler goes. -/
theorem count_deregister (r : HandlerRegistry β) (ch ch' : ChannelName) (id : HandlerId) :
    (r.deregister ch id).presenceMirror.count ch' =
      if ch' = ch ∧ 0 < (r.handlersFor ch).countP (·.id = id) then r.presenceMirror.count ch - 1
      else r.presenceMirror.count ch' := by
  unfold deregister
  cases hl : r.handlers.lookup ch with
  | none => simp [handlersFor, hl]
  | some vec =>
    have hv : r.handlersFor ch = vec := by simp [handlersFor, hl]
    have hlen : vec.length = (vec.filter (·.id ≠ id)).length ↔ vec.countP (·.id = id) = 0 := by
      have hsum := length_filter_ne vec id
      omega
    dsimp only
    rw [hv]
    split
    next heq => rw [if_neg (fun h => by have := hlen.1 heq; omega)]
    next hne =>
      have hpos : 0 < vec.countP (·.id = id) := Nat.pos_of_ne_zero fun h0 => hne (hlen.2 h0)
      rw [PresenceMirror.count_unbump]
      by_cases hc : ch' = ch
      · rw [if_pos hc, if_pos ⟨hc, hpos⟩]
      · rw [if_neg hc, if_neg (fun h => hc h.1)]

end HandlerRegistry

/-! ## The callers, the channel and the reactor -/

/-- The `CallerInbound` messages about handlers; of a guard's drop, what it does to the handler
registry (inbound_dispatch.rs:196). -/
inductive HandlerMessage (β : Type*) where
  | register (channel : ChannelName) (id : HandlerId) (callback : β)
  | deregister (channel : ChannelName) (id : HandlerId)
  | subscriptionGuardDrop (channel : ChannelName) (id : HandlerId)

/-- The handler a message registers. -/
def HandlerMessage.registers : HandlerMessage β → Option (ChannelName × HandlerId)
  | .register channel id _ => some (channel, id)
  | _ => none

/-- The handler a message deregisters. -/
def HandlerMessage.deregisters : HandlerMessage β → Option (ChannelName × HandlerId)
  | .register _ _ _ => none
  | .deregister channel id | .subscriptionGuardDrop channel id => some (channel, id)

@[simp] theorem HandlerMessage.registers_register (channel : ChannelName) (id : HandlerId) (callback : β) :
    (HandlerMessage.register channel id callback).registers = some (channel, id) := rfl

/-- The registry, the message channel and the callers that are registering. -/
structure HandlerSystem (β : Type*) where
  registry : HandlerRegistry β
  /-- `caller_to_io`, oldest first. -/
  inbound : List (HandlerMessage β)
  /-- Registrations between their bump and their post. -/
  bumped : List (ChannelName × HandlerId)
  /-- Registrations whose post was rejected, before the compensation. -/
  rejected : List (ChannelName × HandlerId)
  /-- The handles of accepted registrations that have not been dropped. -/
  handles : List (ChannelName × HandlerId)

/-- One step of a caller or of the reactor. -/
inductive HandlerAct (β : Type*) where
  | bump (channel : ChannelName) (id : HandlerId)
  | post (channel : ChannelName) (id : HandlerId) (callback : β)
  | postRejected (channel : ChannelName) (id : HandlerId)
  | compensate (channel : ChannelName) (id : HandlerId)
  | handleDrop (channel : ChannelName) (id : HandlerId)
  | guardDrop (channel : ChannelName) (id : HandlerId)
  | take

namespace HandlerSystem

/-- Nothing registered. -/
def new : HandlerSystem β :=
  { registry := .new ∅, inbound := [], bumped := [], rejected := [], handles := [] }

/-- The mirror both sides share. -/
def mirror (s : HandlerSystem β) : PresenceMirror := s.registry.presenceMirror

/-- A caller's access to the mirror. -/
def onMirror (s : HandlerSystem β) (f : PresenceMirror → PresenceMirror) : HandlerSystem β :=
  { s with registry := { s.registry with presenceMirror := f s.registry.presenceMirror } }

/-- `handle_inbound` of one message (inbound_dispatch.rs:181-197). -/
def handleInbound (r : HandlerRegistry β) : HandlerMessage β → HandlerRegistry β
  | .register channel id callback => r.registerWithId channel id callback
  | .deregister channel id | .subscriptionGuardDrop channel id => r.deregister channel id

/-- One step. -/
def step (s : HandlerSystem β) : HandlerAct β → HandlerSystem β
  | .bump channel id => { s.onMirror (·.bump channel) with bumped := (channel, id) :: s.bumped }
  | .post channel id callback =>
    if (channel, id) ∈ s.bumped then
      { s with bumped := s.bumped.erase (channel, id), inbound := s.inbound ++ [.register channel id callback]
               handles := (channel, id) :: s.handles }
    else s
  | .postRejected channel id =>
    if (channel, id) ∈ s.bumped then
      { s with bumped := s.bumped.erase (channel, id), rejected := (channel, id) :: s.rejected }
    else s
  | .compensate channel id =>
    if (channel, id) ∈ s.rejected then
      { s.onMirror (·.unbump channel) with rejected := s.rejected.erase (channel, id) }
    else s
  | .handleDrop channel id =>
    { s with inbound := s.inbound ++ [.deregister channel id], handles := s.handles.erase (channel, id) }
  | .guardDrop channel id =>
    { s with inbound := s.inbound ++ [.subscriptionGuardDrop channel id], handles := s.handles.erase (channel, id) }
  | .take =>
    match s.inbound with
    | [] => s
    | msg :: rest => { s with registry := handleInbound s.registry msg, inbound := rest }

/-- The state after a list of steps. -/
def run (acts : List (HandlerAct β)) : HandlerSystem β := exec step new acts

/-- The ids a list of steps allocates. -/
def allocatedIds (acts : List (HandlerAct β)) : List HandlerId :=
  acts.filterMap fun | .bump _ id => some id | _ => none

/-! ## What the count stands for -/

/-- The posted registrations of a channel. -/
def posted (s : HandlerSystem β) (ch : ChannelName) : Nat :=
  s.inbound.countP fun m => m.registers.any (·.1 = ch)

/-- The bumps of a channel that are neither posted nor compensated. -/
def outstanding (s : HandlerSystem β) (ch : ChannelName) : Nat :=
  s.bumped.countP (·.1 = ch) + s.rejected.countP (·.1 = ch)

/-- How often an id is registered, posted or about to be posted on a channel. -/
def uses (s : HandlerSystem β) (ch : ChannelName) (id : HandlerId) : Nat :=
  (s.registry.handlersFor ch).countP (·.id = id) + s.inbound.countP (·.registers = some (ch, id)) +
    s.bumped.count (ch, id)

/-- Every registration in a queue has its handle, or its deregistration behind it. -/
def Owed (handles : List (ChannelName × HandlerId)) : List (HandlerMessage β) → Prop
  | [] => True
  | m :: rest =>
    (∀ h, m.registers = some h → h ∈ handles ∨ ∃ m' ∈ rest, m'.deregisters = some h) ∧ Owed handles rest

/-- What holds at each point of a run whose ids are fresh, `acts` being what is still to come. -/
structure PresenceOk (s : HandlerSystem β) (acts : List (HandlerAct β)) : Prop where
  exact : ∀ ch, s.mirror.count ch = (s.registry.handlersFor ch).length + s.posted ch + s.outstanding ch
  fresh : ∀ ch id, s.uses ch id + (allocatedIds acts).count id ≤ 1
  owedHandlers : ∀ ch, ∀ e ∈ s.registry.handlersFor ch,
    (ch, e.id) ∈ s.handles ∨ ∃ m ∈ s.inbound, m.deregisters = some (ch, e.id)
  owedInbound : Owed s.handles s.inbound

/-! ### The handles behind the registrations -/

theorem Owed.mono {H H' : List (ChannelName × HandlerId)} (hsub : ∀ h ∈ H, h ∈ H') {q : List (HandlerMessage β)}
    (h : Owed H q) : Owed H' q := by
  induction q with
  | nil => trivial
  | cons m rest ih => exact ⟨fun h' hm => (h.1 h' hm).imp_left (hsub h'), ih h.2⟩

theorem Owed.append {H : List (ChannelName × HandlerId)} {q : List (HandlerMessage β)} (h : Owed H q)
    {m : HandlerMessage β} (hm : ∀ x, m.registers = some x → x ∈ H) : Owed H (q ++ [m]) := by
  induction q with
  | nil => exact ⟨fun x hx => .inl (hm x hx), trivial⟩
  | cons m' rest ih =>
    refine ⟨fun x hx => ?_, ih h.2⟩
    rcases h.1 x hx with hin | ⟨d, hd, hdx⟩
    · exact .inl hin
    · exact .inr ⟨d, List.mem_append_left _ hd, hdx⟩

/-- A dropped handle leaves its deregistration behind everything queued. -/
theorem Owed.drop {H : List (ChannelName × HandlerId)} {q : List (HandlerMessage β)} (h : Owed H q)
    {m : HandlerMessage β} {x : ChannelName × HandlerId} (hr : m.registers = none) (hd : m.deregisters = some x) :
    Owed (H.erase x) (q ++ [m]) := by
  induction q with
  | nil =>
    refine ⟨fun y hy => ?_, trivial⟩
    rw [hr] at hy
    cases hy
  | cons m' rest ih =>
    refine ⟨fun y hy => ?_, ih h.2⟩
    by_cases hyx : y = x
    · subst hyx
      exact .inr ⟨m, by simp, hd⟩
    · rcases h.1 y hy with hin | ⟨d, hdm, hdy⟩
      · exact .inl ((List.mem_erase_of_ne hyx).2 hin)
      · exact .inr ⟨d, List.mem_append_left _ hdm, hdy⟩

/-! ### One step -/

theorem countP_erase_channel {l : List (ChannelName × HandlerId)} {ch : ChannelName} {id : HandlerId}
    (h : (ch, id) ∈ l) (ch' : ChannelName) :
    (l.erase (ch, id)).countP (·.1 = ch') + (if ch = ch' then 1 else 0) = l.countP (·.1 = ch') := by
  have hperm := (List.perm_cons_erase h).countP_eq (fun x : ChannelName × HandlerId => decide (x.1 = ch'))
  rw [hperm, List.countP_cons]
  simp

theorem countP_registers_singleton (m : HandlerMessage β) (x : ChannelName × HandlerId) :
    [m].countP (·.registers = some x) = if m.registers = some x then 1 else 0 := by
  simp [List.countP_cons]

theorem countP_registers_cons (m : HandlerMessage β) (q : List (HandlerMessage β)) (x : ChannelName × HandlerId) :
    (m :: q).countP (·.registers = some x) = q.countP (·.registers = some x) + if m.registers = some x then 1 else 0 := by
  simp [List.countP_cons]

section steps

variable {s : HandlerSystem β} {acts : List (HandlerAct β)}

theorem presenceOk_bump {ch : ChannelName} {id : HandlerId} (h : s.PresenceOk (.bump ch id :: acts)) :
    (step s (.bump ch id)).PresenceOk acts := by
  refine ⟨fun ch' => ?_, fun ch' id' => ?_, h.owedHandlers, h.owedInbound⟩
  · have hex := h.exact ch'
    simp only [mirror, posted, outstanding] at hex
    simp only [step, onMirror, mirror, posted, outstanding, PresenceMirror.count_bump, List.countP_cons,
      HandlerRegistry.handlersFor_withMirror]
    by_cases hc : ch' = ch
    · subst hc
      simp only [if_pos, decide_true]
      omega
    · have hc' : ¬ ch = ch' := fun h => hc h.symm
      simp only [if_neg hc, hc', decide_false, Bool.false_eq_true, if_false]
      omega
  · have hfr : s.uses ch' id' + (id :: allocatedIds acts).count id' ≤ 1 := h.fresh ch' id'
    simp only [uses, List.count_cons] at hfr
    simp only [step, onMirror, uses, List.count_cons, HandlerRegistry.handlersFor_withMirror]
    by_cases hid : id = id'
    · subst hid
      simp only [beq_self_eq_true, if_pos] at hfr
      split <;> omega
    · have hne : ((ch, id) == (ch', id')) = false := by simp [hid]
      rw [hne]
      simp only [Bool.false_eq_true, if_false]
      split at hfr <;> omega

theorem presenceOk_post {ch : ChannelName} {id : HandlerId} {cb : β} (h : s.PresenceOk (.post ch id cb :: acts)) :
    (step s (.post ch id cb)).PresenceOk acts := by
  simp only [step]
  split
  next hb =>
    have hpos := List.count_pos_iff.2 hb
    have hlen := countP_erase_channel hb
    refine ⟨fun ch' => ?_, fun ch' id' => ?_, fun ch' e he => ?_, ?_⟩
    · have hex := h.exact ch'
      have hl := hlen ch'
      simp only [mirror, posted, outstanding] at hex
      simp only [mirror, posted, outstanding, List.countP_append, List.countP_cons, List.countP_nil,
        HandlerMessage.registers_register, Option.any_some, decide_eq_true_eq]
      omega
    · have hfr : s.uses ch' id' + (allocatedIds acts).count id' ≤ 1 := h.fresh ch' id'
      simp only [uses] at hfr
      simp only [uses, List.countP_append, countP_registers_singleton, List.count_erase, beq_iff_eq,
        HandlerMessage.registers_register, Option.some.injEq]
      by_cases hc : (ch, id) = (ch', id')
      · rw [if_pos hc]
        rw [hc] at hpos
        omega
      · rw [if_neg hc]
        omega
    · rcases h.owedHandlers ch' e he with hin | ⟨m, hm, hd⟩
      · exact .inl (List.mem_cons_of_mem _ hin)
      · exact .inr ⟨m, List.mem_append_left _ hm, hd⟩
    · refine Owed.append (h.owedInbound.mono fun x hx => List.mem_cons_of_mem _ hx) fun x hx => ?_
      obtain rfl : (ch, id) = x := by simpa [HandlerMessage.registers] using hx
      exact List.mem_cons_self
  next => exact ⟨h.exact, h.fresh, h.owedHandlers, h.owedInbound⟩

theorem presenceOk_postRejected {ch : ChannelName} {id : HandlerId} (h : s.PresenceOk (.postRejected ch id :: acts)) :
    (step s (.postRejected ch id)).PresenceOk acts := by
  simp only [step]
  split
  next hb =>
    refine ⟨fun ch' => ?_, fun ch' id' => ?_, h.owedHandlers, h.owedInbound⟩
    · have hex := h.exact ch'
      have hl := countP_erase_channel hb ch'
      simp only [mirror, posted, outstanding] at hex
      simp only [mirror, posted, outstanding, List.countP_cons, decide_eq_true_eq]
      omega
    · have hfr : s.uses ch' id' + (allocatedIds acts).count id' ≤ 1 := h.fresh ch' id'
      have hle := (List.erase_sublist (a := (ch, id)) (l := s.bumped)).count_le (ch', id')
      simp only [uses] at hfr
      simp only [uses]
      omega
  next => exact ⟨h.exact, h.fresh, h.owedHandlers, h.owedInbound⟩

theorem presenceOk_compensate {ch : ChannelName} {id : HandlerId} (h : s.PresenceOk (.compensate ch id :: acts)) :
    (step s (.compensate ch id)).PresenceOk acts := by
  simp only [step]
  split
  next hr =>
    refine ⟨fun ch' => ?_, h.fresh, h.owedHandlers, h.owedInbound⟩
    have hex := h.exact ch'
    have hl := countP_erase_channel hr ch'
    simp only [mirror, posted, outstanding] at hex
    simp only [onMirror, mirror, posted, outstanding, PresenceMirror.count_unbump, HandlerRegistry.handlersFor_withMirror]
    by_cases hc : ch' = ch
    · subst hc
      simp only [if_pos] at hl ⊢
      omega
    · rw [if_neg (fun h => hc h.symm)] at hl
      rw [if_neg hc]
      omega
  next => exact ⟨h.exact, h.fresh, h.owedHandlers, h.owedInbound⟩

/-- A deregistration is posted: nothing is counted yet, and the handle is gone. -/
theorem presenceOk_drop {a : HandlerAct β} {m : HandlerMessage β} {x : ChannelName × HandlerId}
    (h : s.PresenceOk (a :: acts)) (ha : allocatedIds (a :: acts) = allocatedIds acts) (hr : m.registers = none)
    (hd : m.deregisters = some x) :
    PresenceOk { s with inbound := s.inbound ++ [m], handles := s.handles.erase x } acts := by
  refine ⟨fun ch => ?_, fun ch id => ?_, fun ch e he => ?_, h.owedInbound.drop hr hd⟩
  · have hex := h.exact ch
    simp only [mirror, posted, outstanding] at hex
    simp only [mirror, posted, outstanding, List.countP_append, List.countP_cons, List.countP_nil, hr]
    simpa using hex
  · have hfr := h.fresh ch id
    rw [ha] at hfr
    simp only [uses] at hfr
    simp only [uses, List.countP_append, countP_registers_singleton, hr]
    simpa using hfr
  · by_cases hex : (ch, e.id) = x
    · exact .inr ⟨m, by simp, by rw [hd, hex]⟩
    · rcases h.owedHandlers ch e he with hin | ⟨m', hm', hd'⟩
      · exact .inl ((List.mem_erase_of_ne hex).2 hin)
      · exact .inr ⟨m', List.mem_append_left _ hm', hd'⟩

theorem presenceOk_takeRegister {rest : List (HandlerMessage β)} {ch : ChannelName} {id : HandlerId} {cb : β}
    (h : s.PresenceOk (.take :: acts)) (hq : s.inbound = .register ch id cb :: rest) :
    PresenceOk { s with registry := s.registry.registerWithId ch id cb, inbound := rest } acts := by
  refine ⟨fun ch' => ?_, fun ch' id' => ?_, fun ch' e he => ?_, ?_⟩
  · have hex := h.exact ch'
    simp only [mirror, posted, outstanding, hq, List.countP_cons, HandlerMessage.registers_register, Option.any_some,
      decide_eq_true_eq] at hex
    simp only [mirror, posted, outstanding, HandlerRegistry.handlersFor_registerWithId]
    by_cases hc : ch' = ch
    · subst hc
      simp only [if_pos, List.length_append, List.length_singleton] at hex ⊢
      exact hex.trans (by omega)
    · rw [if_neg (fun h => hc h.symm)] at hex
      rw [if_neg hc]
      exact hex
  · have hfr : s.uses ch' id' + (allocatedIds acts).count id' ≤ 1 := h.fresh ch' id'
    simp only [uses, hq, countP_registers_cons, HandlerMessage.registers_register, Option.some.injEq,
      Prod.mk.injEq] at hfr
    simp only [uses, HandlerRegistry.handlersFor_registerWithId]
    by_cases hc : ch' = ch
    · subst hc
      simp only [if_pos, List.countP_append, List.countP_cons, List.countP_nil, decide_eq_true_eq, true_and] at hfr ⊢
      omega
    · rw [if_neg (fun h => hc h.1.symm)] at hfr
      rw [if_neg hc]
      exact hfr
  · have hback : (∃ m ∈ s.inbound, m.deregisters = some (ch', e.id)) → ∃ m ∈ rest, m.deregisters = some (ch', e.id) := by
      rintro ⟨m, hm, hd⟩
      rw [hq] at hm
      rcases List.mem_cons.1 hm with rfl | hm
      · cases hd
      · exact ⟨m, hm, hd⟩
    have hown := h.owedInbound
    rw [hq] at hown
    simp only [HandlerRegistry.handlersFor_registerWithId] at he
    split at he
    next hc =>
      subst hc
      rcases List.mem_append.1 he with he | he
      · exact (h.owedHandlers ch' e he).imp_right hback
      · obtain rfl := List.mem_singleton.1 he
        exact hown.1 (ch', id) rfl
    next => exact (h.owedHandlers ch' e he).imp_right hback
  · have hown := h.owedInbound
    rw [hq] at hown
    exact hown.2

theorem presenceOk_takeDeregister {rest : List (HandlerMessage β)} {m : HandlerMessage β} {ch : ChannelName}
    {id : HandlerId} (h : s.PresenceOk (.take :: acts)) (hq : s.inbound = m :: rest) (hr : m.registers = none)
    (hd : m.deregisters = some (ch, id)) :
    PresenceOk { s with registry := s.registry.deregister ch id, inbound := rest } acts := by
  have hone : (s.registry.handlersFor ch).countP (·.id = id) ≤ 1 := by
    have hfr := h.fresh ch id
    simp only [uses] at hfr
    omega
  have hlen := HandlerRegistry.length_filter_ne (s.registry.handlersFor ch) id
  refine ⟨fun ch' => ?_, fun ch' id' => ?_, fun ch' e he => ?_, ?_⟩
  · have hex := h.exact ch'
    simp only [mirror, posted, outstanding, hq, List.countP_cons, hr, Option.any_none, Bool.false_eq_true,
      if_false, Nat.add_zero] at hex
    simp only [mirror, posted, outstanding, HandlerRegistry.handlersFor_deregister, HandlerRegistry.count_deregister]
    by_cases hc : ch' = ch
    · subst hc
      simp only [if_pos, true_and]
      split <;> omega
    · rw [if_neg (fun h => hc h.1), if_neg hc]
      exact hex
  · have hfr : s.uses ch' id' + (allocatedIds acts).count id' ≤ 1 := h.fresh ch' id'
    simp only [uses, hq, countP_registers_cons, hr, reduceCtorEq, if_false, Nat.add_zero] at hfr
    simp only [uses, HandlerRegistry.handlersFor_deregister]
    by_cases hc : ch' = ch
    · subst hc
      have hle := (List.filter_sublist (p := fun e : HandlerEntry β => decide (e.id ≠ id))
        (l := s.registry.handlersFor ch')).countP_le (p := fun e => decide (e.id = id'))
      rw [if_pos rfl]
      omega
    · rw [if_neg hc]
      exact hfr
  · simp only [HandlerRegistry.handlersFor_deregister] at he
    have hin : e ∈ s.registry.handlersFor ch' ∧ (ch', e.id) ≠ (ch, id) := by
      split at he
      next hc =>
        subst hc
        obtain ⟨he, hne⟩ := List.mem_filter.1 he
        exact ⟨he, fun heq => by simp [(Prod.mk.inj heq).2] at hne⟩
      next hc => exact ⟨he, fun heq => hc (Prod.mk.inj heq).1⟩
    rcases h.owedHandlers ch' e hin.1 with ho | ⟨m', hm', hd'⟩
    · exact .inl ho
    · rw [hq] at hm'
      rcases List.mem_cons.1 hm' with rfl | hm'
      · rw [hd] at hd'
        exact absurd (Option.some.inj hd').symm hin.2
      · exact .inr ⟨m', hm', hd'⟩
  · have hown := h.owedInbound
    rw [hq] at hown
    exact hown.2

theorem presenceOk_step (a : HandlerAct β) (h : s.PresenceOk (a :: acts)) : (step s a).PresenceOk acts := by
  cases a with
  | bump ch id => exact presenceOk_bump h
  | post ch id cb => exact presenceOk_post h
  | postRejected ch id => exact presenceOk_postRejected h
  | compensate ch id => exact presenceOk_compensate h
  | handleDrop ch id => exact presenceOk_drop h rfl rfl rfl
  | guardDrop ch id => exact presenceOk_drop h rfl rfl rfl
  | take =>
    simp only [step]
    split
    next => exact ⟨h.exact, h.fresh, h.owedHandlers, h.owedInbound⟩
    next msg rest hq =>
      cases msg with
      | register ch id cb => exact presenceOk_takeRegister h hq
      | deregister ch id => exact presenceOk_takeDeregister h hq rfl rfl
      | subscriptionGuardDrop ch id => exact presenceOk_takeDeregister h hq rfl rfl

end steps

theorem presenceOk_new {acts : List (HandlerAct β)} (hd : (allocatedIds acts).Nodup) : (new : HandlerSystem β).PresenceOk acts := by
  refine ⟨fun ch => rfl, fun ch id => ?_, fun ch e he => ?_, trivial⟩
  · have hone := List.nodup_iff_count_le_one.1 hd id
    have hzero : (new : HandlerSystem β).uses ch id = 0 := rfl
    omega
  · cases he

theorem presenceOk_run {acts : List (HandlerAct β)} (hd : (allocatedIds acts).Nodup) : (run acts).PresenceOk [] :=
  exec_remaining (fun _ a _ h => presenceOk_step a h) acts (presenceOk_new hd)

/-- **The presence mirror is exact.** -/
theorem presence_exact (acts : List (HandlerAct β)) (hd : (allocatedIds acts).Nodup) :
    (∀ ch, (run acts).mirror.count ch =
      ((run acts).registry.handlersFor ch).length + (run acts).posted ch + (run acts).outstanding ch) ∧
    (∀ ch, (run acts).registry.handlersFor ch ≠ [] → (run acts).mirror.hasHandlers ch = true) ∧
    ((run acts).handles = [] → (run acts).inbound = [] → (run acts).bumped = [] → (run acts).rejected = [] →
      ∀ ch, (run acts).mirror.hasHandlers ch = false) := by
  have h := presenceOk_run hd
  refine ⟨h.exact, fun ch hne => ?_, fun hh hi hb hr ch => ?_⟩
  · have hpos := List.length_pos_iff.2 hne
    have hex := h.exact ch
    rw [PresenceMirror.hasHandlers_iff]
    omega
  · have hnone : (run acts).registry.handlersFor ch = [] := by
      refine List.eq_nil_iff_forall_not_mem.2 fun e he => ?_
      rcases h.owedHandlers ch e he with ho | ⟨m, hm, -⟩
      · simp [hh] at ho
      · simp [hi] at hm
    have hex := h.exact ch
    simp only [posted, outstanding, hnone, hi, hb, hr, List.length_nil, List.countP_nil] at hex
    rw [Bool.eq_false_iff]
    intro hhas
    rw [PresenceMirror.hasHandlers_iff] at hhas
    omega

/-- Two handlers on a channel, one rejected by a full queue; both handles are dropped, and one of the
deregistrations is posted twice. -/
def rejectedSibling : List (HandlerAct Unit) :=
  [.bump .ticker 1, .bump .ticker 2, .post .ticker 1 (), .postRejected .ticker 2, .take, .compensate .ticker 2,
    .handleDrop .ticker 2, .guardDrop .ticker 1, .handleDrop .ticker 1, .take, .take, .take]

theorem presence_exact_rejectedSibling :
    (run rejectedSibling).mirror.count .ticker = 0 ∧ (run rejectedSibling).mirror.hasHandlers .ticker = false :=
  ⟨(presence_exact rejectedSibling (by decide)).1 .ticker,
    (presence_exact rejectedSibling (by decide)).2.2 rfl rfl rfl rfl .ticker⟩

end HandlerSystem

end KrakenSdk.Dispatch
