import KrakenSdk.Dispatch.ArmRegistry
/-!
# A success ack and its entry (dispatch/io_reactor/frame_routing.rs:435-606)

`handle_sub_ack` has three branches for a success: the handshake's, that of an armed ack timer, and the late
one. Only the first two record the ack; the late one ends the retries of a live stream and leaves its entry
`Pending` (`acked_iff`).
-/
namespace KrakenSdk.Dispatch.IoReactor

open KrakenSdk.Conn KrakenSdk.Conn.SubscriptionRegistry

variable {s : IoReactor} {env : ArmEnv} {url : WsUrl} {key : EntryKey}

/-- A subscribe ack with `success: true`. -/
def SuccessAck (json : Json) : Prop :=
  (json.get? "method").bind Json.asStr? = some "subscribe" ∧ (json.get? "success").bind Json.asBool? = some true

/-- The entry of the key is `Acked`, and so is its mirror row. -/
def ShowsAcked (s : IoReactor) (key : EntryKey) : Prop :=
  (s.registry.entry key).map (·.state) = some .acked ∧ (s.registry.mirror.lookup key).map (·.state) = some .acked

/-- The branches of a success that reach `note_acked`. -/
def AckRecorded (s : IoReactor) (url : WsUrl) (key : EntryKey) : Prop :=
  (s.conns url).state = .authenticating ∨ (s.conns url).isSubscribeAckArmed key = true

instance : Decidable (s.AckRecorded url key) := inferInstanceAs (Decidable (_ ∨ _))

/-- What the three branches of a success do to the registry. -/
theorem registry_handleSubAck {json : Json} (hjson : SuccessAck json)
    (hkey : ackKey (s.conns url) json = some key) : (s.handleSubAck env url json).2.registry =
      if s.AckRecorded url key then s.registry.noteAcked key else s.registry := by
  obtain ⟨hmethod, hsuccess⟩ := hjson
  unfold handleSubAck
  rw [hmethod]
  simp only [hsuccess, hkey, Option.getD_some]
  by_cases hauth : (s.conns url).state = .authenticating
  · have hrec : s.AckRecorded url key := Or.inl hauth
    rw [if_pos hauth, if_pos hrec]
    unfold handshakeAck
    simp only [if_true]
    split_ifs <;> rfl
  · rw [if_neg hauth]
    by_cases harm : (s.conns url).isSubscribeAckArmed key = true
    · have hrec : s.AckRecorded url key := Or.inr harm
      rw [if_neg (by simp [harm]), if_pos hrec]
      unfold armedAck
      simp only [Bool.true_or, if_true]
      rfl
    · have hrec : ¬ s.AckRecorded url key := not_or.2 ⟨hauth, harm⟩
      rw [if_pos (by simpa using harm), if_neg hrec]
      rfl

/-- `note_acked` on a live entry. -/
theorem entry_noteAcked {r : SubscriptionRegistry} {key : EntryKey} {e : SubscriptionEntry} (he : r.entry key = some e)
    (hlive : e.isTombstone = false) : ((r.noteAcked key).entry key).map (·.state) = some .acked := by
  unfold noteAcked
  rw [he]
  dsimp only
  split_ifs with hp
  · rw [entry_mirrorWrite, entry_entryMut, if_pos rfl, he]
    rfl
  · rw [he]
    cases hs : e.state with
    | pending => exact absurd hs hp
    | acked => exact congrArg some hs
    | terminated cause lastError => simp [SubscriptionEntry.isTombstone, hs] at hlive

/-- **A success ack leaves its live entry `Acked`**, and its mirror row, exactly when a branch that records it
takes it or the entry was `Acked` before. `s` is any state in the middle of an arm: the registry is one of a
run, the connections are whatever the arm made of them. -/
theorem acked_iff (knobs : Knobs) (ls : List ArmLabel) (s : IoReactor) (hs : s.registry = (run knobs ls).registry)
    (env : ArmEnv) (url : WsUrl) (json : Json) (key : EntryKey) (e : SubscriptionEntry) (hjson : SuccessAck json)
    (hkey : ackKey (s.conns url) json = some key) (he : s.registry.entry key = some e) (hlive : e.isTombstone = false) :
    (s.handleSubAck env url json).2.ShowsAcked key ↔ s.AckRecorded url key ∨ e.state = .acked := by
  have hshown : Shown s.registry := by
    rw [hs]
    exact shown_run (fromOps_run knobs ls)
  have hreg : (s.handleSubAck env url json).2.registry = _ := registry_handleSubAck hjson hkey
  unfold ShowsAcked
  rw [hreg]
  by_cases hrec : s.AckRecorded url key
  · rw [if_pos hrec]
    have hacked := entry_noteAcked he hlive
    refine iff_of_true ⟨hacked, ?_⟩ (Or.inl hrec)
    rw [((shown_noteAcked hshown key).slot key).mirrored]
    exact hacked
  · rw [if_neg hrec, ((hshown.slot key).mirrored), he, Option.map_some, and_self, Option.some_inj]
    exact (or_iff_right hrec).symm

/-- The retry of a subscribe whose answer is late: the ack timer fires, then the success arrives. -/
def lateSuccess : List ArmLabel :=
  firstBringUp.take 3 ++ [⟨bringUpEnv 1, .timer .publicUrl (.timerSubscribeAckTimeout .status none)⟩]

def statusAck : Json :=
  .obj [("method", .str "subscribe"), ("success", .bool true), ("result", .obj [("channel", .str "status")])]

theorem acked_iff_firstBringUp :
    ((run (bringUpEnv 0).knobs (firstBringUp.take 3)).handleSubAck (bringUpEnv 1) .publicUrl statusAck).2.ShowsAcked
      (.status, none) :=
  (acked_iff _ (firstBringUp.take 3) _ rfl (bringUpEnv 1) .publicUrl statusAck (.status, none) _
    ⟨by decide, by decide⟩ (by decide) rfl rfl).2 (.inl (.inr (by decide)))

/-- The entry stays `Pending`. -/
theorem lateSuccess_pending : ¬ ∀ (knobs : Knobs) (ls : List ArmLabel) (env : ArmEnv) (url : WsUrl) (json : Json)
    (key : EntryKey) (e : SubscriptionEntry), SuccessAck json → ackKey ((run knobs ls).conns url) json = some key →
    (run knobs ls).registry.entry key = some e → e.isTombstone = false →
    ((run knobs ls).handleSubAck env url json).2.ShowsAcked key := by
  intro h
  have hacked := (h (bringUpEnv 0).knobs lateSuccess (bringUpEnv 1) .publicUrl statusAck (.status, none) _
    ⟨by decide, by decide⟩ (by decide) rfl rfl).1
  exact absurd hacked (by decide)

end KrakenSdk.Dispatch.IoReactor
