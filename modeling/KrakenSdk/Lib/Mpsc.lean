import Mathlib.Data.List.Basic
/-!
# Bounded channels

A bounded queue with one receiver, as tasks meet it. Beside what is queued it remembers what was ever accepted, what
was received and what went with the receiver; that these agree is part of the type, so every operation keeps it.
-/

/-- A bounded channel of `α`. -/
structure Mpsc (α : Type*) where
  capacity : Nat
  queue : List α
  /-- The receiver is there. -/
  receiver : Bool
  /-- What was accepted, in order. -/
  pushed : List α
  /-- What was received, in order. -/
  taken : List α
  /-- What was queued when the receiver went. -/
  lost : List α
  account : pushed = taken ++ lost ++ queue
  room : queue.length ≤ capacity
  whole : receiver = true → lost = []
  gone : receiver = false → queue = []

namespace Mpsc

variable {α : Type*}

/-- Why a value is not accepted. -/
inductive Refused where
  | full | closed
  deriving DecidableEq, Repr

/-- `mpsc::channel(capacity)`. -/
def new (capacity : Nat) : Mpsc α where
  capacity := capacity
  queue := []
  receiver := true
  pushed := []
  taken := []
  lost := []
  account := rfl
  room := Nat.zero_le _
  whole _ := rfl
  gone _ := rfl

/-- `try_send`. -/
def trySend (c : Mpsc α) (a : α) : Except Refused (Mpsc α) :=
  if hopen : c.receiver = false then .error .closed
  else if hroom : c.queue.length < c.capacity then
    .ok { c with
      queue := c.queue ++ [a]
      pushed := c.pushed ++ [a]
      account := by rw [c.account, List.append_assoc]
      room := by
        rw [List.length_append]
        exact hroom
      gone h := absurd h hopen }
  else .error .full

/-- `recv` of a queue that is not empty. -/
def recv (c : Mpsc α) : Option (α × Mpsc α) :=
  match hq : c.queue with
  | [] => none
  | a :: rest =>
    some (a, { c with
      queue := rest
      taken := c.taken ++ [a]
      account := by
        have hopen : c.receiver = true := by
          by_contra h
          have := c.gone (by simpa using h)
          rw [hq] at this
          cases this
        rw [c.account, c.whole hopen, hq]
        simp
      room := by
        have := c.room
        rw [hq, List.length_cons] at this
        omega
      gone h := by
        have := c.gone h
        rw [hq] at this
        cases this })

/-- The receiver goes. -/
def close (c : Mpsc α) : Mpsc α :=
  { c with
    queue := []
    receiver := false
    lost := c.lost ++ c.queue
    account := by rw [c.account]; simp
    room := Nat.zero_le _
    whole h := absurd h Bool.false_ne_true
    gone _ := rfl }

variable {c c' : Mpsc α} {a : α}

theorem trySend_ok (h : c.trySend a = .ok c') :
    c'.pushed = c.pushed ++ [a] ∧ c'.queue = c.queue ++ [a] ∧ c'.taken = c.taken ∧ c'.receiver = c.receiver ∧
      c'.capacity = c.capacity ∧ c.receiver = true := by
  unfold trySend at h
  split_ifs at h with hopen hroom
  obtain rfl := Except.ok.inj h
  exact ⟨rfl, rfl, rfl, rfl, rfl, by simpa using hopen⟩

theorem trySend_error {e : Refused} (h : c.trySend a = .error e) :
    (e = .closed ↔ c.receiver = false) ∧ (e = .full ↔ c.receiver = true ∧ c.queue.length = c.capacity) := by
  have hroom := c.room
  unfold trySend at h
  split_ifs at h with hopen hfree
  · obtain rfl := Except.error.inj h
    simp [hopen]
  · obtain rfl := Except.error.inj h
    have hfull : c.queue.length = c.capacity := by omega
    simp [hopen, hfull]

theorem recv_some (h : c.recv = some (a, c')) :
    c'.pushed = c.pushed ∧ c.queue = a :: c'.queue ∧ c'.taken = c.taken ++ [a] ∧ c'.receiver = c.receiver ∧
      c'.capacity = c.capacity := by
  unfold recv at h
  split at h
  · cases h
  · next b rest hq =>
    obtain ⟨rfl, rfl⟩ := Prod.mk.inj (Option.some.inj h)
    exact ⟨rfl, hq, rfl, rfl, rfl⟩

theorem recv_eq_none : c.recv = none ↔ c.queue = [] := by
  unfold recv
  split
  · next hq => simp [hq]
  · next hq => simp [hq]

@[simp] theorem pushed_close (c : Mpsc α) : c.close.pushed = c.pushed := rfl

@[simp] theorem receiver_close (c : Mpsc α) : c.close.receiver = false := rfl

@[simp] theorem taken_close (c : Mpsc α) : c.close.taken = c.taken := rfl

@[simp] theorem capacity_close (c : Mpsc α) : c.close.capacity = c.capacity := rfl

/-- **What is received is what was sent, from the first on.** -/
theorem taken_isPrefix (c : Mpsc α) : c.taken <+: c.pushed := by
  rw [c.account, List.append_assoc]
  exact List.prefix_append _ _

end Mpsc
