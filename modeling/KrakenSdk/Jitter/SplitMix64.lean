import KrakenSdk.Lib.StepSystem
import KrakenSdk.Lib.WordMix
import Mathlib.Algebra.Order.Field.Basic
import Mathlib.Algebra.Order.Field.Rat
import Mathlib.Tactic.Linarith
import Mathlib.Tactic.NormNum
/-!
# The jitter of the reconnect backoff (jitter/mod.rs)

One generator serves every connection and every retry. A draw is one `fetch_add` on its state; what is made of the state
that was there is the thread's own business, so a run is the order in which the threads come to that one instruction.

A `u64` below `2 ^ 53` is an `f64`, and so is its quotient by `2 ^ 53`: the value drawn is the rational number here.

`draws_uniform`: whichever threads draw and in whatever order, of `2 ^ 64` draws in a row each of the `2 ^ 53` values is
drawn equally often.
-/
namespace KrakenSdk.Jitter

open StepSystem WordMix

/-- `GAMMA` (jitter/mod.rs:20). -/
def gamma : BitVec 64 := 0x9E3779B97F4A7C15#64

/-- `SplitMix64Jitter` (jitter/mod.rs:14). -/
structure SplitMix64Jitter where
  state : BitVec 64
  deriving DecidableEq, Repr

namespace SplitMix64Jitter

/-- `with_seed` (jitter/mod.rs:23). -/
def withSeed (seed : BitVec 64) : SplitMix64Jitter := ⟨seed⟩

/-- `from_os` (jitter/mod.rs:30), from the two halves of a UUID. -/
def fromOs (lo hi : BitVec 64) : SplitMix64Jitter := withSeed (lo + hi * gamma)

/-- `mix` (jitter/mod.rs:40). -/
def mix (z : BitVec 64) : BitVec 64 :=
  let z := z + gamma
  let z := (z ^^^ (z >>> 30)) * 0xBF58476D1CE4E5B9#64
  let z := (z ^^^ (z >>> 27)) * 0x94D049BB133111EB#64
  z ^^^ (z >>> 31)

/-- `next_unit` (jitter/mod.rs:54). -/
def nextUnit (j : SplitMix64Jitter) : SplitMix64Jitter × ℚ :=
  (⟨j.state + gamma⟩, ((mix j.state >>> 11).toNat : ℚ) / 2 ^ 53)

end SplitMix64Jitter

/-! ## Threads that draw -/

/-- The generator and what was drawn, by thread. -/
structure Draws where
  jitter : SplitMix64Jitter
  log : List (Nat × ℚ)

namespace Draws

def start (jitter : SplitMix64Jitter) : Draws := ⟨jitter, []⟩

/-- A thread draws. -/
def draw (s : Draws) (thread : Nat) : Draws :=
  ⟨s.jitter.nextUnit.1, s.log ++ [(thread, s.jitter.nextUnit.2)]⟩

/-- What the threads draw that come one after the other. -/
def drawn (seed : BitVec 64) (threads : List Nat) : List (Nat × ℚ) :=
  (exec draw (start (.withSeed seed)) threads).log

end Draws

/-! ## Nothing is lost -/

/-- The odd constants have inverses. -/
theorem gamma_mul_inv : gamma * 0xF1DE83E19937733D#64 = 1#64 := by decide

theorem mix_injective : Function.Injective SplitMix64Jitter.mix := by
  have hfirst : (0xBF58476D1CE4E5B9#64 : BitVec 64) * 0x96DE1B173F119089#64 = 1#64 := by decide
  have hsecond : (0x94D049BB133111EB#64 : BitVec 64) * 0x319642B2D24D8EC3#64 = 1#64 := by decide
  have hadd : Function.Injective fun z : BitVec 64 => z + gamma := fun a b h => (BitVec.add_left_inj gamma).1 h
  exact (xorShift_injective (by decide)).comp <| (mul_injective hsecond).comp <|
    (xorShift_injective (by decide)).comp <| (mul_injective hfirst).comp <| (xorShift_injective (by decide)).comp hadd

/-- The value drawn from a word. -/
def unitOf (bits : BitVec 64) : ℚ := ((bits.toNat / 2 ^ 11 : Nat) : ℚ) / 2 ^ 53

theorem nextUnit_snd (j : SplitMix64Jitter) : j.nextUnit.2 = unitOf (SplitMix64Jitter.mix j.state) := by
  rw [SplitMix64Jitter.nextUnit, unitOf, BitVec.toNat_ushiftRight, Nat.shiftRight_eq_div_pow]

theorem unitOf_eq_iff (bits : BitVec 64) (m : Nat) : unitOf bits = (m : ℚ) / 2 ^ 53 ↔ bits.toNat / 2 ^ 11 = m := by
  rw [unitOf, div_left_inj' (by norm_num), Nat.cast_inj]

/-- Words of one value are words of one numerator. -/
theorem countP_unitOf (words : List (BitVec 64)) (m : Nat) :
    (words.map unitOf).countP (fun unit => unit = (m : ℚ) / 2 ^ 53) =
      words.countP (fun bits => bits.toNat / 2 ^ 11 = m) := by
  rw [List.countP_map]
  exact List.countP_congr fun bits _ => by simp only [Function.comp_apply, unitOf_eq_iff]

theorem unitOf_mem (bits : BitVec 64) : 0 ≤ unitOf bits ∧ unitOf bits < 1 := by
  have hlt : bits.toNat / 2 ^ 11 < 2 ^ 53 := by
    have := bits.isLt
    omega
  constructor
  · exact div_nonneg (Nat.cast_nonneg _) (by norm_num)
  · rw [unitOf, div_lt_one (by norm_num)]
    exact_mod_cast hlt

namespace Draws

/-- A part of what is made of the numbers in their order is made of numbers in a row. -/
theorem eq_map_range' {α : Type} {f : Nat → α} {n : Nat} {before period after : List α}
    (h : (List.range' 0 n).map f = before ++ period ++ after) :
    period = (List.range' before.length period.length).map f := by
  have hlen := congrArg List.length h
  simp only [List.length_map, List.length_range', List.length_append] at hlen
  rw [hlen, Nat.add_assoc, ← List.range'_append_1, ← List.range'_append_1, List.append_assoc, List.map_append,
    List.map_append] at h
  have htail := (List.append_inj h (by simp)).2
  rw [Nat.zero_add] at htail
  exact (List.append_inj htail (by simp)).1.symm

/-- After any draws the counter has moved on by as many steps, and each draw has its own. -/
theorem draws_log (seed : BitVec 64) (threads : List Nat) :
    exec draw (start (.withSeed seed)) threads =
      ⟨⟨counter seed gamma threads.length⟩,
        threads.zipIdx.map fun t => (t.1, unitOf (SplitMix64Jitter.mix (counter seed gamma t.2)))⟩ := by
  induction threads using List.reverseRecOn with
  | nil => simp [start, SplitMix64Jitter.withSeed, counter_zero]
  | append_singleton threads thread ih =>
    rw [exec_append, ih, exec_cons, exec_nil, draw, nextUnit_snd, List.length_append, List.length_singleton,
      counter_succ, List.zipIdx_append, List.map_append]
    simp [SplitMix64Jitter.nextUnit]

/-- **The draws of all threads together are uniform.** Whatever the seed, whichever threads draw and in whatever order:
each draw is its thread's, it is in `[0, 1)`, and of any `2 ^ 64` draws in a row each of the `2 ^ 53` values is drawn
`2 ^ 11` times. -/
theorem draws_uniform (seed : BitVec 64) (threads : List Nat) :
    (drawn seed threads).map Prod.fst = threads ∧ (∀ draw ∈ drawn seed threads, 0 ≤ draw.2 ∧ draw.2 < 1) ∧
      ∀ before period after, drawn seed threads = before ++ period ++ after → period.length = 2 ^ 64 →
        ∀ m : Nat, m < 2 ^ 53 → period.countP (fun draw => draw.2 = (m : ℚ) / 2 ^ 53) = 2 ^ 11 := by
  have hlog : drawn seed threads = threads.zipIdx.map fun t => (t.1, unitOf (SplitMix64Jitter.mix (counter seed gamma t.2))) :=
    congrArg Draws.log (draws_log seed threads)
  refine ⟨?_, ?_, ?_⟩
  · rw [hlog, List.map_map]
    exact List.zipIdx_map_fst 0 threads
  · intro draw hdraw
    rw [hlog] at hdraw
    obtain ⟨t, -, rfl⟩ := List.mem_map.1 hdraw
    exact unitOf_mem _
  · intro before period after hsplit hlen m hm
    have hunits : (List.range' 0 threads.length).map (fun n => unitOf (SplitMix64Jitter.mix (counter seed gamma n))) =
        before.map Prod.snd ++ period.map Prod.snd ++ after.map Prod.snd := by
      rw [← List.map_append, ← List.map_append, ← hsplit, hlog, List.map_map, ← List.zipIdx_map_snd 0 threads,
        List.map_map]
      rfl
    have hsteps := eq_map_range' hunits
    rw [List.length_map, List.length_map, hlen] at hsteps
    have hcount := countP_period mix_injective gamma_mul_inv seed before.length (show 11 ≤ 64 by decide) hm
    calc period.countP (fun draw => draw.2 = (m : ℚ) / 2 ^ 53)
        = (period.map Prod.snd).countP (fun unit => unit = (m : ℚ) / 2 ^ 53) := by
          rw [List.countP_map]
          rfl
      _ = ((List.range' before.length (2 ^ 64)).map fun n => SplitMix64Jitter.mix (counter seed gamma n)).countP
            (fun bits => bits.toNat / 2 ^ 11 = m) := by
          rw [hsteps, ← countP_unitOf, List.map_map]
          rfl
      _ = 2 ^ 11 := hcount

end Draws

end KrakenSdk.Jitter
