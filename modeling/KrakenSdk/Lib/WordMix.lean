import Mathlib.Algebra.Order.Floor.Defs
import Mathlib.Data.Finset.Card
import Mathlib.Data.Finset.Range
import Mathlib.Order.Interval.Finset.Nat
/-!
# Mixing words without loss

The steps a counter-based generator mixes a word with lose nothing: an exclusive-or with the word's own right shift, and
a product with a word that has an inverse. Nor does a counter that is advanced by such a word: it comes back after
`2 ^ w` steps and no earlier. What is mixed from it has then had every value once, and its upper bits each of theirs
equally often.
-/
namespace WordMix

variable {w : Nat}

/-! ## Steps that lose nothing -/

/-- `z ^ (z >> k)`. -/
def xorShift (k : Nat) (z : BitVec w) : BitVec w := z ^^^ (z >>> k)

theorem getLsbD_xorShift (k : Nat) (z : BitVec w) (i : Nat) :
    (xorShift k z).getLsbD i = (z.getLsbD i ^^ z.getLsbD (k + i)) := by
  simp [xorShift]

/-- The upper bits are as they were, and each gives away one below it. -/
theorem xorShift_injective {k : Nat} (hk : 0 < k) : Function.Injective (xorShift k : BitVec w → BitVec w) := by
  intro a b h
  have hbit : ∀ n i, w ≤ i + n → a.getLsbD i = b.getLsbD i := by
    intro n
    induction n with
    | zero =>
      intro i hi
      rw [BitVec.getLsbD_of_ge a i (by omega), BitVec.getLsbD_of_ge b i (by omega)]
    | succ n ih =>
      intro i hi
      have hboth : (xorShift k a).getLsbD i = (xorShift k b).getLsbD i := by rw [h]
      rw [getLsbD_xorShift, getLsbD_xorShift, ih (k + i) (by omega)] at hboth
      simpa using hboth
  exact BitVec.eq_of_getLsbD_eq fun i _ => hbit w i (by omega)

/-- A factor with an inverse. -/
theorem mul_injective {c d : BitVec w} (h : c * d = 1#w) : Function.Injective fun z : BitVec w => z * c := by
  intro a b hab
  have hd := congrArg (· * d) hab
  simpa [BitVec.mul_assoc, h] using hd

/-! ## A counter -/

/-- The counter after `n` steps of `gamma`. -/
def counter (seed gamma : BitVec w) (n : Nat) : BitVec w := seed + BitVec.ofNat w n * gamma

theorem counter_zero (seed gamma : BitVec w) : counter seed gamma 0 = seed := by
  simp [counter]

theorem counter_succ (seed gamma : BitVec w) (n : Nat) : counter seed gamma (n + 1) = counter seed gamma n + gamma := by
  simp [counter, BitVec.ofNat_add, BitVec.add_mul, BitVec.add_assoc]

/-- Two steps less than a period apart differ. -/
theorem counter_inj {gamma d : BitVec w} (h : gamma * d = 1#w) (seed : BitVec w) {m n : Nat} (hmn : m ≤ n)
    (hlt : n < m + 2 ^ w) (heq : counter seed gamma m = counter seed gamma n) : m = n := by
  have hfactor : BitVec.ofNat w m * gamma = BitVec.ofNat w n * gamma := (BitVec.add_right_inj ..).1 heq
  have hnat : m % 2 ^ w = n % 2 ^ w := by
    simpa using congrArg BitVec.toNat (mul_injective h hfactor)
  have hdvd : 2 ^ w ∣ n - m := Nat.dvd_of_mod_eq_zero (Nat.sub_mod_eq_zero_of_mod_eq hnat.symm)
  have hzero : n - m = 0 := Nat.eq_zero_of_dvd_of_lt hdvd (by omega)
  omega

/-! ## A period -/

/-- The numbers with one quotient. -/
theorem countP_div_range {p m N : Nat} (hp : 0 < p) (hN : (m + 1) * p ≤ N) :
    (List.range N).countP (fun n => n / p = m) = p := by
  have hfilter : (Finset.range N).filter (fun n => n / p = m) = Finset.Ico (m * p) ((m + 1) * p) := by
    ext n
    rw [Finset.mem_filter, Finset.mem_range, Finset.mem_Ico, Nat.div_eq_iff hp, Nat.add_mul]
    rw [Nat.add_mul] at hN
    omega
  have hcard := congrArg Finset.card hfilter
  rw [Nat.card_Ico, Nat.add_mul, Nat.one_mul, Nat.add_sub_cancel_left] at hcard
  rw [List.countP_eq_length_filter]
  exact hcard

/-- As many numbers as there are, no two the same and each small enough: all of them. -/
theorem perm_range {l : List Nat} {N : Nat} (hlen : l.length = N) (hnodup : l.Nodup) (hlt : ∀ n ∈ l, n < N) :
    l.Perm (List.range N) := by
  refine List.Subperm.perm_of_length_le (List.subperm_of_subset hnodup fun n hn => ?_) (by simp [hlen])
  exact List.mem_range.2 (hlt n hn)

/-- **Over a period of the counter** every value of the upper bits comes equally often. -/
theorem countP_period {f : BitVec w → BitVec w} (hf : Function.Injective f) {gamma d : BitVec w}
    (h : gamma * d = 1#w) (seed : BitVec w) (start : Nat) {s m : Nat} (hs : s ≤ w) (hm : m < 2 ^ (w - s)) :
    ((List.range' start (2 ^ w)).map fun n => f (counter seed gamma n)).countP (fun b => b.toNat / 2 ^ s = m) = 2 ^ s := by
  have hperm : ((List.range' start (2 ^ w)).map fun n => (f (counter seed gamma n)).toNat).Perm (List.range (2 ^ w)) := by
    refine perm_range (by simp) ?_ ?_
    · refine List.Nodup.map_on (fun i hi j hj heq => ?_) List.nodup_range'
      rw [List.mem_range'_1] at hi hj
      have hcounter := hf (BitVec.eq_of_toNat_eq heq)
      rcases Nat.le_total i j with hij | hij
      · exact counter_inj h seed hij (by omega) hcounter
      · exact (counter_inj h seed hij (by omega) hcounter.symm).symm
    · intro n hn
      obtain ⟨i, -, rfl⟩ := List.mem_map.1 hn
      exact (f (counter seed gamma i)).isLt
  have hpow : 2 ^ (w - s) * 2 ^ s = 2 ^ w := by
    rw [← Nat.pow_add, Nat.sub_add_cancel hs]
  have hroom : (m + 1) * 2 ^ s ≤ 2 ^ w := hpow ▸ Nat.mul_le_mul_right _ hm
  calc ((List.range' start (2 ^ w)).map fun n => f (counter seed gamma n)).countP (fun b => b.toNat / 2 ^ s = m)
      = ((List.range' start (2 ^ w)).map fun n => (f (counter seed gamma n)).toNat).countP (fun n => n / 2 ^ s = m) := by
        rw [List.countP_map, List.countP_map]
        rfl
    _ = (List.range (2 ^ w)).countP (fun n => n / 2 ^ s = m) := hperm.countP_eq _
    _ = 2 ^ s := countP_div_range (Nat.two_pow_pos s) hroom

end WordMix
