import Mathlib.Tactic.SplitIfs
/-!
# Base64

The standard alphabet with padding. Reading is strict: padding stands at the end only and is never left out, and the
bits a padded group does not use are zero, so a text that is read is the encoding of what it is read as
(`decode_eq_some_iff`).
-/
namespace Base64

def alphabet : List Char := "ABCDEFGHIJKLMNOPQRSTUVWXYZabcdefghijklmnopqrstuvwxyz0123456789+/".toList

/-- The character of six bits. -/
def digit (n : Nat) : Char := alphabet.getD n 'A'

/-- The six bits of a character. -/
def value (c : Char) : Option Nat := alphabet.idxOf? c

theorem value_digit : ∀ n < 64, value (digit n) = some n := by decide +kernel

theorem digit_ne_pad : ∀ n < 64, digit n ≠ '=' := by decide +kernel

theorem value_eq_some {c : Char} {n : Nat} (h : value c = some n) : n < 64 ∧ digit n = c := by
  obtain ⟨hlt, hget, -⟩ := List.idxOf?_eq_some_iff.1 h
  refine ⟨hlt, ?_⟩
  rw [digit, List.getD_eq_getElem?_getD, List.getElem?_eq_getElem hlt]
  exact hget

/-- Three bytes a group, the last one padded. -/
def encode : List UInt8 → List Char
  | [] => []
  | [a] => [digit (a.toNat / 4), digit (a.toNat % 4 * 16), '=', '=']
  | [a, b] => [digit (a.toNat / 4), digit (a.toNat % 4 * 16 + b.toNat / 16), digit (b.toNat % 16 * 4), '=']
  | a :: b :: c :: rest =>
    digit (a.toNat / 4) :: digit (a.toNat % 4 * 16 + b.toNat / 16) ::
      digit (b.toNat % 16 * 4 + c.toNat / 64) :: digit (c.toNat % 64) :: encode rest

/-- One group of four; the padded ones only at the end. -/
def decode : List Char → Option (List UInt8)
  | [] => some []
  | w :: x :: y :: z :: rest => do
    let w ← value w
    let x ← value x
    if z = '=' then
      if rest ≠ [] then none
      else if y = '=' then
        if x % 16 = 0 then some [UInt8.ofNat (w * 4 + x / 16)] else none
      else do
        let y ← value y
        if y % 4 = 0 then some [UInt8.ofNat (w * 4 + x / 16), UInt8.ofNat (x % 16 * 16 + y / 4)] else none
    else do
      let y ← value y
      let z ← value z
      let tail ← decode rest
      some (UInt8.ofNat (w * 4 + x / 16) :: UInt8.ofNat (x % 16 * 16 + y / 4) :: UInt8.ofNat (y % 4 * 64 + z) :: tail)
  | _ => none

theorem ofNat_eq {b : UInt8} {n : Nat} (h : n = b.toNat) : UInt8.ofNat n = b := by
  rw [h, UInt8.ofNat_toNat]

/-- **What is written is read again.** -/
theorem decode_encode (bs : List UInt8) : decode (encode bs) = some bs := by
  fun_induction encode bs with
  | case1 => rfl
  | case2 a =>
    have ha : a.toNat < 256 := a.toNat_lt
    simp only [decode, value_digit _ (show a.toNat / 4 < 64 by omega),
      value_digit _ (show a.toNat % 4 * 16 < 64 by omega), Option.bind_eq_bind, Option.bind_some]
    rw [if_pos trivial, if_neg (by simp), if_pos trivial, if_pos (by omega), ofNat_eq (b := a) (by omega)]
  | case3 a b =>
    have ha : a.toNat < 256 := a.toNat_lt
    have hb : b.toNat < 256 := b.toNat_lt
    simp only [decode, value_digit _ (show a.toNat / 4 < 64 by omega),
      value_digit _ (show a.toNat % 4 * 16 + b.toNat / 16 < 64 by omega),
      value_digit _ (show b.toNat % 16 * 4 < 64 by omega), Option.bind_eq_bind, Option.bind_some]
    rw [if_pos trivial, if_neg (by simp), if_neg (digit_ne_pad _ (by omega)), if_pos (by omega),
      ofNat_eq (b := a) (by omega), ofNat_eq (b := b) (by omega)]
  | case4 a b c rest ih =>
    have ha : a.toNat < 256 := a.toNat_lt
    have hb : b.toNat < 256 := b.toNat_lt
    have hc : c.toNat < 256 := c.toNat_lt
    simp only [decode, value_digit _ (show a.toNat / 4 < 64 by omega),
      value_digit _ (show a.toNat % 4 * 16 + b.toNat / 16 < 64 by omega),
      value_digit _ (show b.toNat % 16 * 4 + c.toNat / 64 < 64 by omega),
      value_digit _ (show c.toNat % 64 < 64 by omega), Option.bind_eq_bind, Option.bind_some, ih]
    rw [if_neg (digit_ne_pad _ (by omega)), ofNat_eq (b := a) (by omega), ofNat_eq (b := b) (by omega),
      ofNat_eq (b := c) (by omega)]

theorem encode_injective {bs bs' : List UInt8} (h : encode bs = encode bs') : bs = bs' := by
  have hread := decode_encode bs
  rw [h, decode_encode, Option.some.injEq] at hread
  exact hread.symm

theorem toNat_ofNat {n : Nat} (h : n < 256) : (UInt8.ofNat n).toNat = n := by
  rw [UInt8.toNat_ofNat']
  exact Nat.mod_eq_of_lt h

/-- **Only what is written is read.** -/
theorem encode_of_decode {cs : List Char} {bs : List UInt8} (h : decode cs = some bs) : encode bs = cs := by
  fun_induction decode cs generalizing bs with
  | case1 =>
    cases h
    rfl
  | case2 w x y z rest ih =>
    simp only [Option.bind_eq_bind, Option.bind_eq_some_iff] at h
    obtain ⟨vw, hw, vx, hx, h⟩ := h
    obtain ⟨hw64, rfl⟩ := value_eq_some hw
    obtain ⟨hx64, rfl⟩ := value_eq_some hx
    split_ifs at h with hz hrest hy hx16
    · cases h
      subst hz hy
      have hw' : (vw * 4 + vx / 16) / 4 = vw := by omega
      have hx' : (vw * 4 + vx / 16) % 4 * 16 = vx := by omega
      rw [Decidable.not_not.1 hrest, encode, toNat_ofNat (by omega), hw', hx']
    · simp only [Option.bind_eq_some_iff] at h
      obtain ⟨vy, hy, h⟩ := h
      obtain ⟨hy64, rfl⟩ := value_eq_some hy
      split_ifs at h with hy4
      cases h
      subst hz
      have hw' : (vw * 4 + vx / 16) / 4 = vw := by omega
      have hx' : (vw * 4 + vx / 16) % 4 * 16 + (vx % 16 * 16 + vy / 4) / 16 = vx := by omega
      have hy' : (vx % 16 * 16 + vy / 4) % 16 * 4 = vy := by omega
      rw [Decidable.not_not.1 hrest, encode, toNat_ofNat (by omega), toNat_ofNat (by omega), hw', hx', hy']
    · simp only [Option.bind_eq_some_iff] at h
      obtain ⟨vy, hy, vz, hz', tail, htail, h⟩ := h
      obtain ⟨hy64, rfl⟩ := value_eq_some hy
      obtain ⟨hz64, rfl⟩ := value_eq_some hz'
      cases h
      have hw' : (vw * 4 + vx / 16) / 4 = vw := by omega
      have hx' : (vw * 4 + vx / 16) % 4 * 16 + (vx % 16 * 16 + vy / 4) / 16 = vx := by omega
      have hy' : (vx % 16 * 16 + vy / 4) % 16 * 4 + (vy % 4 * 64 + vz) / 64 = vy := by omega
      have hz'' : (vy % 4 * 64 + vz) % 64 = vz := by omega
      rw [encode, toNat_ofNat (by omega), toNat_ofNat (by omega), toNat_ofNat (by omega), ih htail, hw', hx', hy', hz'']
  | case3 => cases h

theorem decode_eq_some_iff {cs : List Char} {bs : List UInt8} : decode cs = some bs ↔ cs = encode bs :=
  ⟨fun h => (encode_of_decode h).symm, fun h => h ▸ decode_encode bs⟩

theorem length_encode (bs : List UInt8) : (encode bs).length = (bs.length + 2) / 3 * 4 := by
  fun_induction encode bs with
  | case1 => rfl
  | case2 => simp
  | case3 => simp
  | case4 a b c rest ih =>
    simp only [List.length_cons, ih]
    omega

end Base64
