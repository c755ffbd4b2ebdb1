import Mathlib.Algebra.Order.Ring.Nat
import Mathlib.Data.List.Basic
/-!
# Text read as bytes

A text is its characters; a program that reads it as UTF-8 sees `bytes` and cuts it at byte offsets. A cut inside a
character is refused (`slice` gives `none`), and a byte below 128 starts a character, so a search for ASCII words finds
the same places among the bytes as among the characters.
-/
namespace Utf8

def bytes (text : List Char) : List UInt8 := text.flatMap String.utf8EncodeChar

def len (text : List Char) : Nat := (text.map Char.utf8Size).sum

@[simp] theorem bytes_nil : bytes [] = [] := rfl

@[simp] theorem bytes_cons (c : Char) (text : List Char) :
    bytes (c :: text) = String.utf8EncodeChar c ++ bytes text := rfl

@[simp] theorem bytes_append (xs ys : List Char) : bytes (xs ++ ys) = bytes xs ++ bytes ys := List.flatMap_append

@[simp] theorem len_nil : len [] = 0 := rfl

@[simp] theorem len_cons (c : Char) (text : List Char) : len (c :: text) = c.utf8Size + len text := rfl

@[simp] theorem len_append (xs ys : List Char) : len (xs ++ ys) = len xs + len ys := by
  simp [len]

@[simp] theorem length_bytes (text : List Char) : (bytes text).length = len text := by
  induction text with
  | nil => rfl
  | cons c text ih => rw [bytes_cons, List.length_append, ih, String.length_utf8EncodeChar, len_cons]

theorem drop_bytes (xs ys : List Char) : (bytes (xs ++ ys)).drop (len xs) = bytes ys := by
  rw [bytes_append, ← length_bytes xs, List.drop_left]

/-! ## ASCII among the bytes -/

def ascii (c : Char) : UInt8 := UInt8.ofNat c.toNat

def IsAscii (c : Char) : Prop := c.toNat < 128

instance (c : Char) : Decidable (IsAscii c) := inferInstanceAs (Decidable (c.toNat < 128))

theorem utf8EncodeChar_of_isAscii {c : Char} (h : IsAscii c) : String.utf8EncodeChar c = [ascii c] := by
  have hval : c.val.toNat ≤ 0x7f := by
    have : c.val.toNat < 128 := h
    omega
  unfold String.utf8EncodeChar
  simp only [hval, if_true]
  rfl

@[simp] theorem bytes_cons_of_isAscii {c : Char} (h : IsAscii c) (text : List Char) :
    bytes (c :: text) = ascii c :: bytes text := by
  rw [bytes_cons, utf8EncodeChar_of_isAscii h, List.singleton_append]

theorem utf8Size_of_isAscii {c : Char} (h : IsAscii c) : c.utf8Size = 1 := by
  rw [← String.length_utf8EncodeChar, utf8EncodeChar_of_isAscii h, List.length_singleton]

theorem len_of_isAscii {text : List Char} (h : ∀ c ∈ text, IsAscii c) : len text = text.length := by
  induction text with
  | nil => rfl
  | cons c text ih =>
    obtain ⟨hc, hrest⟩ := List.forall_mem_cons.mp h
    rw [len_cons, utf8Size_of_isAscii hc, ih hrest, List.length_cons]
    omega

theorem toNat_ascii {c : Char} (h : IsAscii c) : (ascii c).toNat = c.toNat := by
  have : c.toNat < 128 := h
  rw [ascii, UInt8.toNat_ofNat_of_lt' (Nat.lt_trans this (by decide))]

theorem ascii_inj {c d : Char} (hc : IsAscii c) (hd : IsAscii d) : ascii c = ascii d ↔ c = d := by
  constructor
  · intro h
    have hnat := congrArg UInt8.toNat h
    rw [toNat_ascii hc, toNat_ascii hd] at hnat
    exact Char.toNat_inj.mp hnat
  · rintro rfl
    rfl

/-- Every byte of a character that is not ASCII is above the ASCII bytes. -/
theorem high_of_mem_utf8EncodeChar {c : Char} (h : ¬ IsAscii c) : ∀ b ∈ String.utf8EncodeChar c, 128 ≤ b.toNat := by
  have hval : ¬ c.val.toNat ≤ 0x7f := by
    intro hle
    exact h (Nat.lt_of_le_of_lt hle (by decide))
  intro b hb
  unfold String.utf8EncodeChar at hb
  simp only [hval, if_false] at hb
  split at hb
  · simp only [List.mem_cons, List.not_mem_nil, or_false] at hb
    rcases hb with rfl | rfl <;> simp [UInt8.toNat_ofNat'] <;> omega
  · split at hb
    · simp only [List.mem_cons, List.not_mem_nil, or_false] at hb
      rcases hb with rfl | rfl | rfl <;> simp [UInt8.toNat_ofNat'] <;> omega
    · simp only [List.mem_cons, List.not_mem_nil, or_false] at hb
      rcases hb with rfl | rfl | rfl | rfl <;> simp [UInt8.toNat_ofNat'] <;> omega

theorem ne_ascii_of_high {b : UInt8} {c : Char} (hb : 128 ≤ b.toNat) (hc : IsAscii c) : b ≠ ascii c := by
  rintro rfl
  rw [toNat_ascii hc] at hb
  exact absurd (show c.toNat < 128 from hc) (by omega)

/-- A text starts with an ASCII word where its bytes do. -/
theorem isPrefixOf_bytes {word : List Char} (hword : ∀ c ∈ word, IsAscii c) (text : List Char) :
    (word.map ascii).isPrefixOf (bytes text) = word.isPrefixOf text := by
  induction word generalizing text with
  | nil => simp [List.isPrefixOf]
  | cons w word ih =>
    obtain ⟨hw, hrest⟩ := List.forall_mem_cons.mp hword
    cases text with
    | nil => rfl
    | cons c text =>
      by_cases hc : IsAscii c
      · have hbeq : (ascii w == ascii c) = (w == c) := by
          rw [Bool.eq_iff_iff, beq_iff_eq, beq_iff_eq, ascii_inj hw hc]
        rw [bytes_cons_of_isAscii hc, List.map_cons, List.isPrefixOf, List.isPrefixOf, ih hrest, hbeq]
      · -- the first byte of such a character is not an ASCII byte
        have hne : w ≠ c := fun heq => hc (heq ▸ hw)
        obtain ⟨b, bs, hbytes⟩ := List.exists_cons_of_ne_nil (String.utf8EncodeChar_ne_nil (c := c))
        have hb : b ≠ ascii w :=
          ne_ascii_of_high (high_of_mem_utf8EncodeChar hc b (by rw [hbytes]; exact List.mem_cons_self)) hw
        have hleft : (ascii w == b) = false := beq_eq_false_iff_ne.mpr (Ne.symm hb)
        have hright : (w == c) = false := beq_eq_false_iff_ne.mpr hne
        rw [bytes_cons, hbytes, List.cons_append, List.map_cons, List.isPrefixOf, List.isPrefixOf, hleft, hright]
        rfl

/-! ## Cuts at byte offsets -/

/-- The two parts of a text at a byte offset; none inside a character or past the end. -/
def splitAt : List Char → Nat → Option (List Char × List Char)
  | text, 0 => some ([], text)
  | [], _ + 1 => none
  | c :: text, n + 1 =>
    if c.utf8Size ≤ n + 1 then (splitAt text (n + 1 - c.utf8Size)).map fun (left, right) => (c :: left, right)
    else none

/-- The text between two byte offsets. -/
def slice (text : List Char) (start stop : Nat) : Option (List Char) := do
  let (_, tail) ← splitAt text start
  if stop < start then none
  else
    let (middle, _) ← splitAt tail (stop - start)
    some middle

/-- The text from a byte offset on. -/
def sliceFrom (text : List Char) (start : Nat) : Option (List Char) := do
  let (_, tail) ← splitAt text start
  some tail

theorem splitAt_append (xs ys : List Char) : splitAt (xs ++ ys) (len xs) = some (xs, ys) := by
  induction xs with
  | nil => cases ys <;> rfl
  | cons c xs ih =>
    have hpos := c.utf8Size_pos
    obtain ⟨n, hn⟩ : ∃ n, c.utf8Size + len xs = n + 1 := ⟨c.utf8Size + len xs - 1, by omega⟩
    rw [len_cons, hn, List.cons_append, splitAt, if_pos (by omega), ← hn, Nat.add_sub_cancel_left, ih]
    rfl

theorem slice_append (xs ys zs : List Char) : slice (xs ++ (ys ++ zs)) (len xs) (len xs + len ys) = some ys := by
  simp only [slice, splitAt_append, Option.bind_eq_bind, Option.bind_some, Nat.add_sub_cancel_left]
  rw [if_neg (by omega)]

theorem sliceFrom_append (xs ys : List Char) : sliceFrom (xs ++ ys) (len xs) = some ys := by
  simp only [sliceFrom, splitAt_append, Option.bind_eq_bind, Option.bind_some]

/-! ## Searching a character -/

/-- The byte offset at which a character first stands. -/
def find (c : Char) : List Char → Option Nat
  | [] => none
  | d :: text => if d = c then some 0 else (find c text).map (d.utf8Size + ·)

theorem find_eq_none {c : Char} {text : List Char} (h : c ∉ text) : find c text = none := by
  induction text with
  | nil => rfl
  | cons d text ih =>
    obtain ⟨hne, hrest⟩ := not_or.mp (mt List.mem_cons.mpr h)
    rw [find, if_neg (Ne.symm hne), ih hrest, Option.map_none]

theorem find_append {c : Char} {left : List Char} (h : c ∉ left) (right : List Char) :
    find c (left ++ c :: right) = some (len left) := by
  induction left with
  | nil => rw [List.nil_append, find, if_pos rfl, len_nil]
  | cons d left ih =>
    obtain ⟨hne, hrest⟩ := not_or.mp (mt List.mem_cons.mpr h)
    rw [List.cons_append, find, if_neg (Ne.symm hne), ih hrest, Option.map_some, len_cons]

end Utf8
