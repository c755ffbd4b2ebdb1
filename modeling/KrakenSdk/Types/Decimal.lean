import Mathlib.Algebra.Order.Ring.Nat
import Mathlib.Data.List.TakeDrop
/-!
# Decimals as the wire writes them

`rust_decimal::Decimal` keeps a sign, a 96-bit mantissa and a scale, and `to_string` writes all three: a text is read
back to the decimal it came from (`text_injective`).
-/
namespace KrakenSdk.Types

/-! ## Digits -/

/-- The value of the digits of `n`, with any zeros in front. -/
theorem ofDigitChars_padded (k n : Nat) : Nat.ofDigitChars 10 (List.replicate k '0' ++ Nat.toDigits 10 n) 0 = n := by
  rw [Nat.ofDigitChars_append, Nat.ofDigitChars_replicate_zero, Nat.mul_zero, Nat.ofDigitChars_ten_toDigits]

theorem isDigit_padded {k n : Nat} {c : Char} (h : c ∈ List.replicate k '0' ++ Nat.toDigits 10 n) : c.isDigit = true := by
  rcases List.mem_append.1 h with h | h
  · rw [List.eq_of_mem_replicate h]
    rfl
  · exact Nat.isDigit_of_mem_toDigits (by decide) (by decide) h

theorem repr_injective {m n : Nat} (h : Nat.repr m = Nat.repr n) : m = n := by
  have hdigits : Nat.toDigits 10 m = Nat.toDigits 10 n := by
    rw [← Nat.toList_repr, ← Nat.toList_repr, h]
  rw [← Nat.ofDigitChars_ten_toDigits (n := m), hdigits, Nat.ofDigitChars_ten_toDigits]

/-! ## Decimals -/

/-- `rust_decimal::Decimal`; a zero keeps its sign. -/
@[ext]
structure Decimal where
  negative : Bool
  mantissa : Nat
  scale : Nat
  mantissa_lt : mantissa < 2 ^ 96
  scale_le : scale ≤ 28
  deriving DecidableEq, Repr

namespace Decimal

/-- The scale of a whole number. -/
theorem scale_zero_le : 0 ≤ 28 := by decide

/-- The digits, with zeros in front for a whole part. -/
def digits (d : Decimal) : List Char :=
  List.replicate (d.scale + 1 - (Nat.toDigits 10 d.mantissa).length) '0' ++ Nat.toDigits 10 d.mantissa

/-- The digits before the point. -/
def whole (d : Decimal) : List Char := d.digits.take (d.digits.length - d.scale)

/-- The point and the digits after it. -/
def fraction (d : Decimal) : List Char := if d.scale = 0 then [] else '.' :: d.digits.drop (d.digits.length - d.scale)

/-- `Decimal::to_string`. -/
def text (d : Decimal) : String := String.ofList ((if d.negative then ['-'] else []) ++ (d.whole ++ d.fraction))

/-- `Decimal > Decimal::ZERO`. -/
def isPositive (d : Decimal) : Bool := !d.negative && d.mantissa != 0

variable {d : Decimal}

theorem scale_lt_length (d : Decimal) : d.scale < d.digits.length := by
  simp only [digits, List.length_append, List.length_replicate]
  omega

theorem whole_ne_nil (d : Decimal) : d.whole ≠ [] := by
  have hlt := d.scale_lt_length
  intro h
  have hlen := congrArg List.length h
  simp only [whole, List.length_take, List.length_nil] at hlen
  omega

theorem isDigit_whole {c : Char} (h : c ∈ d.whole) : c.isDigit = true := isDigit_padded (List.mem_of_mem_take h)

theorem isDigit_drop {n : Nat} {c : Char} (h : c ∈ d.digits.drop n) : c.isDigit = true :=
  isDigit_padded (List.mem_of_mem_drop h)

/-- The characters of a text. -/
theorem mem_text {c : Char} (h : c ∈ d.text.toList) : c = '-' ∧ d.negative = true ∨ c.isDigit = true ∨ c = '.' := by
  simp only [text, String.toList_ofList, List.mem_append] at h
  rcases h with h | h | h
  · split_ifs at h with hneg
    · exact .inl ⟨List.mem_singleton.1 h, hneg⟩
    · cases h
  · exact .inr (.inl (isDigit_whole h))
  · simp only [fraction] at h
    split_ifs at h
    · cases h
    · rcases List.mem_cons.1 h with rfl | h
      · exact .inr (.inr rfl)
      · exact .inr (.inl (isDigit_drop h))

/-- What a text is read back to: its sign, its digits and how many of them follow the point. -/
def read (s : List Char) : Bool × Nat × Nat :=
  let body := s.dropWhile (· = '-')
  (s.head? = some '-', Nat.ofDigitChars 10 (body.filter (· ≠ '.')) 0, (body.dropWhile (· ≠ '.')).length - 1)

theorem ne_point_of_isDigit {c : Char} (h : c.isDigit = true) : c ≠ '.' := by
  rintro rfl
  cases h

theorem ne_minus_of_isDigit {c : Char} (h : c.isDigit = true) : c ≠ '-' := by
  rintro rfl
  cases h

/-- Taking the point out of a text leaves the digits. -/
theorem filter_body (d : Decimal) : (d.whole ++ d.fraction).filter (· ≠ '.') = d.digits := by
  have hwhole : d.whole.filter (· ≠ '.') = d.whole :=
    List.filter_eq_self.2 fun c hc => by simpa using ne_point_of_isDigit (isDigit_whole hc)
  rw [List.filter_append, hwhole]
  unfold fraction
  split_ifs with hscale
  · rw [List.filter_nil, List.append_nil, whole, hscale, Nat.sub_zero, List.take_length]
  · have hrest : (d.digits.drop (d.digits.length - d.scale)).filter (· ≠ '.') =
        d.digits.drop (d.digits.length - d.scale) :=
      List.filter_eq_self.2 fun c hc => by simpa using ne_point_of_isDigit (isDigit_drop hc)
    rw [List.filter_cons_of_neg (by simp), hrest, whole, List.take_append_drop]

theorem dropWhile_body (d : Decimal) : (d.whole ++ d.fraction).dropWhile (· ≠ '.') = d.fraction := by
  rw [List.dropWhile_append_of_pos fun c hc => by simpa using ne_point_of_isDigit (isDigit_whole hc)]
  unfold fraction
  split_ifs
  · rfl
  · simp

/-- **A text is read back.** -/
theorem read_text (d : Decimal) : read d.text.toList = (d.negative, d.mantissa, d.scale) := by
  have hfirst : ∃ c rest, d.whole ++ d.fraction = c :: rest ∧ c.isDigit = true := by
    obtain ⟨c, rest, h⟩ := List.exists_cons_of_ne_nil d.whole_ne_nil
    exact ⟨c, rest ++ d.fraction, by rw [h, List.cons_append], isDigit_whole (h ▸ List.mem_cons_self)⟩
  obtain ⟨c, rest, hbody, hc⟩ := hfirst
  have hminus : c ≠ '-' := ne_minus_of_isDigit hc
  have hdrop : d.text.toList.dropWhile (· = '-') = d.whole ++ d.fraction := by
    simp only [text, String.toList_ofList, hbody]
    cases d.negative <;> simp [hminus]
  have hhead : (d.text.toList.head? = some '-') ↔ d.negative = true := by
    simp only [text, String.toList_ofList, hbody]
    cases d.negative <;> simp [hminus]
  have hscale : d.fraction.length - 1 = d.scale := by
    have hlt := d.scale_lt_length
    unfold fraction
    split_ifs with h
    · simp [h]
    · simp only [List.length_cons, List.length_drop]
      omega
  simp only [read, hdrop, filter_body, dropWhile_body, hscale, hhead, Bool.decide_eq_true]
  rw [digits, ofDigitChars_padded]

/-- **A decimal is known by its text.** -/
theorem text_injective {d d' : Decimal} (h : d.text = d'.text) : d = d' := by
  have hread : read d.text.toList = read d'.text.toList := by rw [h]
  rw [read_text, read_text] at hread
  obtain ⟨hneg, hmantissa, hscale⟩ := by simpa only [Prod.mk.injEq] using hread
  exact Decimal.ext hneg hmantissa hscale

theorem text_inj {d d' : Decimal} : d.text = d'.text ↔ d = d' := ⟨text_injective, congrArg text⟩

end Decimal

end KrakenSdk.Types
