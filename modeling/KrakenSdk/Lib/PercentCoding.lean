import Mathlib.Data.List.Basic
/-!
# Percent-coding of form bodies

A byte is kept or escaped by two hexadecimal digits, and a list of pairs is written with a separator between the pairs
and one inside each. For any set of kept bytes that leaves out the separators and the escape sign, what is written can
be read again: `decodeForm_formText`.
-/
namespace PercentCoding

/-! ## Bytes -/

def hexDigits : List Char := "0123456789ABCDEF".toList

def hexDigit (n : Nat) : Char := hexDigits.getD n '0'

/-- Digits of both cases are read. -/
def hexValue (c : Char) : Option Nat :=
  if '0' ≤ c ∧ c ≤ '9' then some (c.toNat - 48)
  else if 'A' ≤ c ∧ c ≤ 'F' then some (c.toNat - 55)
  else if 'a' ≤ c ∧ c ≤ 'f' then some (c.toNat - 87)
  else none

theorem hexValue_hexDigit : ∀ n < 16, hexValue (hexDigit n) = some n := by decide

def escape (b : UInt8) : List Char := ['%', hexDigit (b.toNat / 16), hexDigit (b.toNat % 16)]

/-- The characters that stand for a byte. -/
def encodeByte (keep : UInt8 → Bool) (b : UInt8) : List Char :=
  if keep b then [Char.ofNat b.toNat] else escape b

def encode (keep : UInt8 → Bool) (bs : List UInt8) : List Char := bs.flatMap (encodeByte keep)

/-- The bytes that a text stands for; none if an escape is cut off or has other than hexadecimal digits, or if the text
has a character that is not ASCII. -/
def decode : List Char → Option (List UInt8)
  | [] => some []
  | '%' :: hi :: lo :: rest => do
    let h ← hexValue hi
    let l ← hexValue lo
    some (UInt8.ofNat (16 * h + l) :: (← decode rest))
  | c :: rest => if c = '%' ∨ 128 ≤ c.toNat then none else do some (UInt8.ofNat c.toNat :: (← decode rest))

/-- The set of kept bytes has nothing that is read otherwise. -/
structure Plain (keep : UInt8 → Bool) : Prop where
  ascii : ∀ b, keep b = true → b.toNat < 128
  percent : keep 37 = false
  ampersand : keep 38 = false
  equals : keep 61 = false

variable {keep : UInt8 → Bool}

theorem toNat_ofNat_of_ascii {n : Nat} (h : n < 128) : (Char.ofNat n).toNat = n := by
  have hvalid : n.isValidChar := Or.inl (by omega)
  rw [Char.ofNat, dif_pos hvalid]
  rfl

theorem decode_escape (b : UInt8) (rest : List Char) :
    decode (escape b ++ rest) = (decode rest).map (b :: ·) := by
  have hb : b.toNat < 256 := b.toNat_lt
  have hbyte : UInt8.ofNat (16 * (b.toNat / 16) + b.toNat % 16) = b := by
    rw [Nat.div_add_mod, UInt8.ofNat_toNat]
  simp only [escape, List.cons_append, List.nil_append]
  rw [decode, hexValue_hexDigit _ (by omega), hexValue_hexDigit _ (by omega)]
  simp only [Option.bind_eq_bind, Option.bind_some, hbyte]
  cases decode rest <;> rfl

theorem ofNat_ne_of_keep (hp : Plain keep) {b : UInt8} (hb : keep b = true) {c : Char}
    (hnot : keep (UInt8.ofNat c.toNat) = false) : Char.ofNat b.toNat ≠ c := by
  intro heq
  have hnat : b.toNat = c.toNat := by rw [← heq, toNat_ofNat_of_ascii (hp.ascii b hb)]
  rw [← hnat, UInt8.ofNat_toNat, hb] at hnot
  cases hnot

theorem decode_encodeByte (hp : Plain keep) (b : UInt8) (rest : List Char) :
    decode (encodeByte keep b ++ rest) = (decode rest).map (b :: ·) := by
  unfold encodeByte
  by_cases hb : keep b = true
  · have hascii := hp.ascii b hb
    have hnot : Char.ofNat b.toNat ≠ '%' := ofNat_ne_of_keep hp hb hp.percent
    rw [if_pos hb, List.cons_append, List.nil_append, decode]
    · rw [if_neg (by rw [toNat_ofNat_of_ascii hascii]; rintro (h | h); exacts [hnot h, by omega]),
        toNat_ofNat_of_ascii hascii, UInt8.ofNat_toNat]
      cases decode rest <;> rfl
    · intro hi lo rest' h
      exact absurd h hnot
  · rw [if_neg hb]
    exact decode_escape b rest

/-- **What is encoded is read again.** -/
theorem decode_encode (hp : Plain keep) (bs : List UInt8) : decode (encode keep bs) = some bs := by
  induction bs with
  | nil => rfl
  | cons b bs ih =>
    rw [encode, List.flatMap_cons, decode_encodeByte hp b]
    rw [encode] at ih
    rw [ih, Option.map_some]

theorem hexDigit_mem : ∀ n < 16, hexDigit n ∈ hexDigits := by decide

/-- An encoded text has none of the characters that are not kept, the escape sign and the digits apart. -/
theorem not_mem_encode (hp : Plain keep) {c : Char} (hnot : keep (UInt8.ofNat c.toNat) = false) (hesc : c ∉ '%' :: hexDigits) (bs : List UInt8) :
    c ∉ encode keep bs := by
  intro hmem
  obtain ⟨b, -, hb⟩ := List.mem_flatMap.mp hmem
  unfold encodeByte at hb
  by_cases hkeep : keep b = true
  · rw [if_pos hkeep, List.mem_singleton] at hb
    exact ofNat_ne_of_keep hp hkeep hnot hb.symm
  · rw [if_neg hkeep] at hb
    have hlt : b.toNat < 256 := b.toNat_lt
    simp only [escape, List.mem_cons, List.not_mem_nil, or_false] at hb
    rcases hb with rfl | rfl | rfl
    · exact hesc List.mem_cons_self
    · exact hesc (List.mem_cons_of_mem _ (hexDigit_mem _ (by omega)))
    · exact hesc (List.mem_cons_of_mem _ (hexDigit_mem _ (by omega)))

/-! ## Texts and forms -/

/-- The UTF-8 bytes of a string. -/
def bytes (s : String) : List UInt8 := s.toByteArray.data.toList

theorem fromUTF8?_bytes (s : String) : String.fromUTF8? (bytes s).toByteArray = some s := by
  have hbytes : (bytes s).toByteArray = s.toByteArray := by
    apply ByteArray.ext
    rw [List.data_toByteArray, bytes, Array.toArray_toList]
  unfold String.fromUTF8?
  rw [hbytes, dif_pos s.isValidUTF8]
  rfl

def encodeText (keep : UInt8 → Bool) (s : String) : List Char := encode keep (bytes s)

def decodeText (cs : List Char) : Option String := do String.fromUTF8? (← decode cs).toByteArray

theorem decodeText_encodeText (hp : Plain keep) (s : String) : decodeText (encodeText keep s) = some s := by
  rw [decodeText, encodeText, decode_encode hp]
  exact fromUTF8?_bytes s

/-- A key and its value. -/
def pairText (keep : UInt8 → Bool) (field : String × String) : List Char :=
  encodeText keep field.1 ++ '=' :: encodeText keep field.2

def formText (keep : UInt8 → Bool) (fields : List (String × String)) : List Char :=
  ['&'].intercalate (fields.map (pairText keep))

/-- One pair of a form: a text with one `=`. -/
def decodePair (cs : List Char) : Option (String × String) :=
  match cs.splitOn '=' with
  | [k, v] => do some (← decodeText k, ← decodeText v)
  | _ => none

/-- The fields of a form: the text split at `&`, and each part at `=`. -/
def decodeForm (cs : List Char) : Option (List (String × String)) :=
  if cs = [] then some [] else (cs.splitOn '&').mapM decodePair

theorem decodePair_pairText (hp : Plain keep) (field : String × String) :
    decodePair (pairText keep field) = some field := by
  have hnot : ∀ s, '=' ∉ encodeText keep s := fun s => not_mem_encode (c := '=') hp hp.equals (by decide) (bytes s)
  have hsplit : (pairText keep field).splitOn '=' = [encodeText keep field.1, encodeText keep field.2] := by
    have hjoin : pairText keep field = ['='].intercalate [encodeText keep field.1, encodeText keep field.2] := by
      simp [pairText, List.intercalate]
    rw [hjoin, List.splitOn_intercalate]
    · intro l hl
      rcases List.mem_pair.mp hl with rfl | rfl
      · exact hnot _
      · exact hnot _
    · exact List.cons_ne_nil _ _
  rw [decodePair, hsplit]
  dsimp only
  rw [decodeText_encodeText hp, decodeText_encodeText hp]
  rfl

theorem pairText_ne_nil (field : String × String) : pairText keep field ≠ [] :=
  List.append_ne_nil_of_right_ne_nil _ (List.cons_ne_nil _ _)

theorem amp_not_mem_pairText (hp : Plain keep) (field : String × String) : '&' ∉ pairText keep field := by
  have hnot : ∀ s, '&' ∉ encodeText keep s :=
    fun s => not_mem_encode (c := '&') hp hp.ampersand (by decide) (bytes s)
  simp only [pairText, List.mem_append, List.mem_cons, not_or]
  exact ⟨hnot _, by decide, hnot _⟩

/-- A form is its first pair and then a separator and a pair each. -/
theorem formText_cons (field : String × String) (rest : List (String × String)) :
    formText keep (field :: rest) = pairText keep field ++ rest.flatMap fun f => '&' :: pairText keep f := by
  unfold formText
  induction rest generalizing field with
  | nil => simp [List.intercalate]
  | cons f fs ih =>
    rw [List.map_cons, List.map_cons, List.intercalate_cons_cons, ← List.map_cons, ih f]
    simp

/-- **A form is read again as it was written.** -/
theorem decodeForm_formText (hp : Plain keep) (fields : List (String × String)) :
    decodeForm (formText keep fields) = some fields := by
  cases fields with
  | nil => rfl
  | cons field rest =>
    have hne : formText keep (field :: rest) ≠ [] := by
      rw [formText_cons]
      exact List.append_ne_nil_of_left_ne_nil (pairText_ne_nil field) _
    rw [decodeForm, if_neg hne, formText, List.splitOn_intercalate]
    · generalize field :: rest = fields
      induction fields with
      | nil => rfl
      | cons f fs ih =>
        rw [List.map_cons, List.mapM_cons, decodePair_pairText hp, ih]
        rfl
    · intro l hl
      obtain ⟨f, -, rfl⟩ := List.mem_map.mp hl
      exact amp_not_mem_pairText hp f
    · simp

end PercentCoding
