import Mathlib.Tactic.Push
import Mathlib.Tactic.SplitIfs
import KrakenSdk.Conn.Types
import KrakenSdk.Lib.PercentCoding
/-!
# The signed form body (auth/mod.rs:55-234)

`sign_form` puts the nonce and the one-time password beside the caller's fields, encodes them into one buffer of a
size computed beforehand, and signs what it wrote. `formBody_faithful`: the body is read again as those fields, the
buffer never grows, and there is one nonce and at most one source of the one-time password.
-/
namespace KrakenSdk.Auth

open KrakenSdk.Conn (AuthError)
open PercentCoding

/-! ## The encoder -/

/-- A `String` that is being written, with its allocation and the number of times it had to move. -/
structure Buffer where
  text : List Char
  capacity : Nat
  reallocs : Nat

namespace Buffer

/-- `String::with_capacity`. -/
def withCapacity (capacity : Nat) : Buffer := ⟨[], capacity, 0⟩

/-- `String::len`, in bytes. -/
def len (out : Buffer) : Nat := (out.text.map Char.utf8Size).sum

/-- `String::push`: the buffer moves when it is full. -/
def push (out : Buffer) (c : Char) : Buffer :=
  if out.len + c.utf8Size ≤ out.capacity then { out with text := out.text ++ [c] }
  else
    { text := out.text ++ [c], capacity := max (2 * out.capacity) (out.len + c.utf8Size)
      reallocs := out.reallocs + 1 }

/-- One `push` after the other. -/
def pushAll (out : Buffer) (cs : List Char) : Buffer := cs.foldl push out

@[simp] theorem pushAll_nil (out : Buffer) : out.pushAll [] = out := rfl

@[simp] theorem pushAll_cons (out : Buffer) (c : Char) (cs : List Char) :
    out.pushAll (c :: cs) = (out.push c).pushAll cs := rfl

theorem pushAll_append (out : Buffer) (cs cs' : List Char) :
    out.pushAll (cs ++ cs') = (out.pushAll cs).pushAll cs' := List.foldl_append

@[simp] theorem text_push (out : Buffer) (c : Char) : (out.push c).text = out.text ++ [c] := by
  unfold push
  split <;> rfl

@[simp] theorem text_pushAll (out : Buffer) (cs : List Char) : (out.pushAll cs).text = out.text ++ cs := by
  induction cs generalizing out with
  | nil => simp
  | cons c cs ih => rw [pushAll_cons, ih, text_push, List.append_assoc, List.singleton_append]

theorem len_push (out : Buffer) (c : Char) : (out.push c).len = out.len + c.utf8Size := by
  simp [len]

/-- What fits in the buffer is written where it is. -/
theorem pushAll_of_fits {out : Buffer} {cs : List Char}
    (h : out.len + (cs.map Char.utf8Size).sum ≤ out.capacity) :
    (out.pushAll cs).capacity = out.capacity ∧ (out.pushAll cs).reallocs = out.reallocs := by
  induction cs generalizing out with
  | nil => exact ⟨rfl, rfl⟩
  | cons c cs ih =>
    rw [List.map_cons, List.sum_cons] at h
    have hpush : out.push c = { out with text := out.text ++ [c] } := if_pos (by omega)
    have hcap : (out.push c).capacity = out.capacity := by rw [hpush]
    have hre : (out.push c).reallocs = out.reallocs := by rw [hpush]
    have hfits : (out.push c).len + (cs.map Char.utf8Size).sum ≤ (out.push c).capacity := by
      rw [len_push, hcap]
      omega
    have hrest := ih hfits
    rw [hcap, hre] at hrest
    exact hrest

end Buffer

/-- `is_unreserved` (mod.rs:229). -/
def isUnreserved (b : UInt8) : Bool :=
  (48 ≤ b && b ≤ 57) || (65 ≤ b && b ≤ 90) || (97 ≤ b && b ≤ 122) || b == 45 || b == 95 || b == 46 || b == 126

/-- `HEX_UPPER` (mod.rs:234). -/
def hexUpper : List Char := "0123456789ABCDEF".toList

/-- The loop body of `encode_into` (mod.rs:206). -/
def encodeByteInto (out : Buffer) (b : UInt8) : Buffer :=
  if isUnreserved b then out.push (Char.ofNat b.toNat)
  else ((out.push '%').push (hexUpper.getD (b >>> 4).toNat '0')).push (hexUpper.getD (b &&& 15).toNat '0')

/-- `encode_into` (mod.rs:205). -/
def encodeInto (out : Buffer) (s : String) : Buffer := (bytes s).foldl encodeByteInto out

/-- `encoded_len` (mod.rs:222). -/
def encodedLen (s : String) : Nat := ((bytes s).map fun b => if isUnreserved b then 1 else 3).sum

/-- The capacity computed by `encode_form` (mod.rs:181-184). -/
def formCapacity (fields : List (String × String)) : Nat :=
  (fields.map fun field => encodedLen field.1 + encodedLen field.2 + 2).sum

/-- `encode_form` (mod.rs:178) with its buffer. -/
def encodeFormBuffer (fields : List (String × String)) : Buffer :=
  fields.zipIdx.foldl (fun out entry =>
    let out := if 0 < entry.2 then out.push '&' else out
    encodeInto ((encodeInto out entry.1.1).push '=') entry.1.2) (Buffer.withCapacity (formCapacity fields))

def encodeForm (fields : List (String × String)) : String := String.ofList (encodeFormBuffer fields).text

theorem isUnreserved_iff (b : UInt8) : isUnreserved b = true ↔ (48 ≤ b.toNat ∧ b.toNat ≤ 57) ∨
    (65 ≤ b.toNat ∧ b.toNat ≤ 90) ∨ (97 ≤ b.toNat ∧ b.toNat ≤ 122) ∨ b = 45 ∨ b = 95 ∨ b = 46 ∨ b = 126 := by
  simp [isUnreserved, UInt8.le_iff_toNat_le, or_assoc]

/-- The bytes that pass unescaped are none of the bytes of the syntax. -/
theorem plain_isUnreserved : Plain isUnreserved where
  ascii b hb := by
    rcases (isUnreserved_iff b).mp hb with h | h | h | rfl | rfl | rfl | rfl
    · omega
    · omega
    · omega
    all_goals decide
  percent := by decide
  ampersand := by decide
  equals := by decide

theorem encodeByteInto_eq (out : Buffer) (b : UInt8) :
    encodeByteInto out b = out.pushAll (encodeByte isUnreserved b) := by
  unfold encodeByteInto encodeByte
  by_cases hb : isUnreserved b = true
  · rw [if_pos hb, if_pos hb]
    rfl
  · have hhi : (b >>> 4).toNat = b.toNat / 16 := by
      rw [UInt8.toNat_shiftRight, Nat.shiftRight_eq_div_pow]
      rfl
    have hlo : (b &&& 15).toNat = b.toNat % 16 := by
      rw [UInt8.toNat_and]
      exact Nat.and_two_pow_sub_one_eq_mod b.toNat 4
    rw [if_neg hb, if_neg hb, hhi, hlo]
    rfl

theorem encodeInto_eq (out : Buffer) (s : String) : encodeInto out s = out.pushAll (encodeText isUnreserved s) := by
  unfold encodeInto encodeText encode
  generalize bytes s = bs
  induction bs generalizing out with
  | nil => rfl
  | cons b bs ih => rw [List.foldl_cons, List.flatMap_cons, Buffer.pushAll_append, ih, encodeByteInto_eq]

/-- The loop of `encode_form` from any index on. -/
theorem encodeForm_loop (fields : List (String × String)) (n : Nat) (out : Buffer) :
    (fields.zipIdx (n + 1)).foldl (fun out entry =>
      let out := if 0 < entry.2 then out.push '&' else out
      encodeInto ((encodeInto out entry.1.1).push '=') entry.1.2) out =
      out.pushAll (fields.flatMap fun f => '&' :: pairText isUnreserved f) := by
  induction fields generalizing n out with
  | nil => rfl
  | cons field rest ih =>
    rw [List.zipIdx_cons, List.foldl_cons, ih, List.flatMap_cons, Buffer.pushAll_append]
    simp only [Nat.succ_pos, if_true, encodeInto_eq, pairText, Buffer.pushAll_cons, Buffer.pushAll_append]

/-- **The form is written front to back**, one `push` a character. -/
theorem encodeFormBuffer_eq (fields : List (String × String)) : encodeFormBuffer fields =
    (Buffer.withCapacity (formCapacity fields)).pushAll (formText isUnreserved fields) := by
  unfold encodeFormBuffer
  generalize Buffer.withCapacity (formCapacity fields) = out
  cases fields with
  | nil => rfl
  | cons field rest =>
    rw [List.zipIdx_cons, List.foldl_cons, encodeForm_loop, formText_cons, Buffer.pushAll_append]
    simp only [Nat.lt_irrefl, if_false, encodeInto_eq, pairText, Buffer.pushAll_cons, Buffer.pushAll_append]

theorem toList_encodeForm (fields : List (String × String)) :
    (encodeForm fields).toList = formText isUnreserved fields := by
  rw [encodeForm, String.toList_ofList, encodeFormBuffer_eq, Buffer.text_pushAll]
  rfl

/-! ## The capacity -/

theorem utf8Size_hexDigit : ∀ n < 16, (hexDigit n).utf8Size = 1 := by decide

theorem size_encodeByte (b : UInt8) :
    ((encodeByte isUnreserved b).map Char.utf8Size).sum = if isUnreserved b then 1 else 3 := by
  unfold encodeByte
  by_cases hb : isUnreserved b = true
  · have hascii := plain_isUnreserved.ascii b hb
    have hsize : (Char.ofNat b.toNat).utf8Size = 1 := by
      have hval : (Char.ofNat b.toNat).val.toNat = b.toNat := toNat_ofNat_of_ascii hascii
      rw [Char.utf8Size_eq_one_iff, UInt32.le_iff_toNat_le, hval]
      exact Nat.le_of_lt_succ hascii
    rw [if_pos hb, if_pos hb]
    simp [hsize]
  · have hlt : b.toNat < 256 := b.toNat_lt
    have hpercent : '%'.utf8Size = 1 := by decide
    rw [if_neg hb, if_neg hb]
    simp [escape, hpercent, utf8Size_hexDigit (b.toNat / 16) (by omega), utf8Size_hexDigit (b.toNat % 16) (by omega)]

/-- `encoded_len` is what `encode_into` writes. -/
theorem size_encodeText (s : String) :
    ((encodeText isUnreserved s).map Char.utf8Size).sum = encodedLen s := by
  unfold encodeText encode encodedLen
  induction bytes s with
  | nil => rfl
  | cons b bs ih => rw [List.flatMap_cons, List.map_append, List.sum_append, List.map_cons, List.sum_cons, ih, size_encodeByte]

theorem size_pairText (field : String × String) :
    ((pairText isUnreserved field).map Char.utf8Size).sum = encodedLen field.1 + encodedLen field.2 + 1 := by
  have heq : '='.utf8Size = 1 := by decide
  rw [pairText, List.map_append, List.sum_append, List.map_cons, List.sum_cons, size_encodeText, size_encodeText, heq]
  omega

/-- The text is within the capacity, with a byte to spare. -/
theorem size_formText_le (fields : List (String × String)) :
    ((formText isUnreserved fields).map Char.utf8Size).sum ≤ formCapacity fields := by
  cases fields with
  | nil => exact Nat.le_refl _
  | cons field rest =>
    have hrest : ((rest.flatMap fun f => '&' :: pairText isUnreserved f).map Char.utf8Size).sum = formCapacity rest := by
      induction rest with
      | nil => rfl
      | cons f fs ih =>
        have hamp : '&'.utf8Size = 1 := by decide
        rw [List.flatMap_cons, List.map_append, List.sum_append, ih, List.map_cons, List.sum_cons, size_pairText, hamp]
        simp only [formCapacity, List.map_cons, List.sum_cons]
        omega
    rw [formText_cons, List.map_append, List.sum_append, hrest, size_pairText]
    simp only [formCapacity, List.map_cons, List.sum_cons]
    omega

/-- **The buffer never moves**, and what is written is no longer than the capacity. -/
theorem encodeFormBuffer_fits (fields : List (String × String)) :
    (encodeFormBuffer fields).reallocs = 0 ∧ (encodeFormBuffer fields).len ≤ formCapacity fields := by
  have hsize := size_formText_le fields
  rw [encodeFormBuffer_eq]
  constructor
  · exact (Buffer.pushAll_of_fits (by simpa [Buffer.len, Buffer.withCapacity] using hsize)).2
  · rw [Buffer.len, Buffer.text_pushAll]
    exact hsize

/-! ## `sign_form` (mod.rs:57) -/

/-- `AuthProfile` (types/ids.rs:263); `publicApi` is the source's `Public` (`public` is a keyword). -/
inductive AuthProfile where
  | publicApi | spotV1 | spotWsV2 | l3WsV2 | futuresV3
  deriving DecidableEq, Repr

/-- `{profile:?}`. -/
def AuthProfile.debug : AuthProfile → String
  | .publicApi => "Public"
  | .spotV1 => "SpotV1"
  | .spotWsV2 => "SpotWsV2"
  | .l3WsV2 => "L3WsV2"
  | .futuresV3 => "FuturesV3"

/-- `SignedRequest` (types/ids.rs:284), the headers. -/
structure SignedRequest where
  apiKeyHeader : String
  apiSignHeader : String
  deriving DecidableEq, Repr

/-- `AuthSigner::sign` (signer.rs:22), of a nonce, a path and a body; its error is the text of an `AuthSignerError`. -/
abbrev AuthSigner := Nat → String → String → Except String SignedRequest

/-- `AuthStack` (mod.rs:24), what `sign_form` reads of it. -/
structure AuthStack where
  apiKey : Option String
  otp : Option String
  signers : AuthProfile → Option AuthSigner

/-- `SignedForm` (mod.rs:147). -/
structure SignedForm where
  body : String
  apiKeyHeader : String
  apiSignHeader : String
  deriving DecidableEq, Repr

/-- The fields of the body (mod.rs:82-93): the nonce is pushed, the configured one-time password only if the caller
has none. -/
def AuthStack.allFields (stack : AuthStack) (nonce : Nat) (fields : List (String × String)) :
    List (String × String) :=
  let all := fields ++ [("nonce", Nat.repr nonce)]
  if all.any (·.1 == "otp") then all
  else match stack.otp with
    | some otp => all ++ [("otp", otp)]
    | none => all

/-- `sign_form` (mod.rs:57) with the nonce that `next_nonce` gives it. -/
def AuthStack.signForm (stack : AuthStack) (nonce : Nat) (profile : AuthProfile) (path : String)
    (fields : List (String × String)) : Except AuthError SignedForm :=
  match stack.apiKey with
  | none => .error (.unknown "INTERNAL" "sign attempted without configured credentials")
  | some _ =>
    match stack.signers profile with
    | none => .error (.unknown "INTERNAL" ("no signer registered for " ++ profile.debug))
    | some signer =>
      let body := encodeForm (stack.allFields nonce fields)
      match signer nonce path body with
      | .error e => .error (.unknown "INTERNAL" ("signing failed: " ++ e))
      | .ok signed => .ok ⟨body, signed.apiKeyHeader, signed.apiSignHeader⟩

/-- A form that is returned was signed as it is. -/
theorem AuthStack.signForm_ok {stack : AuthStack} {nonce : Nat} {profile : AuthProfile} {path : String}
    {fields : List (String × String)} {form : SignedForm}
    (h : stack.signForm nonce profile path fields = .ok form) :
    form.body = encodeForm (stack.allFields nonce fields) ∧
      ∃ signer, stack.signers profile = some signer ∧
        signer nonce path form.body = .ok ⟨form.apiKeyHeader, form.apiSignHeader⟩ := by
  unfold signForm at h
  cases hkey : stack.apiKey with
  | none => rw [hkey] at h; cases h
  | some key =>
    cases hsigner : stack.signers profile with
    | none => rw [hkey, hsigner] at h; cases h
    | some signer =>
      cases hsign : signer nonce path (encodeForm (stack.allFields nonce fields)) with
      | error e => rw [hkey, hsigner] at h; simp only [hsign] at h; cases h
      | ok signed =>
        rw [hkey, hsigner] at h
        simp only [hsign] at h
        cases h
        exact ⟨rfl, signer, rfl, hsign⟩

/-- The fields under a key. -/
def under (key : String) (fields : List (String × String)) : List (String × String) := fields.filter (·.1 == key)

/-- What `sign_form` adds to the caller's fields. -/
theorem AuthStack.allFields_eq (stack : AuthStack) (nonce : Nat) (fields : List (String × String)) :
    stack.allFields nonce fields = fields ++ [("nonce", Nat.repr nonce)] ++
      if under "otp" fields = [] then stack.otp.toList.map ("otp", ·) else [] := by
  have hany : (fields ++ [("nonce", Nat.repr nonce)]).any (·.1 == "otp") = true ↔ under "otp" fields ≠ [] := by
    have hall : under "otp" (fields ++ [("nonce", Nat.repr nonce)]) = under "otp" fields := by
      simp [under]
    rw [← hall, under, Ne, List.filter_eq_nil_iff, List.any_eq_true]
    push Not
    rfl
  unfold allFields
  dsimp only
  by_cases hcaller : under "otp" fields = []
  · rw [if_pos hcaller, if_neg (fun h => hany.mp h hcaller)]
    cases stack.otp with
    | none => exact (List.append_nil _).symm
    | some otp => rfl
  · rw [if_neg hcaller, if_pos (hany.mpr hcaller), List.append_nil]

theorem under_append (key : String) (fields fields' : List (String × String)) :
    under key (fields ++ fields') = under key fields ++ under key fields' := List.filter_append ..

theorem under_nonce (stack : AuthStack) (nonce : Nat) {fields : List (String × String)}
    (hnonce : under "nonce" fields = []) :
    under "nonce" (stack.allFields nonce fields) = [("nonce", Nat.repr nonce)] := by
  have hotp : under "nonce" (stack.otp.toList.map ("otp", ·)) = [] := by
    cases stack.otp <;> rfl
  rw [AuthStack.allFields_eq, under_append, under_append, hnonce]
  split_ifs
  · rw [hotp]
    rfl
  · rfl

/-- The one-time password is the caller's, or else the configured one. -/
theorem under_otp (stack : AuthStack) (nonce : Nat) (fields : List (String × String)) :
    under "otp" (stack.allFields nonce fields) =
      if under "otp" fields = [] then stack.otp.toList.map ("otp", ·) else under "otp" fields := by
  have hotp : under "otp" (stack.otp.toList.map ("otp", ·)) = stack.otp.toList.map ("otp", ·) := by
    cases stack.otp <;> rfl
  rw [AuthStack.allFields_eq, under_append, under_append]
  by_cases hcaller : under "otp" fields = []
  · rw [if_pos hcaller, if_pos hcaller, hcaller, hotp]
    rfl
  · rw [if_neg hcaller, if_neg hcaller]
    exact (List.append_nil _).trans (List.append_nil _)

/-- **The signed body is a faithful encoding.** It is read again as the fields it was made of, and no other list of
fields has it; its buffer never moves; and for fields without a nonce it has one nonce, and the one-time password
of the caller or else the configured one. -/
theorem formBody_faithful (fields : List (String × String)) :
    decodeForm (encodeForm fields).toList = some fields ∧ encodeForm [] = "" ∧
    (∀ fields', encodeForm fields' = encodeForm fields → fields' = fields) ∧
    (encodeFormBuffer fields).len ≤ formCapacity fields ∧ (encodeFormBuffer fields).reallocs = 0 ∧
    ∀ (stack : AuthStack) (nonce : Nat) (profile : AuthProfile) (path : String) (form : SignedForm),
      stack.signForm nonce profile path fields = .ok form → under "nonce" fields = [] →
      ∃ sent signer, decodeForm form.body.toList = some sent ∧ fields <+: sent ∧
        stack.signers profile = some signer ∧
        signer nonce path form.body = .ok ⟨form.apiKeyHeader, form.apiSignHeader⟩ ∧
        under "nonce" sent = [("nonce", Nat.repr nonce)] ∧
        (under "otp" sent ≠ [] ↔ stack.otp.isSome ∨ under "otp" fields ≠ []) ∧
        (under "otp" fields ≠ [] → under "otp" sent = under "otp" fields) ∧
        (under "otp" fields = [] → under "otp" sent = stack.otp.toList.map ("otp", ·)) := by
  have hdecode : ∀ fields, decodeForm (encodeForm fields).toList = some fields := by
    intro fields
    rw [toList_encodeForm]
    exact decodeForm_formText plain_isUnreserved fields
  refine ⟨hdecode fields, rfl, ?_, (encodeFormBuffer_fits fields).2, (encodeFormBuffer_fits fields).1, ?_⟩
  · intro fields' h
    have hread := hdecode fields'
    rw [h, hdecode fields, Option.some.injEq] at hread
    exact hread.symm
  · intro stack nonce profile path form hform hnonce
    obtain ⟨hbody, signer, hsigner, hsigned⟩ := AuthStack.signForm_ok hform
    have hotp := under_otp stack nonce fields
    refine ⟨stack.allFields nonce fields, signer, by rw [hbody, hdecode], ?_, hsigner, hsigned,
      under_nonce stack nonce hnonce, ?_, ?_, ?_⟩
    · rw [AuthStack.allFields_eq]
      exact (List.prefix_append _ _).trans (List.prefix_append _ _)
    · rw [hotp]
      by_cases hcaller : under "otp" fields = []
      · rw [if_pos hcaller]
        cases stack.otp <;> simp [hcaller]
      · rw [if_neg hcaller]
        exact ⟨fun h => .inr h, fun _ => hcaller⟩
    · intro hcaller
      rw [hotp, if_neg hcaller]
    · intro hcaller
      rw [hotp, if_pos hcaller]

example : encodeForm [("nonce", "1000"), ("pair", "BTC/USD")] = "nonce=1000&pair=BTC%2FUSD" := by decide +kernel

end KrakenSdk.Auth
