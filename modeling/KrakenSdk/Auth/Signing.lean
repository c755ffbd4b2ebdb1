import KrakenSdk.Auth.FormBody
import KrakenSdk.Lib.Base64
import KrakenSdk.Lib.Utf8
import KrakenSdk.Types.Decimal
/-!
# Request signing (auth/signer.rs, types/ids.rs)

The signature of a request is `base64(HMAC-SHA512(secret, path ‖ SHA256(nonce ‖ body)))`. Nothing separates the nonce
from the body or the path from the digest, so that one signature stands for one request is not in the format itself:
it is that the digest has a fixed length and that the body `sign_form` writes names the nonce again.

| here | source |
| --- | --- |
| `ApiSecret.fromBase64` | `ApiSecret::from_base64` (ids.rs:72) |
| `computeApiSign`, `spotSigner` | `compute_api_sign`, `SpotRestHmacSha512Signer::sign` (signer.rs:39, 64) |

The two hash functions are parameters; nothing is assumed of them. `signature_binds`: two forms with one signature are
of one request, or their very messages collide under one of the two.
-/
namespace KrakenSdk.Auth

open PercentCoding

/-! ## The secret -/

/-- `ApiSecret` (ids.rs:65): a secret is never empty. -/
structure ApiSecret where
  bytes : List UInt8
  nonempty : bytes ≠ []

/-- `ApiSecretError` (ids.rs:100); the decoder's own text is not modelled. -/
inductive ApiSecretError where
  | invalidBase64 | empty
  deriving DecidableEq, Repr

/-- `ApiSecret::from_base64` (ids.rs:72). -/
def ApiSecret.fromBase64 (b64 : String) : Except ApiSecretError ApiSecret :=
  match Base64.decode b64.toList with
  | none => .error .invalidBase64
  | some bytes => if h : bytes = [] then .error .empty else .ok ⟨bytes, h⟩

/-- A secret that is accepted is written as it was given. -/
theorem ApiSecret.fromBase64_eq_ok {b64 : String} {secret : ApiSecret} :
    fromBase64 b64 = .ok secret ↔ b64.toList = Base64.encode secret.bytes := by
  unfold fromBase64
  cases hdecode : Base64.decode b64.toList with
  | none =>
    refine iff_of_false (by simp) fun h => ?_
    rw [h, Base64.decode_encode] at hdecode
    cases hdecode
  | some bytes =>
    have hb64 := Base64.decode_eq_some_iff.1 hdecode
    dsimp only
    split_ifs with hempty
    · refine iff_of_false (by simp) fun h => secret.nonempty ?_
      rw [← Base64.encode_injective (hb64.symm.trans h), hempty]
    · rw [Except.ok.injEq, hb64]
      constructor
      · rintro rfl
        rfl
      · intro h
        obtain ⟨sbytes, hs⟩ := secret
        obtain rfl := Base64.encode_injective h
        rfl

/-! ## The signature -/

/-- `Sha256` and `Hmac<Sha512>`, with `new_from_slice` of a key. -/
structure SignPrimitives where
  sha256 : List UInt8 → Vector UInt8 32
  hmacSha512 : List UInt8 → Option (List UInt8 → Vector UInt8 64)

/-- What SHA-256 is fed (signer.rs:46-48). -/
def preimage (nonce : Nat) (body : String) : List UInt8 := bytes (Nat.repr nonce) ++ bytes body

variable (p : SignPrimitives)

/-- What the MAC is fed (signer.rs:53-54). -/
def macInput (nonce : Nat) (path body : String) : List UInt8 := bytes path ++ (p.sha256 (preimage nonce body)).toList

/-- `compute_api_sign` (signer.rs:39). -/
def computeApiSign (secretBytes : List UInt8) (nonce : Nat) (path body : String) : Except String String :=
  match p.hmacSha512 secretBytes with
  | none => .error "Invalid HMAC key length."
  | some mac => .ok (String.ofList (Base64.encode (mac (macInput p nonce path body)).toList))

/-- `SpotRestHmacSha512Signer::sign` (signer.rs:64). -/
def spotSigner (apiKey : String) (secret : ApiSecret) : AuthSigner := fun nonce path body =>
  match computeApiSign p secret.bytes nonce path body with
  | .error e => .error e
  | .ok apiSign => .ok ⟨apiKey, apiSign⟩

/-! ## Reading the digest's input back -/

theorem bytes_append (s t : String) : bytes (s ++ t) = bytes s ++ bytes t := by
  simp [bytes, String.toByteArray_append]

theorem bytes_injective {s t : String} (h : bytes s = bytes t) : s = t := by
  have hread := fromUTF8?_bytes s
  rw [h, fromUTF8?_bytes, Option.some.injEq] at hread
  exact hread.symm

theorem encodeText_append (keep : UInt8 → Bool) (s t : String) :
    encodeText keep (s ++ t) = encodeText keep s ++ encodeText keep t := by
  rw [encodeText, bytes_append, encode, List.flatMap_append]
  rfl

theorem bytes_ofList (cs : List Char) : bytes (String.ofList cs) = Utf8.bytes cs := by
  simp [bytes, Utf8.bytes, List.utf8Encode]

/-- The digits of a number are written as they are. -/
theorem encodeText_digits {ds : List Char} (h : ∀ c ∈ ds, c.isDigit = true) :
    encodeText isUnreserved (String.ofList ds) = ds := by
  rw [encodeText, bytes_ofList]
  induction ds with
  | nil => rfl
  | cons c ds ih =>
    have hc : 48 ≤ c.toNat ∧ c.toNat ≤ 57 := by
      have := h c (by simp)
      simpa [Char.isDigit, UInt32.le_iff_toNat_le] using this
    have hascii : Utf8.IsAscii c := Nat.lt_of_le_of_lt hc.2 (by decide)
    have hkeep : isUnreserved (Utf8.ascii c) = true := by
      rw [isUnreserved_iff, Utf8.toNat_ascii hascii]
      exact .inl hc
    have hchar : Char.ofNat (Utf8.ascii c).toNat = c := by
      rw [Utf8.toNat_ascii hascii]
      exact Char.ofNat_toNat c
    have ih' := ih fun c' hc' => h c' (by simp [hc'])
    rw [Utf8.bytes, List.flatMap_cons, Utf8.utf8EncodeChar_of_isAscii hascii, encode, List.flatMap_append]
    simp only [List.flatMap_cons, List.flatMap_nil, List.append_nil, encodeByte, if_pos hkeep, hchar]
    exact congrArg (c :: ·) ih'

theorem formText_injective {fields fields' : List (String × String)}
    (h : formText isUnreserved fields = formText isUnreserved fields') : fields = fields' := by
  have hread := decodeForm_formText plain_isUnreserved fields
  rw [h, decodeForm_formText plain_isUnreserved, Option.some.injEq] at hread
  exact hread.symm

/-- Digits before a form are digits before its first key. -/
theorem digits_formText {ds : List Char} (h : ∀ c ∈ ds, c.isDigit = true) (field : String × String)
    (rest : List (String × String)) :
    ds ++ formText isUnreserved (field :: rest) =
      formText isUnreserved ((String.ofList ds ++ field.1, field.2) :: rest) := by
  rw [formText_cons, formText_cons, pairText, pairText, encodeText_append, encodeText_digits h]
  simp

/-- What `sign_form` puts after the nonce: the configured one-time password or nothing. -/
def OtpTail (fields : List (String × String)) : Prop := fields = [] ∨ ∃ otp, fields = [("otp", otp)]

theorem allFields_tail (stack : AuthStack) (nonce : Nat) (fields : List (String × String)) :
    ∃ tail, OtpTail tail ∧ stack.allFields nonce fields = fields ++ [("nonce", Nat.repr nonce)] ++ tail := by
  refine ⟨_, ?_, stack.allFields_eq nonce fields⟩
  split_ifs
  · cases stack.otp with
    | none => exact .inl rfl
    | some otp => exact .inr ⟨otp, rfl⟩
  · exact .inl rfl

/-- The nonce is found from the end, whatever the caller's fields are. -/
theorem nonce_from_end {front front' tail tail' : List (String × String)} {value value' key : String}
    (htail : OtpTail tail) (htail' : OtpTail tail') (hkey : key ≠ "otp")
    (h : front ++ [("nonce", value)] ++ tail = front' ++ [(key, value')] ++ tail') :
    front = front' ∧ key = "nonce" ∧ value = value' := by
  have hlast : ∀ {l l' : List (String × String)} {a b : String × String}, l ++ [a] = l' ++ [b] → l = l' ∧ a = b :=
    fun h => List.append_singleton_inj.1 h
  rcases htail with rfl | ⟨otp, rfl⟩ <;> rcases htail' with rfl | ⟨otp', rfl⟩
  · rw [List.append_nil, List.append_nil] at h
    obtain ⟨hfront, hfield⟩ := hlast h
    obtain ⟨hk, hv⟩ := Prod.mk.inj hfield
    exact ⟨hfront, hk.symm, hv⟩
  · rw [List.append_nil] at h
    obtain ⟨hk, -⟩ := Prod.mk.inj (hlast h).2
    exact absurd hk (by decide)
  · rw [List.append_nil] at h
    obtain ⟨hk, -⟩ := Prod.mk.inj (hlast h).2
    exact absurd hk.symm hkey
  · obtain ⟨hrest, -⟩ := hlast h
    obtain ⟨hfront, hfield⟩ := hlast hrest
    obtain ⟨hk, hv⟩ := Prod.mk.inj hfield
    exact ⟨hfront, hk.symm, hv⟩

/-- One of two bodies after their nonces is not further in than the other: digits of the other's nonce would stand
before its first key, and both bodies end in their own nonce. -/
theorem digits_eq_nil {front front' tail tail' : List (String × String)} {nonce nonce' : Nat} {ds : List Char}
    (htail : OtpTail tail) (htail' : OtpTail tail')
    (hds : (Nat.repr nonce').toList = (Nat.repr nonce).toList ++ ds)
    (h : formText isUnreserved (front ++ [("nonce", Nat.repr nonce)] ++ tail) =
      ds ++ formText isUnreserved (front' ++ [("nonce", Nat.repr nonce')] ++ tail')) : ds = [] := by
  have hdigits : ∀ c ∈ ds, c.isDigit = true := by
    intro c hc
    have hmem : c ∈ (Nat.repr nonce').toList := hds ▸ List.mem_append_right _ hc
    rw [Nat.toList_repr] at hmem
    exact Nat.isDigit_of_mem_toDigits (by decide) (by decide) hmem
  cases front' with
  | nil =>
    rw [List.nil_append, List.singleton_append, digits_formText hdigits] at h
    have hfields : front ++ [("nonce", Nat.repr nonce)] ++ tail =
        [] ++ [(String.ofList ds ++ "nonce", Nat.repr nonce')] ++ tail' := formText_injective h
    have hkey : String.ofList ds ++ "nonce" ≠ "otp" := by
      intro heq
      have hlen := congrArg String.length heq
      rw [String.length_append] at hlen
      have h5 : "nonce".length = 5 := by decide
      have h3 : "otp".length = 3 := by decide
      omega
    obtain ⟨-, hnonce, -⟩ := nonce_from_end htail htail' hkey hfields
    have hlist := congrArg String.toList hnonce
    rw [String.toList_append, String.toList_ofList] at hlist
    exact List.append_left_eq_self.1 hlist
  | cons field front' =>
    rw [List.cons_append, List.cons_append, digits_formText hdigits, ← List.cons_append, ← List.cons_append] at h
    obtain ⟨-, -, hnonce⟩ := nonce_from_end htail htail' (by decide) (formText_injective h)
    rw [← hnonce] at hds
    exact List.append_right_eq_self.1 hds.symm

/-- **What is hashed determines the request**, though nothing separates the nonce from the body. -/
theorem preimage_injective {stack stack' : AuthStack} {nonce nonce' : Nat} {fields fields' : List (String × String)}
    (h : preimage nonce (encodeForm (stack.allFields nonce fields)) =
      preimage nonce' (encodeForm (stack'.allFields nonce' fields'))) :
    nonce = nonce' ∧ fields = fields' ∧ stack.allFields nonce fields = stack'.allFields nonce' fields' := by
  obtain ⟨tail, htail, hall⟩ := allFields_tail stack nonce fields
  obtain ⟨tail', htail', hall'⟩ := allFields_tail stack' nonce' fields'
  rw [preimage, preimage, ← bytes_append, ← bytes_append] at h
  have hlist := congrArg String.toList (bytes_injective h)
  rw [String.toList_append, String.toList_append, toList_encodeForm, toList_encodeForm, hall, hall'] at hlist
  have hform : formText isUnreserved (fields ++ [("nonce", Nat.repr nonce)] ++ tail) =
      formText isUnreserved (fields' ++ [("nonce", Nat.repr nonce')] ++ tail') := by
    rcases List.append_eq_append_iff.1 hlist with ⟨ds, hds, hrest⟩ | ⟨ds, hds, hrest⟩
    · rw [hrest, digits_eq_nil htail htail' hds hrest, List.nil_append]
    · rw [hrest, digits_eq_nil htail' htail hds hrest, List.nil_append]
  have hfields := formText_injective hform
  obtain ⟨hfront, -, hnonce⟩ := nonce_from_end htail htail' (by decide) hfields
  exact ⟨Types.repr_injective hnonce, hfront, by rw [hall, hall', hfields]⟩

/-- What is authenticated determines the path and the digest: the digest has a fixed length. -/
theorem macInput_injective {nonce nonce' : Nat} {path path' body body' : String}
    (h : macInput p nonce path body = macInput p nonce' path' body') :
    path = path' ∧ p.sha256 (preimage nonce body) = p.sha256 (preimage nonce' body') := by
  obtain ⟨hpath, hdigest⟩ := List.append_inj' h (by simp)
  exact ⟨bytes_injective hpath, Vector.toList_inj.1 hdigest⟩

/-! ## One signature, one request -/

/-- Two different inputs with one output. -/
def Collides {α β : Type} (f : α → β) (a a' : α) : Prop := a ≠ a' ∧ f a = f a'

theorem spotSigner_ok {apiKey : String} {secret : ApiSecret} {nonce : Nat} {path body : String}
    {signed : SignedRequest} (h : spotSigner p apiKey secret nonce path body = .ok signed) :
    ∃ mac, p.hmacSha512 secret.bytes = some mac ∧
      signed = ⟨apiKey, String.ofList (Base64.encode (mac (macInput p nonce path body)).toList)⟩ := by
  unfold spotSigner computeApiSign at h
  cases hmac : p.hmacSha512 secret.bytes with
  | none => simp [hmac] at h
  | some mac =>
    rw [hmac] at h
    cases h
    exact ⟨mac, rfl, rfl⟩

/-- **A signature is of one request**: two forms that one secret signed and that carry one signature have the same
path, nonce, fields and body, or else the messages they were signed over are a collision of the MAC or their nonces
and bodies one of SHA-256. -/
theorem signature_binds {stack stack' : AuthStack} {profile profile' : AuthProfile} {apiKey apiKey' : String}
    {secret : ApiSecret} {nonce nonce' : Nat} {path path' : String} {fields fields' : List (String × String)}
    {form form' : SignedForm}
    (hsigner : stack.signers profile = some (spotSigner p apiKey secret))
    (hsigner' : stack'.signers profile' = some (spotSigner p apiKey' secret))
    (h : stack.signForm nonce profile path fields = .ok form)
    (h' : stack'.signForm nonce' profile' path' fields' = .ok form') :
    form.apiSignHeader.length = 88 ∧
    (form.apiSignHeader = form'.apiSignHeader →
      (path = path' ∧ nonce = nonce' ∧ fields = fields' ∧ form.body = form'.body) ∨
      (∃ mac, p.hmacSha512 secret.bytes = some mac ∧
        Collides mac (macInput p nonce path form.body) (macInput p nonce' path' form'.body)) ∨
      Collides p.sha256 (preimage nonce form.body) (preimage nonce' form'.body)) := by
  obtain ⟨hbody, signer, hs, hsigned⟩ := AuthStack.signForm_ok h
  obtain ⟨hbody', signer', hs', hsigned'⟩ := AuthStack.signForm_ok h'
  obtain rfl := Option.some.inj (hsigner.symm.trans hs)
  obtain rfl := Option.some.inj (hsigner'.symm.trans hs')
  obtain ⟨mac, hmac, hheader⟩ := spotSigner_ok p hsigned
  obtain ⟨mac', hmac', hheader'⟩ := spotSigner_ok p hsigned'
  obtain rfl := Option.some.inj (hmac.symm.trans hmac')
  obtain ⟨-, hsign⟩ := SignedRequest.mk.inj hheader
  obtain ⟨-, hsign'⟩ := SignedRequest.mk.inj hheader'
  constructor
  · rw [hsign, String.length_ofList, Base64.length_encode, Vector.length_toList]
  · intro heq
    have hmacs : mac (macInput p nonce path form.body) = mac (macInput p nonce' path' form'.body) := by
      rw [hsign, hsign'] at heq
      exact Vector.toList_inj.1 (Base64.encode_injective (String.ofList_injective heq))
    by_cases hinput : macInput p nonce path form.body = macInput p nonce' path' form'.body
    · obtain ⟨hpath, hdigest⟩ := macInput_injective p hinput
      by_cases hpre : preimage nonce form.body = preimage nonce' form'.body
      · have hpre' := hpre
        rw [hbody, hbody'] at hpre'
        obtain ⟨hnonce, hfields, hall⟩ := preimage_injective hpre'
        exact .inl ⟨hpath, hnonce, hfields, by rw [hbody, hbody', hall]⟩
      · exact .inr (.inr ⟨hpre, hdigest⟩)
    · exact .inr (.inl ⟨mac, hmac, hinput, hmacs⟩)

/-- A stand-in for the two hashes: the length of what they are fed. -/
def lengthPrimitives : SignPrimitives where
  sha256 m := Vector.replicate 32 (UInt8.ofNat m.length)
  hmacSha512 _ := some fun m => Vector.replicate 64 (UInt8.ofNat m.length)

def oneSecret : ApiSecret := ⟨[1], by decide⟩

def oneKey : AuthStack where
  apiKey := some "key"
  otp := none
  signers _ := some (spotSigner lengthPrimitives "key" oneSecret)

theorem signature_binds_oneKey :
    ∃ form form', oneKey.signForm 12 .spotV1 "/0/private/Balance" [] = .ok form ∧
      oneKey.signForm 123 .spotV1 "/0/private/Balance" [("3", "x")] = .ok form' ∧
      form.apiSignHeader.length = 88 ∧
      (form.apiSignHeader = form'.apiSignHeader →
        ("/0/private/Balance" = "/0/private/Balance" ∧ 12 = 123 ∧ [] = [("3", "x")] ∧ form.body = form'.body) ∨
        (∃ mac, lengthPrimitives.hmacSha512 oneSecret.bytes = some mac ∧
          Collides mac (macInput lengthPrimitives 12 "/0/private/Balance" form.body)
            (macInput lengthPrimitives 123 "/0/private/Balance" form'.body)) ∨
        Collides lengthPrimitives.sha256 (preimage 12 form.body) (preimage 123 form'.body)) := by
  have hsigner : oneKey.signers .spotV1 = some (spotSigner lengthPrimitives "key" oneSecret) := rfl
  obtain ⟨form, h⟩ : ∃ form, oneKey.signForm 12 .spotV1 "/0/private/Balance" [] = .ok form := ⟨_, rfl⟩
  obtain ⟨form', h'⟩ : ∃ form, oneKey.signForm 123 .spotV1 "/0/private/Balance" [("3", "x")] = .ok form := ⟨_, rfl⟩
  exact ⟨form, form', h, h', signature_binds lengthPrimitives hsigner hsigner h h'⟩

end KrakenSdk.Auth
