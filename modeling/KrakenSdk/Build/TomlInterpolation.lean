import KrakenSdk.Build.Interpolation
import KrakenSdk.Lib.TomlText
/-!
# Interpolation and the lexical structure of TOML

What `interpolate_env` should do to a TOML text: every `${...}` token outside comments is replaced, and the rest is
copied. The scanner does this as long as it knows where it is. It loses the structure at a multi-line string that ends
in four quotes, since it takes the first three of them for the delimiter and the fourth for the start of a string, and
at a string that leaves a `${` open, since it looks for the brace past the end of the string:
`interpolateEnv_respects_iff`.
-/
namespace KrakenSdk.Build.ConfigResolver

open TomlText

/-! ## Turns of the scanner -/

/-- The context in which the scanner reads a string. -/
def ctxOf : StringForm → Ctx
  | .basic => .basic
  | .literal => .literal
  | .basicMulti => .basicMulti
  | .literalMulti => .literalMulti

theorem starts_of_ne {c d : Char} (h : c ≠ d) (word rest : List Char) :
    (c :: word).isPrefixOf (d :: rest) = false := by
  rw [List.isPrefixOf, beq_eq_false_iff_ne.mpr h, Bool.false_and]

theorem starts_self (c : Char) (rest : List Char) : [c].isPrefixOf (c :: rest) = true := by
  rw [List.isPrefixOf, beq_self_eq_true, Bool.true_and]
  rfl

theorem starts_eq_false {word text : List Char} (h : ¬ word <+: text) : word.isPrefixOf text = false :=
  Bool.eq_false_iff.mpr fun htrue => h (List.isPrefixOf_iff_prefix.mp htrue)

theorem starts_append (word rest : List Char) : word.isPrefixOf (word ++ rest) = true :=
  List.isPrefixOf_iff_prefix.mpr (List.prefix_append word rest)

theorem starts_token (rest : List Char) : ['$', '{'].isPrefixOf ('$' :: '{' :: rest) = true :=
  starts_append ['$', '{'] rest

theorem turnOn_code {c : Char} (h : IsCode c) (rest : List Char) : turnOn .code (c :: rest) = .advance 1 .code := by
  have hne : ∀ d ∈ ['#', '"', '\'', '$'], d ≠ c := fun d hd heq => h (heq ▸ hd)
  have hhash := hne '#' (by decide)
  have hdouble := hne '"' (by decide)
  have hsingle := hne '\'' (by decide)
  have hdollar := hne '$' (by decide)
  simp only [turnOn, turn, starts_of_ne hhash, starts_of_ne hdouble, starts_of_ne hsingle, starts_of_ne hdollar]
  rfl

theorem turnOn_hash (rest : List Char) : turnOn .code ('#' :: rest) = .advance 1 .comment := by
  simp only [turnOn, turn, starts_self, starts_of_ne (show '$' ≠ '#' by decide)]
  rfl

theorem turnOn_comment (c : Char) (rest : List Char) :
    turnOn .comment (c :: rest) = .advance 1 (if c = '\n' then .code else .comment) := by
  by_cases hline : c = '\n'
  · subst hline
    simp only [turnOn, turn, starts_self, if_true]
  · simp only [turnOn, turn, starts_of_ne (Ne.symm hline), if_neg hline]
    rfl

theorem turnOn_token (f : StringForm) (rest : List Char) : turnOn (ctxOf f) ('$' :: '{' :: rest) = .interpolate := by
  have htoken := starts_token rest
  have hslash := fun word => starts_of_ne (show '\\' ≠ '$' by decide) word ('{' :: rest)
  have hdouble := fun word => starts_of_ne (show '"' ≠ '$' by decide) word ('{' :: rest)
  have hsingle := fun word => starts_of_ne (show '\'' ≠ '$' by decide) word ('{' :: rest)
  cases f <;> simp only [turnOn, turn, ctxOf, htoken, hslash, hdouble, hsingle] <;> rfl

theorem turnOn_escape {f : StringForm} (hf : f.escapes = true) (c : Char) (rest : List Char) :
    turnOn (ctxOf f) ('\\' :: c :: rest) = .advance 2 (ctxOf f) := by
  have hmore : decide (1 < ('\\' :: c :: rest).length) = true := decide_eq_true (by simp)
  cases f with
  | literal | literalMulti => cases hf
  | basic | basicMulti => simp only [turnOn, turn, ctxOf, starts_self, hmore, if_true]

/-- A character of a body that is no delimiter, no backslash and no token. -/
theorem turnOn_plain {f : StringForm} {c : Char} {rest : List Char} (hquote : c ≠ f.quote)
    (hslash : f.escapes = true → c ≠ '\\') (htoken : ¬ ['$', '{'] <+: c :: rest) :
    turnOn (ctxOf f) (c :: rest) = .advance 1 (ctxOf f) := by
  have hquote' := fun word => starts_of_ne (Ne.symm hquote) word rest
  have htoken' := starts_eq_false htoken
  cases f with
  | literal | literalMulti =>
    simp only [StringForm.quote] at hquote'
    simp only [turnOn, turn, ctxOf, hquote', htoken']
    rfl
  | basic | basicMulti =>
    have hslash' := starts_of_ne (Ne.symm (hslash rfl)) [] rest
    simp only [StringForm.quote] at hquote'
    simp only [turnOn, turn, ctxOf, hquote', htoken', hslash']
    rfl

/-- A quote inside a multi-line string. -/
theorem turnOn_quote {f : StringForm} (hmulti : f.multi = true) {rest : List Char}
    (htriple : ¬ [f.quote, f.quote, f.quote] <+: f.quote :: rest) :
    turnOn (ctxOf f) (f.quote :: rest) = .advance 1 (ctxOf f) := by
  have htriple' := starts_eq_false htriple
  cases f with
  | basic | literal => cases hmulti
  | basicMulti =>
    have hslash := starts_of_ne (show '\\' ≠ '"' by decide) [] rest
    have htoken := starts_of_ne (show '$' ≠ '"' by decide) ['{'] rest
    simp only [StringForm.quote] at htriple' ⊢
    simp only [turnOn, turn, ctxOf, hslash, htoken, htriple']
    rfl
  | literalMulti =>
    have htoken := starts_of_ne (show '$' ≠ '\'' by decide) ['{'] rest
    simp only [StringForm.quote] at htriple' ⊢
    simp only [turnOn, turn, ctxOf, htoken, htriple']
    rfl

theorem turnOn_close (f : StringForm) (rest : List Char) :
    turnOn (ctxOf f) (f.delimiter ++ rest) = .advance f.delimiter.length .code := by
  have hstarts := starts_append f.delimiter rest
  cases f with
  | basic =>
    change ['"'].isPrefixOf ('"' :: rest) = true at hstarts
    change turnOn .basic ('"' :: rest) = .advance 1 .code
    have hslash := starts_of_ne (show '\\' ≠ '"' by decide) [] rest
    simp only [turnOn, turn, hslash, hstarts]
    rfl
  | literal =>
    change ['\''].isPrefixOf ('\'' :: rest) = true at hstarts
    change turnOn .literal ('\'' :: rest) = .advance 1 .code
    simp only [turnOn, turn, hstarts, if_true]
  | basicMulti =>
    change ['"', '"', '"'].isPrefixOf ('"' :: '"' :: '"' :: rest) = true at hstarts
    change turnOn .basicMulti ('"' :: '"' :: '"' :: rest) = .advance 3 .code
    have hslash := starts_of_ne (show '\\' ≠ '"' by decide) [] ('"' :: '"' :: rest)
    simp only [turnOn, turn, hslash, hstarts]
    rfl
  | literalMulti =>
    change ['\'', '\'', '\''].isPrefixOf ('\'' :: '\'' :: '\'' :: rest) = true at hstarts
    change turnOn .literalMulti ('\'' :: '\'' :: '\'' :: rest) = .advance 3 .code
    simp only [turnOn, turn, hstarts, if_true]

/-- A string is opened in its form, if it cannot be taken for one of the multi-line form. -/
theorem turnOn_open (f : StringForm) {rest : List Char}
    (htriple : f.multi = false → ¬ [f.quote, f.quote, f.quote] <+: f.quote :: rest) :
    turnOn .code (f.delimiter ++ rest) = .advance f.delimiter.length (ctxOf f) := by
  have hstarts := starts_append f.delimiter rest
  cases f with
  | basic =>
    have htriple' := starts_eq_false (htriple rfl)
    change ['"', '"', '"'].isPrefixOf ('"' :: rest) = false at htriple'
    change ['"'].isPrefixOf ('"' :: rest) = true at hstarts
    change turnOn .code ('"' :: rest) = .advance 1 .basic
    have hhash := starts_of_ne (show '#' ≠ '"' by decide) [] rest
    have htoken := starts_of_ne (show '$' ≠ '"' by decide) ['{'] rest
    simp only [turnOn, turn, hhash, htoken, htriple', hstarts]
    rfl
  | literal =>
    have htriple' := starts_eq_false (htriple rfl)
    change ['\'', '\'', '\''].isPrefixOf ('\'' :: rest) = false at htriple'
    change ['\''].isPrefixOf ('\'' :: rest) = true at hstarts
    change turnOn .code ('\'' :: rest) = .advance 1 .literal
    have hhash := starts_of_ne (show '#' ≠ '\'' by decide) [] rest
    have htoken := starts_of_ne (show '$' ≠ '\'' by decide) ['{'] rest
    have hdouble := fun word => starts_of_ne (show '"' ≠ '\'' by decide) word rest
    simp only [turnOn, turn, hhash, htoken, hdouble, htriple', hstarts]
    rfl
  | basicMulti =>
    change ['"', '"', '"'].isPrefixOf ('"' :: '"' :: '"' :: rest) = true at hstarts
    change turnOn .code ('"' :: '"' :: '"' :: rest) = .advance 3 .basicMulti
    have hhash := starts_of_ne (show '#' ≠ '"' by decide) [] ('"' :: '"' :: rest)
    have htoken := starts_of_ne (show '$' ≠ '"' by decide) ['{'] ('"' :: '"' :: rest)
    simp only [turnOn, turn, hhash, htoken, hstarts]
    rfl
  | literalMulti =>
    change ['\'', '\'', '\''].isPrefixOf ('\'' :: '\'' :: '\'' :: rest) = true at hstarts
    change turnOn .code ('\'' :: '\'' :: '\'' :: rest) = .advance 3 .literalMulti
    have hhash := starts_of_ne (show '#' ≠ '\'' by decide) [] ('\'' :: '\'' :: rest)
    have htoken := starts_of_ne (show '$' ≠ '\'' by decide) ['{'] ('\'' :: '\'' :: rest)
    have hdouble := fun word => starts_of_ne (show '"' ≠ '\'' by decide) word ('\'' :: '\'' :: rest)
    simp only [turnOn, turn, hhash, htoken, hdouble, hstarts]
    rfl

/-! ## What should be written -/

def Reading.ok (text : List Char) : Reading := ⟨[], .ok text⟩

/-- One reading and then, unless it has failed, another. -/
def Reading.seq (r r' : Reading) : Reading :=
  match r.result with
  | .error e => ⟨r.reads, .error e⟩
  | .ok text => r'.after r.reads text

/-- A text with every token replaced. A token that is not closed in the text is refused. -/
def expandTokens (env : Env) (text : List Char) : Reading :=
  match text with
  | [] => .ok []
  | c :: rest =>
    if ['$', '{'].isPrefixOf (c :: rest) then
      match _h : tokenName (rest.drop 1) with
      | none => ⟨[], .error unterminated⟩
      | some (name, after) => (Reading.mk (lookupVar env name).1 (lookupVar env name).2).seq (expandTokens env after)
    else (expandTokens env rest).after [] [c]
  termination_by text.length
  decreasing_by
    · have := length_tokenName _h
      rw [List.length_drop] at this
      rw [List.length_cons]
      omega
    · exact Nat.lt_succ_self _

/-- What an item should be written as. -/
def interpolatedItem (env : Env) : Item → Reading
  | .code c _ => .ok [c]
  | .comment text _ => .ok ('#' :: text)
  | .string s => (Reading.ok s.form.delimiter).seq ((expandTokens env s.body).seq (.ok s.closing))

/-- What a TOML text should be written as. -/
def interpolated (env : Env) : List Item → Reading
  | [] => .ok []
  | item :: rest => (interpolatedItem env item).seq (interpolated env rest)

/-- Two readings of the same variables, with the same text or both refused. -/
def Reading.Agrees (r r' : Reading) : Prop := r.reads = r'.reads ∧ r.result.toOption = r'.result.toOption

/-- `interpolate_env` reads, replaces and refuses exactly the tokens of a TOML file outside comments. -/
def Respects (env : Env) (file : File) : Prop :=
  ∃ r, interpolateEnv env (String.ofList (text file.items)) = some r ∧ r.Agrees (interpolated env file.items)

/-! ## The condition -/

/-- Some environment has a value for the name, and it may be read. -/
def Readable (name : List Char) : Prop :=
  interpolationEnvPrefix <+: name ∧ '=' ∉ name ∧ Char.ofNat 0 ∉ name

instance (name : List Char) : Decidable (Readable name) :=
  inferInstanceAs (Decidable (interpolationEnvPrefix <+: name ∧ '=' ∉ name ∧ Char.ofNat 0 ∉ name))

/-- How the tokens of a body end: all are closed and have readable names; or one is refused by its name; or a token of a
`KRAKEN_*` name is left open. -/
inductive Tokens
  | closed | refused | leftOpen
  deriving DecidableEq

def tokensOf (text : List Char) : Tokens :=
  match text with
  | [] => .closed
  | c :: rest =>
    if ['$', '{'].isPrefixOf (c :: rest) then
      match _h : tokenName (rest.drop 1) with
      | none => if interpolationEnvPrefix <+: rest.drop 1 then .leftOpen else .refused
      | some (name, after) => if Readable name then tokensOf after else .refused
    else tokensOf rest
  termination_by text.length
  decreasing_by
    · have := length_tokenName _h
      rw [List.length_drop] at this
      rw [List.length_cons]
      omega
    · exact Nat.lt_succ_self _

/-- Up to the first token that is refused by its name, no string closes with four quotes and none leaves a token
open. -/
def Kept : List Item → Prop
  | [] => True
  | .string s :: rest =>
    tokensOf s.body = .refused ∨ (tokensOf s.body = .closed ∧ s.run ≠ 1 ∧ Kept rest)
  | _ :: rest => Kept rest

/-! ## Readings one after the other -/

@[simp] theorem Reading.ok_seq (text : List Char) (r : Reading) : (Reading.ok text).seq r = r.after [] text := rfl

theorem Reading.after_seq (r r' : Reading) (reads : List String) (text : List Char) :
    (r.after reads text).seq r' = (r.seq r').after reads text := by
  obtain ⟨rs, result⟩ := r
  cases result with
  | error e => rfl
  | ok t => exact (Reading.after_after r' rs reads t text).symm

theorem Reading.seq_assoc (a b c : Reading) : (a.seq b).seq c = a.seq (b.seq c) := by
  obtain ⟨rs, result⟩ := a
  cases result with
  | error e => rfl
  | ok t => exact Reading.after_seq b c rs t

theorem Reading.Agrees.refl (r : Reading) : r.Agrees r := ⟨rfl, rfl⟩

theorem Reading.Agrees.after {r r' : Reading} (h : r.Agrees r') (reads : List String) (text : List Char) :
    (r.after reads text).Agrees (r'.after reads text) := by
  obtain ⟨rs, result⟩ := r
  obtain ⟨rs', result'⟩ := r'
  obtain ⟨hreads, hresult⟩ := h
  change rs = rs' at hreads
  refine ⟨by simp only [Reading.after, hreads], ?_⟩
  cases result <;> cases result' <;> simp_all [Reading.after, Except.map, Except.toOption]

theorem Reading.Agrees.seq {r r' : Reading} (h : r.Agrees r') (a : Reading) : (a.seq r).Agrees (a.seq r') := by
  obtain ⟨rs, result⟩ := a
  cases result with
  | error e => exact .refl _
  | ok t => exact h.after rs t

/-! ## Walking through a body -/

theorem scan_token (env : Env) (f : StringForm) {text name after : List Char}
    (h : tokenName text = some (name, after)) :
    scan env (ctxOf f) ('$' :: '{' :: text) =
      (Reading.mk (lookupVar env name).1 (lookupVar env name).2).seq (scan env (ctxOf f) after) := by
  rw [scan_interpolate (turnOn_token f text), h]
  cases hval : (lookupVar env name).2 with
  | error e => simp only [hval, Reading.seq]
  | ok val => simp only [hval, Reading.seq, Reading.after]

theorem expandTokens_nil (env : Env) : expandTokens env [] = .ok [] := by
  rw [expandTokens]

theorem expandTokens_cons (env : Env) {c : Char} {rest : List Char} (h : ¬ ['$', '{'] <+: c :: rest) :
    expandTokens env (c :: rest) = (expandTokens env rest).after [] [c] := by
  rw [expandTokens, if_neg (by rw [starts_eq_false h]; decide)]

theorem expandTokens_token (env : Env) {text name after : List Char} (h : tokenName text = some (name, after)) :
    expandTokens env ('$' :: '{' :: text) =
      (Reading.mk (lookupVar env name).1 (lookupVar env name).2).seq (expandTokens env after) := by
  rw [expandTokens, if_pos (starts_token text)]
  split <;> rename_i heq <;> rw [List.drop_one, List.tail_cons, h] at heq
  · cases heq
  · obtain ⟨rfl, rfl⟩ := Prod.mk.inj (Option.some.inj heq)
    rfl

theorem expandTokens_open (env : Env) {text : List Char} (h : tokenName text = none) :
    expandTokens env ('$' :: '{' :: text) = ⟨[], .error unterminated⟩ := by
  rw [expandTokens, if_pos (starts_token text)]
  split <;> rename_i heq <;> rw [List.drop_one, List.tail_cons, h] at heq
  cases heq

theorem tokensOf_nil : tokensOf [] = .closed := by
  rw [tokensOf]

theorem tokensOf_cons {c : Char} {rest : List Char} (h : ¬ ['$', '{'] <+: c :: rest) :
    tokensOf (c :: rest) = tokensOf rest := by
  rw [tokensOf, if_neg (by rw [starts_eq_false h]; decide)]

theorem tokensOf_token {text name after : List Char} (h : tokenName text = some (name, after)) :
    tokensOf ('$' :: '{' :: text) = if Readable name then tokensOf after else .refused := by
  rw [tokensOf, if_pos (starts_token text)]
  split <;> rename_i heq <;> rw [List.drop_one, List.tail_cons, h] at heq
  · cases heq
  · obtain ⟨rfl, rfl⟩ := Prod.mk.inj (Option.some.inj heq)
    rfl

theorem tokensOf_open {text : List Char} (h : tokenName text = none) :
    tokensOf ('$' :: '{' :: text) = if interpolationEnvPrefix <+: text then .leftOpen else .refused := by
  rw [tokensOf, if_pos (starts_token text)]
  split <;> rename_i heq <;> rw [List.drop_one, List.tail_cons, h] at heq
  · rfl
  · cases heq

/-- A piece at the head of a body that is copied: by the scanner, which reads on in the string, and as it should be. -/
structure Copied (f : StringForm) (tail piece rest : List Char) : Prop where
  scan : ∀ env, scan env (ctxOf f) (piece ++ (rest ++ tail)) = (scan env (ctxOf f) (rest ++ tail)).after [] piece
  expandTokens : ∀ env, expandTokens env (piece ++ rest) = (expandTokens env rest).after [] piece
  tokensOf : tokensOf (piece ++ rest) = tokensOf rest

theorem not_token_append (f : StringForm) {c : Char} {rest : List Char} (tail : List Char) (h : ¬ ['$', '{'] <+: c :: rest) :
    ¬ ['$', '{'] <+: c :: (rest ++ f.quote :: tail) := by
  intro htoken
  cases rest with
  | nil =>
    obtain ⟨-, hone⟩ := List.cons_prefix_cons.mp htoken
    have hquote := (List.cons_prefix_cons.mp hone).1
    cases f <;> exact absurd hquote (by decide)
  | cons d rest =>
    obtain ⟨rfl, hone⟩ := List.cons_prefix_cons.mp htoken
    obtain ⟨rfl, -⟩ := List.cons_prefix_cons.mp hone
    exact h ⟨rest, rfl⟩

theorem copied_one {f : StringForm} {c : Char} {rest tail : List Char} (h : ¬ ['$', '{'] <+: c :: rest)
    (hturn : turnOn (ctxOf f) (c :: (rest ++ tail)) = .advance 1 (ctxOf f)) : Copied f tail [c] rest where
  scan env := scan_advance env (List.cons_ne_nil _ _) hturn
  expandTokens env := expandTokens_cons env h
  tokensOf := tokensOf_cons h

theorem copied_escape {f : StringForm} (hf : f.escapes = true) {c : Char} (hc : f.escapable c = true)
    (rest tail : List Char) : Copied f tail ['\\', c] rest := by
  have hslash : ¬ ['$', '{'] <+: '\\' :: c :: rest := fun h =>
    absurd (List.cons_prefix_cons.mp h).1 (by decide)
  have hescaped : ¬ ['$', '{'] <+: c :: rest := by
    intro h
    obtain ⟨rfl, -⟩ := List.cons_prefix_cons.mp h
    rw [f.escapable_dollar] at hc
    cases hc
  refine ⟨fun env => scan_advance env (List.cons_ne_nil _ _) (turnOn_escape hf c _), fun env => ?_, ?_⟩
  · exact (expandTokens_cons env hslash).trans (by rw [expandTokens_cons env hescaped, Reading.after_after]; rfl)
  · exact (tokensOf_cons hslash).trans (tokensOf_cons hescaped)

/-- Induction along a body: pieces that are copied, tokens, and a token that is left open. -/
theorem body_induction {f : StringForm} (tail : List Char) {motive : List Char → Prop} (nil : motive [])
    (piece : ∀ piece rest, Copied f (f.quote :: tail) piece rest → motive rest → motive (piece ++ rest))
    (token : ∀ name after, '}' ∉ name → motive after → motive ('$' :: '{' :: (name ++ '}' :: after)))
    (leftOpen : ∀ text, '}' ∉ text → motive ('$' :: '{' :: text)) {q : Nat} {body : List Char}
    (hbody : Body f q body) : motive body := by
  induction hlen : body.length using Nat.strongRecOn generalizing body q with
  | ind n ih =>
  subst hlen
  cases body with
  | nil => exact nil
  | cons c rest =>
    by_cases htoken : ['$', '{'] <+: c :: rest
    · obtain ⟨text, heq⟩ := htoken
      obtain ⟨rfl, rfl⟩ := List.cons.inj heq
      rcases tokenName_cases text with ⟨hnone, -⟩ | ⟨name, after, rfl, hname, -⟩
      · exact leftOpen text hnone
      · have hname' : '}' ∉ '$' :: '{' :: name := by simp [hname]
        have hafter : Body f 0 after := Body.after_brace hname' (by simpa using hbody)
        have hlt : after.length < ('$' :: '{' :: (name ++ '}' :: after)).length := by
          simp only [List.length_cons, List.length_append]
          omega
        exact token name after hname (ih after.length hlt hafter rfl)
    · have hlt := Nat.lt_succ_self rest.length
      rcases hbody.cons_cases with ⟨rfl, hf, d, after, rfl, hd, h⟩ | ⟨rfl, hq, h⟩ | ⟨hquote, hslash, h⟩
      · have hlt' : after.length < ('\\' :: d :: after).length := by
          rw [List.length_cons, List.length_cons]
          omega
        exact piece ['\\', d] after (copied_escape hf hd after _) (ih after.length hlt' h rfl)
      · have hturn := turnOn_quote (StringForm.multi_of_lt_maxRun hq) (hbody.not_triple (f.quote :: tail))
        exact piece [f.quote] rest (copied_one htoken hturn) (ih _ hlt h rfl)
      · have hturn := turnOn_plain hquote hslash (not_token_append f tail htoken)
        exact piece [c] rest (copied_one htoken hturn) (ih _ hlt h rfl)

/-! ## One item -/

/-- A body whose tokens are all closed is read as it should be. -/
theorem scan_body (env : Env) {f : StringForm} {q : Nat} {body : List Char} (hbody : Body f q body)
    (hclosed : tokensOf body = .closed) (tail : List Char) :
    scan env (ctxOf f) (body ++ f.quote :: tail) =
      (expandTokens env body).seq (scan env (ctxOf f) (f.quote :: tail)) := by
  revert hclosed
  refine body_induction (f := f) tail
    (motive := fun body => tokensOf body = .closed → scan env (ctxOf f) (body ++ f.quote :: tail) =
      (expandTokens env body).seq (scan env (ctxOf f) (f.quote :: tail))) ?nil ?piece ?token ?leftOpen hbody
  case nil =>
    intro _
    rw [expandTokens_nil, Reading.ok_seq, Reading.after_nil, List.nil_append]
  case piece =>
    intro piece rest hcopied ih hclosed
    rw [hcopied.tokensOf] at hclosed
    rw [List.append_assoc, hcopied.scan, ih hclosed, hcopied.expandTokens, Reading.after_seq]
  case token =>
    intro name after hname ih hclosed
    have hsome := tokenName_append hname after
    have htail := tokenName_append hname (after ++ f.quote :: tail)
    rw [tokensOf_token hsome] at hclosed
    split at hclosed
    · rw [expandTokens_token env hsome, Reading.seq_assoc, ← ih hclosed, ← scan_token env f htail]
      simp
    · cases hclosed
  case leftOpen =>
    intro text hnone hclosed
    rw [tokensOf_open (tokenName_eq_none hnone)] at hclosed
    split at hclosed <;> cases hclosed

theorem lookupVar_of_not_readable (env : Env) {name : List Char} (h : ¬ Readable name) :
    ∃ e, (lookupVar env name).2 = .error e := by
  by_cases hfront : interpolationEnvPrefix <+: name
  · have habsent : env.var (String.ofList name) = none := by
      apply env.absent
      rw [String.toList_ofList]
      by_contra hnot
      exact h ⟨hfront, not_or.mp hnot⟩
    refine ⟨unresolved (String.ofList name), ?_⟩
    simp only [lookupVar, List.isPrefixOf_iff_prefix.mpr hfront, habsent]
    rfl
  · refine ⟨refused (String.ofList name), ?_⟩
    simp only [lookupVar, starts_eq_false hfront]
    rfl

theorem lookupVar_of_not_isPrefixOf (env : Env) {name : List Char} (h : ¬ interpolationEnvPrefix <+: name) :
    lookupVar env name = ([], .error (refused (String.ofList name))) := by
  simp only [lookupVar, starts_eq_false h]
  rfl

/-- A token that a string leaves open takes its name from what follows the string too. -/
theorem open_name {f : StringForm} {text tail name rest : List Char} (hnone : '}' ∉ text)
    (h : text ++ f.quote :: tail = name ++ '}' :: rest) : ∃ more, name = text ++ f.quote :: more := by
  rcases List.append_eq_append_iff.mp h with ⟨more, hname, hrest⟩ | ⟨more, htext, hrest⟩
  · cases more with
    | nil => exact absurd (List.cons.inj hrest).1.symm f.brace_ne_quote
    | cons c more =>
      obtain ⟨rfl, -⟩ := List.cons.inj hrest
      exact ⟨more, hname⟩
  · cases more with
    | nil => exact absurd (List.cons.inj hrest).1 f.brace_ne_quote
    | cons c more =>
      obtain ⟨rfl, -⟩ := List.cons.inj hrest
      exact absurd (htext ▸ by simp) hnone

theorem not_env_prefix_append {f : StringForm} {text : List Char} (h : ¬ interpolationEnvPrefix <+: text)
    (more : List Char) : ¬ interpolationEnvPrefix <+: text ++ f.quote :: more := by
  intro hfront
  rcases List.prefix_or_prefix_of_prefix hfront (List.prefix_append text _) with htext | ⟨last, hlast⟩
  · exact h htext
  · rw [← hlast, List.prefix_append_right_inj] at hfront
    cases last with
    | nil => exact h ⟨[], by simpa using hlast.symm⟩
    | cons c last =>
      obtain ⟨rfl, -⟩ := List.cons_prefix_cons.mp hfront
      have hmem : f.quote ∈ interpolationEnvPrefix := hlast ▸ by simp
      cases f <;> exact absurd hmem (by decide)

/-- A body with a token that is refused by its name is refused, whatever follows. -/
theorem scan_body_refused (env : Env) {f : StringForm} {q : Nat} {body : List Char} (hbody : Body f q body)
    (hrefused : tokensOf body = .refused) (tail : List Char) :
    (scan env (ctxOf f) (body ++ f.quote :: tail)).Agrees (expandTokens env body) ∧
      ∃ e, (expandTokens env body).result = .error e := by
  revert hrefused
  refine body_induction (f := f) tail
    (motive := fun body => tokensOf body = .refused →
      (scan env (ctxOf f) (body ++ f.quote :: tail)).Agrees (expandTokens env body) ∧
        ∃ e, (expandTokens env body).result = .error e) ?nil ?piece ?token ?leftOpen hbody
  case nil =>
    intro hrefused
    rw [tokensOf_nil] at hrefused
    cases hrefused
  case piece =>
    intro piece rest hcopied ih hrefused
    rw [hcopied.tokensOf] at hrefused
    obtain ⟨hagrees, e, herror⟩ := ih hrefused
    rw [List.append_assoc, hcopied.scan, hcopied.expandTokens]
    exact ⟨hagrees.after [] piece, e, by rw [Reading.after, herror]; rfl⟩
  case token =>
    intro name after hname ih hrefused
    have hsome := tokenName_append hname after
    have htail := tokenName_append hname (after ++ f.quote :: tail)
    have hscan : scan env (ctxOf f) ('$' :: '{' :: (name ++ '}' :: after) ++ f.quote :: tail) =
        (Reading.mk (lookupVar env name).1 (lookupVar env name).2).seq
          (scan env (ctxOf f) (after ++ f.quote :: tail)) := by
      rw [← scan_token env f htail]
      simp
    rw [hscan, expandTokens_token env hsome]
    rw [tokensOf_token hsome] at hrefused
    split at hrefused
    · obtain ⟨hagrees, e, herror⟩ := ih hrefused
      refine ⟨hagrees.seq _, ?_⟩
      cases hval : (lookupVar env name).2 with
      | error e' => exact ⟨e', rfl⟩
      | ok val => exact ⟨e, by simp only [Reading.seq, Reading.after, herror]; rfl⟩
    · rename_i hreadable
      obtain ⟨e, hval⟩ := lookupVar_of_not_readable env hreadable
      rw [hval]
      exact ⟨.refl _, e, rfl⟩
  case leftOpen =>
    intro text hnone hrefused
    rw [tokensOf_open (tokenName_eq_none hnone)] at hrefused
    split at hrefused
    · cases hrefused
    · rename_i hfront
      rw [expandTokens_open env (tokenName_eq_none hnone)]
      refine ⟨?_, _, rfl⟩
      rw [List.cons_append, List.cons_append, scan_interpolate (turnOn_token f _)]
      rcases tokenName_cases (text ++ f.quote :: tail) with ⟨-, htoken⟩ | ⟨name, rest, heq, -, htoken⟩
      · rw [htoken]
        exact .refl _
      · obtain ⟨more, rfl⟩ := open_name hnone heq
        simp only [htoken, lookupVar_of_not_isPrefixOf env (not_env_prefix_append hfront more)]
        exact ⟨rfl, rfl⟩

/-! ## Delimiters -/

theorem scan_open (env : Env) (f : StringForm) {rest : List Char}
    (htriple : f.multi = false → ¬ [f.quote, f.quote, f.quote] <+: f.quote :: rest) :
    scan env .code (f.delimiter ++ rest) = (scan env (ctxOf f) rest).after [] f.delimiter := by
  have hne := List.append_ne_nil_of_left_ne_nil f.delimiter_ne_nil rest
  have h := scan_advance env hne (turnOn_open f htriple)
  rwa [List.drop_left, List.take_left] at h

theorem scan_close (env : Env) (f : StringForm) (rest : List Char) :
    scan env (ctxOf f) (f.delimiter ++ rest) = (scan env .code rest).after [] f.delimiter := by
  have hne := List.append_ne_nil_of_left_ne_nil f.delimiter_ne_nil rest
  have h := scan_advance env hne (turnOn_close f rest)
  rwa [List.drop_left, List.take_left] at h

/-- The form of one line with the same quote. -/
def singleLine : StringForm → StringForm
  | .basic | .basicMulti => .basic
  | .literal | .literalMulti => .literal

theorem delimiter_singleLine (f : StringForm) : (singleLine f).delimiter = [f.quote] := by
  cases f <;> rfl

theorem quote_singleLine (f : StringForm) : (singleLine f).quote = f.quote := by
  cases f <;> rfl

/-- Quotes past the delimiter: the scanner takes the first three of a closing run. -/
theorem Str.closing_append (s : Str) (after : List Char) :
    s.closing ++ after = s.form.delimiter ++ (List.replicate s.run s.form.quote ++ after) := by
  rw [Str.closing, StringForm.delimiter, ← List.append_assoc, List.replicate_append_replicate, Nat.add_comm,
    ← List.replicate_append_replicate, List.append_assoc]

theorem not_starts_quote {s : Str} {after : List Char} (hmeets : (Item.string s).Meets after) (f : StringForm)
    (word : List Char) : ¬ f.quote :: word <+: after := by
  rintro ⟨rest, rfl⟩
  exact hmeets.ne_quote f rfl

theorem scan_quote (env : Env) (f : StringForm) {rest : List Char} (h : ¬ [f.quote, f.quote] <+: rest) :
    scan env .code (f.quote :: rest) = (scan env (ctxOf (singleLine f)) rest).after [] [f.quote] := by
  have hopen : scan env .code ((singleLine f).delimiter ++ rest) = _ :=
    scan_open env (singleLine f) fun _ htriple => by
      rw [quote_singleLine] at htriple
      exact h (List.cons_prefix_cons.mp htriple).2
  rwa [delimiter_singleLine] at hopen

/-- A string that does not close with four quotes is closed where the scanner closes it. -/
theorem scan_closing (env : Env) {s : Str} (hrun : s.run ≠ 1) {after : List Char}
    (hmeets : (Item.string s).Meets after) :
    scan env (ctxOf s.form) (s.closing ++ after) = (scan env .code after).after [] s.closing := by
  have hle : s.run ≤ 2 := Nat.le_trans s.run_le s.form.maxRun_le
  have hclosing := Str.closing_append s []
  rw [List.append_nil, List.append_nil] at hclosing
  rw [Str.closing_append, scan_close, hclosing]
  by_cases hzero : s.run = 0
  · rw [hzero, List.replicate_zero, List.nil_append, List.append_nil]
  · -- the two quotes past the delimiter open a string and close it
    have htwo : s.run = 2 := by omega
    have hquotes : List.replicate s.run s.form.quote = [s.form.quote, s.form.quote] := by rw [htwo]; rfl
    have hquote : ¬ [s.form.quote, s.form.quote] <+: s.form.quote :: after := fun h =>
      not_starts_quote hmeets s.form [] (List.cons_prefix_cons.mp h).2
    have hopen := scan_quote env s.form hquote
    have hclose := scan_close env (singleLine s.form) after
    rw [delimiter_singleLine, List.singleton_append] at hclose
    rw [hquotes, List.cons_append, List.cons_append, List.nil_append, hopen, hclose, Reading.after_after,
      Reading.after_after, List.append_assoc _ [_] [_]]
    rfl

/-- **The slip**: after four quotes the scanner is in a string, and the text is outside. -/
theorem scan_closing_four (env : Env) {s : Str} (hrun : s.run = 1) {after : List Char}
    (hmeets : (Item.string s).Meets after) :
    scan env (ctxOf s.form) (s.closing ++ after) = (scan env (ctxOf (singleLine s.form)) after).after [] s.closing := by
  have hclosing := Str.closing_append s []
  rw [List.append_nil, List.append_nil] at hclosing
  have hquote : List.replicate s.run s.form.quote = [s.form.quote] := by rw [hrun]; rfl
  rw [Str.closing_append, scan_close, hclosing, hquote, List.singleton_append,
    scan_quote env s.form (not_starts_quote hmeets s.form _), Reading.after_after]
  rfl

/-! ## The whole text -/

/-- Strings whose tokens are all closed and that do not close with four quotes. -/
def Sound : Item → Prop
  | .string s => tokensOf s.body = .closed ∧ s.run ≠ 1
  | _ => True

theorem scan_comment (env : Env) {line : List Char} (hline : '\n' ∉ line) {rest : List Char}
    (hmeets : ∀ c ∈ rest.head?, c = '\n') :
    scan env .comment (line ++ rest) = (scan env .code rest).after [] line := by
  induction line with
  | nil =>
    rw [List.nil_append, Reading.after_nil]
    cases rest with
    | nil => rw [scan_nil, scan_nil]
    | cons c rest =>
      obtain rfl := hmeets c rfl
      have hcomment := scan_advance env (List.cons_ne_nil _ _) (turnOn_comment '\n' rest)
      rw [if_pos rfl] at hcomment
      rw [hcomment, scan_advance env (List.cons_ne_nil _ _) (turnOn_code (show IsCode '\n' by decide) rest)]
  | cons c line ih =>
    obtain ⟨hne, hrest⟩ := not_or.mp (mt List.mem_cons.mpr hline)
    have hturn := turnOn_comment c (line ++ rest)
    rw [if_neg (Ne.symm hne)] at hturn
    have h := scan_advance env (List.cons_ne_nil _ _) hturn
    rw [List.drop_one, List.tail_cons, ih hrest, Reading.after_after] at h
    exact h

/-- The scanner is at the opening quotes of a string. -/
theorem scan_string (env : Env) (s : Str) {after : List Char} (hmeets : (Item.string s).Meets after) :
    scan env .code (s.text ++ after) =
      (scan env (ctxOf s.form) (s.body ++ (s.closing ++ after))).after [] s.form.delimiter := by
  rw [Str.text, List.append_assoc, List.append_assoc]
  exact scan_open env s.form fun hsingle => s.not_triple hsingle hmeets

theorem scan_item (env : Env) {item : Item} (hsound : Sound item) {rest : List Char} (hmeets : item.Meets rest) :
    scan env .code (item.text ++ rest) = (interpolatedItem env item).seq (scan env .code rest) := by
  cases item with
  | code c hc => exact scan_advance env (List.cons_ne_nil _ _) (turnOn_code hc rest)
  | comment line hline =>
    have h := scan_advance env (List.cons_ne_nil _ _) (turnOn_hash (line ++ rest))
    rw [List.drop_one, List.tail_cons, scan_comment env hline hmeets, Reading.after_after] at h
    exact h
  | string s =>
    obtain ⟨hclosed, hrun⟩ := hsound
    obtain ⟨closing, hclosing⟩ := s.closing_eq
    have hbody := scan_body env s.body_valid hclosed (closing ++ rest)
    rw [← List.cons_append, ← hclosing, scan_closing env hrun hmeets] at hbody
    change scan env .code (s.text ++ rest) = _
    rw [scan_string env s hmeets, hbody, interpolatedItem, Reading.seq_assoc, Reading.seq_assoc]
    rfl

theorem scan_items (env : Env) {items : List Item} (hsound : ∀ item ∈ items, Sound item) (rest : List Item)
    (hlexical : Lexical (items ++ rest)) :
    scan env .code (text (items ++ rest)) = (interpolated env items).seq (scan env .code (text rest)) := by
  induction items with
  | nil => exact (Reading.after_nil _).symm
  | cons item items ih =>
    obtain ⟨hitem, hitems⟩ := List.forall_mem_cons.mp hsound
    rw [List.cons_append] at hlexical
    obtain ⟨hmeets, hlexical⟩ := hlexical
    rw [List.cons_append, text_cons, scan_item env hitem hmeets, ih hitems hlexical, interpolated, Reading.seq_assoc]

theorem interpolated_append (env : Env) (items rest : List Item) :
    interpolated env (items ++ rest) = (interpolated env items).seq (interpolated env rest) := by
  induction items with
  | nil => exact (Reading.after_nil _).symm
  | cons item items ih => rw [List.cons_append, interpolated, ih, interpolated, Reading.seq_assoc]

/-- How a text can break the condition at a string. -/
def Slips (s : Str) : Prop := tokensOf s.body = .leftOpen ∨ (tokensOf s.body = .closed ∧ s.run = 1)

theorem kept_cons_of_sound {item : Item} (hsound : Sound item) (rest : List Item) :
    Kept (item :: rest) ↔ Kept rest := by
  cases item with
  | code | comment => exact Iff.rfl
  | string s =>
    obtain ⟨hclosed, hrun⟩ := hsound
    constructor
    · rintro (hrefused | ⟨-, -, hrest⟩)
      · rw [hclosed] at hrefused
        cases hrefused
      · exact hrest
    · exact fun hrest => Or.inr ⟨hclosed, hrun, hrest⟩

theorem kept_append_of_sound {items : List Item} (hsound : ∀ item ∈ items, Sound item) (rest : List Item) :
    Kept (items ++ rest) ↔ Kept rest := by
  induction items with
  | nil => exact Iff.rfl
  | cons item items ih =>
    obtain ⟨hitem, hitems⟩ := List.forall_mem_cons.mp hsound
    exact (kept_cons_of_sound hitem _).trans (ih hitems)

theorem Kept.replace {start rest later : List Item} (h : Kept (start ++ rest)) (hlater : Kept later) :
    Kept (start ++ later) := by
  induction start with
  | nil => exact hlater
  | cons item start ih =>
    cases item with
    | code | comment => exact ih h
    | string s =>
      rcases h with hrefused | ⟨hclosed, hrun, h⟩
      · exact Or.inl hrefused
      · exact Or.inr ⟨hclosed, hrun, ih h⟩

theorem sound_or_string (item : Item) : Sound item ∨
    ∃ s, item = .string s ∧ (tokensOf s.body = .refused ∨ Slips s) := by
  cases item with
  | code | comment => exact Or.inl trivial
  | string s =>
    cases htokens : tokensOf s.body with
    | refused => exact Or.inr ⟨s, rfl, Or.inl htokens⟩
    | leftOpen => exact Or.inr ⟨s, rfl, Or.inr (Or.inl htokens)⟩
    | closed =>
      by_cases hrun : s.run = 1
      · exact Or.inr ⟨s, rfl, Or.inr (Or.inr ⟨htokens, hrun⟩)⟩
      · exact Or.inl ⟨htokens, hrun⟩

/-- The first item of a text that is not sound. -/
theorem sound_cases (items : List Item) : (∀ item ∈ items, Sound item) ∨
    ∃ good s rest, items = good ++ .string s :: rest ∧ (∀ item ∈ good, Sound item) ∧
      (tokensOf s.body = .refused ∨ Slips s) := by
  induction items with
  | nil => exact Or.inl fun item h => absurd h List.not_mem_nil
  | cons item items ih =>
    rcases sound_or_string item with hitem | ⟨s, rfl, hs⟩
    · rcases ih with hall | ⟨good, s, rest, rfl, hgood, hs⟩
      · exact Or.inl (List.forall_mem_cons.mpr ⟨hitem, hall⟩)
      · exact Or.inr ⟨item :: good, s, rest, rfl, List.forall_mem_cons.mpr ⟨hitem, hgood⟩, hs⟩
    · exact Or.inr ⟨[], s, items, rfl, fun item h => absurd h List.not_mem_nil, hs⟩

theorem not_kept_of_slips {s : Str} (h : Slips s) (rest : List Item) : ¬ Kept (.string s :: rest) := by
  rintro (hrefused | ⟨hclosed, hrun, -⟩) <;> rcases h with h | ⟨h, hrun'⟩
  · rw [h] at hrefused; cases hrefused
  · rw [h] at hrefused; cases hrefused
  · rw [h] at hclosed; cases hclosed
  · exact hrun hrun'

/-- **A text that meets the condition is interpolated as it should be.** -/
theorem scan_agrees (env : Env) {items : List Item} (hlexical : Lexical items) (hkept : Kept items) :
    (scan env .code (text items)).Agrees (interpolated env items) := by
  rcases sound_cases items with hall | ⟨good, s, rest, rfl, hgood, hs⟩
  · have h := scan_items env hall [] (by rwa [List.append_nil])
    have hend : scan env .code (text []) = interpolated env [] := scan_nil env .code
    rw [hend, ← interpolated_append, List.append_nil] at h
    rw [h]
    exact .refl _
  · have hrefused : tokensOf s.body = .refused := by
      rcases hs with hs | hs
      · exact hs
      · exact absurd ((kept_append_of_sound hgood _).mp hkept) (not_kept_of_slips hs rest)
    rw [scan_items env hgood _ hlexical, interpolated_append]
    refine Reading.Agrees.seq ?_ _
    obtain ⟨hmeets, -⟩ := hlexical.right
    obtain ⟨closing, hclosing⟩ := s.closing_eq
    obtain ⟨hagrees, e, herror⟩ := scan_body_refused env s.body_valid hrefused (closing ++ text rest)
    rw [← List.cons_append, ← hclosing] at hagrees
    have hseq : ∀ r, (expandTokens env s.body).seq r = expandTokens env s.body := by
      intro r
      cases hbody : expandTokens env s.body with
      | mk reads result =>
        rw [hbody] at herror
        change result = _ at herror
        subst herror
        rfl
    rw [text_cons, interpolated, interpolatedItem]
    change (scan env .code (s.text ++ text rest)).Agrees _
    rw [scan_string env s hmeets, Reading.seq_assoc, Reading.seq_assoc, hseq]
    exact hagrees.after [] _

/-! ## The slips -/

/-- An environment in which every name that may have a value has one. -/
def emptyValues : Env where
  var name := if Readable name.toList then some "" else none
  absent _ h := if_neg fun hreadable => h.elim hreadable.2.1 hreadable.2.2

theorem lookupVar_emptyValues {name : List Char} (h : Readable name) :
    lookupVar emptyValues name = ([String.ofList name], .ok []) := by
  have hvar : emptyValues.var (String.ofList name) = some "" := if_pos (by rwa [String.toList_ofList])
  simp only [lookupVar, List.isPrefixOf_iff_prefix.mpr h.1, hvar]
  rfl

theorem reads_lookupVar_of_prefix (env : Env) {name : List Char} (h : interpolationEnvPrefix <+: name) :
    (lookupVar env name).1 = [String.ofList name] := by
  simp only [lookupVar, List.isPrefixOf_iff_prefix.mpr h]
  cases env.var (String.ofList name) <;> rfl

/-- A body with closed tokens is expanded there. -/
theorem expandTokens_emptyValues {f : StringForm} {q : Nat} {body : List Char} (hbody : Body f q body)
    (hclosed : tokensOf body = .closed) : ∃ out, (expandTokens emptyValues body).result = .ok out := by
  revert hclosed
  refine body_induction (f := f) []
    (motive := fun body => tokensOf body = .closed → ∃ out, (expandTokens emptyValues body).result = .ok out)
    ?nil ?piece ?token ?leftOpen hbody
  case nil => exact fun _ => ⟨[], by rw [expandTokens_nil]; rfl⟩
  case piece =>
    intro piece rest hcopied ih hclosed
    rw [hcopied.tokensOf] at hclosed
    obtain ⟨out, hout⟩ := ih hclosed
    exact ⟨piece ++ out, by rw [hcopied.expandTokens, Reading.after, hout]; rfl⟩
  case token =>
    intro name after hname ih hclosed
    have hsome := tokenName_append hname after
    rw [tokensOf_token hsome] at hclosed
    split at hclosed
    · rename_i hreadable
      obtain ⟨out, hout⟩ := ih hclosed
      rw [expandTokens_token _ hsome, lookupVar_emptyValues hreadable]
      exact ⟨out, by simp only [Reading.seq, Reading.after, hout]; rfl⟩
    · cases hclosed
  case leftOpen =>
    intro text hnone hclosed
    rw [tokensOf_open (tokenName_eq_none hnone)] at hclosed
    split at hclosed <;> cases hclosed

/-- A token that is left open is read together with what follows the string. -/
theorem scan_body_leftOpen {f : StringForm} {q : Nat} {body : List Char} (hbody : Body f q body)
    (hopen : tokensOf body = .leftOpen) (tail : List Char) (hbrace : '}' ∈ tail) :
    (expandTokens emptyValues body).reads.length <
      (scan emptyValues (ctxOf f) (body ++ f.quote :: tail)).reads.length := by
  revert hopen
  refine body_induction (f := f) tail
    (motive := fun body => tokensOf body = .leftOpen → (expandTokens emptyValues body).reads.length <
      (scan emptyValues (ctxOf f) (body ++ f.quote :: tail)).reads.length) ?nil ?piece ?token ?leftOpen hbody
  case nil =>
    intro hopen
    rw [tokensOf_nil] at hopen
    cases hopen
  case piece =>
    intro piece rest hcopied ih hopen
    rw [hcopied.tokensOf] at hopen
    rw [List.append_assoc, hcopied.scan, hcopied.expandTokens]
    exact ih hopen
  case token =>
    intro name after hname ih hopen
    have hsome := tokenName_append hname after
    have htail := tokenName_append hname (after ++ f.quote :: tail)
    have hscan := scan_token emptyValues f htail
    rw [tokensOf_token hsome] at hopen
    split at hopen
    · rename_i hreadable
      rw [lookupVar_emptyValues hreadable] at hscan
      have hlt := ih hopen
      rw [expandTokens_token _ hsome, lookupVar_emptyValues hreadable]
      simp only [List.cons_append, List.append_assoc, hscan]
      simp only [Reading.seq, Reading.after, List.length_append]
      omega
    · cases hopen
  case leftOpen =>
    intro text hnone hopen
    rw [tokensOf_open (tokenName_eq_none hnone)] at hopen
    split at hopen
    · rename_i hfront
      rw [expandTokens_open _ (tokenName_eq_none hnone), List.cons_append, List.cons_append,
        scan_interpolate (turnOn_token f _)]
      rcases tokenName_cases (text ++ f.quote :: tail) with ⟨hno, -⟩ | ⟨name, rest, heq, -, htoken⟩
      · exact absurd (by simp [hbrace]) hno
      · obtain ⟨more, rfl⟩ := open_name hnone heq
        have hreads := reads_lookupVar_of_prefix emptyValues (hfront.trans (List.prefix_append text (f.quote :: more)))
        simp only [htoken]
        cases (lookupVar emptyValues (text ++ f.quote :: more)).2 <;> simp [hreads, Reading.after]
    · cases hopen

theorem respects_iff (env : Env) (file : File) :
    Respects env file ↔ (scan env .code (text file.items)).Agrees (interpolated env file.items) := by
  unfold Respects
  rw [interpolateEnv_eq_scan, String.toList_ofList]
  constructor
  · rintro ⟨r, hr, hagrees⟩
    rwa [Option.some.inj hr]
  · exact fun hagrees => ⟨_, rfl, hagrees⟩

theorem Reading.seq_eq_ok {a r : Reading} (ha : ∃ out, a.result = .ok out) (hr : ∃ out, r.result = .ok out) :
    ∃ out, (a.seq r).result = .ok out := by
  obtain ⟨out, ha⟩ := ha
  obtain ⟨out', hr⟩ := hr
  exact ⟨out ++ out', by simp only [Reading.seq, ha, Reading.after, hr]; rfl⟩

theorem ok_of_sound {items : List Item} (hsound : ∀ item ∈ items, Sound item) :
    ∃ out, (interpolated emptyValues items).result = .ok out := by
  induction items with
  | nil => exact ⟨[], rfl⟩
  | cons item items ih =>
    obtain ⟨hitem, hitems⟩ := List.forall_mem_cons.mp hsound
    refine Reading.seq_eq_ok ?_ (ih hitems)
    cases item with
    | code | comment => exact ⟨_, rfl⟩
    | string s =>
      have hbody := expandTokens_emptyValues s.body_valid hitem.1
      exact Reading.seq_eq_ok ⟨_, rfl⟩ (Reading.seq_eq_ok hbody ⟨_, rfl⟩)

theorem Reading.Agrees.of_after {r r' : Reading} {reads : List String} {text : List Char}
    (h : (r.after reads text).Agrees (r'.after reads text)) : r.Agrees r' := by
  obtain ⟨rs, result⟩ := r
  obtain ⟨rs', result'⟩ := r'
  obtain ⟨hreads, hresult⟩ := h
  refine ⟨List.append_cancel_left hreads, ?_⟩
  cases result <;> cases result' <;> simp_all [Reading.after, Except.map, Except.toOption]

theorem Reading.Agrees.of_seq {a r r' : Reading} {out : List Char} (ha : a.result = .ok out)
    (h : (a.seq r).Agrees (a.seq r')) : r.Agrees r' := by
  simp only [Reading.seq, ha] at h
  exact h.of_after

/-- A comment of which the scanner finds a token, if it takes the comment for a part of a string. -/
def openComment : List Item := [.code ' ' (by decide), .comment ['$', '{'] (by decide)]

theorem scan_openComment (env : Env) (f : StringForm) :
    scan env (ctxOf (singleLine f)) (text openComment) = ⟨[], .error unterminated⟩ := by
  change scan env (ctxOf (singleLine f)) [' ', '#', '$', '{'] = _
  have hblank : turnOn (ctxOf (singleLine f)) [' ', '#', '$', '{'] = .advance 1 (ctxOf (singleLine f)) := by
    cases f <;> decide
  have hhash : turnOn (ctxOf (singleLine f)) ['#', '$', '{'] = .advance 1 (ctxOf (singleLine f)) := by
    cases f <;> decide
  rw [scan_advance env (by decide) hblank]
  change Reading.after [] [' '] (scan env _ ['#', '$', '{']) = _
  rw [scan_advance env (by decide) hhash]
  change Reading.after [] [' '] (Reading.after [] ['#'] (scan env _ ['$', '{'])) = _
  rw [scan_interpolate (turnOn_token (singleLine f) [])]
  rfl

/-- The scanner and the file at a string with sound tokens, or with a token that is left open. -/
theorem agrees_string {env : Env} {s : Str} {later : List Item} (hmeets : (Item.string s).Meets (text later))
    (h : (scan env .code (text (.string s :: later))).Agrees (interpolated env (.string s :: later))) :
    (scan env (ctxOf s.form) (s.body ++ (s.closing ++ text later))).Agrees
      ((expandTokens env s.body).seq ((interpolated env later).after [] s.closing)) := by
  rw [text_cons, interpolated, interpolatedItem, Reading.seq_assoc, Reading.seq_assoc] at h
  change (scan env .code (s.text ++ text later)).Agrees _ at h
  rw [scan_string env s hmeets] at h
  exact h.of_after

/-- After a string that slips, some text is not interpolated as it should be. -/
theorem exists_not_agrees {s : Str} (hs : Slips s) : ∃ later, (Item.string s).Meets (text later) ∧ Lexical later ∧
    Kept later ∧
      ¬ (scan emptyValues .code (text (.string s :: later))).Agrees
        (interpolated emptyValues (.string s :: later)) := by
  obtain ⟨closing, hclosing⟩ := s.closing_eq
  rcases hs with hopen | ⟨hclosed, hrun⟩
  · have hmeets : (Item.string s).Meets (text [.code '}' (by decide)]) := by
      intro c hc
      obtain rfl := Option.some.inj hc
      decide
    refine ⟨[.code '}' (by decide)], hmeets, ⟨trivial, trivial⟩, trivial, fun hagrees => ?_⟩
    -- the scanner has read a variable more
    have hreads := congrArg List.length (agrees_string hmeets hagrees).1
    have hlt := scan_body_leftOpen s.body_valid hopen (closing ++ text [.code '}' (by decide)])
      (List.mem_append_right closing List.mem_cons_self)
    rw [← List.cons_append, ← hclosing] at hlt
    have hsame : ((expandTokens emptyValues s.body).seq
        ((interpolated emptyValues [.code '}' (by decide)]).after [] s.closing)).reads =
          (expandTokens emptyValues s.body).reads := by
      unfold Reading.seq
      cases (expandTokens emptyValues s.body).result with
      | error e => rfl
      | ok out => exact List.append_nil _
    rw [hsame] at hreads
    omega
  · have hmeets : (Item.string s).Meets (text openComment) := by
      intro c hc
      obtain rfl := Option.some.inj hc
      decide
    refine ⟨openComment, hmeets, ⟨trivial, (fun c hc => nomatch hc), trivial⟩, trivial, fun hagrees => ?_⟩
    -- the scanner has refused the comment
    have hbody := scan_body emptyValues s.body_valid hclosed (closing ++ text openComment)
    rw [← List.cons_append, ← hclosing, scan_closing_four emptyValues hrun hmeets, scan_openComment] at hbody
    obtain ⟨out, hout⟩ := expandTokens_emptyValues s.body_valid hclosed
    have hstring := agrees_string hmeets hagrees
    rw [hbody] at hstring
    cases (hstring.of_seq hout).2

/-- No cut of `interpolate_env` is inside a character and it reads `KRAKEN_*` variables only. The files whose every
beginning, however it goes on, is interpolated as it should be in every environment are those that are `Kept`. -/
theorem interpolateEnv_respects_iff (env : Env) (raw : String) (file : File) :
    (∃ r, interpolateEnv env raw = some r ∧ ∀ name ∈ r.reads, interpolationEnvPrefix.isPrefixOf name.toList) ∧
      ((∀ (start rest later : List Item) (h : Lexical (start ++ later)), file.items = start ++ rest → Kept later →
        ∀ env, Respects env ⟨start ++ later, h⟩) ↔ Kept file.items) := by
  refine ⟨⟨_, interpolateEnv_eq_scan env raw, reads_scan env .code raw.toList⟩, ?_, ?_⟩
  · intro hall
    rcases sound_cases file.items with hsound | ⟨good, s, rest, hitems, hgood, hs⟩
    · have h := (kept_append_of_sound hsound []).mpr trivial
      rwa [List.append_nil] at h
    · rw [hitems, kept_append_of_sound hgood]
      rcases hs with hrefused | hslips
      · exact Or.inl hrefused
      · obtain ⟨later, hmeets, hlater, hkept, hnot⟩ := exists_not_agrees hslips
        have hlexical : Lexical (good ++ .string s :: later) :=
          Lexical.replace (hitems ▸ file.lexical) hmeets hlater
        have hsplit : good ++ .string s :: later = good ++ [.string s] ++ later := by simp
        have hrespects := hall (good ++ [.string s]) rest later (hsplit ▸ hlexical) (by rw [hitems]; simp) hkept
          emptyValues
        have hagrees := (respects_iff _ _).mp hrespects
        simp only [← hsplit] at hagrees
        rw [scan_items _ hgood _ hlexical, interpolated_append] at hagrees
        obtain ⟨out, hout⟩ := ok_of_sound hgood
        exact absurd (hagrees.of_seq hout) hnot
  · intro hkept start rest later hlexical hitems hlater env'
    rw [respects_iff]
    refine scan_agrees env' hlexical ?_
    rw [hitems] at hkept
    exact hkept.replace hlater

/-- The file `x = """a"""" # $\x7bHOME\x7d`: the string is `a"`, and the token is in a comment. -/
def fourQuotes : File where
  items :=
    [.code 'x' (by decide), .code ' ' (by decide), .code '=' (by decide), .code ' ' (by decide),
      .string ⟨.basicMulti, ['a'], 1, .plain (by decide) (by decide) (by decide) .nil, by decide⟩,
      .code ' ' (by decide), .comment " $\x7bHOME\x7d".toList (by decide), .code '\n' (by decide)]
  lexical :=
    ⟨trivial, trivial, trivial, trivial, (fun c hc => Option.some.inj hc ▸ by decide), trivial,
      (fun c hc => (Option.some.inj hc).symm), trivial, trivial⟩

theorem fourQuotes_comment_refused :
    text fourQuotes.items = "x = \"\"\"a\"\"\"\" # $\x7bHOME\x7d\n".toList ∧
      interpolated emptyValues fourQuotes.items = .ok (text fourQuotes.items) ∧
      interpolateEnv emptyValues (String.ofList (text fourQuotes.items)) = some ⟨[], .error (refused "HOME")⟩ ∧
      ¬ Respects emptyValues fourQuotes := by
  have hwritten : interpolated emptyValues fourQuotes.items = .ok (text fourQuotes.items) := by
    have hbody : expandTokens emptyValues ['a'] = .ok ['a'] := by
      rw [expandTokens_cons emptyValues (by decide), expandTokens_nil]
      rfl
    simp only [fourQuotes, interpolated, interpolatedItem, hbody]
    rfl
  have hscan : scan emptyValues .code (text fourQuotes.items) = ⟨[], .error (refused "HOME")⟩ := by
    decide +kernel
  refine ⟨by decide, hwritten, by rw [interpolateEnv_eq_scan, String.toList_ofList, hscan], ?_⟩
  rw [respects_iff, hscan, hwritten]
  rintro ⟨-, hresult⟩
  cases hresult

end KrakenSdk.Build.ConfigResolver
