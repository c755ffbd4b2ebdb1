import KrakenSdk.Lib.Utf8
import Mathlib.Tactic.SplitIfs
/-!
# Interpolation of the config file (build/config_resolver.rs)

`interpolate_env` runs over the bytes of the file, keeps the context it is in and cuts the text at the tokens it
replaces. Main results: no cut is inside a character and the loop is the same run over the characters
(`interpolateEnv_eq_scan`), and only `KRAKEN_*` variables are read (`reads_scan`).
-/
namespace KrakenSdk.Build.ConfigResolver

open Utf8

inductive ConfigError
  | invalidConfig (detail : String)
  deriving DecidableEq

/-- The process environment as `std::env::var` shows it: a name with `=` or NUL is never found. -/
structure Env where
  var : String → Option String
  absent : ∀ name : String, '=' ∈ name.toList ∨ Char.ofNat 0 ∈ name.toList → var name = none

/-- `INTERPOLATION_ENV_PREFIX` -/
def interpolationEnvPrefix : List Char := "KRAKEN_".toList

def unterminated : ConfigError :=
  .invalidConfig "config file: unterminated `$\x7b` interpolation"

def refused (name : String) : ConfigError :=
  .invalidConfig ("config file: refusing to interpolate `$\x7b" ++ name ++
    "\x7d` — only `$\x7bKRAKEN_*\x7d` env vars may be interpolated")

def unresolved (name : String) : ConfigError :=
  .invalidConfig ("config file: unresolved interpolation `$\x7b" ++ name ++ "\x7d`")

/-- The checks of `expand_interpolation` on a name, and its value; with the variables that are read. -/
def lookupVar (env : Env) (var : List Char) : List String × Except ConfigError (List Char) :=
  let name := String.ofList var
  if ¬ interpolationEnvPrefix.isPrefixOf var then ([], .error (refused name))
  else
    match env.var name with
    | none => ([name], .error (unresolved name))
    | some val => ([name], .ok val.toList)

/-- `expand_interpolation`: the value and the offset past the brace. None is a slice that panics. -/
def expandInterpolation (env : Env) (raw : List Char) (dollar : Nat) :
    Option (List String × Except ConfigError (List Char × Nat)) := do
  let start := dollar + 2
  let tail ← sliceFrom raw start
  match find '}' tail with
  | none => some ([], .error unterminated)
  | some rel =>
    let stop := start + rel
    let var ← slice raw start stop
    let (reads, val) := lookupVar env var
    some (reads, val.map fun val => (val, stop + 1))

inductive Ctx
  | code | comment | basic | literal | basicMulti | literalMulti
  deriving DecidableEq

/-- What a turn of the loop does: it goes on by so many bytes, or it stands at a token. -/
inductive Turn
  | advance (n : Nat) (ctx : Ctx)
  | interpolate
  deriving DecidableEq

/-- The body of the loop. `starts` tells whether `bytes[i..]` starts with a word, `more` whether
`i + 1 < bytes.len()`. -/
def turn (starts : List Char → Bool) (more : Bool) (ctx : Ctx) : Turn :=
  let escape := Turn.advance (if more then 2 else 1) ctx
  let orElse (other : Turn) := if starts ['$', '{'] then Turn.interpolate else other
  match ctx with
  | .comment => .advance 1 (if starts ['\n'] then .code else .comment)
  | .basic =>
    if starts ['\\'] then escape
    else if starts ['"'] then .advance 1 .code
    else orElse (.advance 1 .basic)
  | .literal =>
    if starts ['\''] then .advance 1 .code
    else orElse (.advance 1 .literal)
  | .basicMulti =>
    if starts ['\\'] then escape
    else if starts ['"', '"', '"'] then .advance 3 .code
    else orElse (.advance 1 .basicMulti)
  | .literalMulti =>
    if starts ['\'', '\'', '\''] then .advance 3 .code
    else orElse (.advance 1 .literalMulti)
  | .code =>
    orElse
      (if starts ['#'] then .advance 1 .comment
      else if starts ['"', '"', '"'] then .advance 3 .basicMulti
      else if starts ['"'] then .advance 1 .basic
      else if starts ['\'', '\'', '\''] then .advance 3 .literalMulti
      else if starts ['\''] then .advance 1 .literal
      else .advance 1 .code)

def turnAt (ctx : Ctx) (rest : List UInt8) : Turn :=
  turn (fun word => (word.map ascii).isPrefixOf rest) (1 < rest.length) ctx

/-- What an interpolation comes to, with the variables it has read. -/
structure Reading where
  reads : List String
  result : Except ConfigError (List Char)
  deriving DecidableEq

/-- The variables of `loop`. -/
structure Locals where
  i : Nat
  runStart : Nat
  ctx : Ctx
  out : List Char
  reads : List String

/-- One turn at `i`: the locals after it, or the end of the call. None is a slice that panics. -/
def iterate (env : Env) (raw : List Char) (s : Locals) : Option (Reading ⊕ Locals) :=
  match turnAt s.ctx ((bytes raw).drop s.i) with
  | .advance n ctx => some (.inr { s with i := s.i + n, ctx := ctx })
  | .interpolate => do
    let run ← slice raw s.runStart s.i
    let (reads, expansion) ← expandInterpolation env raw s.i
    match expansion with
    | .error e => some (.inl ⟨s.reads ++ reads, .error e⟩)
    | .ok (val, next) =>
      some (.inr { s with i := next, runStart := next, out := s.out ++ run ++ val, reads := s.reads ++ reads })

/-- What is seen at `i` where a turn is taken: a turn goes on by one byte, by an escape or by a delimiter of three
quotes, and it stands at a token only where one starts. -/
def Turn.Fits (starts : List Char → Bool) (more : Bool) : Turn → Prop
  | .advance n _ =>
    n = 1 ∨ (n = 2 ∧ starts ['\\'] = true ∧ more = true) ∨
      (n = 3 ∧ (starts ['"', '"', '"'] = true ∨ starts ['\'', '\'', '\''] = true))
  | .interpolate => starts ['$', '{'] = true

theorem Turn.Fits.ite {starts : List Char → Bool} {more : Bool} {c : Prop} [Decidable c] {a b : Turn}
    (ha : c → a.Fits starts more) (hb : ¬ c → b.Fits starts more) : (if c then a else b).Fits starts more := by
  by_cases hc : c
  · rw [if_pos hc]
    exact ha hc
  · rw [if_neg hc]
    exact hb hc

theorem fits_turn (starts : List Char → Bool) (more : Bool) (ctx : Ctx) :
    (turn starts more ctx).Fits starts more := by
  have one : ∀ ctx', (Turn.advance 1 ctx').Fits starts more := fun _ => Or.inl rfl
  have orOne : (if starts ['$', '{'] then Turn.interpolate else .advance 1 ctx).Fits starts more :=
    .ite id fun _ => one _
  have escape : starts ['\\'] = true → (Turn.advance (if more then 2 else 1) ctx).Fits starts more := by
    intro hescape
    cases more with
    | false => exact Or.inl rfl
    | true => exact Or.inr (Or.inl ⟨rfl, hescape, rfl⟩)
  have double : ∀ ctx', starts ['"', '"', '"'] = true → (Turn.advance 3 ctx').Fits starts more :=
    fun _ h => Or.inr (Or.inr ⟨rfl, Or.inl h⟩)
  have single : ∀ ctx', starts ['\'', '\'', '\''] = true → (Turn.advance 3 ctx').Fits starts more :=
    fun _ h => Or.inr (Or.inr ⟨rfl, Or.inr h⟩)
  cases ctx with
  | comment => exact one _
  | basic => exact .ite escape fun _ => .ite (fun _ => one _) fun _ => orOne
  | literal => exact .ite (fun _ => one _) fun _ => orOne
  | basicMulti => exact .ite escape fun _ => .ite (double _) fun _ => orOne
  | literalMulti => exact .ite (single _) fun _ => orOne
  | code =>
    exact .ite id fun _ => .ite (fun _ => one _) fun _ => .ite (double _) fun _ => .ite (fun _ => one _) fun _ =>
      .ite (single _) fun _ => .ite (fun _ => one _) fun _ => one _

theorem turn_advance_pos {starts : List Char → Bool} {more : Bool} {ctx ctx' : Ctx} {n : Nat}
    (h : turn starts more ctx = .advance n ctx') : 0 < n := by
  have hfits := fits_turn starts more ctx
  rw [h] at hfits
  rcases hfits with rfl | ⟨rfl, -⟩ | ⟨rfl, -⟩ <;> decide

theorem expandInterpolation_advances {env : Env} {raw : List Char} {dollar next : Nat} {reads : List String}
    {val : List Char} (h : expandInterpolation env raw dollar = some (reads, .ok (val, next))) : dollar < next := by
  simp only [expandInterpolation, Option.bind_eq_bind] at h
  obtain ⟨tail, -, h⟩ := Option.bind_eq_some_iff.mp h
  split at h
  · cases h
  · obtain ⟨var, -, h⟩ := Option.bind_eq_some_iff.mp h
    cases hlookup : (lookupVar env var).2 with
    | error e =>
      rw [hlookup] at h
      cases h
    | ok v =>
      rw [hlookup] at h
      simp only [Except.map, Option.some.injEq, Prod.mk.injEq, Except.ok.injEq] at h
      omega

theorem iterate_advances {env : Env} {raw : List Char} {s s' : Locals} (h : iterate env raw s = some (.inr s')) :
    s.i < s'.i := by
  unfold iterate at h
  split at h
  · rename_i n ctx hturn
    have hpos := turn_advance_pos hturn
    simp only [Option.some.injEq, Sum.inr.injEq] at h
    rw [← h]
    exact Nat.lt_add_of_pos_right hpos
  · simp only [Option.bind_eq_bind] at h
    obtain ⟨run, -, h⟩ := Option.bind_eq_some_iff.mp h
    obtain ⟨⟨reads, expansion⟩, hexpand, h⟩ := Option.bind_eq_some_iff.mp h
    cases expansion with
    | error e => cases h
    | ok found =>
      simp only [Option.some.injEq, Sum.inr.injEq] at h
      rw [← h]
      exact expandInterpolation_advances hexpand

/-- The loop of `interpolate_env`, and its last lines. -/
def loop (env : Env) (raw : List Char) (s : Locals) : Option Reading :=
  if s.i < (bytes raw).length then
    match _h : iterate env raw s with
    | none => none
    | some (.inl reading) => some reading
    | some (.inr s') => loop env raw s'
  else do
    let tail ← sliceFrom raw s.runStart
    some ⟨s.reads, .ok (s.out ++ tail)⟩
  termination_by (bytes raw).length - s.i
  decreasing_by
    have := iterate_advances _h
    omega

/-- `interpolate_env` -/
def interpolateEnv (env : Env) (raw : String) : Option Reading :=
  loop env raw.toList { i := 0, runStart := 0, ctx := .code, out := [], reads := [] }

/-! ## The same run over characters -/

/-- What comes before the rest of an interpolation. -/
def Reading.after (reads : List String) (text : List Char) (r : Reading) : Reading :=
  ⟨reads ++ r.reads, r.result.map (text ++ ·)⟩

@[simp] theorem Reading.after_nil (r : Reading) : r.after [] [] = r := by
  obtain ⟨reads, result⟩ := r
  cases result <;> rfl

theorem Reading.after_after (r : Reading) (reads reads' : List String) (text text' : List Char) :
    (r.after reads text).after reads' text' = r.after (reads' ++ reads) (text' ++ text) := by
  obtain ⟨rs, result⟩ := r
  cases result <;> simp [Reading.after, Except.map]

/-- The name of the token whose brace is open at the head of a text, and the text past the token. -/
def tokenName (text : List Char) : Option (List Char × List Char) :=
  if '}' ∈ text then some (text.takeWhile (· != '}'), (text.dropWhile (· != '}')).tail) else none

theorem tokenName_append {name : List Char} (h : '}' ∉ name) (rest : List Char) :
    tokenName (name ++ '}' :: rest) = some (name, rest) := by
  have hall : ∀ c ∈ name, (c != '}') = true := by
    intro c hc
    exact bne_iff_ne.mpr fun heq => h (heq ▸ hc)
  rw [tokenName, if_pos (by simp), List.takeWhile_append_of_pos hall, List.dropWhile_append_of_pos hall]
  simp

theorem tokenName_eq_none {text : List Char} (h : '}' ∉ text) : tokenName text = none := if_neg h

theorem tokenName_cases (text : List Char) :
    ('}' ∉ text ∧ tokenName text = none) ∨
      ∃ name rest, text = name ++ '}' :: rest ∧ '}' ∉ name ∧ tokenName text = some (name, rest) := by
  by_cases h : '}' ∈ text
  · obtain ⟨name, rest, rfl, hname⟩ := List.eq_append_cons_of_mem h
    exact Or.inr ⟨name, rest, rfl, hname, tokenName_append hname rest⟩
  · exact Or.inl ⟨h, tokenName_eq_none h⟩

def turnOn (ctx : Ctx) (text : List Char) : Turn :=
  turn (fun word => word.isPrefixOf text) (1 < text.length) ctx

theorem length_tokenName {text name rest : List Char} (h : tokenName text = some (name, rest)) :
    rest.length < text.length := by
  rcases tokenName_cases text with ⟨-, hnone⟩ | ⟨name', rest', rfl, -, hsome⟩
  · rw [hnone] at h
    cases h
  · obtain ⟨rfl, rfl⟩ := Prod.mk.inj (Option.some.inj (hsome.symm.trans h))
    rw [List.length_append, List.length_cons]
    omega

/-- The loop over characters. -/
def scan (env : Env) (ctx : Ctx) (text : List Char) : Reading :=
  if _hend : text = [] then ⟨[], .ok []⟩
  else
    match _h : turnOn ctx text with
    | .advance n ctx' => (scan env ctx' (text.drop n)).after [] (text.take n)
    | .interpolate =>
      match _hname : tokenName (text.drop 2) with
      | none => ⟨[], .error unterminated⟩
      | some (name, rest) =>
        match (lookupVar env name).2 with
        | .error e => ⟨(lookupVar env name).1, .error e⟩
        | .ok val => (scan env ctx rest).after (lookupVar env name).1 val
  termination_by text.length
  decreasing_by
    · have hpos := turn_advance_pos _h
      have := List.length_pos_iff.mpr _hend
      rw [List.length_drop]
      omega
    · have := length_tokenName _hname
      rw [List.length_drop] at this
      omega

/-! ## Turns over bytes and over characters -/

def IsWord (word : List Char) : Prop := ∀ c ∈ word, IsAscii c

instance (word : List Char) : Decidable (IsWord word) := List.decidableBAll IsAscii word

theorem turn_congr {starts starts' : List Char → Bool} {more more' : Bool} (ctx : Ctx)
    (hstarts : ∀ word, IsWord word → starts word = starts' word) (hmore : starts ['\\'] = true → more = more') :
    turn starts more ctx = turn starts' more' ctx := by
  have hhash := hstarts ['#'] (by decide)
  have hnewline := hstarts ['\n'] (by decide)
  have hescape := hstarts ['\\'] (by decide)
  have htoken := hstarts ['$', '{'] (by decide)
  have hdouble := hstarts ['"'] (by decide)
  have htriple := hstarts ['"', '"', '"'] (by decide)
  have hsingle := hstarts ['\''] (by decide)
  have htriple' := hstarts ['\'', '\'', '\''] (by decide)
  cases ctx with
  | comment => simp only [turn, hnewline]
  | code => simp only [turn, hhash, htoken, hdouble, htriple, hsingle, htriple']
  | literal => simp only [turn, htoken, hsingle]
  | literalMulti => simp only [turn, htoken, htriple']
  | basic =>
    by_cases hslash : starts ['\\'] = true
    · simp only [turn, ← hescape, hslash, if_true, hmore hslash]
    · simp only [turn, ← hescape, hslash, Bool.false_eq_true, if_false, htoken, hdouble]
  | basicMulti =>
    by_cases hslash : starts ['\\'] = true
    · simp only [turn, ← hescape, hslash, if_true, hmore hslash]
    · simp only [turn, ← hescape, hslash, Bool.false_eq_true, if_false, htoken, htriple]

theorem turnAt_bytes (ctx : Ctx) (text : List Char) : turnAt ctx (bytes text) = turnOn ctx text := by
  refine turn_congr ctx (fun word hword => isPrefixOf_bytes hword text) fun hslash => ?_
  rw [isPrefixOf_bytes (show IsWord ['\\'] by decide)] at hslash
  cases text with
  | nil => rfl
  | cons c rest =>
    -- the escape is one byte, so a byte follows it where a character does
    have hc : '\\' = c := by simpa [List.isPrefixOf] using hslash
    subst hc
    rw [bytes_cons_of_isAscii (by decide), List.length_cons, List.length_cons, length_bytes]
    cases rest with
    | nil => rfl
    | cons d rest =>
      have := d.utf8Size_pos
      have hbytes : 1 < len (d :: rest) + 1 := by
        rw [len_cons]
        omega
      rw [decide_eq_true hbytes, decide_eq_true (by rw [List.length_cons]; omega)]

/-- A byte of a character that is not ASCII is passed over in every context. -/
theorem turnAt_high (ctx : Ctx) {b : UInt8} (rest : List UInt8) (hb : 128 ≤ b.toNat) :
    turnAt ctx (b :: rest) = .advance 1 ctx := by
  have hfalse : ∀ (c : Char) (word : List Char), IsAscii c →
      ((c :: word).map ascii).isPrefixOf (b :: rest) = false := by
    intro c word hc
    have hne : (ascii c == b) = false := beq_eq_false_iff_ne.mpr (ne_ascii_of_high hb hc).symm
    rw [List.map_cons, List.isPrefixOf, hne, Bool.false_and]
  have hhash := hfalse '#' [] (by decide)
  have hnewline := hfalse '\n' [] (by decide)
  have hescape := hfalse '\\' [] (by decide)
  have htoken := hfalse '$' ['{'] (by decide)
  have hdouble := hfalse '"' [] (by decide)
  have htriple := hfalse '"' ['"', '"'] (by decide)
  have hsingle := hfalse '\'' [] (by decide)
  have htriple' := hfalse '\'' ['\'', '\''] (by decide)
  cases ctx <;> simp only [turnAt, turn, hhash, hnewline, hescape, htoken, hdouble, htriple, hsingle, htriple'] <;> rfl

/-- The characters that a turn goes on by: all but the last of them are ASCII. -/
theorem exists_of_turnOn {ctx ctx' : Ctx} {text : List Char} {n : Nat} (hne : text ≠ [])
    (h : turnOn ctx text = .advance n ctx') :
    ∃ lead last rest, text = lead ++ last :: rest ∧ IsWord lead ∧ n = lead.length + 1 := by
  have hfits := fits_turn (fun word => word.isPrefixOf text) (1 < text.length) ctx
  rw [← turnOn, h] at hfits
  obtain ⟨c, rest, rfl⟩ := List.exists_cons_of_ne_nil hne
  rcases hfits with rfl | ⟨rfl, hslash, hmore⟩ | ⟨rfl, hquotes⟩
  · exact ⟨[], c, rest, rfl, fun _ h => absurd h List.not_mem_nil, rfl⟩
  · have hc : '\\' = c := by simpa [List.isPrefixOf] using hslash
    subst hc
    obtain ⟨d, rest, rfl⟩ := List.exists_cons_of_length_pos
      (show 0 < rest.length by have := of_decide_eq_true hmore; rw [List.length_cons] at this; omega)
    exact ⟨['\\'], d, rest, rfl, by decide, rfl⟩
  · rcases hquotes with hquotes | hquotes <;>
    obtain ⟨rest, heq⟩ := List.isPrefixOf_iff_prefix.mp hquotes <;>
    rw [← heq]
    · exact ⟨['"', '"'], '"', rest, rfl, by decide, rfl⟩
    · exact ⟨['\'', '\''], '\'', rest, rfl, by decide, rfl⟩

theorem exists_of_turnOn_interpolate {ctx : Ctx} {text : List Char} (h : turnOn ctx text = .interpolate) :
    ∃ rest, text = '$' :: '{' :: rest := by
  have hfits := fits_turn (fun word => word.isPrefixOf text) (1 < text.length) ctx
  rw [← turnOn, h] at hfits
  obtain ⟨rest, heq⟩ := List.isPrefixOf_iff_prefix.mp hfits
  exact ⟨rest, heq.symm⟩

/-! ## The loop -/

theorem loop_end {env : Env} {raw : List Char} {s : Locals} (h : (bytes raw).length ≤ s.i) :
    loop env raw s = (sliceFrom raw s.runStart).map fun tail => ⟨s.reads, .ok (s.out ++ tail)⟩ := by
  rw [loop, if_neg (by omega)]
  cases sliceFrom raw s.runStart <;> rfl

theorem loop_advance {env : Env} {raw : List Char} {s : Locals} {n : Nat} {ctx : Ctx} (hlt : s.i < (bytes raw).length)
    (h : turnAt s.ctx ((bytes raw).drop s.i) = .advance n ctx) :
    loop env raw s = loop env raw { s with i := s.i + n, ctx := ctx } := by
  have hiterate : iterate env raw s = some (.inr { s with i := s.i + n, ctx := ctx }) := by
    simp only [iterate, h]
  rw [loop, if_pos hlt]
  split
  · rename_i heq
    rw [hiterate] at heq
    cases heq
  · rename_i heq
    rw [hiterate] at heq
    cases heq
  · rename_i heq
    rw [hiterate] at heq
    rw [← Sum.inr.inj (Option.some.inj heq)]

theorem loop_refused {env : Env} {raw : List Char} {s : Locals} {run : List Char} {reads : List String}
    {e : ConfigError} (hlt : s.i < (bytes raw).length) (h : turnAt s.ctx ((bytes raw).drop s.i) = .interpolate)
    (hrun : slice raw s.runStart s.i = some run) (hexpand : expandInterpolation env raw s.i = some (reads, .error e)) :
    loop env raw s = some ⟨s.reads ++ reads, .error e⟩ := by
  have hiterate : iterate env raw s = some (.inl ⟨s.reads ++ reads, .error e⟩) := by
    simp only [iterate, h, hrun, hexpand, Option.bind_eq_bind, Option.bind_some]
  rw [loop, if_pos hlt]
  split <;> rename_i heq <;> rw [hiterate] at heq
  · cases heq
  · rw [← Sum.inl.inj (Option.some.inj heq)]
  · cases heq

theorem loop_expanded {env : Env} {raw : List Char} {s : Locals} {run val : List Char} {reads : List String}
    {next : Nat} (hlt : s.i < (bytes raw).length) (h : turnAt s.ctx ((bytes raw).drop s.i) = .interpolate)
    (hrun : slice raw s.runStart s.i = some run)
    (hexpand : expandInterpolation env raw s.i = some (reads, .ok (val, next))) :
    loop env raw s =
      loop env raw { s with i := next, runStart := next, out := s.out ++ run ++ val, reads := s.reads ++ reads } := by
  have hiterate : iterate env raw s =
      some (.inr { s with i := next, runStart := next, out := s.out ++ run ++ val, reads := s.reads ++ reads }) := by
    simp only [iterate, h, hrun, hexpand, Option.bind_eq_bind, Option.bind_some]
  rw [loop, if_pos hlt]
  split <;> rename_i heq <;> rw [hiterate] at heq
  · cases heq
  · cases heq
  · rw [← Sum.inr.inj (Option.some.inj heq)]

/-- Inside a character the loop goes on to its end. -/
theorem loop_skip (env : Env) (s : Locals) (done : List Char) (c : Char) (rest : List Char) {j : Nat} (hpos : 0 < j)
    (hle : j ≤ c.utf8Size) (hi : s.i = len done + j) :
    loop env (done ++ c :: rest) s = loop env (done ++ c :: rest) { s with i := len done + c.utf8Size } := by
  by_cases hc : IsAscii c
  · have hj : j = c.utf8Size := by
      have := utf8Size_of_isAscii hc
      omega
    rw [← hj, ← hi]
  · induction hk : c.utf8Size - j generalizing j s with
    | zero =>
      have hj : j = c.utf8Size := by omega
      rw [← hj, ← hi]
    | succ k ih =>
      have hlength : s.i < (bytes (done ++ c :: rest)).length := by
        rw [length_bytes, len_append, len_cons, hi]
        omega
      have hj : j < (String.utf8EncodeChar c).length := by
        rw [String.length_utf8EncodeChar]
        omega
      have hdrop : (bytes (done ++ c :: rest)).drop s.i =
          (String.utf8EncodeChar c)[j] :: ((String.utf8EncodeChar c).drop (j + 1) ++ bytes rest) := by
        rw [hi, ← List.drop_drop, drop_bytes, bytes_cons, List.drop_append_of_le_length (Nat.le_of_lt hj),
          List.drop_eq_getElem_cons hj, List.cons_append]
      have hturn : turnAt s.ctx ((bytes (done ++ c :: rest)).drop s.i) = .advance 1 s.ctx := by
        rw [hdrop]
        exact turnAt_high s.ctx _ (high_of_mem_utf8EncodeChar hc _ (List.getElem_mem hj))
      rw [loop_advance hlength hturn]
      exact ih (j := j + 1) _ (by omega) (by omega) (by simp only [hi]; omega) (by omega)

/-- The expansion at a token whose `$` is at the end of `done`. -/
theorem expandInterpolation_eq (env : Env) (done text : List Char) :
    expandInterpolation env (done ++ '$' :: '{' :: text) (len done) =
      match tokenName text with
      | none => some ([], .error unterminated)
      | some (name, _) =>
        some ((lookupVar env name).1,
          (lookupVar env name).2.map fun val => (val, len (done ++ '$' :: '{' :: (name ++ ['}'])))) := by
  have hstart : len done + 2 = len (done ++ ['$', '{']) := by
    rw [len_append, len_cons, len_cons, len_nil]
    rfl
  have hraw : done ++ '$' :: '{' :: text = (done ++ ['$', '{']) ++ text := by simp
  simp only [expandInterpolation, hstart, hraw, sliceFrom_append, Option.bind_eq_bind, Option.bind_some]
  rcases tokenName_cases text with ⟨hnone, htoken⟩ | ⟨name, rest, rfl, hname, htoken⟩
  · rw [find_eq_none hnone, htoken]
  · rw [find_append hname, htoken]
    simp only [slice_append, Option.bind_some]
    have hstop : len (done ++ ['$', '{']) + len name + 1 = len (done ++ '$' :: '{' :: (name ++ ['}'])) := by
      simp only [len_append, len_cons, len_nil]
      have : ('}' : Char).utf8Size = 1 := rfl
      omega
    rw [hstop]

theorem scan_nil (env : Env) (ctx : Ctx) : scan env ctx [] = ⟨[], .ok []⟩ := by
  rw [scan, dif_pos rfl]

theorem scan_advance (env : Env) {ctx ctx' : Ctx} {text : List Char} {n : Nat} (hne : text ≠ [])
    (h : turnOn ctx text = .advance n ctx') :
    scan env ctx text = (scan env ctx' (text.drop n)).after [] (text.take n) := by
  rw [scan, dif_neg hne]
  split <;> rename_i heq <;> rw [h] at heq
  · obtain ⟨rfl, rfl⟩ := Turn.advance.inj heq
    rfl
  · cases heq

theorem scan_interpolate {env : Env} {ctx : Ctx} {text : List Char}
    (h : turnOn ctx ('$' :: '{' :: text) = .interpolate) :
    scan env ctx ('$' :: '{' :: text) =
      match tokenName text with
      | none => ⟨[], .error unterminated⟩
      | some (name, rest) =>
        match (lookupVar env name).2 with
        | .error e => ⟨(lookupVar env name).1, .error e⟩
        | .ok val => (scan env ctx rest).after (lookupVar env name).1 val := by
  rw [scan, dif_neg (List.cons_ne_nil _ _)]
  split <;> rename_i heq <;> rw [h] at heq
  · cases heq
  · have htail : ('$' :: '{' :: text).drop 2 = text := rfl
    split <;> rename_i hname <;> rw [htail] at hname <;> rw [hname]

/-- **The loop over bytes is the loop over characters**: `done` is written, `run` is waiting from `run_start` on. -/
theorem loop_eq_scan (env : Env) (done run text : List Char) (ctx : Ctx) (out : List Char) (reads : List String) :
    loop env (done ++ (run ++ text))
        { i := len (done ++ run), runStart := len done, ctx := ctx, out := out, reads := reads } =
      some ((scan env ctx text).after reads (out ++ run)) := by
  induction hlength : text.length using Nat.strongRecOn generalizing done run text ctx out reads with
  | ind n ih =>
  subst hlength
  have hdrop : (bytes (done ++ (run ++ text))).drop (len (done ++ run)) = bytes text := by
    rw [← List.append_assoc]
    exact drop_bytes (done ++ run) text
  by_cases hend : text = []
  · subst hend
    rw [loop_end (by simp), scan_nil, sliceFrom_append]
    simp [Reading.after, Except.map]
  · have hlt : len (done ++ run) < (bytes (done ++ (run ++ text))).length := by
      obtain ⟨c, rest, rfl⟩ := List.exists_cons_of_ne_nil hend
      have := c.utf8Size_pos
      simp only [length_bytes, len_append, len_cons]
      omega
    have hturn : turnAt ctx ((bytes (done ++ (run ++ text))).drop (len (done ++ run))) = turnOn ctx text := by
      rw [hdrop, turnAt_bytes]
    cases hon : turnOn ctx text with
    | advance n ctx' =>
      rw [loop_advance hlt (hturn.trans hon), scan_advance env hend hon, Reading.after_after, List.append_nil]
      obtain ⟨lead, last, rest, rfl, hlead, rfl⟩ := exists_of_turnOn hend hon
      have hsplit : lead ++ last :: rest = (lead ++ [last]) ++ rest := by simp
      have htake : (lead ++ last :: rest).take (lead.length + 1) = lead ++ [last] := by
        rw [hsplit, List.take_left' (by simp)]
      have hrest : (lead ++ last :: rest).drop (lead.length + 1) = rest := by
        rw [hsplit, List.drop_left' (by simp)]
      have hlen : len lead = lead.length := len_of_isAscii hlead
      have hraw : done ++ (run ++ (lead ++ last :: rest)) = (done ++ run ++ lead) ++ last :: rest := by simp
      have hskip := loop_skip env
        { i := len (done ++ run) + (lead.length + 1), runStart := len done, ctx := ctx', out := out, reads := reads }
        (done ++ run ++ lead) last rest (j := 1) (by decide) last.utf8Size_pos
        (by simp only [len_append]; omega)
      have hlt : rest.length < (lead ++ last :: rest).length := by
        rw [List.length_append, List.length_cons]
        omega
      have hnext := ih rest.length hlt done (run ++ (lead ++ [last])) rest ctx' out reads rfl
      rw [htake, hrest, hraw, hskip]
      simp only [List.append_assoc, List.cons_append, List.nil_append, len_append, len_cons, len_nil,
        Nat.add_assoc, Nat.add_zero] at hnext ⊢
      exact hnext
    | interpolate =>
      obtain ⟨rest, rfl⟩ := exists_of_turnOn_interpolate hon
      have hraw : done ++ (run ++ '$' :: '{' :: rest) = (done ++ run) ++ '$' :: '{' :: rest := by simp
      have hrun : slice (done ++ (run ++ '$' :: '{' :: rest)) (len done) (len (done ++ run)) = some run := by
        rw [len_append, slice_append]
      have hexpand := expandInterpolation_eq env (done ++ run) rest
      rw [← hraw] at hexpand
      rw [scan_interpolate hon]
      rcases tokenName_cases rest with ⟨-, htoken⟩ | ⟨name, after, rfl, -, htoken⟩
      · rw [htoken] at hexpand ⊢
        rw [loop_refused hlt (hturn.trans hon) hrun hexpand]
        rfl
      · simp only [htoken] at hexpand ⊢
        cases hval : (lookupVar env name).2 with
        | error e =>
          rw [hval] at hexpand
          exact loop_refused hlt (hturn.trans hon) hrun hexpand
        | ok val =>
          rw [hval] at hexpand
          rw [loop_expanded hlt (hturn.trans hon) hrun hexpand]
          have hlt : after.length < ('$' :: '{' :: (name ++ '}' :: after)).length := by
            simp only [List.length_cons, List.length_append]
            omega
          have hnext := ih after.length hlt (done ++ run ++ '$' :: '{' :: (name ++ ['}'])) [] after ctx
            (out ++ run ++ val) (reads ++ (lookupVar env name).1) rfl
          rw [Reading.after_after]
          simp only [List.append_assoc, List.cons_append, List.nil_append, List.append_nil] at hnext ⊢
          exact hnext

/-- **No cut is inside a character**, and the call is the loop over characters. -/
theorem interpolateEnv_eq_scan (env : Env) (raw : String) :
    interpolateEnv env raw = some (scan env .code raw.toList) := by
  have h := loop_eq_scan env [] [] raw.toList .code [] []
  simpa [interpolateEnv] using h

theorem reads_lookupVar (env : Env) (var : List Char) :
    ∀ name ∈ (lookupVar env var).1, interpolationEnvPrefix.isPrefixOf name.toList := by
  unfold lookupVar
  by_cases hfront : interpolationEnvPrefix.isPrefixOf var = true
  · have hname : interpolationEnvPrefix.isPrefixOf (String.ofList var).toList = true := by
      rwa [String.toList_ofList]
    simp only [hfront, not_true, if_false]
    cases env.var (String.ofList var) <;> exact fun name h => List.mem_singleton.mp h ▸ hname
  · rw [if_pos hfront]
    exact fun name h => absurd h List.not_mem_nil

/-- **Only `KRAKEN_*` variables are read.** -/
theorem reads_scan (env : Env) (ctx : Ctx) (text : List Char) :
    ∀ name ∈ (scan env ctx text).reads, interpolationEnvPrefix.isPrefixOf name.toList := by
  fun_induction scan env ctx text with
  | case1 => exact fun name h => absurd h List.not_mem_nil
  | case2 ctx text hne n ctx' hturn ih => exact ih
  | case3 => exact fun name h => absurd h List.not_mem_nil
  | case4 ctx text hne hturn name rest hname e hval => exact reads_lookupVar env name
  | case5 ctx text hne hturn name rest hname val hval ih =>
    intro read hread
    rcases List.mem_append.mp hread with hread | hread
    · exact reads_lookupVar env name read hread
    · exact ih read hread

end KrakenSdk.Build.ConfigResolver
