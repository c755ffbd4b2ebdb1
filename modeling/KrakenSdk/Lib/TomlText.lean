import Mathlib.Data.List.Basic
/-!
# The lexical structure of TOML

A TOML text is a sequence of characters outside strings and comments, of comments and of strings in four forms. The
delimiters of a string in a multi-line form are three quotes, and up to two quotes of its own may stand before the
closing ones: then the closing run has four or five quotes.
-/
namespace TomlText

inductive StringForm
  | basic | literal | basicMulti | literalMulti
  deriving DecidableEq

namespace StringForm

def quote : StringForm → Char
  | basic | basicMulti => '"'
  | literal | literalMulti => '\''

def multi : StringForm → Bool
  | basic | literal => false
  | basicMulti | literalMulti => true

def escapes : StringForm → Bool
  | basic | basicMulti => true
  | literal | literalMulti => false

def delimiter (f : StringForm) : List Char := List.replicate (if f.multi then 3 else 1) f.quote

/-- The number of quotes that may stand together inside a string. -/
def maxRun (f : StringForm) : Nat := if f.multi then 2 else 0

/-- What may stand after a backslash; in the multi-line form also the end of a line. -/
def escapable (f : StringForm) (c : Char) : Bool :=
  c ∈ ['b', 't', 'n', 'f', 'r', 'e', '"', '\\', 'u', 'U', 'x'] || (f.multi && c ∈ [' ', '\t', '\n', '\r'])

end StringForm

/-- A text that may stand in a string after `q` quotes, up to a place with none. -/
inductive Body (f : StringForm) : Nat → List Char → Prop
  | nil : Body f 0 []
  | escape {q : Nat} {c : Char} {rest : List Char} (hf : f.escapes = true) (hc : f.escapable c = true)
      (h : Body f 0 rest) : Body f q ('\\' :: c :: rest)
  | quote {q : Nat} {rest : List Char} (hq : q < f.maxRun) (h : Body f (q + 1) rest) : Body f q (f.quote :: rest)
  | plain {q : Nat} {c : Char} {rest : List Char} (hquote : c ≠ f.quote) (hslash : f.escapes = true → c ≠ '\\')
      (hline : c = '\n' → f.multi = true) (h : Body f 0 rest) : Body f q (c :: rest)

/-- A string: its body, and the quotes of its own that stand before the closing delimiter. -/
structure Str where
  form : StringForm
  body : List Char
  run : Nat
  body_valid : Body form 0 body
  run_le : run ≤ form.maxRun

/-- The quotes at the end of a string. -/
def Str.closing (s : Str) : List Char := List.replicate s.run s.form.quote ++ s.form.delimiter

def Str.text (s : Str) : List Char := s.form.delimiter ++ (s.body ++ s.closing)

def IsCode (c : Char) : Prop := c ∉ ['#', '"', '\'', '$']

instance (c : Char) : Decidable (IsCode c) := inferInstanceAs (Decidable (c ∉ ['#', '"', '\'', '$']))

inductive Item
  | code (c : Char) (h : IsCode c)
  | comment (text : List Char) (h : '\n' ∉ text)
  | string (s : Str)

namespace Item

def text : Item → List Char
  | code c _ => [c]
  | comment text _ => '#' :: text
  | string s => s.text

/-- What may stand after an item: a comment lasts to the end of its line, and a string is not followed by a quote. -/
def Meets : Item → List Char → Prop
  | code _ _, _ => True
  | comment _ _, rest => ∀ c ∈ rest.head?, c = '\n'
  | string _, rest => ∀ c ∈ rest.head?, c ≠ '"' ∧ c ≠ '\''

end Item

def text (items : List Item) : List Char := items.flatMap Item.text

/-- Every item is met by the text after it. -/
def Lexical : List Item → Prop
  | [] => True
  | item :: rest => item.Meets (text rest) ∧ Lexical rest

/-- A TOML file, as its items. -/
structure File where
  items : List Item
  lexical : Lexical items

@[simp] theorem text_cons (item : Item) (rest : List Item) : text (item :: rest) = item.text ++ text rest := rfl

@[simp] theorem text_append (xs ys : List Item) : text (xs ++ ys) = text xs ++ text ys := List.flatMap_append

theorem StringForm.delimiter_ne_nil (f : StringForm) : f.delimiter ≠ [] := by
  cases f <;> decide

theorem Str.closing_eq (s : Str) : ∃ rest, s.closing = s.form.quote :: rest := by
  obtain ⟨f, body, run, hbody, hrun⟩ := s
  cases run with
  | zero => cases f <;> exact ⟨_, rfl⟩
  | succ n => exact ⟨List.replicate n f.quote ++ f.delimiter, rfl⟩

theorem Item.text_ne_nil (item : Item) : item.text ≠ [] := by
  cases item with
  | code | comment => exact List.cons_ne_nil _ _
  | string s => exact List.append_ne_nil_of_left_ne_nil s.form.delimiter_ne_nil _

theorem head_text_append (items : List Item) (item : Item) (rest rest' : List Item) :
    (text (items ++ item :: rest)).head? = (text (items ++ item :: rest')).head? := by
  cases items with
  | nil =>
    rw [List.nil_append, List.nil_append, text_cons, text_cons, List.head?_append_of_ne_nil _ item.text_ne_nil,
      List.head?_append_of_ne_nil _ item.text_ne_nil]
  | cons first items =>
    rw [List.cons_append, List.cons_append, text_cons, text_cons, List.head?_append_of_ne_nil _ first.text_ne_nil,
      List.head?_append_of_ne_nil _ first.text_ne_nil]

theorem Item.Meets.congr {item : Item} {rest rest' : List Char} (h : item.Meets rest)
    (hhead : rest.head? = rest'.head?) : item.Meets rest' := by
  cases item with
  | code => exact trivial
  | comment | string => exact fun c hc => h c (hhead ▸ hc)

theorem Lexical.right {items rest : List Item} (h : Lexical (items ++ rest)) : Lexical rest := by
  induction items with
  | nil => exact h
  | cons item items ih => exact ih h.2

/-- A text may go on otherwise after one of its items. -/
theorem Lexical.replace {items : List Item} {item : Item} {rest later : List Item}
    (h : Lexical (items ++ item :: rest)) (hmeets : item.Meets (text later)) (hlater : Lexical later) :
    Lexical (items ++ item :: later) := by
  induction items with
  | nil => exact ⟨hmeets, hlater⟩
  | cons first items ih =>
    rw [List.cons_append] at h
    exact ⟨h.1.congr (head_text_append items item rest later), ih h.2⟩

/-! ## Bodies -/

variable {f : StringForm} {q : Nat} {text rest : List Char}

theorem Body.cons_cases {c : Char} (h : Body f q (c :: rest)) :
    (c = '\\' ∧ f.escapes = true ∧ ∃ d after, rest = d :: after ∧ f.escapable d = true ∧ Body f 0 after) ∨
      (c = f.quote ∧ q < f.maxRun ∧ Body f (q + 1) rest) ∨
      (c ≠ f.quote ∧ (f.escapes = true → c ≠ '\\') ∧ Body f 0 rest) := by
  generalize hcs : c :: rest = cs at h
  cases h with
  | nil => cases hcs
  | escape hf hc h =>
    obtain ⟨rfl, rfl⟩ := List.cons.inj hcs
    exact Or.inl ⟨rfl, hf, _, _, rfl, hc, h⟩
  | quote hq h =>
    obtain ⟨rfl, rfl⟩ := List.cons.inj hcs
    exact Or.inr (Or.inl ⟨rfl, hq, h⟩)
  | plain hquote hslash hline h =>
    obtain ⟨rfl, rfl⟩ := List.cons.inj hcs
    exact Or.inr (Or.inr ⟨hquote, hslash, h⟩)

theorem Body.ne_nil_of_pos (h : Body f (q + 1) text) : text ≠ [] := by
  generalize hp : q + 1 = p at h
  cases h <;> first | exact List.cons_ne_nil _ _ | cases hp

theorem StringForm.slash_ne_quote (f : StringForm) : '\\' ≠ f.quote := by
  cases f <;> decide

theorem StringForm.maxRun_le (f : StringForm) : f.maxRun ≤ 2 := by
  cases f <;> decide

theorem Body.of_quote (h : Body f q (f.quote :: rest)) : q < f.maxRun ∧ Body f (q + 1) rest := by
  rcases h.cons_cases with ⟨hslash, -⟩ | ⟨-, hq, h⟩ | ⟨hne, -⟩
  · exact absurd hslash.symm f.slash_ne_quote
  · exact ⟨hq, h⟩
  · exact absurd rfl hne

/-- A quote inside a body does not start a delimiter of three quotes. -/
theorem Body.not_triple (h : Body f q (f.quote :: rest)) (tail : List Char) :
    ¬ [f.quote, f.quote, f.quote] <+: f.quote :: (rest ++ tail) := by
  intro htriple
  obtain ⟨c, rest', rfl⟩ := List.exists_cons_of_ne_nil h.of_quote.2.ne_nil_of_pos
  have htwo := (List.cons_prefix_cons.mp htriple).2
  rw [List.cons_append] at htwo
  obtain ⟨rfl, hone⟩ := List.cons_prefix_cons.mp htwo
  -- the second quote was still allowed, and the body goes on after it
  obtain ⟨hq, hafter⟩ := h.of_quote.2.of_quote
  obtain ⟨d, rest'', rfl⟩ := List.exists_cons_of_ne_nil hafter.ne_nil_of_pos
  rw [List.cons_append] at hone
  obtain ⟨rfl, -⟩ := List.cons_prefix_cons.mp hone
  have hlast := hafter.of_quote.1
  have := f.maxRun_le
  omega

theorem Item.Meets.ne_quote {s : Str} {c : Char} {after : List Char} (h : (Item.string s).Meets (c :: after))
    (f : StringForm) : c ≠ f.quote := by
  obtain ⟨hdouble, hsingle⟩ := h c rfl
  cases f <;> assumption

theorem Str.run_eq_zero (s : Str) (hsingle : s.form.multi = false) : s.run = 0 := by
  have hle := s.run_le
  rw [StringForm.maxRun, hsingle] at hle
  simpa using hle

theorem Str.closing_of_single (s : Str) (hsingle : s.form.multi = false) : s.closing = [s.form.quote] := by
  rw [Str.closing, s.run_eq_zero hsingle, StringForm.delimiter, hsingle]
  rfl

/-- A string in a single-line form does not start with a delimiter of three quotes. -/
theorem Str.not_triple (s : Str) (hsingle : s.form.multi = false) {after : List Char}
    (hmeets : (Item.string s).Meets after) :
    ¬ [s.form.quote, s.form.quote, s.form.quote] <+: s.form.quote :: (s.body ++ (s.closing ++ after)) := by
  intro htriple
  have htwo := (List.cons_prefix_cons.mp htriple).2
  rw [s.closing_of_single hsingle] at htwo
  have hbody := s.body_valid
  generalize s.body = body at htwo hbody
  cases body with
  | nil =>
    have hone := (List.cons_prefix_cons.mp htwo).2
    cases after with
    | nil => simp at hone
    | cons c after => exact hmeets.ne_quote s.form (List.cons_prefix_cons.mp hone).1.symm
  | cons c body =>
    rw [List.cons_append] at htwo
    obtain ⟨rfl, -⟩ := List.cons_prefix_cons.mp htwo
    have hpos := hbody.of_quote.1
    rw [StringForm.maxRun, hsingle] at hpos
    exact absurd hpos (by decide)

theorem StringForm.escapable_brace (f : StringForm) : f.escapable '}' = false := by
  cases f <;> decide

theorem StringForm.escapable_dollar (f : StringForm) : f.escapable '$' = false := by
  cases f <;> decide

theorem StringForm.multi_of_lt_maxRun {f : StringForm} {q : Nat} (h : q < f.maxRun) : f.multi = true := by
  cases f with
  | basic | literal => exact absurd h (Nat.not_lt_zero q)
  | basicMulti | literalMulti => rfl

theorem StringForm.brace_ne_quote (f : StringForm) : '}' ≠ f.quote := by
  cases f <;> decide

/-- A brace is a character of its own, so what follows it is again a body. -/
theorem Body.after_brace {name : List Char} (hname : '}' ∉ name) (h : Body f q (name ++ '}' :: rest)) :
    Body f 0 rest := by
  induction hlen : name.length using Nat.strongRecOn generalizing name q with
  | ind n ih =>
  subst hlen
  cases name with
  | nil =>
    rcases h.cons_cases with ⟨hslash, -⟩ | ⟨hquote, -⟩ | ⟨-, -, h⟩
    · exact absurd hslash (by decide)
    · exact absurd hquote f.brace_ne_quote
    · exact h
  | cons c name =>
    have hrest : '}' ∉ name := fun hmem => hname (List.mem_cons_of_mem _ hmem)
    rcases h.cons_cases with ⟨-, -, d, after, heq, hd, h⟩ | ⟨-, -, h⟩ | ⟨-, -, h⟩
    · cases name with
      | nil =>
        obtain ⟨rfl, rfl⟩ := List.cons.inj heq
        rw [f.escapable_brace] at hd
        cases hd
      | cons e name =>
        obtain ⟨rfl, rfl⟩ := List.cons.inj heq
        exact ih name.length (by simp only [List.length_cons]; omega)
          (fun hmem => hrest (List.mem_cons_of_mem _ hmem)) h rfl
    · exact ih _ (Nat.lt_succ_self _) hrest h rfl
    · exact ih _ (Nat.lt_succ_self _) hrest h rfl

end TomlText
