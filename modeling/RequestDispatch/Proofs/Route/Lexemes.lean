import Mathlib.Data.List.Infix
import Mathlib.Data.List.TakeWhile
import RequestDispatch.Route.TokenTree

/-!
# The Lexemes of a Pattern

What `lex` makes of a pattern's text. `Lexeme.Begins` says which lexeme a text begins with, and
`exists_begins` that `lex` takes this one at every character it has not passed over.

* `flatMap_text_lexFrom`: nothing is lost. The texts of the lexemes, put together, are the text.
* `isProper_of_mem_lexFrom`: no parenthesis is left among the literal characters.
* `not_infix_lexFrom`: no placeholder is left among them either, not even one that begins in the
  middle of a run of such characters.
-/

namespace RequestDispatch.Route

variable {skip offset : ℕ} {cs name : List Char}

/-! ## Names -/

/-- A text can stand between the percent signs of a placeholder: it is one or more name
characters. -/
def IsName (name : List Char) : Prop := name ≠ [] ∧ ∀ c ∈ name, isNameChar c = true

/-- The characters that structure a pattern are no name characters. -/
theorem isNameChar_of_mark {c : Char} (h : c = '(' ∨ c = ')' ∨ c = '%') : isNameChar c = false := by
  rcases h with rfl | rfl | rfl <;> decide +kernel

/-- A name is found exactly where a name with a percent sign behind it begins the text. -/
theorem placeholderName?_eq_some_iff :
    placeholderName? cs = some name ↔ IsName name ∧ ∃ rest, cs = name ++ '%' :: rest := by
  rw [placeholderName?]
  constructor
  · intro h
    split at h
    · rename_i hfound
      obtain rfl := Option.some.inj h
      rw [Bool.and_eq_true, Bool.not_eq_true', List.isEmpty_eq_false_iff,
        decide_eq_true_eq] at hfound
      obtain ⟨hne, hmark⟩ := hfound
      obtain ⟨rest, hrest⟩ := List.head?_eq_some_iff.1 hmark
      refine ⟨⟨hne, fun c hc => List.mem_takeWhile_imp hc⟩, rest, ?_⟩
      rw [← hrest, List.takeWhile_append_dropWhile]
    · simp at h
  · rintro ⟨⟨hne, hname⟩, rest, rfl⟩
    have hmark : isNameChar '%' = false := isNameChar_of_mark (.inr (.inr rfl))
    have htake : (name ++ '%' :: rest).takeWhile isNameChar = name := by
      rw [List.takeWhile_append_of_pos hname, List.takeWhile_cons_of_neg (by simp [hmark]),
        List.append_nil]
    have hdrop : (name ++ '%' :: rest).dropWhile isNameChar = '%' :: rest := by
      rw [List.dropWhile_append_of_pos hname, List.dropWhile_cons_of_neg (by simp [hmark])]
    simp [htake, hdrop, hne]

/-! ## One lexeme after another -/

/-- A text with `offset` bytes before it begins with this lexeme, to which this many characters
behind the first one belong. A character stands for itself if it is no parenthesis and begins no
placeholder. -/
inductive Lexeme.Begins (offset : ℕ) : List Char → Lexeme → ℕ → Prop
  | opening {rest : List Char} : Begins offset ('(' :: rest) .opening 0
  | closing {rest : List Char} : Begins offset (')' :: rest) (.closing offset) 0
  | placeholder {name rest : List Char} : IsName name →
      Begins offset ('%' :: (name ++ '%' :: rest)) (.placeholder name) (name.length + 1)
  | char {c : Char} {rest : List Char} : c ≠ '(' → c ≠ ')' →
      (∀ name more, IsName name → c :: rest ≠ '%' :: (name ++ '%' :: more)) →
        Begins offset (c :: rest) (.char c) 0

/-- At a character that has not been passed over, the lexeme is taken that begins there. -/
theorem exists_begins (offset : ℕ) (c : Char) (rest : List Char) :
    ∃ lexeme skip, lexeme.Begins offset (c :: rest) skip ∧
      lexFrom 0 offset (c :: rest) = lexeme :: lexFrom skip (offset + c.utf8Size) rest := by
  rw [lexFrom]
  by_cases hopening : c = '('
  · subst hopening
    exact ⟨_, _, .opening, rfl⟩
  by_cases hclosing : c = ')'
  · subst hclosing
    exact ⟨_, _, .closing, rfl⟩
  rw [if_neg hopening, if_neg hclosing]
  by_cases hpercent : c = '%'
  · subst hpercent
    rw [if_pos rfl]
    cases hname : placeholderName? rest with
    | some name =>
      obtain ⟨hfound, more, rfl⟩ := placeholderName?_eq_some_iff.1 hname
      exact ⟨_, _, .placeholder hfound, rfl⟩
    | none =>
      refine ⟨_, _, .char hopening hclosing fun name more hfound hrest => ?_, rfl⟩
      have hsome : placeholderName? rest = some name :=
        placeholderName?_eq_some_iff.2 ⟨hfound, more, List.tail_eq_of_cons_eq hrest⟩
      rw [hsome] at hname
      cases hname
  · rw [if_neg hpercent]
    exact ⟨_, _, .char hopening hclosing fun _ _ _ h => hpercent (List.head_eq_of_cons_eq h), rfl⟩

/-! ## The texts of lexemes -/

/-- The part of a pattern's text that a lexeme stands for. -/
def Lexeme.text : Lexeme → List Char
  | char c => [c]
  | placeholder name => '%' :: (name ++ ['%'])
  | opening => ['(']
  | closing _ => [')']

/-- A lexeme is the beginning of the text, and what follows it is what is not passed over. -/
theorem Lexeme.Begins.text_append_drop {lexeme : Lexeme} {c : Char} {rest : List Char}
    (h : lexeme.Begins offset (c :: rest) skip) : lexeme.text ++ rest.drop skip = c :: rest := by
  cases h with
  | opening => rfl
  | closing => rfl
  | @placeholder name rest _ =>
    have hpassed : (name ++ '%' :: rest).drop (name.length + 1) = rest := by
      rw [← List.drop_drop, List.drop_left, List.drop_one, List.tail_cons]
    rw [hpassed]
    simp [Lexeme.text]
  | char _ _ _ => rfl

/-- No character of a pattern's text is lost or written twice, those aside that are passed over. -/
theorem flatMap_text_lexFrom (skip offset : ℕ) (cs : List Char) :
    (lexFrom skip offset cs).flatMap Lexeme.text = cs.drop skip := by
  induction cs generalizing skip offset with
  | nil => cases skip <;> rfl
  | cons c rest ih =>
    cases skip with
    | succ skip => exact ih skip _
    | zero =>
      obtain ⟨lexeme, skip, hbegins, hlex⟩ := exists_begins offset c rest
      rw [hlex, List.flatMap_cons, ih, hbegins.text_append_drop, List.drop_zero]

theorem flatMap_text_lex (cs : List Char) : (lex cs).flatMap Lexeme.text = cs :=
  flatMap_text_lexFrom 0 0 cs

/-- Literal characters that begin the lexemes of a text begin the text. -/
theorem prefix_of_map_char_prefix {literal : List Char}
    (h : literal.map .char <+: lexFrom 0 offset cs) : literal <+: cs := by
  obtain ⟨others, hothers⟩ := h
  have hliteral : (literal.map Lexeme.char).flatMap Lexeme.text = literal := by
    rw [List.flatMap_map]
    exact List.flatMap_singleton' literal
  have hcs := flatMap_text_lexFrom 0 offset cs
  rw [← hothers, List.flatMap_append, hliteral, List.drop_zero] at hcs
  exact ⟨_, hcs⟩

/-! ## What is left as literal characters -/

/-- What a lexeme holds is of its kind: a literal character is no parenthesis, and a placeholder has
a name. -/
def Lexeme.IsProper : Lexeme → Prop
  | char c => c ≠ '(' ∧ c ≠ ')'
  | placeholder name => IsName name
  | opening | closing _ => True

theorem Lexeme.Begins.isProper {lexeme : Lexeme} (h : lexeme.Begins offset cs skip) :
    lexeme.IsProper := by
  cases h with
  | opening => trivial
  | closing => trivial
  | placeholder hname => exact hname
  | char hopening hclosing _ => exact ⟨hopening, hclosing⟩

theorem isProper_of_mem_lexFrom {lexeme : Lexeme} (h : lexeme ∈ lexFrom skip offset cs) :
    lexeme.IsProper := by
  induction cs generalizing skip offset with
  | nil => cases skip <;> cases h
  | cons c rest ih =>
    cases skip with
    | succ skip => exact ih h
    | zero =>
      obtain ⟨first, skip, hbegins, hlex⟩ := exists_begins offset c rest
      rw [hlex] at h
      rcases List.mem_cons.1 h with rfl | h
      · exact hbegins.isProper
      · exact ih h

/-- The literal characters that spell a placeholder. -/
def spelled (name : List Char) : List Lexeme := .char '%' :: (name ++ ['%']).map .char

/-- Nowhere do literal characters that follow one another spell a placeholder. -/
theorem not_infix_lexFrom (hname : IsName name) : ¬ spelled name <:+: lexFrom skip offset cs := by
  induction cs generalizing skip offset with
  | nil => cases skip <;> simp [lexFrom, spelled]
  | cons c rest ih =>
    cases skip with
    | succ skip => exact ih
    | zero =>
      obtain ⟨first, skip, hbegins, hlex⟩ := exists_begins offset c rest
      rw [hlex, List.infix_cons_iff]
      rintro (h | h)
      · -- the name and its percent sign would begin the text here, where no placeholder begins
        rw [spelled, List.cons_prefix_cons] at h
        obtain ⟨rfl, hrest⟩ := h
        cases hbegins with
        | char _ _ hnone =>
          obtain ⟨more, hmore⟩ := prefix_of_map_char_prefix hrest
          exact hnone name more hname (by simp [← hmore])
      · exact ih h

end RequestDispatch.Route
