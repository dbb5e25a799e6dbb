import RequestDispatch.Proofs.Route.Lexemes

/-!
# Balanced Parentheses

Before a pattern's tree is built, the parentheses among its lexemes are checked. `Balanced` says by
counting what the check is for, and it is about the text of the pattern rather than about lexemes.
The two agree because no placeholder holds a parenthesis: the check comes out the same if no
placeholders are looked for (`checkBalance_lexFrom`), and then its state after some beginning of the
text is the number of parentheses that are open there (`checkBalance_plainLexemes_append`).

* `checkBalance_lex_eq_ok_iff`: the check passes exactly if the parentheses are balanced.
* `checkBalance_lex_of_closing`: a closing parenthesis behind a balanced text closes nothing, and is
  the one that is reported, by the number of bytes before it.
* `checkBalance_lex_of_closesOpen`: if there is no such parenthesis, the number of those that are
  never closed is reported.
-/

namespace RequestDispatch.Route

variable {depth skip offset : ℕ} {text front rest : List Char} {c : Char}

/-! ## Counting parentheses -/

/-- The parentheses of a text are balanced: no beginning of it closes more of them than it opens,
and the whole closes as many as it opens. -/
def Balanced (text : List Char) : Prop :=
  (∀ front, front <+: text → front.count ')' ≤ front.count '(') ∧
    text.count ')' = text.count '('

/-- With `depth` parentheses open before it, a text closes none that is not open. -/
def ClosesOpen (depth : ℕ) (text : List Char) : Prop :=
  ∀ front, front <+: text → front.count ')' ≤ depth + front.count '('

theorem balanced_iff :
    Balanced text ↔ ClosesOpen 0 text ∧ text.count ')' = text.count '(' := by
  simp only [Balanced, ClosesOpen, Nat.zero_add]

/-- All parentheses that are closed are open before, or opened by the text. -/
theorem ClosesOpen.count_le (h : ClosesOpen depth text) :
    text.count ')' ≤ depth + text.count '(' :=
  h text List.prefix_rfl

theorem closesOpen_nil : ClosesOpen depth [] := by
  intro front hfront
  simp [List.prefix_nil.1 hfront]

theorem closesOpen_cons :
    ClosesOpen depth (c :: text) ↔
      ∀ front, front <+: text → (c :: front).count ')' ≤ depth + (c :: front).count '(' := by
  constructor
  · intro h front hfront
    exact h (c :: front) (List.cons_prefix_cons.2 ⟨rfl, hfront⟩)
  · intro h front hfront
    rcases List.prefix_cons_iff.1 hfront with rfl | ⟨tail, rfl, htail⟩
    · simp
    · exact h tail htail

theorem closesOpen_opening : ClosesOpen depth ('(' :: text) ↔ ClosesOpen (depth + 1) text := by
  rw [closesOpen_cons]
  refine forall₂_congr fun front _ => ?_
  have hclosing : ('(' :: front).count ')' = front.count ')' := by simp
  have hopening : ('(' :: front).count '(' = front.count '(' + 1 := by simp
  omega

theorem closesOpen_closing : ClosesOpen (depth + 1) (')' :: text) ↔ ClosesOpen depth text := by
  rw [closesOpen_cons]
  refine forall₂_congr fun front _ => ?_
  have hclosing : (')' :: front).count ')' = front.count ')' + 1 := by simp
  have hopening : (')' :: front).count '(' = front.count '(' := by simp
  omega

theorem not_closesOpen_closing : ¬ ClosesOpen 0 (')' :: text) := by
  intro h
  have hfirst := closesOpen_cons.1 h [] (List.nil_prefix)
  simp at hfirst

theorem closesOpen_cons_of_ne (hopening : c ≠ '(') (hclosing : c ≠ ')') :
    ClosesOpen depth (c :: text) ↔ ClosesOpen depth text := by
  rw [closesOpen_cons]
  refine forall₂_congr fun front _ => ?_
  rw [List.count_cons_of_ne hopening, List.count_cons_of_ne hclosing]

/-- A text that closes a parenthesis that is not open has a first one, before which all that are
closed are open and none is left open. -/
theorem exists_closing (h : ¬ ClosesOpen depth text) :
    ∃ front rest, text = front ++ ')' :: rest ∧ ClosesOpen depth front ∧
      front.count ')' = depth + front.count '(' := by
  induction text generalizing depth with
  | nil => exact absurd closesOpen_nil h
  | cons c text ih =>
    by_cases hopening : c = '('
    · subst hopening
      rw [closesOpen_opening] at h
      obtain ⟨front, rest, rfl, hfront, hcount⟩ := ih h
      refine ⟨'(' :: front, rest, rfl, closesOpen_opening.2 hfront, ?_⟩
      simp only [List.count_cons_self, List.count_cons_of_ne (by decide : '(' ≠ ')')]
      omega
    by_cases hclosing : c = ')'
    · subst hclosing
      cases depth with
      | zero => exact ⟨[], text, rfl, closesOpen_nil, rfl⟩
      | succ depth =>
        rw [closesOpen_closing] at h
        obtain ⟨front, rest, rfl, hfront, hcount⟩ := ih h
        refine ⟨')' :: front, rest, rfl, closesOpen_closing.2 hfront, ?_⟩
        simp only [List.count_cons_self, List.count_cons_of_ne (by decide : ')' ≠ '(')]
        omega
    · rw [closesOpen_cons_of_ne hopening hclosing] at h
      obtain ⟨front, rest, rfl, hfront, hcount⟩ := ih h
      refine ⟨c :: front, rest, rfl, (closesOpen_cons_of_ne hopening hclosing).2 hfront, ?_⟩
      rw [List.count_cons_of_ne hopening, List.count_cons_of_ne hclosing, hcount]

/-! ## Lexemes without placeholders -/

@[simp]
theorem checkBalance_char (lexemes : List Lexeme) :
    checkBalance depth (.char c :: lexemes) = checkBalance depth lexemes := by
  cases depth <;> rfl

@[simp]
theorem checkBalance_placeholder (name : List Char) (lexemes : List Lexeme) :
    checkBalance depth (.placeholder name :: lexemes) = checkBalance depth lexemes := by
  cases depth <;> rfl

@[simp]
theorem checkBalance_opening (lexemes : List Lexeme) :
    checkBalance depth (.opening :: lexemes) = checkBalance (depth + 1) lexemes := by
  cases depth <;> rfl

/-- The lexemes of a text in which no placeholders are looked for. -/
def plainLexemes : (offset : ℕ) → List Char → List Lexeme
  | _, [] => []
  | offset, c :: rest =>
    (if c = '(' then .opening else if c = ')' then .closing offset else .char c) ::
      plainLexemes (offset + c.utf8Size) rest

/-- What is passed over behind the first character of a lexeme, the name of a placeholder and the
percent sign behind it, holds no parenthesis. -/
theorem Lexeme.Begins.not_parenthesis {lexeme : Lexeme}
    (h : lexeme.Begins offset (c :: text) skip) : ∀ d ∈ text.take skip, d ≠ '(' ∧ d ≠ ')' := by
  cases h with
  | opening => simp
  | closing => simp
  | @placeholder name rest hname =>
    intro d hd
    have hmem : d ∈ name ∨ d = '%' := by
      rw [List.take_length_add_append] at hd
      simpa using hd
    rcases hmem with hmem | rfl
    · -- parentheses are no name characters
      have hchar := hname.2 d hmem
      constructor
      · rintro rfl
        simp [isNameChar_of_mark] at hchar
      · rintro rfl
        simp [isNameChar_of_mark] at hchar
    · decide
  | char _ _ _ => simp

/-- Whether placeholders are looked for makes no difference to the balance of parentheses. -/
theorem checkBalance_lexFrom (hskip : ∀ c ∈ text.take skip, c ≠ '(' ∧ c ≠ ')') :
    checkBalance depth (lexFrom skip offset text) =
      checkBalance depth (plainLexemes offset text) := by
  induction text generalizing depth skip offset with
  | nil => cases skip <;> rfl
  | cons c text ih =>
    cases skip with
    | succ skip =>
      -- a character that is passed over is no parenthesis, so it counts for nothing here either
      rw [List.take_succ_cons] at hskip
      obtain ⟨hopening, hclosing⟩ := hskip c List.mem_cons_self
      rw [lexFrom, plainLexemes, if_neg hopening, if_neg hclosing, checkBalance_char]
      exact ih fun d hd => hskip d (List.mem_cons_of_mem c hd)
    | zero =>
      obtain ⟨lexeme, skip, hbegins, hlex⟩ := exists_begins offset c text
      have hrest : ∀ {depth : ℕ}, checkBalance depth (lexFrom skip (offset + c.utf8Size) text) =
          checkBalance depth (plainLexemes (offset + c.utf8Size) text) :=
        ih hbegins.not_parenthesis
      rw [hlex, plainLexemes]
      cases hbegins with
      | opening => rw [checkBalance_opening, hrest, if_pos rfl, checkBalance_opening]
      | closing =>
        rw [if_neg (by decide), if_pos rfl]
        cases depth with
        | zero => rfl
        | succ depth => exact hrest
      | placeholder _ =>
        rw [checkBalance_placeholder, hrest, if_neg (by decide), if_neg (by decide),
          checkBalance_char]
      | char hopening hclosing _ =>
        rw [checkBalance_char, hrest, if_neg hopening, if_neg hclosing, checkBalance_char]

/-- A text that closes only what is open is passed over by the check: what changes is how many
parentheses are open and how many bytes come before. -/
theorem checkBalance_plainLexemes_append (h : ClosesOpen depth front) (offset : ℕ)
    (rest : List Char) :
    checkBalance depth (plainLexemes offset (front ++ rest)) =
      checkBalance (depth + front.count '(' - front.count ')')
        (plainLexemes (offset + (String.ofList front).utf8ByteSize) rest) := by
  induction front generalizing depth offset with
  | nil => simp
  | cons c front ih =>
    have hbytes : offset + (String.ofList (c :: front)).utf8ByteSize =
        offset + c.utf8Size + (String.ofList front).utf8ByteSize := by
      rw [String.ofList_cons, String.utf8ByteSize_append, String.utf8ByteSize_singleton,
        Nat.add_assoc]
    rw [List.cons_append, plainLexemes, hbytes]
    by_cases hopening : c = '('
    · subst hopening
      have hdepth : depth + ('(' :: front).count '(' - ('(' :: front).count ')' =
          depth + 1 + front.count '(' - front.count ')' := by
        simp only [List.count_cons_self, List.count_cons_of_ne (by decide : '(' ≠ ')')]
        omega
      rw [if_pos rfl, checkBalance_opening, ih (closesOpen_opening.1 h), hdepth]
    by_cases hclosing : c = ')'
    · subst hclosing
      cases depth with
      | zero => exact absurd h not_closesOpen_closing
      | succ depth =>
        have hdepth : depth + 1 + (')' :: front).count '(' - (')' :: front).count ')' =
            depth + front.count '(' - front.count ')' := by
          simp only [List.count_cons_self, List.count_cons_of_ne (by decide : ')' ≠ '(')]
          omega
        rw [if_neg hopening, if_pos rfl, hdepth]
        exact ih (closesOpen_closing.1 h) _
    · rw [if_neg hopening, if_neg hclosing, checkBalance_char,
        ih ((closesOpen_cons_of_ne hopening hclosing).1 h), List.count_cons_of_ne hopening,
        List.count_cons_of_ne hclosing]

/-! ## What the check finds -/

theorem checkBalance_lex : checkBalance 0 (lex text) = checkBalance 0 (plainLexemes 0 text) :=
  checkBalance_lexFrom (by simp)

/-- Behind a balanced text nothing is open, so a parenthesis that is closed there is refused. -/
theorem checkBalance_lex_of_closing (h : Balanced front) (rest : List Char) :
    checkBalance 0 (lex (front ++ ')' :: rest)) =
      .error (.unexpectedClosing (String.ofList front).utf8ByteSize) := by
  obtain ⟨hcloses, hcount⟩ := balanced_iff.1 h
  have hdepth : 0 + front.count '(' - front.count ')' = 0 := by omega
  rw [checkBalance_lex, checkBalance_plainLexemes_append hcloses, hdepth, Nat.zero_add]
  rfl

/-- If only open parentheses are closed, those that stay open are counted. -/
theorem checkBalance_lex_of_closesOpen (h : ClosesOpen 0 text) :
    checkBalance 0 (lex text) =
      if text.count ')' = text.count '(' then .ok ()
      else .error (.unclosed (text.count '(' - text.count ')')) := by
  have hle := h.count_le
  have hwalk := checkBalance_plainLexemes_append h 0 []
  rw [List.append_nil] at hwalk
  rw [checkBalance_lex, hwalk, plainLexemes, Nat.zero_add]
  split
  · rename_i heq
    rw [heq, Nat.sub_self]
    rfl
  · rename_i hne
    obtain ⟨left, hleft⟩ : ∃ left, text.count '(' - text.count ')' = left + 1 :=
      Nat.exists_eq_succ_of_ne_zero (by omega)
    rw [hleft]
    rfl

/-- Either some closing parenthesis comes behind a balanced text, or only open ones are closed. -/
theorem closesOpen_of_forall_closing
    (h : ∀ front rest, text = front ++ ')' :: rest → ¬ Balanced front) : ClosesOpen 0 text := by
  by_contra hcloses
  obtain ⟨front, rest, htext, hfront, hcount⟩ := exists_closing hcloses
  rw [Nat.zero_add] at hcount
  exact h front rest htext (balanced_iff.2 ⟨hfront, hcount⟩)

/-- The check passes exactly if the parentheses are balanced. -/
theorem checkBalance_lex_eq_ok_iff : checkBalance 0 (lex text) = .ok () ↔ Balanced text := by
  constructor
  · intro hok
    have hcloses : ClosesOpen 0 text := by
      refine closesOpen_of_forall_closing fun front rest htext hfront => ?_
      rw [htext, checkBalance_lex_of_closing hfront rest] at hok
      cases hok
    rw [checkBalance_lex_of_closesOpen hcloses] at hok
    split at hok
    · rename_i hcount
      exact balanced_iff.2 ⟨hcloses, hcount⟩
    · cases hok
  · intro h
    obtain ⟨hcloses, hcount⟩ := balanced_iff.1 h
    rw [checkBalance_lex_of_closesOpen hcloses, if_pos hcount]

end RequestDispatch.Route
