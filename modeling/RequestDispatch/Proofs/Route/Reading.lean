import RequestDispatch.Proofs.Except
import RequestDispatch.Proofs.Route.Balance
import RequestDispatch.Proofs.Route.Generation
import RequestDispatch.Proofs.Text.Cut

/-!
# Reading Patterns

A pattern's text is read exactly if its parentheses are balanced (`TokenTree.parse_eq_ok_iff`).
Reading loses nothing, since printing the tree gives the text back (`TokenTree.print_build`), and
the tree is in a normal form (`TokenTree.IsNormal`, `TokenTree.isNormal_build`): literals are as
long as they can be, and what can be read as a group or as a placeholder is not hidden in one of
them.

`TokenTree.build` goes through the lexemes from the right, and what it returns are the tokens of the
innermost open list and, for every closing parenthesis whose group is not opened yet, what follows
that group. The lemmas about it are therefore about all of these trees.

`Pattern.parse_body` puts this together with what is reported of a pattern that is not balanced, and
with what it means for the URLs that are generated.
-/

namespace RequestDispatch

open Route Text

namespace Route

/-- A text that is read as one literal. -/
structure IsLiteral (text : List Char) : Prop where
  /-- It is not empty. -/
  ne_nil : text ≠ []
  /-- No parenthesis is in it, since each of them begins or ends a group. -/
  not_parenthesis : ∀ c ∈ text, c ≠ '(' ∧ c ≠ ')'
  /-- No placeholder is in it. -/
  not_placeholder : ∀ name, IsName name → ¬ '%' :: (name ++ ['%']) <:+: text

namespace TokenTree

variable {lexemes : List Lexeme} {tree : TokenTree} {text : List Char} {c : Char}

/-! ## The normal form -/

/-- Whether the tokens begin with a literal. -/
def beginsWithLiteral : TokenTree → Bool
  | literal _ _ => true
  | done | placeholder _ _ | group _ _ => false

/-- A tree is in normal form: its literals are texts that are read as one literal, no literal
follows another one directly, and its placeholders have names. -/
def IsNormal : TokenTree → Prop
  | done => True
  | literal text rest => IsLiteral text ∧ rest.beginsWithLiteral = false ∧ rest.IsNormal
  | placeholder name rest => IsName name.toList ∧ rest.IsNormal
  | group content rest => content.IsNormal ∧ rest.IsNormal

/-- A character of its own is a literal. -/
theorem isLiteral_singleton (hc : c ≠ '(' ∧ c ≠ ')') : IsLiteral [c] := by
  refine ⟨List.cons_ne_nil c [], fun d hd => ?_, fun name hname h => ?_⟩
  · obtain rfl := List.mem_singleton.1 hd
    exact hc
  · -- a placeholder has at least its two percent signs
    have hlength := h.length_le
    simp at hlength

/-- A character is put in front of a tree in normal form, provided that this spells no placeholder
together with the literal that begins there. -/
theorem IsNormal.consChar (h : tree.IsNormal) (hc : c ≠ '(' ∧ c ≠ ')')
    (hspelled : ∀ text rest, tree = literal text rest →
      ∀ name, IsName name → ¬ '%' :: (name ++ ['%']) <:+: c :: text) :
    (consChar c tree).IsNormal := by
  cases tree with
  | literal text rest =>
    obtain ⟨hliteral, hrest⟩ := h
    refine ⟨⟨List.cons_ne_nil c text, fun d hd => ?_, hspelled text rest rfl⟩, hrest⟩
    rcases List.mem_cons.1 hd with rfl | hd
    · exact hc
    · exact hliteral.not_parenthesis d hd
  | done | placeholder | group => exact ⟨isLiteral_singleton hc, rfl, h⟩

/-- A character in front is put into the literal that begins there, or is a literal of its own. -/
theorem eq_or_eq_of_consChar {rest : TokenTree} (h : consChar c tree = literal text rest) :
    (∃ more, tree = literal more rest ∧ text = c :: more) ∨ text = [c] ∧ rest = tree := by
  cases tree with
  | literal more following =>
    cases h
    exact .inl ⟨more, rfl, rfl⟩
  | done | placeholder | group =>
    cases h
    exact .inr ⟨rfl, rfl⟩

/-! ## Building a tree -/

theorem build_opening (lexemes : List Lexeme) :
    build (.opening :: lexemes) =
      match (build lexemes).2 with
      | [] => (group (build lexemes).1 done, [])
      | following :: outer => (group (build lexemes).1 following, outer) := rfl

/-- The literal that a tree begins with is a run of literal characters among the lexemes. -/
theorem map_char_prefix_of_build {rest : TokenTree}
    (h : (build lexemes).1 = literal text rest) : text.map .char <+: lexemes := by
  induction lexemes generalizing text rest with
  | nil => cases h
  | cons lexeme lexemes ih =>
    cases lexeme with
    | char c =>
      rcases eq_or_eq_of_consChar h with ⟨more, htree, rfl⟩ | ⟨rfl, -⟩
      · exact List.cons_prefix_cons.2 ⟨rfl, ih htree⟩
      · exact List.cons_prefix_cons.2 ⟨rfl, List.nil_prefix⟩
    | placeholder name => cases h
    | closing offset => cases h
    | opening =>
      rw [build_opening] at h
      split at h <;> cases h

/-- The trees that are built of the lexemes of a text are in normal form. -/
theorem isNormal_build (hproper : ∀ lexeme ∈ lexemes, lexeme.IsProper)
    (hspelled : ∀ name, IsName name → ¬ spelled name <:+: lexemes) :
    (build lexemes).1.IsNormal ∧ ∀ tree ∈ (build lexemes).2, tree.IsNormal := by
  -- by the recursion of `build`, for the outer trees too: a group's parenthesis takes one of them
  induction lexemes with
  | nil => exact ⟨trivial, by simp [build]⟩
  | cons lexeme lexemes ih =>
    have hfirst := hproper lexeme List.mem_cons_self
    obtain ⟨htree, houter⟩ := ih (fun other hother => hproper other (List.mem_cons_of_mem _ hother))
      fun name hname h => hspelled name hname (List.infix_cons h)
    cases lexeme with
    | char c =>
      refine ⟨htree.consChar hfirst fun text rest hbuild name hname hinfix => ?_, houter⟩
      -- what the literal spells, the lexemes spell
      have hrun : (c :: text).map Lexeme.char <+: .char c :: lexemes :=
        List.cons_prefix_cons.2 ⟨rfl, map_char_prefix_of_build hbuild⟩
      have hchars : ('%' :: (name ++ ['%'])).map Lexeme.char <:+: (c :: text).map .char :=
        hinfix.map _
      exact hspelled name hname (hchars.trans hrun.isInfix)
    | placeholder name =>
      refine ⟨⟨?_, htree⟩, houter⟩
      rw [String.toList_ofList]
      exact hfirst
    | closing offset => exact ⟨trivial, List.forall_mem_cons.2 ⟨htree, houter⟩⟩
    | opening =>
      rw [build_opening]
      split
      · exact ⟨⟨htree, trivial⟩, by simp⟩
      · rename_i following outer hcons
        rw [hcons] at houter
        obtain ⟨hfollowing, houter⟩ := List.forall_mem_cons.1 houter
        exact ⟨⟨htree, hfollowing⟩, houter⟩

theorem print_consChar (c : Char) (tree : TokenTree) :
    (consChar c tree).print = c :: tree.print := by
  cases tree <;> rfl

/-- If the parentheses are balanced, there is one tree for each that is open before the lexemes,
and printing all trees, with the closing parentheses between them, gives the lexemes back. -/
theorem print_build {depth : ℕ} (h : checkBalance depth lexemes = .ok ()) :
    (build lexemes).2.length = depth ∧
      (build lexemes).1.print ++ (build lexemes).2.flatMap (fun tree => ')' :: tree.print) =
        lexemes.flatMap Lexeme.text := by
  induction lexemes generalizing depth with
  | nil =>
    cases depth with
    | zero => exact ⟨rfl, rfl⟩
    | succ depth => cases h
  | cons lexeme lexemes ih =>
    cases lexeme with
    | char c =>
      rw [checkBalance_char] at h
      obtain ⟨hlength, hprint⟩ := ih h
      refine ⟨hlength, ?_⟩
      rw [List.flatMap_cons, ← hprint, ← List.append_assoc]
      exact congrArg (· ++ _) (print_consChar c _)
    | placeholder name =>
      rw [checkBalance_placeholder] at h
      obtain ⟨hlength, hprint⟩ := ih h
      refine ⟨hlength, ?_⟩
      rw [List.flatMap_cons, ← hprint]
      simp [build, print, Lexeme.text]
    | closing offset =>
      cases depth with
      | zero => cases h
      | succ depth =>
        -- what was innermost becomes the first of the outer trees
        obtain ⟨hlength, hprint⟩ := ih h
        refine ⟨congrArg (· + 1) hlength, ?_⟩
        rw [List.flatMap_cons, ← hprint]
        simp [build, print, Lexeme.text]
    | opening =>
      rw [checkBalance_opening] at h
      obtain ⟨hlength, hprint⟩ := ih h
      -- the group is closed, and what follows it is the first of the trees behind the innermost
      obtain ⟨following, outer, hcons⟩ := List.exists_cons_of_length_eq_add_one hlength
      rw [hcons] at hlength hprint
      rw [build_opening, hcons, List.flatMap_cons, ← hprint]
      refine ⟨Nat.succ.inj hlength, ?_⟩
      simp [print, Lexeme.text]

/-! ## Reading a text -/

theorem parse_eq_of_balanced (h : Balanced text) : parse text = .ok (ofLexemes (lex text)) := by
  rw [parse, checkBalance_lex_eq_ok_iff.2 h]
  rfl

/-- A text is read exactly if its parentheses are balanced. -/
theorem parse_eq_ok_iff :
    parse text = .ok tree ↔ Balanced text ∧ ofLexemes (lex text) = tree := by
  rw [parse, Except.bind_eq_ok_iff, ← checkBalance_lex_eq_ok_iff]
  constructor
  · rintro ⟨_, hok, htree⟩
    exact ⟨hok, Except.ok.inj htree⟩
  · rintro ⟨hok, rfl⟩
    exact ⟨(), hok, rfl⟩

/-- What is refused is what the check of the parentheses reports. -/
theorem parse_eq_error_iff {fault : PatternFault} :
    parse text = .error fault ↔ checkBalance 0 (lex text) = .error fault := by
  rw [parse]
  rcases checkBalance 0 (lex text) with error | _
  · constructor <;> rintro ⟨⟩ <;> rfl
  · constructor <;> rintro ⟨⟩

/-- A closing parenthesis with a balanced text before it is the fault that is found. -/
theorem fault_of_closing {fault : PatternFault} (h : parse text = .error fault)
    {front rest : List Char} (htext : text = front ++ ')' :: rest) (hfront : Balanced front) :
    fault = .unexpectedClosing (String.ofList front).utf8ByteSize := by
  rw [parse_eq_error_iff, htext, checkBalance_lex_of_closing hfront] at h
  exact (Except.error.inj h).symm

/-- Where there is no such parenthesis, the fault is how many are never closed. -/
theorem fault_of_forall_closing {fault : PatternFault} (h : parse text = .error fault)
    (hnone : ∀ front rest, text = front ++ ')' :: rest → ¬ Balanced front) :
    fault = .unclosed (text.count '(' - text.count ')') := by
  rw [parse_eq_error_iff, checkBalance_lex_of_closesOpen (closesOpen_of_forall_closing hnone)] at h
  split at h
  · cases h
  · exact (Except.error.inj h).symm

theorem print_of_parse (h : parse text = .ok tree) : tree.print = text := by
  obtain ⟨hbalanced, rfl⟩ := parse_eq_ok_iff.1 h
  obtain ⟨hlength, hprint⟩ := print_build (checkBalance_lex_eq_ok_iff.2 hbalanced)
  rw [List.length_eq_zero_iff.1 hlength, List.flatMap_nil, List.append_nil, flatMap_text_lex]
    at hprint
  exact hprint

theorem isNormal_of_parse (h : parse text = .ok tree) : tree.IsNormal := by
  obtain ⟨-, rfl⟩ := parse_eq_ok_iff.1 h
  exact (isNormal_build (fun _ => isProper_of_mem_lexFrom) fun _ => not_infix_lexFrom).1

/-! ## What is written of a tree -/

theorem IsNormal.not_parenthesis (h : tree.IsNormal) (hc : c ∈ tree.literals) :
    c ≠ '(' ∧ c ≠ ')' := by
  induction tree with
  | done => cases hc
  | literal text rest ih =>
    rcases List.mem_append.1 hc with hc | hc
    · exact h.1.not_parenthesis c hc
    · exact ih h.2.2 hc
  | placeholder name rest ih => exact ih h.2 hc
  | group content rest ihContent ihRest =>
    rcases List.mem_append.1 hc with hc | hc
    · exact ihContent h.1 hc
    · exact ihRest h.2 hc

/-- Each character that is written is one of a literal or of a value. -/
theorem mem_text_write {value : String → Option String} (hc : c ∈ (tree.write value).text) :
    c ∈ tree.literals ∨ ∃ name text, value name = some text ∧ c ∈ text.toList := by
  induction tree with
  | done => cases hc
  | literal text rest ih =>
    rcases List.mem_append.1 hc with hc | hc
    · exact .inl (List.mem_append_left _ hc)
    · exact (ih hc).imp_left (List.mem_append_right _)
  | placeholder name rest ih =>
    rw [write] at hc
    split at hc
    · rename_i text hname
      rcases List.mem_append.1 hc with hc | hc
      · exact .inr ⟨name, text, hname, hc⟩
      · exact ih hc
    · exact ih hc
  | group content rest ihContent ihRest =>
    rw [write] at hc
    split at hc
    · dsimp only at hc
      split at hc
      · exact (ihContent hc).imp_left (List.mem_append_left _)
      · rcases List.mem_append.1 hc with hc | hc
        · exact (ihContent hc).imp_left (List.mem_append_left _)
        · exact (ihRest hc).imp_left (List.mem_append_right _)
    · cases hc

end TokenTree

end Route

namespace Pattern

variable {pattern : Pattern} {source : String} {c : Char}

theorem parse_of_compile (h : compile source = .ok pattern) :
    TokenTree.parse (splitCatchAll source.toList).1 = .ok pattern.tokens := by
  rw [compile] at h
  dsimp only at h
  split at h
  · cases h
  · rename_i tokens hparse
    split at h
    · cases h
    · cases h
      exact hparse

theorem compile_of_parse_error {fault : PatternFault}
    (h : TokenTree.parse (splitCatchAll source.toList).1 = .error fault) :
    compile source = .error (.invalidPattern source fault) := by
  rw [compile]
  simp only [h]

/-- The body of a pattern is the pattern less the catch-all at its end. -/
theorem append_catchAllEnding_or (text : List Char) :
    (splitCatchAll text).1 ++ catchAllEnding = text ∨
      (splitCatchAll text).1 = text ∧ ¬ catchAllEnding <:+ text := by
  rw [splitCatchAll]
  cases hinit : init? catchAllEnding text with
  | some body => exact .inl (init?_eq_some_iff.1 hinit).symm
  | none =>
    refine .inr ⟨rfl, ?_⟩
    rintro ⟨body, hbody⟩
    rw [init?_eq_some_iff.2 hbody.symm] at hinit
    cases hinit

/-- A parenthesis in the value of a placeholder was given as a parameter: the default identity has
none. -/
theorem get?_of_parenthesis {params : Params} {name value : String}
    (hvalue : valueIn params name = some value) (hc : c = '(' ∨ c = ')') (hmem : c ∈ value.toList) :
    params.get? name = some value := by
  rcases Option.or_eq_some_iff.1 hvalue with hgiven | ⟨-, hdefault⟩
  · exact hgiven
  · have hidentity : value = defaultModule ∨ value = defaultController ∨ value = defaultAction := by
      rw [defaultIdentity?] at hdefault
      split at hdefault
      · exact .inl (Option.some.inj hdefault).symm
      split at hdefault
      · exact .inr (.inl (Option.some.inj hdefault).symm)
      split at hdefault
      · exact .inr (.inr (Option.some.inj hdefault).symm)
      · cases hdefault
    rcases hidentity with rfl | rfl | rfl <;> rcases hc with rfl | rfl <;>
      exact absurd hmem (by decide)

theorem mem_of_mem_marked {mark text : String} (h : c ∈ (marked mark text).toList) :
    c ∈ mark.toList ∨ c ∈ text.toList := by
  rw [marked] at h
  split at h
  · cases h
  · rw [String.toList_append] at h
    exact List.mem_append.1 h

/-- Each character before the query string is one of a literal or of a value. -/
theorem mem_text_written {params : Params} (h : c ∈ (pattern.written params).text) :
    c ∈ pattern.tokens.literals ∨
      ∃ name value, valueIn params name = some value ∧ c ∈ value.toList := by
  rw [written] at h
  split at h
  · exact .inl h
  · exact TokenTree.mem_text_write h

/-- If no literal has a parenthesis, each that is generated is one of a parameter, of the query
string or of the fragment. -/
theorem mem_of_parenthesis_build (hnormal : pattern.tokens.IsNormal) {params : Params}
    {query fragment url : String} (hbuild : pattern.build params query fragment = .ok url)
    (hc : c = '(' ∨ c = ')') (hmem : c ∈ url.toList) :
    (∃ name value, params.get? name = some value ∧ c ∈ value.toList) ∨
      c ∈ query.toList ∨ c ∈ fragment.toList := by
  have hmark : ∀ mark, c ∈ [mark] → mark = '(' ∨ mark = ')' := by
    rintro mark hmark
    rwa [← List.mem_singleton.1 hmark]
  obtain ⟨-, rfl⟩ := build_eq_ok_iff.1 hbuild
  rw [String.toList_append, String.toList_append, String.toList_ofList, List.mem_append,
    List.mem_append] at hmem
  -- the URL is what the tokens write, then the marked query string, then the marked fragment
  rcases hmem with (hmem | hmem) | hmem
  · rcases mem_text_written hmem with hliteral | ⟨name, value, hvalue, hmem⟩
    · obtain ⟨hopening, hclosing⟩ := hnormal.not_parenthesis hliteral
      exact absurd hc (not_or.2 ⟨hopening, hclosing⟩)
    · exact .inl ⟨name, value, get?_of_parenthesis hvalue hc hmem, hmem⟩
  · rcases mem_of_mem_marked hmem with hmem | hquery
    · exact absurd (hmark '?' hmem) (by decide)
    · exact .inr (.inl hquery)
  · rcases mem_of_mem_marked hmem with hmem | hfragment
    · exact absurd (hmark '#' hmem) (by decide)
    · exact .inr (.inr hfragment)

/-- Reading a pattern's body, which is the pattern less the catch-all at its end.

It succeeds exactly if the parentheses of the body are balanced. The tokens then print as the body
and are in normal form, so that every parenthesis of a generated URL is one of a parameter, of the
query string or of the fragment. If it fails, the message has the number of bytes before the first
parenthesis that closes nothing, which is the one with a balanced text before it, and if there is
none the number of parentheses that are never closed. -/
theorem parse_body (source : String) :
    let body := (splitCatchAll source.toList).1
    (body ++ catchAllEnding = source.toList ∨
        body = source.toList ∧ ¬ catchAllEnding <:+ source.toList) ∧
      ((∃ tokens, TokenTree.parse body = .ok tokens) ↔ Balanced body) ∧
      (∀ tokens, TokenTree.parse body = .ok tokens → tokens.print = body ∧ tokens.IsNormal) ∧
      (∀ pattern, compile source = .ok pattern →
        TokenTree.parse body = .ok pattern.tokens ∧
          ∀ params query fragment url, pattern.build params query fragment = .ok url →
            ∀ c ∈ url.toList, c = '(' ∨ c = ')' →
              (∃ name value, params.get? name = some value ∧ c ∈ value.toList) ∨
                c ∈ query.toList ∨ c ∈ fragment.toList) ∧
      ∀ fault, TokenTree.parse body = .error fault →
        compile source = .error (.invalidPattern source fault) ∧
          (∀ front rest, body = front ++ ')' :: rest → Balanced front →
            fault.reason =
              "unexpected ')' at offset " ++ toString (String.ofList front).utf8ByteSize) ∧
          ((∀ front rest, body = front ++ ')' :: rest → ¬ Balanced front) →
            fault.reason = toString (body.count '(' - body.count ')') ++ " unclosed '('") := by
  intro body
  refine ⟨append_catchAllEnding_or source.toList, ⟨?_, ?_⟩, ?_, ?_, ?_⟩
  · rintro ⟨tokens, htokens⟩
    exact (TokenTree.parse_eq_ok_iff.1 htokens).1
  · intro hbalanced
    exact ⟨_, TokenTree.parse_eq_of_balanced hbalanced⟩
  · intro tokens htokens
    exact ⟨TokenTree.print_of_parse htokens, TokenTree.isNormal_of_parse htokens⟩
  · -- a compiled pattern has the tokens of its body, so its literals have no parenthesis
    intro pattern hcompile
    have hparse := parse_of_compile hcompile
    refine ⟨hparse, fun params query fragment url hbuild c hmem hc => ?_⟩
    exact mem_of_parenthesis_build (TokenTree.isNormal_of_parse hparse) hbuild hc hmem
  · intro fault hfault
    refine ⟨compile_of_parse_error hfault, fun front rest hbody hfront => ?_, fun hnone => ?_⟩
    · rw [TokenTree.fault_of_closing hfault hbody hfront]
      rfl
    · rw [TokenTree.fault_of_forall_closing hfault hnone]
      rfl

/-- The percent sign that might begin a name is in a literal with what follows it, up to the one
that does begin a name. -/
example : TokenTree.parse "/%a b%id%(.ü)".toList =
    .ok (.literal "/%a b".toList (.placeholder "id" (.group (.literal ".ü".toList .done) .done))) := by
  decide +kernel

/-- The last parenthesis closes nothing. There are three characters before it, and four bytes. -/
example : TokenTree.parse "(ü))".toList = .error (.unexpectedClosing 4) := by decide +kernel

end Pattern

end RequestDispatch
