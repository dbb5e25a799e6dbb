import RequestDispatch.Proofs.Route.Rebuilding

/-!
# Generated URLs with a Dropped Group

URL generation ends at the first group that is not open, and writes nothing of what follows it. A
path of the pattern's language leaves out optional groups only. So the URL is in the language if
nothing but optional groups is left unwritten: `TokenTree.following` collects what follows the
dropped group, in its own list of tokens and in those around it, and `TokenTree.isOptional` says
that such a list consists of groups. What is written is then derived by taking the groups that
generation has entered and skipping all others (`TokenTree.text_write_mem_language`), and the
pattern matches the URL (`Pattern.isSome_captures_build`).
-/

namespace RequestDispatch

open Route

namespace Route.TokenTree

variable {value : String → Option String} {tree content rest : TokenTree}

/-! ## What follows a dropped group -/

/-- Whether the tokens are optional groups, all of them. -/
def isOptional : TokenTree → Bool
  | done => true
  | group _ rest => rest.isOptional
  | literal _ _ | placeholder _ _ => false

/-- What follows the group that is dropped: the rest of its own list of tokens, and then the rests
of the lists around it, from the innermost to the outermost. -/
def following (value : String → Option String) : TokenTree → List TokenTree
  | done => []
  | literal _ rest | placeholder _ rest => rest.following value
  | group content rest =>
    if content.isOpen value then
      if (content.write value).cut then content.following value ++ [rest]
      else rest.following value
    else [rest]

/-- A group that is skipped derives nothing, and then what follows it is derived. -/
theorem mem_language_group_of_skipped {text : List Char} (h : text ∈ rest.language) :
    text ∈ (group content rest).language := by
  have hskipped : [] ∈ content.language + 1 := .inr rfl
  exact Language.append_mem_mul hskipped h

/-- A group that is taken derives its content, and then what follows it is derived. -/
theorem mem_language_group_of_taken {first second : List Char} (hfirst : first ∈ content.language)
    (hsecond : second ∈ rest.language) : first ++ second ∈ (group content rest).language := by
  have htaken : first ∈ content.language + 1 := .inl hfirst
  exact Language.append_mem_mul htaken hsecond

/-- Optional groups derive nothing by skipping all of them. -/
theorem nil_mem_language_of_isOptional (h : rest.isOptional = true) : [] ∈ rest.language := by
  induction rest with
  | done => exact rfl
  | literal text rest ih => cases h
  | placeholder name rest ih => cases h
  | group content rest _ ih => exact mem_language_group_of_skipped (ih h)

/-! ## What is written of a group -/

/-- A group inside the tokens is dropped if the walk meets one that is not open. -/
theorem cut_write_eq_true_iff : (tree.write value).cut = true ↔ .closed ∈ tree.visits value := by
  rw [write_eq]
  exact List.contains_iff_mem

theorem write_group_of_cut (hopen : content.isOpen value = true)
    (hcut : (content.write value).cut = true) :
    (group content rest).write value = content.write value := by
  simp [write, hopen, hcut]

theorem write_group_of_not_cut (hopen : content.isOpen value = true)
    (hcut : (content.write value).cut = false) :
    (group content rest).write value = (content.write value).append (rest.write value) := by
  simp [write, hopen, hcut]

theorem writtenValues_placeholder {name text : String} (hname : value name = some text) :
    (placeholder name rest).writtenValues value = (name, text) :: rest.writtenValues value := by
  simp [writtenValues, Visit.written?, hname]

theorem writtenValues_group_of_cut (hopen : content.isOpen value = true)
    (hcut : (content.write value).cut = true) :
    (group content rest).writtenValues value = content.writtenValues value := by
  have hclosed := cut_write_eq_true_iff.1 hcut
  rw [writtenValues, beforeCut_group_of_closed_mem hopen hclosed, writtenValues]

theorem writtenValues_group_of_not_cut (hopen : content.isOpen value = true)
    (hcut : (content.write value).cut = false) :
    (group content rest).writtenValues value =
      content.writtenValues value ++ rest.writtenValues value := by
  have hclosed : .closed ∉ content.visits value := by
    rw [← cut_write_eq_true_iff, hcut]
    exact Bool.false_ne_true
  rw [writtenValues, beforeCut_group_of_closed_notMem hopen hclosed, List.filterMap_append]
  rfl

/-! ## The language -/

/-- What is written is a text of the tokens' language, if the values that are written can be taken
by placeholders and whatever follows a dropped group is optional. -/
theorem text_write_mem_language (hmissing : (tree.write value).missing = [])
    (hvalues : ∀ entry ∈ tree.writtenValues value, entry.2.toList ∈ lineTexts)
    (hcut : (tree.write value).cut = true → ∀ rest ∈ tree.following value, rest.isOptional = true) :
    (tree.write value).text ∈ tree.language := by
  induction tree with
  | done => exact rfl
  | literal text rest ih => exact Language.append_mem_mul rfl (ih hmissing hvalues hcut)
  | placeholder name rest ih =>
    cases hname : value name with
    | none => simp [write, hname, Written.addMissing] at hmissing
    | some text =>
      rw [writtenValues_placeholder hname, List.forall_mem_cons] at hvalues
      obtain ⟨hline, hvalues⟩ := hvalues
      simp only [write, hname, Written.prepend] at hmissing hcut ⊢
      exact Language.append_mem_mul hline (ih hmissing hvalues hcut)
  | group content rest ihContent ihRest =>
    cases hopen : content.isOpen value with
    | false =>
      -- the group is dropped, and it is skipped together with everything behind it
      have hwrite : (group content rest).write value = ⟨[], [], true⟩ := by
        simp [write, hopen]
      have hrest : rest.isOptional = true := by
        refine hcut (by rw [hwrite]) rest ?_
        simp [following, hopen]
      rw [hwrite]
      exact mem_language_group_of_skipped (nil_mem_language_of_isOptional hrest)
    | true =>
      cases hinner : (content.write value).cut with
      | true =>
        -- a group inside is dropped: the content is derived without it, and the rest is skipped
        rw [write_group_of_cut hopen hinner] at hmissing hcut ⊢
        rw [writtenValues_group_of_cut hopen hinner] at hvalues
        have hfollowing : (group content rest).following value =
            content.following value ++ [rest] := by
          rw [following, if_pos hopen, if_pos hinner]
        rw [hfollowing] at hcut
        have hcontent := ihContent hmissing hvalues fun h inner hmem =>
          hcut h inner (List.mem_append_left _ hmem)
        have hrest : rest.isOptional = true :=
          hcut hinner rest (List.mem_append_right _ (List.mem_singleton_self rest))
        rw [← List.append_nil (content.write value).text]
        exact mem_language_group_of_taken hcontent (nil_mem_language_of_isOptional hrest)
      | false =>
        rw [write_group_of_not_cut hopen hinner] at hmissing hcut ⊢
        rw [writtenValues_group_of_not_cut hopen hinner, List.forall_mem_append] at hvalues
        obtain ⟨hmissingContent, hmissingRest⟩ := List.append_eq_nil_iff.1 hmissing
        have hfollowing : (group content rest).following value = rest.following value := by
          rw [following, if_pos hopen, hinner, if_neg Bool.false_ne_true]
        rw [hfollowing] at hcut
        have hcontent := ihContent hmissingContent hvalues.1 fun h => by
          rw [hinner] at h
          cases h
        exact mem_language_group_of_taken hcontent (ihRest hmissingRest hvalues.2 hcut)

end Route.TokenTree

namespace Pattern

/-- A text of the tokens' language is in the language of the pattern, which takes no tail then. -/
theorem mem_language_of_tokens {pattern : Pattern} {text : List Char}
    (h : text ∈ pattern.tokens.language) : text ∈ pattern.language := by
  rw [language, Language.mem_mul]
  refine ⟨text, h, [], ?_, List.append_nil text⟩
  split
  · exact .inr rfl
  · rfl

/-- A pattern matches the URLs that are generated from it, if the values that are written are not
empty and have no line break, and if whatever follows a dropped group, in its own list of tokens and
in those around it, consists of optional groups. -/
theorem isSome_captures_build (pattern : Pattern) (params : Params) (url : String)
    (hbuild : pattern.build params "" "" = .ok url)
    (hvalues : ∀ entry ∈ pattern.writtenValues params, entry.2 ≠ "" ∧ '\n' ∉ entry.2.toList)
    (hcut : (pattern.written params).cut = true →
      ∀ rest ∈ pattern.tokens.following (valueIn params), rest.isOptional = true) :
    (pattern.captures url).isSome := by
  have hurl := toList_of_build_eq_ok hbuild
  have hmissing := (build_eq_ok_iff.1 hbuild).1
  rw [isSome_captures_iff, hurl]
  apply mem_language_of_tokens
  by_cases hplaceholders : pattern.placeholders = []
  · -- all literals are written, those of groups too, as the walk over the tokens writes them
    have hnames := names_eq_nil_of_placeholders_eq_nil hplaceholders
    have hvalued : ∀ name ∈ pattern.tokens.names,
        ∃ text, valueIn params name = some text ∧ text.toList ∈ lineTexts := by
      intro name hname
      rw [hnames] at hname
      cases hname
    obtain ⟨text, hlanguage, hwrite⟩ := TokenTree.exists_write_mem_language hvalued
    rw [written_eq_of_write hwrite]
    exact hlanguage
  · rw [written_eq_write params hplaceholders] at hmissing hcut ⊢
    refine TokenTree.text_write_mem_language hmissing (fun entry hentry => ?_) hcut
    obtain ⟨hne, hline⟩ := hvalues entry hentry
    exact ⟨fun hnil => hne (String.toList_eq_nil_iff.1 hnil), hline⟩

/-- A value with a slash in it, and a dropped group with groups behind it in its own list and in the
list around it. -/
theorem isSome_captures_build_nested :
    ∃ pattern params, compile "/%a%(/in(/%b%)(/%c%))(/%d%)(/*)" = .ok pattern ∧
      params = .ofList [("a", "x/y"), ("d", "z")] ∧
      pattern.build params "" "" = .ok "/x/y/in" ∧
      (∀ entry ∈ pattern.writtenValues params, entry.2 ≠ "" ∧ '\n' ∉ entry.2.toList) ∧
      (pattern.written params).cut = true ∧
      (pattern.tokens.following (valueIn params)).length = 2 ∧
      (∀ rest ∈ pattern.tokens.following (valueIn params), rest.isOptional = true) ∧
      (pattern.captures "/x/y/in").isSome := by
  let pattern : Pattern :=
    { source := "/%a%(/in(/%b%)(/%c%))(/%d%)(/*)"
      tokens := .literal ['/'] (.placeholder "a"
        (.group (.literal ['/', 'i', 'n'] (.group (.literal ['/'] (.placeholder "b" .done))
          (.group (.literal ['/'] (.placeholder "c" .done)) .done)))
          (.group (.literal ['/'] (.placeholder "d" .done)) .done)))
      catchAll := true }
  let params : Params := .ofList [("a", "x/y"), ("d", "z")]
  have hbuild : pattern.build params "" "" = .ok "/x/y/in" := by decide +kernel
  have hvalues : ∀ entry ∈ pattern.writtenValues params,
      entry.2 ≠ "" ∧ '\n' ∉ entry.2.toList := by decide +kernel
  have hfollowing : ∀ rest ∈ pattern.tokens.following (valueIn params),
      rest.isOptional = true := by decide +kernel
  exact ⟨pattern, params, by decide +kernel, rfl, hbuild, hvalues, by decide +kernel,
    by decide +kernel, hfollowing,
    isSome_captures_build pattern params _ hbuild hvalues fun _ => hfollowing⟩

end Pattern

end RequestDispatch
