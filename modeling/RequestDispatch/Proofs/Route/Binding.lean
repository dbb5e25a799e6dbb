import RequestDispatch.Proofs.Route.Missing

/-!
# What a Match Binds

A path that matches a pattern goes through every placeholder outside the groups
(`TokenTree.outerNames`), each of which takes one or more characters of it
(`Derives.exists_mem_bindings`). What is captured for a name is what its occurrences took, without
the slashes at the end. So a name is captured exactly if one of its occurrences took something
besides slashes (`Pattern.get?_paramsOf_eq_none_iff`), and a placeholder that took slashes only is
absent, also outside the groups: `Pattern.captures_slashes_unbound` has such a path.

So if the pattern cannot be built from what a path captured, what is missing are placeholders of
that kind. `Pattern.captures_binds_outer` states both.
-/

namespace RequestDispatch

open Route

namespace Route

variable {tree : TokenTree}

/-- Every derivation goes through the placeholders outside the groups. -/
theorem Derives.exists_mem_bindings {path left : List Char} {choices : List Choice}
    {bindings : Bindings} (h : Derives tree path choices bindings left) {name : String}
    (hname : name ∈ tree.outerNames) : ∃ text, (name, text) ∈ bindings := by
  induction h with
  | done path => cases hname
  | literal _ _ ih => exact ih hname
  | placeholder other _ _ _ ih =>
    rcases List.mem_cons.1 hname with rfl | hname
    · exact ⟨_, List.mem_cons_self⟩
    · obtain ⟨text, htext⟩ := ih hname
      exact ⟨text, List.mem_cons_of_mem _ htext⟩
  | taken _ _ _ ihTree =>
    obtain ⟨text, htext⟩ := ihTree hname
    exact ⟨text, List.mem_append_right _ htext⟩
  | skipped _ ih => exact ih hname

end Route

namespace Pattern

/-- An occurrence contributes nothing exactly if it took slashes only. -/
theorem contribution?_eq_none_iff {text : List Char} :
    contribution? text = none ↔ ∀ c ∈ text, c = '/' := by
  simp [contribution?]

/-- A name has no parameter exactly if its occurrences took slashes only. -/
theorem get?_paramsOf_eq_none_iff {bindings : Bindings} {name : String} :
    (paramsOf bindings).get? name = none ↔
      ∀ text, (name, text) ∈ bindings → ∀ c ∈ text, c = '/' := by
  rw [get?_paramsOf, List.getLast?_eq_none_iff, contributions, List.filterMap_eq_nil_iff]
  constructor
  · intro h text hmem
    have hnone := h _ hmem
    rw [if_pos rfl] at hnone
    exact contribution?_eq_none_iff.1 hnone
  · rintro h ⟨other, text⟩ hmem
    by_cases hname : other = name
    · subst hname
      rw [if_pos rfl]
      exact contribution?_eq_none_iff.2 (h text hmem)
    · exact if_neg hname

/-- A captured parameter is not empty. -/
theorem ne_empty_of_captures {pattern : Pattern} {path name value : String} {params : Params}
    (hcaptures : pattern.captures path = some params) (hvalue : params.get? name = some value) :
    value ≠ "" := by
  rintro rfl
  exact (mem_lineTexts_of_captures hcaptures hvalue).1 rfl

/-- What a matching path binds outside the groups, and what is missing if the pattern is built from
what was captured. Each placeholder outside the groups takes one or more characters of the path. It
is captured, and not as an empty text, exactly if something besides slashes was taken for its name.
So a URL is generated from the captured parameters, or else each placeholder that is reported
missing stands outside the groups and took slashes only. -/
theorem captures_binds_outer {pattern : Pattern} {path : String} {params : Params}
    (hcaptures : pattern.captures path = some params) :
    ∃ choices bindings, pattern.First path.toList choices bindings ∧
      (∀ name ∈ pattern.tokens.outerNames,
        (∃ text, (name, text) ∈ bindings) ∧
        (∀ text, (name, text) ∈ bindings → text ≠ []) ∧
        ((∃ value, params.get? name = some value ∧ value ≠ "") ↔
          ∃ text, (name, text) ∈ bindings ∧ ∃ c ∈ text, c ≠ '/')) ∧
      ∀ query fragment,
        (∃ url, pattern.build params query fragment = .ok url) ∨
        ∃ missing, missing ≠ [] ∧
          pattern.build params query fragment = .error (.invalidParams pattern.source missing) ∧
          ∀ name ∈ missing, name ∈ pattern.tokens.outerNames ∧
            ∀ text, (name, text) ∈ bindings → ∀ c ∈ text, c = '/' := by
  obtain ⟨choices, bindings, hfirst, rfl⟩ := captures_eq_some_iff_first.1 hcaptures
  obtain ⟨inner, left, last, hderives, -, -⟩ := derives_iff_exists_tokens.1 hfirst.derives
  refine ⟨choices, bindings, hfirst, fun name hname => ⟨?_, ?_, ?_⟩, fun query fragment => ?_⟩
  · exact hderives.exists_mem_bindings hname
  · intro text htext
    exact (hderives.mem_lineTexts htext).1
  · -- a name is absent if and only if slashes were all that was taken for it
    have hbound : (∃ value, (paramsOf bindings).get? name = some value) ↔
        ∃ text, (name, text) ∈ bindings ∧ ∃ c ∈ text, c ≠ '/' := by
      rw [← Option.ne_none_iff_exists', ne_eq, get?_paramsOf_eq_none_iff]
      push Not
      rfl
    rw [← hbound]
    exact exists_congr fun value =>
      and_iff_left_of_imp fun hvalue => ne_empty_of_captures hcaptures hvalue
  · cases hbuild : pattern.build (paramsOf bindings) query fragment with
    | ok url => exact .inl ⟨url, rfl⟩
    | error error =>
      -- what is missing has no value, and so it was not captured
      obtain ⟨hne, rfl⟩ := build_eq_error_iff.1 hbuild
      have hreported := firstAppearances_eraseDups (pattern.written (paramsOf bindings)).missing
      refine .inr ⟨_, fun hnil => hne (hreported.eq_nil_iff.1 hnil), rfl, fun name hname => ?_⟩
      rw [hreported.mem_iff, missing_written_eq, List.mem_filter, Option.isNone_iff_eq_none,
        valueIn, Option.or_eq_none_iff] at hname
      obtain ⟨hrequired, hunbound, -⟩ := hname
      exact ⟨(TokenTree.required_sublist pattern.tokens).subset hrequired,
        get?_paramsOf_eq_none_iff.1 hunbound⟩

/-- A path that binds one placeholder to text and leaves a slash for the other one. -/
theorem captures_binds_outer_slash :
    ∃ pattern params choices bindings,
      compile "/%a%/%b%" = .ok pattern ∧ params = .ofList [("a", "x")] ∧
      pattern.captures "/x//" = some params ∧
      pattern.First "/x//".toList choices bindings ∧
      "a" ∈ pattern.tokens.outerNames ∧ "b" ∈ pattern.tokens.outerNames ∧
      params.get? "a" = some "x" ∧ (∃ text, ("a", text) ∈ bindings ∧ ∃ c ∈ text, c ≠ '/') ∧
      (∃ text, ("b", text) ∈ bindings) ∧
      (∀ text, ("b", text) ∈ bindings → text ≠ [] ∧ ∀ c ∈ text, c = '/') ∧
      pattern.build params "" "" = .error (.invalidParams pattern.source ["b"]) := by
  let pattern : Pattern :=
    { source := "/%a%/%b%"
      tokens := .literal ['/'] (.placeholder "a" (.literal ['/'] (.placeholder "b" .done)))
      catchAll := false }
  let params : Params := .ofList [("a", "x")]
  have hcaptures : pattern.captures "/x//" = some params := by decide +kernel
  have ha : "a" ∈ pattern.tokens.outerNames := by decide
  have hb : "b" ∈ pattern.tokens.outerNames := by decide
  have hvalue : params.get? "a" = some "x" := by decide +kernel
  have hbuild : pattern.build params "" "" = .error (.invalidParams pattern.source ["b"]) := by
    decide +kernel
  obtain ⟨choices, bindings, hfirst, houter, hrebuilt⟩ := captures_binds_outer hcaptures
  obtain ⟨-, -, hbound⟩ := houter "a" ha
  obtain ⟨htaken, hnonempty, -⟩ := houter "b" hb
  have hslashes : ∀ text, ("b", text) ∈ bindings → ∀ c ∈ text, c = '/' := by
    rcases hrebuilt "" "" with ⟨url, hurl⟩ | ⟨missing, -, herror, hmissing⟩
    · rw [hbuild] at hurl
      cases hurl
    · rw [hbuild] at herror
      cases herror
      exact (hmissing "b" (List.mem_singleton_self "b")).2
  exact ⟨pattern, params, choices, bindings, by decide +kernel, rfl, hcaptures, hfirst, ha, hb,
    hvalue, hbound.1 ⟨"x", hvalue, by decide⟩, htaken,
    fun text htext => ⟨hnonempty text htext, hslashes text htext⟩, hbuild⟩

/-- A path that matches without binding the only placeholder of the pattern, which stands outside
every group: all that is left for it is a slash. The pattern cannot be built from what is captured. -/
theorem captures_slashes_unbound :
    ∃ pattern params,
      compile "/%a%" = .ok pattern ∧ "a" ∈ pattern.tokens.outerNames ∧
      pattern.captures "//" = some params ∧ params.get? "a" = none ∧
      pattern.build params "" "" = .error (.invalidParams "/%a%" ["a"]) := by
  let pattern : Pattern :=
    { source := "/%a%", tokens := .literal ['/'] (.placeholder "a" .done), catchAll := false }
  refine ⟨pattern, ∅, ?_, ?_, ?_, rfl, ?_⟩ <;> decide +kernel

end Pattern

end RequestDispatch
