import Mathlib.Data.List.Pairwise
import RequestDispatch.Proofs.Route.Captures
import RequestDispatch.Proofs.Route.Generation

/-!
# Rebuilding a URL from What Was Captured

If a path binds every placeholder of a pattern, a URL can be generated from what was captured,
and the pattern matches it again. It writes all groups, and the values without the slashes that
were dropped at their ends, so it need not be the text that was matched, and matching it need not
capture the same: `Pattern.captures_rebuilt_ne` has a path for which it does not.

It does where the URL is the text that was matched. A derivation does not depend on what it
leaves (`Derives.exists_text`), so the first derivation of a path, cut off where the tokens end,
is the first one of the text before that (`Pattern.FirstLeaves.matched`). If no group was skipped
and each occurrence bound the value that was captured, that text is what generation writes
(`Derives.exists_write`). `Pattern.exists_build_of_captures` is put together from these.
-/

namespace RequestDispatch

open Route Text

namespace Route

variable {tree : TokenTree} {path left : List Char} {choices : List Choice} {bindings : Bindings}

/-! ## Derivations and the text they match -/

/-- What a derivation leaves of a path plays no part in it: the text before is derived with the
same decisions, whatever follows. -/
theorem Derives.exists_text (h : Derives tree path choices bindings left) :
    ∃ text, path = text ++ left ∧ ∀ other, Derives tree (text ++ other) choices bindings other := by
  induction h with
  | done path => exact ⟨[], rfl, .done⟩
  | literal text _ ih =>
    obtain ⟨rest, rfl, hrest⟩ := ih
    refine ⟨text ++ rest, (List.append_assoc ..).symm, fun other => ?_⟩
    rw [List.append_assoc]
    exact (hrest other).literal text
  | @placeholder name text _ _ _ _ _ hne hline _ ih =>
    obtain ⟨rest, rfl, hrest⟩ := ih
    refine ⟨text ++ rest, (List.append_assoc ..).symm, fun other => ?_⟩
    rw [List.append_assoc]
    exact (hrest other).placeholder name hne hline
  | taken _ _ ihContent ihTree =>
    obtain ⟨first, rfl, hfirst⟩ := ihContent
    obtain ⟨rest, rfl, hrest⟩ := ihTree
    refine ⟨first ++ rest, (List.append_assoc ..).symm, fun other => ?_⟩
    rw [List.append_assoc]
    exact (hfirst _).taken (hrest other)
  | skipped _ ih =>
    obtain ⟨rest, rfl, hrest⟩ := ih
    exact ⟨rest, rfl, fun other => (hrest other).skipped⟩

/-- The text that is derived can be exchanged for the path with anything in place of what was
left. -/
theorem Derives.replace_left {text : List Char}
    (h : Derives tree (text ++ left) choices bindings left) (other : List Char) :
    Derives tree (text ++ other) choices bindings other := by
  obtain ⟨matched, hpath, hmatched⟩ := h.exists_text
  obtain rfl : text = matched := List.append_cancel_right hpath
  exact hmatched other

/-- Placeholders bind one or more characters without a line break. -/
theorem Derives.mem_lineTexts (h : Derives tree path choices bindings left)
    {binding : String × List Char} (hmem : binding ∈ bindings) : binding.2 ∈ lineTexts := by
  induction h with
  | done path => simp at hmem
  | literal _ _ ih => exact ih hmem
  | placeholder name hne hline _ ih =>
    rcases List.mem_cons.1 hmem with rfl | hmem
    · exact ⟨hne, hline⟩
    · exact ih hmem
  | taken _ _ ihContent ihTree =>
    rcases List.mem_append.1 hmem with hmem | hmem
    · exact ihContent hmem
    · exact ihTree hmem
  | skipped _ ih => exact ih hmem

/-- Two derivations are comparable if they are the same or one of them comes before the other. -/
def Decided.Comparable (a b : Decided) : Prop :=
  b = a ∨ Earlier a.choices b.choices ∨ Earlier b.choices a.choices

instance : Std.Symm Decided.Comparable where
  symm _ _ h := h.elim (fun heq => .inl heq.symm) fun hearlier => .inr hearlier.symm

/-- Of two derivations of a path one comes before the other, unless they are the same. -/
theorem Derives.eq_or_earlier (h : Derives tree path choices bindings left)
    {others : List Choice} {found : Bindings} {rest : List Char}
    (hother : Derives tree path others found rest) :
    (others = choices ∧ found = bindings ∧ rest = left) ∨ Earlier choices others ∨
      Earlier others choices := by
  -- all derivations are listed in their order, so that any two of them are comparable
  have hsorted : (decided tree path).Pairwise Decided.Comparable :=
    (pairwise_earlier_decided tree path).imp fun hearlier => .inr (.inl hearlier)
  have hcomparable := hsorted.forall_of_forall (fun a _ => .inl rfl)
    (derives_iff_mem_decided.1 h) (derives_iff_mem_decided.1 hother)
  simpa [Decided.Comparable, Decided.mk.injEq] using hcomparable

/-! ## What generation writes if every placeholder has a value -/

namespace TokenTree

variable {value : String → Option String}

/-- A group is open if its placeholders have values. -/
theorem isOpen_of_forall_isSome (h : ∀ name ∈ tree.names, (value name).isSome) :
    tree.isOpen value = true := by
  induction tree with
  | done => rfl
  | literal text rest ih => exact ih h
  | placeholder name rest ih =>
    have hname : (value name).isSome := h name List.mem_cons_self
    rw [isOpen, hname, ih fun other hother => h other (List.mem_cons_of_mem _ hother)]
    rfl
  | group content rest _ ih => exact ih fun name hname => h name (List.mem_append_right _ hname)

/-- An open group that is written whole is followed by what comes after it. -/
theorem write_group {content rest : TokenTree} {first second : List Char}
    (hopen : content.isOpen value = true) (hcontent : content.write value = ⟨first, [], false⟩)
    (hrest : rest.write value = ⟨second, [], false⟩) :
    (group content rest).write value = ⟨first ++ second, [], false⟩ := by
  simp [write, hopen, hcontent, hrest, Written.append]

/-- If every placeholder has a value, a text of the tokens' language is written: nothing is
missing, and no group is dropped. -/
theorem exists_write_mem_language
    (h : ∀ name ∈ tree.names, ∃ text, value name = some text ∧ text.toList ∈ lineTexts) :
    ∃ text ∈ tree.language, tree.write value = ⟨text, [], false⟩ := by
  induction tree with
  | done => exact ⟨[], rfl, rfl⟩
  | literal text rest ih =>
    obtain ⟨tail, htail, hwrite⟩ := ih h
    refine ⟨text ++ tail, Language.append_mem_mul rfl htail, ?_⟩
    rw [write, hwrite, Written.prepend]
  | placeholder name rest ih =>
    obtain ⟨text, hname, hline⟩ := h name List.mem_cons_self
    obtain ⟨tail, htail, hwrite⟩ := ih fun other hother => h other (List.mem_cons_of_mem _ hother)
    refine ⟨text.toList ++ tail, Language.append_mem_mul hline htail, ?_⟩
    simp only [write, hname, hwrite, Written.prepend]
  | group content rest ihContent ihRest =>
    have hcontent := fun name hname => h name (List.mem_append_left _ hname)
    obtain ⟨first, hfirst, hwriteContent⟩ := ihContent hcontent
    have hrest := fun name hname => h name (List.mem_append_right _ hname)
    obtain ⟨tail, htail, hwriteRest⟩ := ihRest hrest
    -- no group stays closed, as those whose placeholders are in it have values too
    have hopen : content.isOpen value = true := by
      refine isOpen_of_forall_isSome fun name hname => ?_
      obtain ⟨text, hvalue, -⟩ := hcontent name hname
      rw [hvalue, Option.isSome_some]
    exact ⟨first ++ tail, Language.append_mem_mul (.inl hfirst) htail,
      write_group hopen hwriteContent hwriteRest⟩

/-- Without placeholders, all literals are written. -/
theorem write_of_names_eq_nil (h : tree.names = []) :
    tree.write value = ⟨tree.literals, [], false⟩ := by
  induction tree with
  | done => rfl
  | literal text rest ih => rw [write, ih h, literals, Written.prepend]
  | placeholder name rest ih => simp [names] at h
  | group content rest ihContent ihRest =>
    obtain ⟨hcontent, hrest⟩ := List.append_eq_nil_iff.1 h
    have hopen : content.isOpen value = true :=
      isOpen_of_forall_isSome fun name hname => by simp [hcontent] at hname
    exact write_group hopen (ihContent hcontent) (ihRest hrest)

end TokenTree

/-- Where each placeholder occurrence of a derivation has bound the value of its name, the groups
that it has taken are open. -/
theorem Derives.isOpen {value : String → Option String}
    (h : Derives tree path choices bindings left)
    (hvalue : ∀ binding ∈ bindings, value binding.1 = some (String.ofList binding.2)) :
    tree.isOpen value = true := by
  induction h with
  | done path => rfl
  | literal _ _ ih => exact ih hvalue
  | placeholder name _ _ _ ih =>
    have hname := hvalue _ List.mem_cons_self
    have hrest := ih fun binding hmem => hvalue binding (List.mem_cons_of_mem _ hmem)
    rw [TokenTree.isOpen, hname, hrest]
    rfl
  | taken _ _ _ ihTree =>
    exact ihTree fun binding hmem => hvalue binding (List.mem_append_right _ hmem)
  | skipped _ ih => exact ih hvalue

/-- If a derivation skips no group and each placeholder occurrence has bound the value of its
name, generation writes the text that was derived. -/
theorem Derives.exists_write {value : String → Option String}
    (h : Derives tree path choices bindings left) (hskipped : .skipped ∉ choices)
    (hvalue : ∀ binding ∈ bindings, value binding.1 = some (String.ofList binding.2)) :
    ∃ text, path = text ++ left ∧ tree.write value = ⟨text, [], false⟩ := by
  induction h with
  | done path => exact ⟨[], rfl, rfl⟩
  | literal text _ ih =>
    obtain ⟨rest, rfl, hwrite⟩ := ih hskipped hvalue
    refine ⟨text ++ rest, (List.append_assoc ..).symm, ?_⟩
    rw [TokenTree.write, hwrite, Written.prepend]
  | @placeholder name text _ _ _ _ _ _ _ _ ih =>
    have hname := hvalue _ List.mem_cons_self
    obtain ⟨rest, rfl, hwrite⟩ := ih (fun hmem => hskipped (List.mem_cons_of_mem _ hmem))
      fun binding hmem => hvalue binding (List.mem_cons_of_mem _ hmem)
    refine ⟨text ++ rest, (List.append_assoc ..).symm, ?_⟩
    simp only [TokenTree.write, hname, hwrite, Written.prepend, String.toList_ofList]
  | taken hcontent _ ihContent ihTree =>
    -- a group that was taken is open, and so it is written as well
    have hinner := fun binding hmem => hvalue binding (List.mem_append_left _ hmem)
    obtain ⟨first, rfl, hwriteContent⟩ := ihContent (fun hmem => hskipped (by simp [hmem])) hinner
    obtain ⟨rest, rfl, hwriteTree⟩ := ihTree (fun hmem => hskipped (by simp [hmem]))
      fun binding hmem => hvalue binding (List.mem_append_right _ hmem)
    exact ⟨first ++ rest, (List.append_assoc ..).symm,
      TokenTree.write_group (hcontent.isOpen hinner) hwriteContent hwriteTree⟩
  | skipped _ _ => exact absurd List.mem_cons_self hskipped

end Route

namespace Pattern

variable {pattern : Pattern} {choices : List Choice} {bindings : Bindings}

/-! ## Where the first derivation ends -/

/-- A derivation of a whole path is one of the tokens with the decision about what it leaves. -/
theorem derives_iff_exists_tokens {path : List Char} :
    pattern.Derives path choices bindings ↔
      ∃ inner left last, Route.Derives pattern.tokens path inner bindings left ∧
        ending? pattern.catchAll left = some last ∧ choices = inner ++ last := by
  rw [derives_iff_mem_decidedPaths, decidedPaths, List.mem_filterMap]
  constructor
  · rintro ⟨found, hfound, hlast⟩
    obtain ⟨last, hending, hpair⟩ := Option.map_eq_some_iff.1 hlast
    cases hpair
    exact ⟨_, _, last, derives_iff_mem_decided.2 hfound, hending, rfl⟩
  · rintro ⟨inner, left, last, hderives, hending, rfl⟩
    exact ⟨_, derives_iff_mem_decided.1 hderives, by rw [hending]; rfl⟩

/-- Only a catch-all leaves something, and it takes that. -/
theorem ending?_of_ne_nil {catchAll : Bool} {left : List Char} {last : List Choice}
    (h : ending? catchAll left = some last) (hne : left ≠ []) :
    catchAll = true ∧ isTail left = true ∧ last = [.taken] := by
  have hnonempty : left.isEmpty = false := by simpa using hne
  rw [ending?, hnonempty] at h
  split at h
  · rename_i htail
    rw [Bool.and_eq_true] at htail
    exact ⟨htail.1, htail.2, (Option.some.inj h).symm⟩
  · simp at h

/-- What a catch-all may be left with, or nothing, together with a tail behind it is a tail. -/
theorem isTail_append {other left : List Char} (hother : other = [] ∨ isTail other = true)
    (hleft : isTail left = true) : isTail (other ++ left) = true := by
  rcases hother with rfl | hother
  · exact hleft
  · obtain ⟨before, rfl, hbefore⟩ := isTail_iff.1 hother
    obtain ⟨after, rfl, hafter⟩ := isTail_iff.1 hleft
    refine isTail_iff.2 ⟨before ++ '/' :: after, rfl, ?_⟩
    simp [hbefore, hafter]

/-- The first derivation of a path, taken apart: the decisions and the bindings of the tokens, and
what they leave of the path for its end. -/
def FirstLeaves (pattern : Pattern) (path : List Char) (choices : List Choice)
    (bindings : Bindings) (left : List Char) : Prop :=
  Route.Derives pattern.tokens path choices bindings left ∧
    ∃ last, ending? pattern.catchAll left = some last ∧
      pattern.First path (choices ++ last) bindings

/-- The text that the tokens have matched is derived first in the same way as the path. -/
theorem FirstLeaves.matched {text left : List Char}
    (h : pattern.FirstLeaves (text ++ left) choices bindings left) :
    pattern.FirstLeaves text choices bindings [] := by
  obtain ⟨hderives, last, hending, hfirst⟩ := h
  have htext : Route.Derives pattern.tokens text choices bindings [] := by
    simpa using hderives.replace_left []
  by_cases hne : left = []
  · -- the text is the whole path
    subst hne
    rw [List.append_nil] at hfirst
    exact ⟨htext, last, hending, hfirst⟩
  -- the catch-all has taken what is left; of the text alone it takes nothing
  obtain ⟨hcatch, htail, rfl⟩ := ending?_of_ne_nil hending hne
  have hnil : ending? pattern.catchAll [] = some [.skipped] := by
    rw [hcatch]
    rfl
  refine ⟨htext, [.skipped], hnil, derives_iff_exists_tokens.2 ⟨_, _, _, htext, hnil, rfl⟩, ?_⟩
  intro others found hother
  obtain ⟨inner, rest, final, hinner, hfinal, rfl⟩ := derives_iff_exists_tokens.1 hother
  -- with the tail behind it, the other derivation is one of the path, and so comes no earlier
  have hwhole : pattern.Derives (text ++ left) (inner ++ [.taken]) found := by
    obtain ⟨matched, rfl, hmatched⟩ := hinner.exists_text
    have hrest : isTail (rest ++ left) = true := by
      refine isTail_append ?_ htail
      by_cases hnone : rest = []
      · exact .inl hnone
      · exact .inr (ending?_of_ne_nil hfinal hnone).2.1
    refine derives_iff_exists_tokens.2 ⟨inner, rest ++ left, _, ?_, ?_, rfl⟩
    · rw [List.append_assoc]
      exact hmatched (rest ++ left)
    · rw [ending?, hcatch, hrest]
      rfl
  rcases htext.eq_or_earlier hinner with ⟨rfl, rfl, rfl⟩ | hearlier | hlater
  · rw [hnil, Option.some_inj] at hfinal
    exact .inl ⟨by rw [hfinal], rfl⟩
  · exact .inr (hearlier.append _ _)
  · have habsurd := hlater.append [.taken] [.taken]
    rcases hfirst.earlier _ _ hwhole with ⟨heq, -⟩ | hearlier
    · rw [heq] at habsurd
      exact absurd habsurd habsurd.asymm
    · exact absurd hearlier habsurd.asymm

/-- What is captured is what the first derivation binds. -/
theorem FirstLeaves.captures_eq {path : String} {left : List Char}
    (h : pattern.FirstLeaves path.toList choices bindings left) :
    pattern.captures path = some (paramsOf bindings) := by
  obtain ⟨-, last, -, hfirst⟩ := h
  exact captures_eq_some_iff_first.2 ⟨_, _, hfirst, rfl⟩

/-! ## Rebuilding -/

/-- A captured value has one or more characters and no line break. -/
theorem mem_lineTexts_of_captures {path name value : String} {params : Params}
    (hcaptures : pattern.captures path = some params) (hvalue : params.get? name = some value) :
    value.toList ∈ lineTexts := by
  obtain ⟨choices, bindings, hfirst, rfl⟩ := captures_eq_some_iff_first.1 hcaptures
  obtain ⟨inner, left, last, hderives, -, -⟩ := derives_iff_exists_tokens.1 hfirst.derives
  rw [get?_paramsOf] at hvalue
  obtain ⟨⟨other, text⟩, hmem, hcontributes⟩ :=
    List.mem_filterMap.1 (List.mem_of_getLast? hvalue)
  have hcontribution : contribution? text = some value := by
    by_cases hname : other = name <;> simp_all
  -- slashes are dropped from the text, but not all of it
  rw [contribution?] at hcontribution
  split at hcontribution
  · simp at hcontribution
  · rename_i hne
    obtain rfl := Option.some.inj hcontribution
    rw [String.toList_ofList]
    refine ⟨hne, fun hline => (hderives.mem_lineTexts hmem).2 ?_⟩
    exact (List.rdropWhile_prefix _ _).subset hline

/-- If every placeholder has a value, generation walks over the tokens, with or without
placeholders. -/
theorem written_eq_of_write {params : Params} {text : List Char}
    (hwrite : pattern.tokens.write (valueIn params) = ⟨text, [], false⟩) :
    pattern.written params = ⟨text, [], false⟩ := by
  by_cases hplaceholders : pattern.placeholders = []
  · have hnames := names_eq_nil_of_placeholders_eq_nil hplaceholders
    rw [← hwrite, TokenTree.write_of_names_eq_nil hnames, written, hplaceholders]
    rfl
  · rw [written_eq_write params hplaceholders, hwrite]

/-- If a path binds every placeholder, a URL can be generated from what it captures, and the
pattern matches that URL again. It captures the same from it, provided that the path's first
derivation skips no group and that each placeholder occurrence binds the very value that is
captured under its name. -/
theorem exists_build_of_captures {path : String} {params : Params}
    (hcaptures : pattern.captures path = some params)
    (hbound : ∀ name ∈ pattern.placeholders, (params.get? name).isSome) :
    ∃ url, pattern.build params "" "" = .ok url ∧ (pattern.captures url).isSome ∧
      ∀ choices bindings left, pattern.FirstLeaves path.toList choices bindings left →
        .skipped ∉ choices →
        (∀ binding ∈ bindings, params.get? binding.1 = some (String.ofList binding.2)) →
        pattern.captures url = some params := by
  have hvalues : ∀ name ∈ pattern.tokens.names,
      ∃ text, valueIn params name = some text ∧ text.toList ∈ lineTexts := by
    intro name hname
    obtain ⟨text, htext⟩ := Option.isSome_iff_exists.1 (hbound name (List.mem_eraseDups.2 hname))
    exact ⟨text, by rw [valueIn, htext, Option.some_or], mem_lineTexts_of_captures hcaptures htext⟩
  obtain ⟨text, hlanguage, hwrite⟩ := TokenTree.exists_write_mem_language hvalues
  have hwritten := written_eq_of_write hwrite
  have hbuild : pattern.build params "" "" = .ok (String.ofList text) := by
    refine build_eq_ok_iff.2 ⟨by rw [hwritten], ?_⟩
    rw [hwritten]
    simp
  refine ⟨String.ofList text, hbuild, ?_, ?_⟩
  · rw [isSome_captures_iff, String.toList_ofList, language, Language.mem_mul]
    refine ⟨text, hlanguage, [], ?_, List.append_nil text⟩
    split
    · exact .inr rfl
    · rfl
  · intro choices bindings left hfirst hskipped hbindings
    have hvalue : ∀ binding ∈ bindings,
        valueIn params binding.1 = some (String.ofList binding.2) := by
      intro binding hmem
      rw [valueIn, hbindings binding hmem, Option.some_or]
    -- the URL is the text that the tokens have matched
    obtain ⟨matched, hpath, hmatched⟩ := hfirst.1.exists_write hskipped hvalue
    obtain rfl : text = matched := by
      rw [hwrite] at hmatched
      exact congrArg Written.text hmatched
    have hparams := hfirst.captures_eq
    rw [hpath] at hfirst
    have hrebuilt : pattern.FirstLeaves (String.ofList text).toList choices bindings [] := by
      rw [String.toList_ofList]
      exact hfirst.matched
    rw [hrebuilt.captures_eq, ← hparams, hcaptures]

/-- A path with a group that is taken and a tail that is left to the catch-all. -/
theorem exists_build_of_captures_tail :
    ∃ pattern params choices bindings,
      compile "/%a%(/%b%)(/*)" = .ok pattern ∧
      pattern.captures "/x/y/z" = some params ∧ params = .ofList [("a", "x"), ("b", "y")] ∧
      (∀ name ∈ pattern.placeholders, (params.get? name).isSome) ∧
      pattern.FirstLeaves "/x/y/z".toList choices bindings "/z".toList ∧
      .skipped ∉ choices ∧
      (∀ binding ∈ bindings, params.get? binding.1 = some (String.ofList binding.2)) ∧
      pattern.build params "" "" = .ok "/x/y" ∧ pattern.captures "/x/y" = some params := by
  let pattern : Pattern :=
    { source := "/%a%(/%b%)(/*)"
      tokens := .literal ['/'] (.placeholder "a"
        (.group (.literal ['/'] (.placeholder "b" .done)) .done))
      catchAll := true }
  let params : Params := .ofList [("a", "x"), ("b", "y")]
  let choices : List Choice := [.length 1, .taken, .length 1]
  let bindings : Bindings := [("a", ['x']), ("b", ['y'])]
  have hcaptures : pattern.captures "/x/y/z" = some params := by decide +kernel
  have hbound : ∀ name ∈ pattern.placeholders, (params.get? name).isSome := by decide +kernel
  have hfirst : pattern.FirstLeaves "/x/y/z".toList choices bindings "/z".toList := by
    refine ⟨derives_iff_mem_decided.2 (by decide +kernel), [.taken], by decide +kernel, ?_⟩
    exact first_iff_head?.2 (by decide +kernel)
  have hbindings : ∀ binding ∈ bindings,
      params.get? binding.1 = some (String.ofList binding.2) := by decide +kernel
  have hbuild : pattern.build params "" "" = .ok "/x/y" := by decide +kernel
  obtain ⟨url, hurl, -, hrebuilt⟩ := exists_build_of_captures hcaptures hbound
  obtain rfl : "/x/y" = url := Except.ok.inj (hbuild.symm.trans hurl)
  exact ⟨pattern, params, choices, bindings, by decide +kernel, hcaptures, rfl, hbound, hfirst,
    by decide, hbindings, hbuild, hrebuilt choices bindings _ hfirst (by decide) hbindings⟩

/-- A path whose rebuilt URL captures something else. A slash that is dropped at the end of one
value brings the text before and after it together, and the literal that follows the value is
then found earlier. -/
theorem captures_rebuilt_ne :
    ∃ pattern params rebuilt,
      compile "/%a%/c/c/%b%" = .ok pattern ∧
      params = .ofList [("a", "x/c"), ("b", "y")] ∧
      pattern.captures "/x/c//c/c/y" = some params ∧
      (∀ name ∈ pattern.placeholders, (params.get? name).isSome) ∧
      pattern.build params "" "" = .ok "/x/c/c/c/y" ∧
      rebuilt = .ofList [("a", "x"), ("b", "c/y")] ∧
      pattern.captures "/x/c/c/c/y" = some rebuilt ∧ rebuilt ≠ params := by
  let pattern : Pattern :=
    { source := "/%a%/c/c/%b%"
      tokens := .literal ['/'] (.placeholder "a"
        (.literal ['/', 'c', '/', 'c', '/'] (.placeholder "b" .done)))
      catchAll := false }
  refine ⟨pattern, _, _, ?_, rfl, ?_, ?_, ?_, rfl, ?_, ?_⟩ <;> decide +kernel

end Pattern

end RequestDispatch
