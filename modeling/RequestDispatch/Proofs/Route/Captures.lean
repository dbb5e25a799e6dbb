import RequestDispatch.Proofs.LastSet
import RequestDispatch.Proofs.NameMap
import RequestDispatch.Proofs.Route.Derivation
import RequestDispatch.Proofs.Route.Matching
import RequestDispatch.Route.Pattern

/-!
# What a Pattern Captures

A pattern derives a path by its tokens and, if it catches all, a tail that is taken or not
(`Pattern.Derives`). `Pattern.language` is the language of the whole pattern and
`Pattern.First` picks out the first derivation of a path.

A pattern captures the paths of its language (`Pattern.isSome_captures_iff`), and what it
captures is read off the first derivation (`Pattern.captures_eq_some_iff_first`): the text of
every placeholder occurrence counts without the slashes at its end, and later occurrences of a
name win over earlier ones (`Pattern.get?_paramsOf`).
-/

namespace RequestDispatch

open Route Text

namespace Pattern

/-! ## Derivations of a whole path -/

/-- The pattern derives a path: with these decisions, and binding these texts. That a tail is
taken or not is the last decision of a pattern that catches all. -/
inductive Derives (pattern : Pattern) : List Char → List Choice → Bindings → Prop
  | exact {path : List Char} {choices : List Choice} {bindings : Bindings} :
      pattern.catchAll = false → Route.Derives pattern.tokens path choices bindings [] →
        Derives pattern path choices bindings
  | tail {path rest : List Char} {choices : List Choice} {bindings : Bindings} :
      pattern.catchAll = true → '\n' ∉ rest →
      Route.Derives pattern.tokens path choices bindings ('/' :: rest) →
        Derives pattern path (choices ++ [.taken]) bindings
  | noTail {path : List Char} {choices : List Choice} {bindings : Bindings} :
      pattern.catchAll = true → Route.Derives pattern.tokens path choices bindings [] →
        Derives pattern path (choices ++ [.skipped]) bindings

/-- What a catch-all takes: a slash and any text without a line break. -/
def tails : Language Char := {text | ∃ rest, text = '/' :: rest ∧ '\n' ∉ rest}

/-- The texts that a pattern derives: those of its tokens, and if it catches all, those
followed by a tail as well. -/
def language (pattern : Pattern) : Language Char :=
  pattern.tokens.language * if pattern.catchAll then tails + 1 else 1

/-- A path is in the language of a pattern exactly if the pattern derives it. -/
theorem mem_language_iff {pattern : Pattern} {path : List Char} :
    path ∈ pattern.language ↔ ∃ choices bindings, pattern.Derives path choices bindings := by
  rw [language, Language.mem_mul]
  constructor
  · rintro ⟨text, htext, ending, hending, rfl⟩
    obtain ⟨choices, bindings, h⟩ := exists_derives_of_mem_language htext ending
    cases hcatch : pattern.catchAll with
    | false =>
      obtain rfl : ending = [] := by simpa [hcatch] using hending
      exact ⟨choices, bindings, .exact hcatch h⟩
    | true =>
      rw [if_pos hcatch, Language.mem_add] at hending
      rcases hending with ⟨rest, rfl, hrest⟩ | hnil
      · exact ⟨_, bindings, .tail hcatch hrest h⟩
      · obtain rfl : ending = [] := hnil
        exact ⟨_, bindings, .noTail hcatch h⟩
  · rintro ⟨choices, bindings, h⟩
    cases h with
    | exact hcatch h =>
      obtain ⟨text, htext, rfl⟩ := h.exists_mem_language
      exact ⟨text, htext, [], by simp [hcatch], rfl⟩
    | tail hcatch hrest h =>
      obtain ⟨text, htext, rfl⟩ := h.exists_mem_language
      refine ⟨text, htext, _, ?_, rfl⟩
      rw [if_pos hcatch]
      exact .inl ⟨_, rfl, hrest⟩
    | noTail hcatch h =>
      obtain ⟨text, htext, rfl⟩ := h.exists_mem_language
      refine ⟨text, htext, [], ?_, rfl⟩
      rw [if_pos hcatch]
      exact .inr rfl

/-- The first derivation of a path: every other one comes later. -/
structure First (pattern : Pattern) (path : List Char) (choices : List Choice)
    (bindings : Bindings) : Prop where
  /-- It is a derivation of the path. -/
  derives : pattern.Derives path choices bindings
  /-- No other derivation comes before it. -/
  earlier : ∀ others found, pattern.Derives path others found →
    (others = choices ∧ found = bindings) ∨ Earlier choices others

/-! ## The list of derivations -/

/-- The last decisions of a derivation that leaves this text, if a path may end with it. -/
def ending? (catchAll : Bool) (left : List Char) : Option (List Choice) :=
  if catchAll && isTail left then some [.taken]
  else if left.isEmpty then some (if catchAll then [.skipped] else [])
  else none

/-- A catch-all takes what is in `tails`. -/
theorem isTail_iff {left : List Char} :
    isTail left = true ↔ ∃ rest, left = '/' :: rest ∧ '\n' ∉ rest := by
  constructor
  · intro h
    unfold isTail at h
    split at h
    · rename_i rest
      exact ⟨rest, rfl, by simpa using h⟩
    · simp at h
  · rintro ⟨rest, rfl, hrest⟩
    simpa [isTail] using hrest

theorem isSome_ending? (catchAll : Bool) (left : List Char) :
    (ending? catchAll left).isSome = mayEnd catchAll left := by
  unfold ending? mayEnd
  split
  · rename_i h
    simp [h]
  · rename_i h
    split
    · rename_i hleft
      simp [hleft]
    · rename_i hleft
      simp [h, hleft]

/-- The derivations of a whole path by priority, with their decisions. -/
def decidedPaths (pattern : Pattern) (path : List Char) : List (List Choice × Bindings) :=
  (decided pattern.tokens path).filterMap fun found =>
    (ending? pattern.catchAll found.left).map fun last =>
      (found.choices ++ last, found.bindings)

/-- Every derivation of a whole path is listed, and nothing else is. -/
theorem derives_iff_mem_decidedPaths {pattern : Pattern} {path : List Char}
    {choices : List Choice} {bindings : Bindings} :
    pattern.Derives path choices bindings ↔
      (choices, bindings) ∈ pattern.decidedPaths path := by
  rw [decidedPaths, List.mem_filterMap]
  constructor
  · rintro (⟨hcatch, h⟩ | ⟨hcatch, hrest, h⟩ | ⟨hcatch, h⟩)
    · exact ⟨_, derives_iff_mem_decided.1 h, by simp [ending?, hcatch]⟩
    · exact ⟨_, derives_iff_mem_decided.1 h, by simp [ending?, hcatch, isTail, hrest]⟩
    · exact ⟨_, derives_iff_mem_decided.1 h, by simp [ending?, hcatch, isTail]⟩
  · rintro ⟨found, hfound, hlast⟩
    obtain ⟨last, hending, hpair⟩ := Option.map_eq_some_iff.1 hlast
    cases hpair
    have h := derives_iff_mem_decided.2 hfound
    unfold ending? at hending
    split at hending
    · rename_i htail
      obtain ⟨hcatch, htail⟩ := Bool.and_eq_true_iff.1 htail
      obtain ⟨rest, hleft, hrest⟩ := isTail_iff.1 htail
      cases hending
      exact .tail hcatch hrest (hleft ▸ h)
    · split at hending
      · rename_i hnil
        rw [List.isEmpty_iff] at hnil
        cases hcatch : pattern.catchAll with
        | false =>
          obtain rfl : last = [] := by simpa [hcatch, eq_comm] using hending
          rw [List.append_nil]
          exact .exact hcatch (hnil ▸ h)
        | true =>
          obtain rfl : last = [.skipped] := by simpa [hcatch, eq_comm] using hending
          exact .noTail hcatch (hnil ▸ h)
      · simp at hending

/-- Derivations of a whole path that come earlier in the list have the earlier decisions. -/
theorem pairwise_earlier_decidedPaths (pattern : Pattern) (path : List Char) :
    (pattern.decidedPaths path).Pairwise fun a b => Earlier a.1 b.1 := by
  refine List.pairwise_filterMap.2 ((pairwise_earlier_decided pattern.tokens path).imp ?_)
  rintro a b h x hx y hy
  obtain ⟨_, -, rfl⟩ := Option.map_eq_some_iff.1 hx
  obtain ⟨_, -, rfl⟩ := Option.map_eq_some_iff.1 hy
  exact h.append _ _

/-- The first derivation is the head of the list of derivations. -/
theorem first_iff_head? {pattern : Pattern} {path : List Char} {choices : List Choice}
    {bindings : Bindings} :
    pattern.First path choices bindings ↔
      (pattern.decidedPaths path).head? = some (choices, bindings) := by
  have hsorted := pattern.pairwise_earlier_decidedPaths path
  constructor
  · rintro ⟨h, hfirst⟩
    rw [derives_iff_mem_decidedPaths] at h
    cases hlist : pattern.decidedPaths path with
    | nil => simp [hlist] at h
    | cons head others =>
      -- the head is a derivation too, and neither of the two can come before the other
      have hhead := hfirst head.1 head.2 (derives_iff_mem_decidedPaths.2 (by simp [hlist]))
      rw [hlist, List.pairwise_cons] at hsorted
      rw [hlist, List.mem_cons] at h
      rcases h with h | h
      · rw [h, List.head?_cons]
      · rcases hhead with ⟨hchoices, hbindings⟩ | hearlier
        · rw [List.head?_cons, ← hchoices, ← hbindings]
        · exact absurd hearlier (hsorted.1 _ h).asymm
  · intro h
    obtain ⟨others, hlist⟩ :
        ∃ others, pattern.decidedPaths path = (choices, bindings) :: others := by
      cases hlist : pattern.decidedPaths path with
      | nil => simp [hlist] at h
      | cons head others => exact ⟨others, by simpa [hlist] using h⟩
    rw [hlist, List.pairwise_cons] at hsorted
    refine ⟨derives_iff_mem_decidedPaths.2 (by simp [hlist]), fun later found hlater => ?_⟩
    rw [derives_iff_mem_decidedPaths, hlist, List.mem_cons, Prod.mk.injEq] at hlater
    exact hlater.imp_right fun hmem => hsorted.1 _ hmem

/-- The first derivation that the matcher is compared with is the head of the list. -/
theorem firstDerivation?_eq_head? (pattern : Pattern) (path : List Char) :
    firstDerivation? pattern.tokens pattern.catchAll path =
      (pattern.decidedPaths path).head?.map Prod.snd := by
  rw [firstDerivation?, derivations_eq_map_decided, decidedPaths, List.find?_map]
  induction decided pattern.tokens path with
  | nil => rfl
  | cons found others ih =>
    have hending := isSome_ending? pattern.catchAll found.left
    cases h : ending? pattern.catchAll found.left with
    | none =>
      rw [h, Option.isSome_none] at hending
      simpa [h, ← hending] using ih
    | some last =>
      rw [h, Option.isSome_some] at hending
      simp [h, ← hending]

/-! ## Reading off parameters -/

/-- What the text of a placeholder occurrence contributes: the text without slashes at its
end, unless nothing is left. -/
def contribution? (text : List Char) : Option String :=
  let value := text.rdropWhile (· = '/')
  if value = [] then none else some (String.ofList value)

/-- What the occurrences of a name contribute, in order. -/
def contributions (bindings : Bindings) (name : String) : List String :=
  bindings.filterMap fun binding =>
    if binding.1 = name then contribution? binding.2 else none

/-- One occurrence overwrites the parameter of its name if it contributes anything. -/
theorem get?_bindParam (params : Params) (binding : String × List Char) (name : String) :
    (bindParam params binding).get? name =
      (if binding.1 = name then contribution? binding.2 else none).or (params.get? name) := by
  rw [bindParam, dropEnd_eq_rdropWhile, contribution?]
  split
  · rename_i hnil
    simp [hnil]
  · rename_i hne
    rw [NameMap.get?_insert, if_neg hne]
    by_cases hname : binding.1 = name
    · simp [hname]
    · simp [hname, Ne.symm hname]

/-- A parameter is what the last occurrence of its name contributes that contributes
anything. -/
theorem get?_paramsOf (bindings : Bindings) (name : String) :
    (paramsOf bindings).get? name = (contributions bindings name).getLast? := by
  have hlast := lastSet_foldl (fun params : Params => params.get? name)
    (fun params binding => get?_bindParam params binding name) bindings ∅
  rwa [NameMap.get?_emptyCollection, Option.or_none] at hlast

/-! ## Captures -/

theorem captures_eq_map_firstDerivation? (pattern : Pattern) (path : String) :
    pattern.captures path =
      (firstDerivation? pattern.tokens pattern.catchAll path.toList).map paramsOf := by
  rw [captures, firstMatch?_eq_firstDerivation?]

/-- What is captured is what the first derivation binds. -/
theorem captures_eq_some_iff_first {pattern : Pattern} {path : String} {params : Params} :
    pattern.captures path = some params ↔
      ∃ choices bindings, pattern.First path.toList choices bindings ∧
        paramsOf bindings = params := by
  rw [captures_eq_map_firstDerivation?, firstDerivation?_eq_head?]
  constructor
  · intro h
    obtain ⟨bindings, hbindings, hparams⟩ := Option.map_eq_some_iff.1 h
    obtain ⟨⟨choices, _⟩, hhead, rfl⟩ := Option.map_eq_some_iff.1 hbindings
    exact ⟨choices, _, first_iff_head?.2 hhead, hparams⟩
  · rintro ⟨choices, bindings, hfirst, rfl⟩
    rw [first_iff_head?.1 hfirst]
    rfl

/-- A pattern captures the paths of its language. -/
theorem isSome_captures_iff {pattern : Pattern} {path : String} :
    (pattern.captures path).isSome ↔ path.toList ∈ pattern.language := by
  rw [captures_eq_map_firstDerivation?, firstDerivation?_eq_head?, Option.isSome_map,
    Option.isSome_map, mem_language_iff]
  constructor
  · intro h
    obtain ⟨⟨choices, bindings⟩, hhead⟩ := Option.isSome_iff_exists.1 h
    exact ⟨choices, bindings, (first_iff_head?.2 hhead).derives⟩
  · rintro ⟨choices, bindings, h⟩
    rw [derives_iff_mem_decidedPaths] at h
    exact List.isSome_head?.2 (List.ne_nil_of_mem h)

/-- A pattern captures exactly the paths of its language, and what it captures from a path is
read off the first derivation: a parameter is what the last occurrence of its name contributes,
those that contribute nothing aside. -/
theorem captures_of_first (pattern : Pattern) (path : String) :
    ((pattern.captures path).isSome ↔ path.toList ∈ pattern.language) ∧
      ∀ params, pattern.captures path = some params ↔
        ∃ choices bindings, pattern.First path.toList choices bindings ∧
          ∀ name, params.get? name = (contributions bindings name).getLast? := by
  refine ⟨isSome_captures_iff, fun params => ?_⟩
  rw [captures_eq_some_iff_first]
  constructor
  · rintro ⟨choices, bindings, hfirst, rfl⟩
    exact ⟨choices, bindings, hfirst, get?_paramsOf bindings⟩
  · rintro ⟨choices, bindings, hfirst, hparams⟩
    refine ⟨choices, bindings, hfirst, NameMap.ext_get? fun name => ?_⟩
    rw [get?_paramsOf, hparams]

end Pattern

end RequestDispatch
