import RequestDispatch.Proofs.Route.Captures
import RequestDispatch.Proofs.Route.Generation

/-!
# Matching What Was Generated

For patterns whose placeholders stand for whole segments of a path, matching a generated URL
gives back exactly the values it was generated from. `TokenTree.isSegmented` says what these
patterns are: a group comes last in its list of tokens, and a placeholder is followed by
nothing or by a slash.

The matcher tries shorter text before longer and takes groups before it skips them, so it has
to be shown that it cannot stop early: before the end of a value no slash follows
(`firstOf_cons_of_ne_slash`), so the text taken for it is the whole value
(`nearest_append`). Where generation was cut short, nothing is left to match, so
the groups that were not written bind nothing (`firstOf_nil`).
-/

namespace RequestDispatch

open Route

namespace Route

namespace TokenTree

/-- Whether the tokens may follow a placeholder: there are none, or they begin with a slash,
possibly inside a group. -/
def followsSegment : TokenTree → Bool
  | done => true
  | literal text _ => text.head? = some '/'
  | group (literal text _) _ => text.head? = some '/'
  | _ => false

/-- Whether the placeholders stand for whole segments: in every list of tokens a group comes
last, and a placeholder comes last or is followed by a slash. -/
def isSegmented : TokenTree → Bool
  | done => true
  | literal _ rest => rest.isSegmented
  | placeholder _ rest => rest.followsSegment && rest.isSegmented
  | group content rest => content.isSegmented && rest = done

end TokenTree

/-- Whether a value is a segment of a path: it is not empty, and has no slash and no line
break. -/
def IsSegment (value : String) : Prop :=
  value ≠ "" ∧ '/' ∉ value.toList ∧ '\n' ∉ value.toList

instance : DecidablePred IsSegment := fun value =>
  inferInstanceAs (Decidable (value ≠ "" ∧ '/' ∉ value.toList ∧ '\n' ∉ value.toList))

variable {next : List Char → Option Bindings}

/-- A literal that begins with a slash derives only what begins with a slash. -/
theorem firstOf_literal_cons_of_ne_slash {text left : List Char} {rest : TokenTree} {c : Char}
    (htext : text.head? = some '/') (hc : c ≠ '/') :
    firstOf next (.literal text rest) (c :: left) = none := by
  obtain ⟨more, rfl⟩ : ∃ more, text = '/' :: more := by
    cases text with
    | nil => simp at htext
    | cons d more => exact ⟨more, by simpa using htext⟩
  rw [firstOf_literal]
  simp [Text.rest?, Ne.symm hc]

/-- What may follow a placeholder derives nothing that does not begin with a slash. -/
theorem firstOf_cons_of_ne_slash {tree : TokenTree} {left : List Char} {c : Char}
    (hfollows : tree.followsSegment) (hseg : tree.isSegmented)
    (hnext : next (c :: left) = none) (hc : c ≠ '/') :
    firstOf next tree (c :: left) = none := by
  match tree with
  | .done => rw [firstOf_done, hnext]
  | .literal text rest =>
    exact firstOf_literal_cons_of_ne_slash (by simpa [TokenTree.followsSegment] using hfollows) hc
  | .group (.literal text content) rest =>
    have hrest : rest = .done := by
      simp only [TokenTree.isSegmented, Bool.and_eq_true, decide_eq_true_eq] at hseg
      exact hseg.2
    subst hrest
    rw [firstOf_group, firstOf_done, hnext, Option.or_none]
    exact firstOf_literal_cons_of_ne_slash (by simpa [TokenTree.followsSegment] using hfollows) hc

/-- Where nothing is left of a path, tokens bind nothing. -/
theorem firstOf_nil {tree : TokenTree} {bindings : Bindings}
    (h : firstOf next tree [] = some bindings) : next [] = some bindings := by
  induction tree generalizing next with
  | done => rwa [firstOf_done] at h
  | literal text rest ih =>
    rw [firstOf_literal] at h
    cases text with
    | nil => exact ih h
    | cons c text => simp [Text.rest?] at h
  | placeholder name rest ih =>
    simp [firstOf_placeholder] at h
  | group content rest ihContent ihRest =>
    rw [firstOf_group, Option.or_eq_some_iff] at h
    rcases h with hcontent | ⟨-, hrest⟩
    · exact ihRest (ihContent hcontent)
    · exact ihRest hrest

/-- A placeholder takes a whole segment if the path cannot be derived from within it. -/
theorem nearest_append {segment left : List Char} {bindings : Bindings} (hne : segment ≠ [])
    (hslash : '/' ∉ segment) (hline : '\n' ∉ segment) (hleft : next left = some bindings)
    (hnext : ∀ c rest, c ≠ '/' → next (c :: rest) = none) :
    nearest next (segment ++ left) = some (segment, bindings) := by
  induction segment with
  | nil => exact absurd rfl hne
  | cons c segment ih =>
    have hc : c ≠ '\n' := fun heq => hline (by simp [heq])
    rw [List.cons_append, nearest_cons, if_neg hc]
    cases segment with
    | nil => simp [hleft]
    | cons d segment =>
      have hd : d ≠ '/' := fun heq => hslash (by simp [heq])
      have hlater := ih (by simp) (fun h => hslash (List.mem_cons_of_mem _ h))
        (fun h => hline (List.mem_cons_of_mem _ h))
      rw [hlater, List.cons_append, hnext d _ hd]
      rfl

/-- What is written for segments is derived first by the tokens that were written, with the
values that were written: with nothing behind it if generation was cut short, and else with
anything behind it that can be derived and does not go on with the last segment. -/
theorem firstOf_text_write {value : String → Option String} {tree : TokenTree}
    {left : List Char} (hseg : tree.isSegmented) (hmissing : (tree.write value).missing = [])
    (hvalues : ∀ entry ∈ tree.writtenValues value, IsSegment entry.2)
    (hleft : next left = some []) (hnext : ∀ c rest, c ≠ '/' → next (c :: rest) = none)
    (hcut : (tree.write value).cut = true → left = []) :
    firstOf next tree ((tree.write value).text ++ left) =
      some ((tree.writtenValues value).map fun entry => (entry.1, entry.2.toList)) := by
  induction tree with
  | done => simpa [TokenTree.write, TokenTree.writtenValues] using hleft
  | literal text rest ih =>
    simp only [TokenTree.write, Written.prepend] at hmissing hcut ⊢
    rw [firstOf_literal, List.append_assoc, Text.rest?_append]
    exact ih hseg hmissing hvalues hcut
  | placeholder name rest ih =>
    obtain ⟨hfollows, hseg⟩ := Bool.and_eq_true_iff.1 hseg
    cases hname : value name with
    | none => simp [TokenTree.write, hname, Written.addMissing] at hmissing
    | some text =>
      have hwritten : (TokenTree.placeholder name rest).writtenValues value =
          (name, text) :: rest.writtenValues value := by
        simp [TokenTree.writtenValues, Visit.written?, hname]
      rw [hwritten] at hvalues ⊢
      simp only [TokenTree.write, hname, Written.prepend] at hmissing hcut ⊢
      obtain ⟨hne, hslash, hline⟩ := hvalues (name, text) (by simp)
      have hrest := ih hseg hmissing (fun entry h => hvalues entry (List.mem_cons_of_mem _ h)) hcut
      rw [firstOf_placeholder, List.append_assoc,
        nearest_append (by simpa using hne) hslash hline hrest
          fun c more hc => firstOf_cons_of_ne_slash hfollows hseg (hnext c more hc) hc]
      rfl
  | group content rest ihContent ihRest =>
    obtain ⟨hsegContent, hdone⟩ := Bool.and_eq_true_iff.1 hseg
    obtain rfl : rest = .done := of_decide_eq_true hdone
    have hfirst : firstOf next .done = next := funext firstOf_done
    rw [firstOf_group, hfirst]
    cases hopen : content.isOpen value with
    | true =>
      -- the group was written, and it is taken because its content can be derived
      rw [TokenTree.write_group_done hopen] at hmissing hcut ⊢
      rw [TokenTree.writtenValues_group_done hopen] at hvalues ⊢
      rw [ihContent hsegContent hmissing hvalues hcut, Option.some_or]
    | false =>
      -- generation ended at the group, so whether it is taken or skipped makes no difference
      have hwrite : (TokenTree.group content .done).write value = ⟨[], [], true⟩ := by
        simp [TokenTree.write, hopen]
      have hvisits : (TokenTree.group content .done).writtenValues value = [] := by
        rw [TokenTree.writtenValues, TokenTree.beforeCut_group_of_not_isOpen hopen,
          List.filterMap_nil]
      obtain rfl : left = [] := hcut (by rw [hwrite])
      rw [hwrite, hvisits, List.append_nil, List.map_nil, hleft]
      cases hcontent : firstOf next content [] with
      | none => rfl
      | some bindings => rw [Option.some_or, ← firstOf_nil hcontent, hleft]

end Route

namespace Pattern

theorem contributions_of_forall_isSegment {entries : List (String × String)}
    (hentries : ∀ entry ∈ entries, IsSegment entry.2) (name : String) :
    contributions (entries.map fun entry => (entry.1, entry.2.toList)) name =
      entries.filterMap fun entry => if entry.1 = name then some entry.2 else none := by
  rw [contributions, List.filterMap_map]
  refine List.filterMap_congr fun entry hentry => ?_
  obtain ⟨hne, hslash, -⟩ := hentries entry hentry
  have hvalue : entry.2.toList.rdropWhile (· = '/') = entry.2.toList :=
    Text.dropEnd_of_forall_not fun c hc => decide_eq_false fun heq => hslash (heq ▸ hc)
  have hcontribution : contribution? entry.2.toList = some entry.2 := by
    simp only [contribution?, hvalue]
    rw [if_neg (by simpa using hne), String.ofList_toList]
  rw [Function.comp_apply, hcontribution]

/-- Captured segments are the parameters they were written for. -/
theorem get?_paramsOf_writtenValues {pattern : Pattern} {params : Params}
    (hvalues : ∀ entry ∈ pattern.writtenValues params, IsSegment entry.2)
    (name value : String) :
    (paramsOf ((pattern.writtenValues params).map fun entry =>
        (entry.1, entry.2.toList))).get? name = some value ↔
      (name, value) ∈ pattern.writtenValues params := by
  rw [get?_paramsOf, contributions_of_forall_isSegment hvalues]
  have hmem : ∀ text, text ∈ (pattern.writtenValues params).filterMap
      (fun entry => if entry.1 = name then some entry.2 else none) ↔
        (name, text) ∈ pattern.writtenValues params := by
    intro text
    simp [List.mem_filterMap, eq_comm]
  constructor
  · intro h
    exact (hmem value).1 (List.mem_of_getLast? h)
  · intro h
    -- all occurrences of the name were written with the same value
    obtain ⟨last, hlast⟩ := List.getLast?_isSome.2 (List.ne_nil_of_mem ((hmem value).2 h))
      |> Option.isSome_iff_exists.1
    have hother := (hmem last).1 (List.mem_of_getLast? hlast)
    have heq := (valueIn_of_mem_writtenValues hother).symm.trans (valueIn_of_mem_writtenValues h)
    rw [hlast, heq]

/-- Matching a generated URL gives back the values it was generated from: nothing is lost and
nothing is added, also where an optional group without values cut the URL short. -/
theorem captures_build (pattern : Pattern) (params : Params) (url : String)
    (hseg : pattern.tokens.isSegmented) (hplaceholders : pattern.placeholders ≠ [])
    (hbuild : pattern.build params "" "" = .ok url)
    (hvalues : ∀ entry ∈ pattern.writtenValues params, IsSegment entry.2) :
    ∃ captured, pattern.captures url = some captured ∧
      ∀ name value, captured.get? name = some value ↔
        (name, value) ∈ pattern.writtenValues params := by
  have hwritten := written_eq_write params hplaceholders
  have hurl := toList_of_build_eq_ok hbuild
  have hmissing := (build_eq_ok_iff.1 hbuild).1
  rw [hwritten] at hurl hmissing
  have hnext : ∀ c rest, c ≠ '/' → atEnd pattern.catchAll (c :: rest) = none := by
    intro c rest hc
    simp [atEnd, mayEnd, isTail, hc]
  have hfirst : firstOf (atEnd pattern.catchAll) pattern.tokens
      ((pattern.tokens.write (valueIn params)).text ++ []) =
        some ((pattern.writtenValues params).map fun entry => (entry.1, entry.2.toList)) :=
    firstOf_text_write hseg hmissing hvalues rfl hnext fun _ => rfl
  refine ⟨_, ?_, get?_paramsOf_writtenValues hvalues⟩
  rw [captures_eq_map_firstDerivation?, firstDerivation?_eq_firstOf, hurl,
    ← List.append_nil (TokenTree.write _ _).text, hfirst, Option.map_some]

/-- A pattern with nested groups and a catch-all, under values that fall back to the default
identity at one place and cut the URL short at another. -/
theorem captures_build_nested :
    ∃ pattern params captured,
      compile "/%module%/%id%(/%name%(/by/%sort%))(/*)" = .ok pattern ∧
      params = NameMap.ofList [("id", "7"), ("name", "x")] ∧
      pattern.tokens.isSegmented ∧ pattern.placeholders ≠ [] ∧
      pattern.build params "" "" = .ok "/default/7/x" ∧
      ("module", "default") ∈ pattern.writtenValues params ∧
      (∀ entry ∈ pattern.writtenValues params, IsSegment entry.2) ∧
      pattern.captures "/default/7/x" = some captured ∧
      ∀ name value, captured.get? name = some value ↔
        (name, value) ∈ [("module", "default"), ("id", "7"), ("name", "x")] := by
  let pattern : Pattern :=
    { source := "/%module%/%id%(/%name%(/by/%sort%))(/*)"
      tokens := .literal ['/'] (.placeholder "module" (.literal ['/'] (.placeholder "id"
        (.group (.literal ['/'] (.placeholder "name"
          (.group (.literal ['/', 'b', 'y', '/'] (.placeholder "sort" .done)) .done))) .done))))
      catchAll := true }
  let params : Params := NameMap.ofList [("id", "7"), ("name", "x")]
  have hbuild : pattern.build params "" "" = .ok "/default/7/x" := by decide +kernel
  have hvalues : ∀ entry ∈ pattern.writtenValues params, IsSegment entry.2 := by decide
  obtain ⟨captured, hcaptured, hparams⟩ :=
    captures_build pattern params _ (by decide) (by decide) hbuild hvalues
  exact ⟨pattern, params, captured, by decide +kernel, rfl, by decide, by decide, hbuild,
    by decide, hvalues, hcaptured, hparams⟩

end Pattern

end RequestDispatch
