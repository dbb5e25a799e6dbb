import RequestDispatch.Proofs.Route.Dropping
import RequestDispatch.Proofs.Route.Missing

/-!
# URLs of More Parameters

URL generation with two sets of parameters, the second of which has all values of the first. Every
group that is open for the first is open for the second, so the two walks agree up to the group at
which the first one ends, and the second may go on there (`TokenTree.write_extends`). Hence the
second URL begins with the first. If the two agree on all placeholders of the pattern, the walks are
the same (`TokenTree.write_congr`). `Pattern.build_extends` states both of whole patterns.
-/

namespace RequestDispatch

open Route

namespace Route.TokenTree

variable {value more : String → Option String} {tree : TokenTree}

/-- A group stays open under more values. -/
theorem isOpen_of_extends
    (hmore : ∀ name ∈ tree.names, ∀ text, value name = some text → more name = some text)
    (hopen : tree.isOpen value = true) : tree.isOpen more = true := by
  rw [isOpen_iff] at hopen ⊢
  intro name hname
  obtain ⟨text, htext⟩ := Option.isSome_iff_exists.1 (hopen name hname)
  rw [hmore name (tree.outerNames_subset_names hname) text htext]
  rfl

/-- Under more values the walk writes at least as much: what was written before comes first, and
if no group was dropped, nothing is written but that. -/
theorem write_extends
    (hmore : ∀ name ∈ tree.names, ∀ text, value name = some text → more name = some text)
    (hmissing : (tree.write value).missing = []) :
    (tree.write value).text <+: (tree.write more).text ∧
      ((tree.write value).cut = false → tree.write more = tree.write value) := by
  induction tree with
  | done => exact ⟨List.prefix_rfl, fun _ => rfl⟩
  | literal text rest ih =>
    obtain ⟨htext, hcut⟩ := ih hmore hmissing
    refine ⟨(List.prefix_append_right_inj text).2 htext, fun h => ?_⟩
    rw [write, write, hcut h]
  | placeholder name rest ih =>
    cases hname : value name with
    | none => simp [write, hname, Written.addMissing] at hmissing
    | some text =>
      have hmoreName := hmore name List.mem_cons_self text hname
      simp only [write, hname, hmoreName, Written.prepend] at hmissing ⊢
      obtain ⟨htext, hcut⟩ :=
        ih (fun other hother => hmore other (List.mem_cons_of_mem _ hother)) hmissing
      refine ⟨(List.prefix_append_right_inj _).2 htext, fun h => ?_⟩
      rw [hcut h]
  | group content rest ihContent ihRest =>
    have hmoreContent := fun name hname => hmore name (List.mem_append_left _ hname)
    have hmoreRest := fun name hname => hmore name (List.mem_append_right _ hname)
    cases hopen : content.isOpen value with
    | false =>
      -- the first walk ends here and has written nothing
      have hwrite : (group content rest).write value = ⟨[], [], true⟩ := by
        simp [write, hopen]
      rw [hwrite]
      exact ⟨List.nil_prefix, fun h => by cases h⟩
    | true =>
      have hmoreOpen := isOpen_of_extends hmoreContent hopen
      obtain ⟨htext, hcut⟩ := ihContent hmoreContent (missing_write_of_isOpen hopen)
      cases hinner : (content.write value).cut with
      | true =>
        -- the first walk ends inside the group; the second one may go on in it and behind it
        rw [write_group_of_cut hopen hinner]
        refine ⟨htext.trans ?_, fun h => by rw [hinner] at h; cases h⟩
        cases hmoreInner : (content.write more).cut with
        | true => rw [write_group_of_cut hmoreOpen hmoreInner]
        | false =>
          rw [write_group_of_not_cut hmoreOpen hmoreInner]
          exact List.prefix_append _ _
      | false =>
        -- the walks agree on the group, so they differ behind it if anywhere
        have hsame := hcut hinner
        have hmoreInner : (content.write more).cut = false := by rw [hsame, hinner]
        rw [write_group_of_not_cut hopen hinner] at hmissing ⊢
        rw [write_group_of_not_cut hmoreOpen hmoreInner, hsame]
        obtain ⟨hrest, hcutRest⟩ := ihRest hmoreRest (List.append_eq_nil_iff.1 hmissing).2
        refine ⟨(List.prefix_append_right_inj _).2 hrest, fun h => ?_⟩
        rw [hcutRest h]

/-- Only the values of placeholders decide whether a group is open. -/
theorem isOpen_congr (h : ∀ name ∈ tree.names, value name = more name) :
    tree.isOpen value = tree.isOpen more := by
  rw [Bool.eq_iff_iff, isOpen_iff, isOpen_iff]
  refine forall₂_congr fun name hname => ?_
  rw [h name (tree.outerNames_subset_names hname)]

/-- Only the values of placeholders decide what is written. -/
theorem write_congr (h : ∀ name ∈ tree.names, value name = more name) :
    tree.write value = tree.write more := by
  induction tree with
  | done => rfl
  | literal text rest ih => rw [write, write, ih h]
  | placeholder name rest ih =>
    rw [write, write, h name List.mem_cons_self,
      ih fun other hother => h other (List.mem_cons_of_mem _ hother)]
  | group content rest ihContent ihRest =>
    have hcontent := fun name hname => h name (List.mem_append_left _ hname)
    have hrest := fun name hname => h name (List.mem_append_right _ hname)
    rw [write, write, isOpen_congr hcontent, ihContent hcontent, ihRest hrest]

end Route.TokenTree

namespace Pattern

/-- More parameters only extend a URL. If every placeholder that has a value under the first
parameters has the same value under the second, and a URL is generated with both, the second URL
begins with the first. Parameters that name no placeholder of the pattern count for nothing: if the
two sets agree on its placeholders, the same is generated with both, or the same error reported. -/
theorem build_extends (pattern : Pattern) (params more : Params) :
    ((∀ name ∈ pattern.placeholders, ∀ value,
        valueIn params name = some value → valueIn more name = some value) →
      ∀ url longer, pattern.build params "" "" = .ok url → pattern.build more "" "" = .ok longer →
        url.toList <+: longer.toList) ∧
    ((∀ name ∈ pattern.placeholders, more.get? name = params.get? name) →
      ∀ query fragment,
        pattern.build more query fragment = pattern.build params query fragment) := by
  constructor
  · intro hmore url longer hurl hlonger
    have hnames : ∀ name ∈ pattern.tokens.names, ∀ value,
        valueIn params name = some value → valueIn more name = some value := by
      intro name hname
      exact hmore name (List.mem_eraseDups.2 hname)
    have hmissing := (build_eq_ok_iff.1 hurl).1
    rw [written_eq] at hmissing
    rw [toList_of_build_eq_ok hurl, toList_of_build_eq_ok hlonger, written_eq, written_eq]
    exact (TokenTree.write_extends hnames hmissing).1
  · intro hsame query fragment
    have hwritten : pattern.written more = pattern.written params := by
      rw [written_eq, written_eq]
      apply TokenTree.write_congr
      intro name hname
      rw [valueIn, valueIn, hsame name (List.mem_eraseDups.2 hname)]
    rw [build, build, hwritten]

/-- A URL that ends before the innermost group, continued into it by one more parameter, and left
as it is by a parameter that the pattern does not name. -/
theorem build_extends_nested :
    ∃ pattern params more other,
      compile "/a/%b%/(c/%d%/(e/%f%))" = .ok pattern ∧
      params = .ofList [("b", "1"), ("d", "2")] ∧
      more = .ofList [("b", "1"), ("d", "2"), ("f", "3")] ∧
      other = .ofList [("b", "1"), ("d", "2"), ("g", "4")] ∧
      (∀ name ∈ pattern.placeholders, ∀ value,
        valueIn params name = some value → valueIn more name = some value) ∧
      pattern.build params "" "" = .ok "/a/1/c/2/" ∧
      pattern.build more "" "" = .ok "/a/1/c/2/e/3" ∧
      "/a/1/c/2/".toList <+: "/a/1/c/2/e/3".toList ∧
      (∀ name ∈ pattern.placeholders, other.get? name = params.get? name) ∧
      pattern.build other "p=5" "" = pattern.build params "p=5" "" := by
  let pattern : Pattern :=
    { source := "/a/%b%/(c/%d%/(e/%f%))"
      tokens := .literal ['/', 'a', '/'] (.placeholder "b" (.literal ['/']
        (.group (.literal ['c', '/'] (.placeholder "d" (.literal ['/']
          (.group (.literal ['e', '/'] (.placeholder "f" .done)) .done)))) .done)))
      catchAll := false }
  let params : Params := .ofList [("b", "1"), ("d", "2")]
  let more : Params := .ofList [("b", "1"), ("d", "2"), ("f", "3")]
  let other : Params := .ofList [("b", "1"), ("d", "2"), ("g", "4")]
  have hvalues : ∀ name ∈ pattern.placeholders,
      valueIn params name = none ∨ valueIn params name = valueIn more name := by decide +kernel
  have hmore : ∀ name ∈ pattern.placeholders, ∀ value,
      valueIn params name = some value → valueIn more name = some value := by
    intro name hname value hvalue
    rcases hvalues name hname with hnone | hsame
    · rw [hnone] at hvalue
      cases hvalue
    · rw [← hsame, hvalue]
  have hurl : pattern.build params "" "" = .ok "/a/1/c/2/" := by decide +kernel
  have hlonger : pattern.build more "" "" = .ok "/a/1/c/2/e/3" := by decide +kernel
  have hother : ∀ name ∈ pattern.placeholders, other.get? name = params.get? name := by
    decide +kernel
  exact ⟨pattern, params, more, other, by decide +kernel, rfl, rfl, rfl, hmore, hurl, hlonger,
    (build_extends pattern params more).1 hmore _ _ hurl hlonger, hother,
    (build_extends pattern params other).2 hother _ _⟩

end Pattern

end RequestDispatch
