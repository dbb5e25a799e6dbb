import RequestDispatch.Proofs.Route.Rebuilding

/-!
# What URL Generation Reports Missing

A URL is refused if a placeholder that it needs has no value. Needed are the placeholders outside
every group (`TokenTree.outerNames`) that the walk meets before it is cut short; `TokenTree.required`
lists them. The walk also notes what is missing in groups, but there is nothing to note, because it
enters open groups only (`TokenTree.depth_of_mem_placed`). So what it notes, in whatever depth, are
the names in `TokenTree.required` without a value (`TokenTree.missing_write_eq`).

The report has each name once, in the order in which the names first appear. `FirstAppearances`
says this of two lists without an algorithm, and the first list determines the second
(`firstAppearances_iff`).

`Pattern.build_eq_walk` says what is generated and what is reported by the walk alone. A pattern
without placeholders is no exception: its literals are what the walk would write
(`Pattern.written_eq`).
-/

namespace RequestDispatch

open Route

/-! ## First appearances -/

/-- One list has the names of another, each once, in the order in which they first appear there. -/
structure FirstAppearances (names listed : List String) : Prop where
  /-- It has these names and no others. -/
  mem_iff : ∀ name, name ∈ listed ↔ name ∈ names
  /-- What comes earlier in it appears earlier. -/
  ordered : listed.Pairwise fun a b => names.idxOf a < names.idxOf b

namespace FirstAppearances

variable {names listed : List String}

/-- Each name is listed once. -/
theorem nodup (h : FirstAppearances names listed) : listed.Nodup := by
  refine h.ordered.imp fun hlt heq => ?_
  rw [heq] at hlt
  exact lt_irrefl _ hlt

/-- A further name behind the others does not change where these first appear. -/
theorem ordered_concat (h : FirstAppearances names listed) (name : String) :
    listed.Pairwise fun a b => (names ++ [name]).idxOf a < (names ++ [name]).idxOf b := by
  refine h.ordered.imp_of_mem fun {a b} ha hb hlt => ?_
  rw [h.mem_iff] at ha hb
  rwa [List.idxOf_append_of_mem ha, List.idxOf_append_of_mem hb]

/-- A name that has appeared before is not listed again. -/
theorem concat_of_mem (h : FirstAppearances names listed) {name : String} (hname : name ∈ names) :
    FirstAppearances (names ++ [name]) listed where
  mem_iff other := by
    rw [h.mem_iff, List.mem_append, List.mem_singleton]
    exact ⟨.inl, fun hother => hother.elim id fun heq => heq ▸ hname⟩
  ordered := h.ordered_concat name

/-- A name that has not appeared before is listed behind the others. -/
theorem concat_of_notMem (h : FirstAppearances names listed) {name : String}
    (hname : name ∉ names) : FirstAppearances (names ++ [name]) (listed ++ [name]) where
  mem_iff other := by rw [List.mem_append, List.mem_append, h.mem_iff]
  ordered := by
    refine List.pairwise_append.2 ⟨h.ordered_concat name, List.pairwise_singleton _ _, ?_⟩
    intro a ha b hb
    -- the new name stands behind all names that have appeared
    rw [h.mem_iff] at ha
    rw [List.mem_singleton.1 hb, List.idxOf_append_of_mem ha, List.idxOf_append_of_notMem hname]
    exact Nat.lt_add_right _ (List.idxOf_lt_length_iff.2 ha)

/-- Nothing is listed exactly if there is nothing to list. -/
theorem eq_nil_iff (h : FirstAppearances names listed) : listed = [] ↔ names = [] := by
  simp only [List.eq_nil_iff_forall_not_mem, h.mem_iff]

/-- No two lists are in the order of the same first appearances. -/
theorem unique {other : List String} (h : FirstAppearances names listed)
    (hother : FirstAppearances names other) : listed = other := by
  have hperm : listed.Perm other := by
    refine (List.perm_ext_iff_of_nodup h.nodup hother.nodup).2 fun name => ?_
    rw [h.mem_iff, hother.mem_iff]
  refine hperm.eq_of_pairwise (fun a b _ _ hab hba => ?_) h.ordered hother.ordered
  exact absurd hab (lt_asymm hba)

end FirstAppearances

/-- Names are in the order of their first appearances if all later ones are dropped. -/
theorem firstAppearances_eraseDups (names : List String) :
    FirstAppearances names names.eraseDups := by
  induction names using List.reverseRecOn with
  | nil => exact ⟨fun _ => Iff.rfl, .nil⟩
  | append_singleton names name ih =>
    rw [List.eraseDups_append]
    by_cases hname : name ∈ names
    · have hdropped : ([name].removeAll names).eraseDups = [] := by
        simp [List.removeAll, hname]
      rw [hdropped, List.append_nil]
      exact ih.concat_of_mem hname
    · have hkept : ([name].removeAll names).eraseDups = [name] := by
        simp [List.removeAll, hname, List.eraseDups_cons]
      rw [hkept]
      exact ih.concat_of_notMem hname

/-- The order of first appearances determines the list. -/
theorem firstAppearances_iff {names listed : List String} :
    FirstAppearances names listed ↔ listed = names.eraseDups := by
  constructor
  · intro h
    exact h.unique (firstAppearances_eraseDups names)
  · rintro rfl
    exact firstAppearances_eraseDups names

/-! ## What the walk needs -/

namespace Route

/-- A token as the walk meets it, with the place at which it stands. -/
structure Placed where
  /-- The number of groups around the token. -/
  depth : ℕ
  /-- The token. -/
  visit : Visit
deriving DecidableEq, Repr

/-- The name of a placeholder outside every group. -/
def Placed.outermost? : Placed → Option String
  | ⟨0, .placeholder name⟩ => some name
  | _ => none

namespace TokenTree

/-- The placeholders outside every group. -/
def outerNames : TokenTree → List String
  | done => []
  | literal _ rest => rest.outerNames
  | placeholder name rest => name :: rest.outerNames
  | group _ rest => rest.outerNames

theorem outerNames_subset_names (tree : TokenTree) : tree.outerNames ⊆ tree.names := by
  induction tree with
  | done => exact List.Subset.refl []
  | literal text rest ih => exact ih
  | placeholder name rest ih => exact List.cons_subset_cons name ih
  | group content rest _ ih => exact List.subset_append_of_subset_right _ ih

/-- The tokens of a group are open exactly if its own placeholders have values. -/
theorem isOpen_iff {value : String → Option String} {tree : TokenTree} :
    tree.isOpen value = true ↔ ∀ name ∈ tree.outerNames, (value name).isSome := by
  induction tree with
  | done => simp [isOpen, outerNames]
  | literal text rest ih => exact ih
  | placeholder name rest ih => rw [isOpen, outerNames, Bool.and_eq_true, List.forall_mem_cons, ih]
  | group content rest _ ih => exact ih

variable (value : String → Option String)

/-- The tokens in the order of the pattern, those of open groups included, each with the number
of groups around it, `depth` of them being around the whole. -/
def placed : (depth : ℕ) → TokenTree → List Placed
  | _, done => []
  | depth, literal text rest => ⟨depth, .literal text⟩ :: rest.placed depth
  | depth, placeholder name rest => ⟨depth, .placeholder name⟩ :: rest.placed depth
  | depth, group content rest =>
    if content.isOpen value then content.placed (depth + 1) ++ rest.placed depth
    else ⟨depth, .closed⟩ :: rest.placed depth

/-- The placeholders outside every group that the walk meets before the first group that is not
open, in whatever depth that group stands. -/
def required (tree : TokenTree) : List String :=
  ((tree.placed value 0).takeWhile (·.visit ≠ .closed)).filterMap Placed.outermost?

variable {value} {tree : TokenTree}

/-- The depth of the tokens apart, these are the tokens that the walk meets. -/
theorem map_visit_placed (tree : TokenTree) (depth : ℕ) :
    (tree.placed value depth).map Placed.visit = tree.visits value := by
  induction tree generalizing depth with
  | done => rfl
  | literal text rest ih => simp [placed, visits, ih]
  | placeholder name rest ih => simp [placed, visits, ih]
  | group content rest ihContent ihRest =>
    cases hopen : content.isOpen value with
    | true => simp [placed, visits, hopen, ihContent, ihRest]
    | false => simp [placed, visits, hopen, ihRest]

/-- The walk is cut short at the same place with and without the depth of the tokens. -/
theorem map_visit_takeWhile_placed (tree : TokenTree) (depth : ℕ) :
    ((tree.placed value depth).takeWhile (·.visit ≠ .closed)).map Placed.visit =
      tree.beforeCut value := by
  rw [beforeCut, ← map_visit_placed tree depth, List.takeWhile_map]
  rfl

/-- In an open group nothing is missing: its own placeholders have values, and groups inside it
are entered only if theirs have values too. -/
theorem missing?_of_mem_visits (hopen : tree.isOpen value = true) {visit : Visit}
    (h : visit ∈ tree.visits value) : visit.missing? value = none := by
  induction tree with
  | done => cases h
  | literal text rest ih =>
    rcases List.mem_cons.1 h with rfl | h
    · rfl
    · exact ih hopen h
  | placeholder name rest ih =>
    obtain ⟨hname, hrest⟩ := Bool.and_eq_true_iff.1 hopen
    rcases List.mem_cons.1 h with rfl | h
    · exact if_pos hname
    · exact ih hrest h
  | group content rest ihContent ihRest =>
    -- the group inside decides for itself whether it is entered
    cases hcontent : content.isOpen value with
    | true =>
      rw [visits, if_pos hcontent] at h
      exact (List.mem_append.1 h).elim (ihContent hcontent) (ihRest hopen)
    | false =>
      rw [visits, hcontent, if_neg Bool.false_ne_true] at h
      rcases List.mem_cons.1 h with rfl | h
      · rfl
      · exact ihRest hopen h

/-- Of an open group nothing is missing. -/
theorem missing_write_of_isOpen (hopen : tree.isOpen value = true) :
    (tree.write value).missing = [] := by
  rw [write_eq]
  refine List.filterMap_eq_nil_iff.2 fun visit hvisit => ?_
  exact missing?_of_mem_visits hopen (List.takeWhile_subset _ hvisit)

/-- A token is as deep as the whole, or else it is deeper and in an open group, and then it is not
missing. -/
theorem depth_of_mem_placed {depth : ℕ} {token : Placed} (h : token ∈ tree.placed value depth) :
    token.depth = depth ∨ depth < token.depth ∧ token.visit.missing? value = none := by
  induction tree generalizing depth with
  | done => cases h
  | literal text rest ih =>
    rcases List.mem_cons.1 h with rfl | h
    · exact .inl rfl
    · exact ih h
  | placeholder name rest ih =>
    rcases List.mem_cons.1 h with rfl | h
    · exact .inl rfl
    · exact ih h
  | group content rest ihContent ihRest =>
    cases hcontent : content.isOpen value with
    | true =>
      rw [placed, if_pos hcontent] at h
      rcases List.mem_append.1 h with h | h
      · -- the group has been entered, so it is open
        have hvisit : token.visit ∈ content.visits value := by
          rw [← map_visit_placed content (depth + 1)]
          exact List.mem_map_of_mem h
        refine .inr ⟨?_, missing?_of_mem_visits hcontent hvisit⟩
        rcases ihContent h with heq | ⟨hlt, -⟩ <;> omega
      · exact ihRest h
    | false =>
      rw [placed, hcontent, if_neg Bool.false_ne_true] at h
      rcases List.mem_cons.1 h with rfl | h
      · exact .inl rfl
      · exact ihRest h

/-- Nothing inside a group is outermost. -/
theorem filterMap_outermost?_placed_succ (tree : TokenTree) (depth : ℕ) :
    (tree.placed value (depth + 1)).filterMap Placed.outermost? = [] := by
  refine List.filterMap_eq_nil_iff.2 fun token htoken => ?_
  have hdepth : token.depth ≠ 0 := by
    rcases depth_of_mem_placed htoken with heq | ⟨hlt, -⟩ <;> omega
  obtain ⟨_ | _, _⟩ := token
  · exact absurd rfl hdepth
  · rfl

/-- The outermost placeholders of the walk are those outside every group, if it is not cut short. -/
theorem filterMap_outermost?_placed (value : String → Option String) (tree : TokenTree) :
    (tree.placed value 0).filterMap Placed.outermost? = tree.outerNames := by
  induction tree with
  | done => rfl
  | literal text rest ih => exact ih
  | placeholder name rest ih => exact congrArg (name :: ·) ih
  | group content rest _ ih =>
    cases hopen : content.isOpen value with
    | true =>
      -- the walk enters the group, but finds nothing outermost in it
      rw [placed, if_pos hopen, List.filterMap_append, filterMap_outermost?_placed_succ, ih]
      rfl
    | false =>
      rw [placed, hopen, if_neg Bool.false_ne_true]
      exact ih

/-- What the walk needs stands outside every group. -/
theorem required_sublist (tree : TokenTree) : (tree.required value).Sublist tree.outerNames := by
  rw [← filterMap_outermost?_placed value tree]
  exact (List.takeWhile_sublist _).filterMap _

/-- What is missing are the placeholders without a value that stand outside every group and before
the first group that is not open. -/
theorem missing_write_eq (tree : TokenTree) :
    (tree.write value).missing = (tree.required value).filter fun name => (value name).isNone := by
  rw [write_eq, ← map_visit_takeWhile_placed tree 0, required, List.filterMap_map,
    List.filter_filterMap]
  refine List.filterMap_congr fun token htoken => ?_
  have hdepth := depth_of_mem_placed (List.takeWhile_subset _ htoken)
  obtain ⟨_ | depth, visit⟩ := token
  · -- outside every group: what is missing is a placeholder without a value
    cases visit with
    | literal text => rfl
    | placeholder name =>
      cases hname : value name <;> simp [Visit.missing?, Placed.outermost?, hname, Option.filter]
    | closed => rfl
  · -- in an open group: nothing is missing, and nothing is needed
    exact hdepth.elim (fun heq => absurd heq (Nat.succ_ne_zero depth)) And.right

/-- Nothing is missing exactly if all placeholders that the walk meets have values. -/
theorem missing_write_eq_nil_iff (tree : TokenTree) :
    (tree.write value).missing = [] ↔
      ∀ name, .placeholder name ∈ tree.beforeCut value → (value name).isSome := by
  rw [write_eq, List.filterMap_eq_nil_iff]
  constructor
  · intro h name hname
    simpa [Visit.missing?, Option.isSome_iff_ne_none] using h _ hname
  · intro h visit hvisit
    cases visit with
    | literal text => rfl
    | placeholder name => exact if_pos (h name hvisit)
    | closed => rfl

end TokenTree

end Route

namespace Pattern

/-! ## What is generated and what is reported -/

/-- What a pattern writes is what the walk over its tokens writes, also if it has no placeholders
and its literals are written without a walk. -/
theorem written_eq (pattern : Pattern) (params : Params) :
    pattern.written params = pattern.tokens.write (valueIn params) := by
  by_cases hplaceholders : pattern.placeholders = []
  · have hnames := names_eq_nil_of_placeholders_eq_nil hplaceholders
    rw [written, hplaceholders, TokenTree.write_of_names_eq_nil hnames]
    rfl
  · exact written_eq_write params hplaceholders

/-- A URL is refused because of the placeholders without a value, each of which is reported once. -/
theorem build_eq_error_iff {pattern : Pattern} {params : Params} {query fragment : String}
    {error : RouteError} :
    pattern.build params query fragment = .error error ↔
      (pattern.written params).missing ≠ [] ∧
        error = .invalidParams pattern.source (pattern.written params).missing.eraseDups := by
  rw [build]
  cases hmissing : (pattern.written params).missing with
  | nil => simp
  | cons name names => simp [List.eraseDups_cons, eq_comm]

/-- The tokens that generation walks over: in the order of the pattern, those of open groups
included, up to the first group that is not open. -/
def walk (pattern : Pattern) (params : Params) : List Visit :=
  pattern.tokens.beforeCut (valueIn params)

/-- The placeholders outside every group that generation walks over. -/
def required (pattern : Pattern) (params : Params) : List String :=
  pattern.tokens.required (valueIn params)

/-- Nothing is put behind a mark if there is nothing to put there. -/
theorem marked_eq (mark text : String) :
    marked mark text = if text = "" then "" else mark ++ text := by
  simp [marked]

theorem missing_written_eq (pattern : Pattern) (params : Params) :
    (pattern.written params).missing =
      (pattern.required params).filter fun name => (valueIn params name).isNone := by
  rw [written_eq, TokenTree.missing_write_eq, required]

theorem text_written_eq (pattern : Pattern) (params : Params) :
    (pattern.written params).text =
      (pattern.walk params).flatMap (Visit.text (valueIn params)) := by
  rw [written_eq, TokenTree.write_eq, walk]

/-- URL generation, said by the walk over the tokens that enters open groups only and ends before
the first group that is not open. A URL is refused exactly if a placeholder that the walk meets
outside every group has no value, and then these names are reported, each once, in the order of
their first appearance. Otherwise every placeholder that the walk meets has a value, and the URL
consists of the literals and values that it meets, with the query string and the fragment behind
their marks unless they are empty. The literals of a pattern without placeholders are what the walk
meets, and the names of the placeholders are listed once each, in the order of their first
appearance. -/
theorem build_eq_walk (pattern : Pattern) (params : Params) (query fragment : String) :
    ((∃ error, pattern.build params query fragment = .error error) ↔
      ∃ name ∈ pattern.required params, valueIn params name = none) ∧
    (∀ error, pattern.build params query fragment = .error error ↔
      ∃ missing, missing ≠ [] ∧
        FirstAppearances
          ((pattern.required params).filter fun name => (valueIn params name).isNone) missing ∧
        error = .invalidParams pattern.source missing) ∧
    (∀ url, pattern.build params query fragment = .ok url ↔
      (∀ name, .placeholder name ∈ pattern.walk params → (valueIn params name).isSome) ∧
      url = String.ofList ((pattern.walk params).flatMap (Visit.text (valueIn params)))
        ++ (if query = "" then "" else "?" ++ query)
        ++ (if fragment = "" then "" else "#" ++ fragment)) ∧
    (pattern.placeholders = [] →
      pattern.tokens.literals = (pattern.walk params).flatMap (Visit.text (valueIn params))) ∧
    FirstAppearances pattern.tokens.names pattern.placeholders := by
  -- what the walk notes as missing decides between an error and a URL
  refine ⟨?_, fun error => ?_, fun url => ?_, fun hplaceholders => ?_,
    firstAppearances_eraseDups _⟩
  · simp [build_eq_error_iff, missing_written_eq]
  · rw [build_eq_error_iff, missing_written_eq]
    constructor
    · rintro ⟨hne, rfl⟩
      have hfirst := firstAppearances_eraseDups
        ((pattern.required params).filter fun name => (valueIn params name).isNone)
      exact ⟨_, fun hnil => hne (hfirst.eq_nil_iff.1 hnil), hfirst, rfl⟩
    · rintro ⟨missing, hne, hfirst, rfl⟩
      exact ⟨fun hnil => hne (hfirst.eq_nil_iff.2 hnil), by rw [firstAppearances_iff.1 hfirst]⟩
  · rw [build_eq_ok_iff, text_written_eq, marked_eq, marked_eq, written_eq,
      TokenTree.missing_write_eq_nil_iff, walk]
  · rw [← text_written_eq, written, hplaceholders]
    rfl

/-- A group without a value ends the URL from within the group around it: neither the rest of that
group nor what follows it is written, and nothing of it is missing. -/
example :
    build
      { source := "/a(/%b%(/%c%)/d)/%e%"
        tokens := .literal ['/', 'a'] (.group
          (.literal ['/'] (.placeholder "b" (.group (.literal ['/'] (.placeholder "c" .done))
            (.literal ['/', 'd'] .done))))
          (.literal ['/'] (.placeholder "e" .done)))
        catchAll := false }
      (.ofList [("b", "1")]) "" "" = .ok "/a/1" := by
  decide +kernel

end Pattern

end RequestDispatch
