import Mathlib.Data.List.TakeWhile
import RequestDispatch.Route.Generation

/-!
# The Walk of URL Generation

URL generation stops at the first optional group that is not open, in whatever depth of open
groups it stands. Here the walk is said without stopping: `TokenTree.visits` lists the tokens
in the order of the pattern, entering open groups only, and `TokenTree.beforeCut` is what comes
before the first group that is not open. `TokenTree.write_eq` says that generation writes these
tokens, and `Pattern.build_eq_ok_iff` when a URL is generated.
-/

namespace RequestDispatch

namespace Route

/-- A token as the walk meets it. -/
inductive Visit where
  /-- Text that stands for itself. -/
  | literal (text : List Char)
  /-- A named part. -/
  | placeholder (name : String)
  /-- A group that is not open. -/
  | closed
deriving DecidableEq, Repr

namespace Visit

variable (value : String → Option String)

/-- What is written for a token. -/
def text : Visit → List Char
  | literal text => text
  | placeholder name => ((value name).getD "").toList
  | closed => []

/-- The name of a placeholder without a value. -/
def missing? : Visit → Option String
  | placeholder name => if (value name).isSome then none else some name
  | literal _ | closed => none

/-- The name of a placeholder with its value. -/
def written? : Visit → Option (String × String)
  | placeholder name => (value name).map (Prod.mk name)
  | literal _ | closed => none

end Visit

namespace TokenTree

variable (value : String → Option String)

/-- The tokens in the order of the pattern, those of open groups included. -/
def visits : TokenTree → List Visit
  | done => []
  | literal text rest => .literal text :: rest.visits
  | placeholder name rest => .placeholder name :: rest.visits
  | group content rest =>
    if content.isOpen value then content.visits ++ rest.visits else .closed :: rest.visits

/-- The tokens before the first group that is not open. -/
def beforeCut (tree : TokenTree) : List Visit := (tree.visits value).takeWhile (· ≠ .closed)

/-- The placeholders that are written, with their values, in order. -/
def writtenValues (tree : TokenTree) : List (String × String) :=
  (tree.beforeCut value).filterMap (Visit.written? value)

section BeforeCut

variable {value : String → Option String} {content rest : TokenTree}

@[simp]
theorem beforeCut_done : beforeCut value done = [] := rfl

@[simp]
theorem beforeCut_literal (text : List Char) :
    beforeCut value (literal text rest) = .literal text :: rest.beforeCut value := rfl

@[simp]
theorem beforeCut_placeholder (name : String) :
    beforeCut value (placeholder name rest) = .placeholder name :: rest.beforeCut value := rfl

/-- A group that is not open ends the walk. -/
theorem beforeCut_group_of_not_isOpen (hopen : content.isOpen value = false) :
    beforeCut value (group content rest) = [] := by
  simp [beforeCut, visits, hopen]

/-- A group inside an open group ends the walk for what follows the open group as well. -/
theorem beforeCut_group_of_closed_mem (hopen : content.isOpen value = true)
    (hcut : .closed ∈ content.visits value) :
    beforeCut value (group content rest) = content.beforeCut value := by
  have hshort : ((content.visits value).takeWhile (· ≠ .closed)).length ≠
      (content.visits value).length := by
    intro hlength
    have hall := (List.takeWhile_prefix _).eq_of_length hlength
    have hclosed := List.takeWhile_eq_self_iff.1 hall _ hcut
    simp at hclosed
  rw [beforeCut, visits, if_pos hopen, List.takeWhile_append, if_neg hshort, beforeCut]

/-- An open group without such a group inside is walked through, and then what follows it. -/
theorem beforeCut_group_of_closed_notMem (hopen : content.isOpen value = true)
    (hcut : .closed ∉ content.visits value) :
    beforeCut value (group content rest) = content.beforeCut value ++ rest.beforeCut value := by
  have hall : ∀ visit ∈ content.visits value, decide (visit ≠ .closed) = true := by
    intro visit hvisit
    exact decide_eq_true fun heq => hcut (heq ▸ hvisit)
  rw [beforeCut, visits, if_pos hopen, List.takeWhile_append_of_pos hall, beforeCut,
    List.takeWhile_eq_self_iff.2 hall, beforeCut]

end BeforeCut

/-- Generation writes the tokens before the first group that is not open, and nothing else. -/
theorem write_eq (tree : TokenTree) :
    tree.write value =
      ⟨(tree.beforeCut value).flatMap (Visit.text value),
        (tree.beforeCut value).filterMap (Visit.missing? value),
        (tree.visits value).contains .closed⟩ := by
  induction tree with
  | done => rfl
  | literal text rest ih =>
    simp [write, ih, visits, Written.prepend, Visit.text, List.filterMap_cons, Visit.missing?]
  | placeholder name rest ih =>
    cases h : value name <;>
      simp [write, ih, h, visits, Written.prepend, Written.addMissing, Visit.text,
        Visit.missing?]
  | group content rest ihContent ihRest =>
    cases hopen : content.isOpen value with
    | false => simp [write, hopen, visits, beforeCut_group_of_not_isOpen hopen]
    | true =>
      -- whether the content of the group was cut decides whether anything behind it is written
      by_cases hcut : .closed ∈ content.visits value
      · simp [write, hopen, visits, ihContent, hcut, beforeCut_group_of_closed_mem hopen hcut]
      · simp [write, hopen, visits, ihContent, ihRest, hcut, Written.append,
          beforeCut_group_of_closed_notMem hopen hcut]

/-- An open group with nothing behind it is written like its content. -/
theorem write_group_done {value : String → Option String} {content : TokenTree}
    (hopen : content.isOpen value = true) :
    (group content done).write value = content.write value := by
  rcases hcontent : content.write value with ⟨text, missing, cut⟩
  cases cut <;> simp [write, hopen, hcontent, Written.append]

theorem writtenValues_group_done {value : String → Option String} {content : TokenTree}
    (hopen : content.isOpen value = true) :
    (group content done).writtenValues value = content.writtenValues value := by
  by_cases hcut : .closed ∈ content.visits value
  · rw [writtenValues, beforeCut_group_of_closed_mem hopen hcut, writtenValues]
  · rw [writtenValues, beforeCut_group_of_closed_notMem hopen hcut, beforeCut_done,
      List.append_nil, writtenValues]

end TokenTree

end Route

namespace Pattern

/-- The placeholders that a URL is generated from, with their values, in order. -/
def writtenValues (pattern : Pattern) (params : Params) : List (String × String) :=
  pattern.tokens.writtenValues (valueIn params)

/-- What is written for a placeholder is its value. -/
theorem valueIn_of_mem_writtenValues {pattern : Pattern} {params : Params}
    {name value : String} (h : (name, value) ∈ pattern.writtenValues params) :
    valueIn params name = some value := by
  obtain ⟨visit, -, hvisit⟩ := List.mem_filterMap.1 h
  cases visit with
  | placeholder other =>
    obtain ⟨_, hvalue, hpair⟩ := Option.map_eq_some_iff.1 hvisit
    cases hpair
    exact hvalue
  | literal text => simp [Route.Visit.written?] at hvisit
  | closed => simp [Route.Visit.written?] at hvisit

/-- A URL is generated if no placeholder that is written lacks a value. -/
theorem build_eq_ok_iff {pattern : Pattern} {params : Params} {query fragment url : String} :
    pattern.build params query fragment = .ok url ↔
      (pattern.written params).missing = [] ∧
        url = String.ofList (pattern.written params).text ++ marked "?" query
          ++ marked "#" fragment := by
  rw [build]
  cases hmissing : (pattern.written params).missing with
  | nil => simp [eq_comm]
  | cons name names => simp [List.eraseDups_cons]

@[simp]
theorem marked_empty (mark : String) : marked mark "" = "" := rfl

/-- What is generated without a query string and a fragment. -/
theorem toList_of_build_eq_ok {pattern : Pattern} {params : Params} {url : String}
    (h : pattern.build params "" "" = .ok url) :
    url.toList = (pattern.written params).text := by
  rw [(build_eq_ok_iff.1 h).2]
  simp

/-- A pattern with placeholders is written by walking over its tokens. -/
theorem written_eq_write {pattern : Pattern} (params : Params)
    (h : pattern.placeholders ≠ []) :
    pattern.written params = pattern.tokens.write (valueIn params) := by
  rw [written, if_neg (by simpa using h)]

/-- A pattern without placeholders has none in its tokens. -/
theorem names_eq_nil_of_placeholders_eq_nil {pattern : Pattern} (h : pattern.placeholders = []) :
    pattern.tokens.names = [] := by
  refine List.eq_nil_iff_forall_not_mem.2 fun name hname => ?_
  have hmem : name ∈ pattern.placeholders := List.mem_eraseDups.2 hname
  rw [h] at hmem
  cases hmem

end Pattern

end RequestDispatch
