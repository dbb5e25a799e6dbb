import RequestDispatch.Proofs.Text.Cut
import RequestDispatch.Route.Matching

/-!
# The Rows of a Match

The row of some tokens lists, for every position of a path, what the first derivation from
there on binds. `firstOf` says the same of one position by the list of all derivations, and
`row_map_suffixes` that a row has these entries at its positions. At the path's beginning this
is `firstMatch?_eq_firstDerivation?`: matching in linear time finds the first member of the
list of derivations, which may be exponentially long.

The statements are about tokens with anything behind them: `next` tells what is bound from the
end of the tokens on.
-/

namespace RequestDispatch.Route

open Text

/-! ## First derivations, position by position -/

/-- What the first derivation of a path binds that can go on: `next` tells what is bound after
the tokens, if the path can be derived from there on. -/
def firstOf (next : List Char → Option Bindings) (tree : TokenTree) (path : List Char) :
    Option Bindings :=
  (derivations tree path).findSome? fun found => (next found.2).map (found.1 ++ ·)

variable {next : List Char → Option Bindings}

private theorem findSome?_flatMap {α β γ : Type} (xs : List α) (f : α → List β)
    (p : β → Option γ) :
    (xs.flatMap f).findSome? p = xs.findSome? fun x => (f x).findSome? p := by
  induction xs with
  | nil => rfl
  | cons x xs ih =>
    rw [List.flatMap_cons, List.findSome?_append, List.findSome?_cons, ih]
    cases (f x).findSome? p <;> rfl

@[simp]
theorem firstOf_done (path : List Char) : firstOf next .done path = next path := by
  simp [firstOf, derivations]

theorem firstOf_literal (text : List Char) (tree : TokenTree) (path : List Char) :
    firstOf next (.literal text tree) path = (rest? text path).bind (firstOf next tree) := by
  rw [firstOf, derivations]
  cases rest? text path <;> rfl

/-- The text that a placeholder takes before `next`, with what is bound there: the shortest
text after which the path can be derived. -/
def nearest (next : List Char → Option Bindings) (path : List Char) :
    Option (List Char × Bindings) :=
  (takes path).findSome? fun split => (next split.2).map (Prod.mk split.1)

@[simp]
theorem nearest_nil : nearest next [] = none := rfl

/-- A placeholder takes one character if the path can be derived from there on, and else one
character more than a placeholder one position later. -/
theorem nearest_cons (c : Char) (rest : List Char) :
    nearest next (c :: rest) =
      if c = '\n' then none
      else ((next rest).map (Prod.mk [c])).or
        ((nearest next rest).map fun found => (c :: found.1, found.2)) := by
  rw [nearest, takes]
  split
  · rfl
  · rw [List.findSome?_cons, List.findSome?_map, nearest, List.map_findSome?]
    cases next rest with
    | none =>
      rw [Option.map_none, Option.none_or]
      -- the longer texts are those from the next position on, with this character in front
      change (takes rest).findSome? _ = (takes rest).findSome? _
      congr 1
      funext split
      cases h : next split.2 <;> simp [h]
    | some bindings => rfl

/-- A placeholder binds the shortest text after which the path can be derived. -/
theorem firstOf_placeholder (name : String) (tree : TokenTree) (path : List Char) :
    firstOf next (.placeholder name tree) path =
      (nearest (firstOf next tree) path).map fun taken => (name, taken.1) :: taken.2 := by
  rw [firstOf, derivations, findSome?_flatMap, nearest, List.map_findSome?]
  congr 1
  funext split
  rw [List.findSome?_map, Function.comp_apply, Option.map_map, firstOf, List.map_findSome?]
  congr 1
  funext found
  cases h : next found.2 <;> simp [h]

/-- A group is skipped only where its content does not lead to a derivation. -/
theorem firstOf_group (content tree : TokenTree) (path : List Char) :
    firstOf next (.group content tree) path =
      (firstOf (firstOf next tree) content path).or (firstOf next tree path) := by
  rw [firstOf, derivations, List.findSome?_append, findSome?_flatMap]
  congr 1
  rw [firstOf]
  congr 1
  funext first
  rw [List.findSome?_map, firstOf, List.map_findSome?]
  congr 1
  funext found
  cases h : next found.2 <;> simp [h]

/-! ## Rows -/

theorem suffixes_eq_cons (path : List Char) : suffixes path = path :: (suffixes path).tail := by
  cases path <;> rfl

theorem getElem?_suffixes (path : List Char) (i : ℕ) :
    (suffixes path)[i]? = if i ≤ path.length then some (path.drop i) else none := by
  induction path generalizing i with
  | nil => cases i <;> simp [suffixes]
  | cons c rest ih => cases i <;> simp [suffixes, ih]

@[simp]
theorem length_suffixes (path : List Char) : (suffixes path).length = path.length + 1 := by
  induction path with
  | nil => rfl
  | cons c rest ih => simp [suffixes, ih]

/-- A literal looks up what follows it as many positions further down the row as it has
characters. -/
theorem literalRow_map_suffixes (text path : List Char) :
    literalRow text path ((suffixes path).map next) =
      (suffixes path).map fun left => (rest? text left).bind next := by
  apply List.ext_getElem?
  intro i
  rw [literalRow, List.getElem?_zipWith, List.getElem?_map, getElem?_suffixes]
  by_cases hi : i ≤ path.length
  · rw [if_pos hi, Option.map_some]
    by_cases hbegins : text <+: path.drop i
    · -- the literal stands here, so what follows it begins at a position of the path as well
      obtain ⟨left, hleft⟩ := hbegins
      have hlen : text.length + left.length = path.length - i := by
        simpa using congrArg List.length hleft
      have hdrop : path.drop (text.length + i) = left := by
        rw [Nat.add_comm, ← List.drop_drop, ← hleft, List.drop_left]
      rw [List.getElem?_append_left (by simp; omega), List.getElem?_drop, List.getElem?_map,
        getElem?_suffixes, if_pos (by omega), hdrop, ← hleft]
      simp
    · have hrest : rest? text (path.drop i) = none := by
        rw [Option.eq_none_iff_forall_ne_some]
        intro left hleft
        exact hbegins ⟨left, (rest?_eq_some_iff.1 hleft).symm⟩
      have hlt : i < (((suffixes path).map next).drop text.length ++
          List.replicate text.length none).length := by
        simp
        omega
      rw [List.getElem?_eq_getElem hlt]
      simp [hbegins, hrest]
  · simp [hi]

/-- The row of what a placeholder takes is computed from the end of the path, each entry from the
one behind it. -/
theorem takeRow_map_suffixes (path : List Char) :
    takeRow path ((suffixes path).map next).tail = (suffixes path).map (nearest next) := by
  induction path with
  | nil => rfl
  | cons c rest ih =>
    -- the entry behind this one belongs to the rest of the path, as `nearest_cons` asks for
    have hrow : ((suffixes (c :: rest)).map next).tail =
        next rest :: ((suffixes rest).map next).tail := by
      rw [suffixes, List.map_cons, List.tail_cons, suffixes_eq_cons rest]
      rfl
    have hhead : ((suffixes rest).map (nearest next)).head? = some (nearest next rest) := by
      rw [suffixes_eq_cons rest]
      rfl
    rw [hrow, suffixes, List.map_cons, nearest_cons]
    simp only [takeRow, ih, hhead, Option.join_some]
    cases next rest <;> rfl

/-- The row of some tokens has, at every position of the path, what the first derivation from
there on binds. -/
theorem row_map_suffixes (path : List Char) (tree : TokenTree) :
    row path tree ((suffixes path).map next) = (suffixes path).map (firstOf next tree) := by
  induction tree generalizing next with
  | done =>
    rw [row]
    exact List.map_congr_left fun left _ => (firstOf_done left).symm
  | literal text rest ih =>
    rw [row, ih, literalRow_map_suffixes]
    exact List.map_congr_left fun left _ => (firstOf_literal text rest left).symm
  | placeholder name rest ih =>
    rw [row, ih, placeholderRow, takeRow_map_suffixes, List.map_map]
    exact List.map_congr_left fun left _ => (firstOf_placeholder name rest left).symm
  | group content rest ihContent ihRest =>
    rw [row, ihRest, ihContent, List.zipWith_map, List.zipWith_self]
    exact List.map_congr_left fun left _ => (firstOf_group content rest left).symm

/-! ## Whole paths -/

/-- Nothing is bound where a path may end. -/
def atEnd (catchAll : Bool) (left : List Char) : Option Bindings :=
  if mayEnd catchAll left then some [] else none

/-- The row of the path's end, which is computed together with whether there is a line break. -/
theorem endRow_eq (catchAll : Bool) (path : List Char) :
    endRow catchAll path = (!path.contains '\n', (suffixes path).map (atEnd catchAll)) := by
  induction path with
  | nil => rfl
  | cons c rest ih =>
    have hline : (!(c :: rest).contains '\n') = (decide (c ≠ '\n') && !rest.contains '\n') := by
      by_cases hc : c = '\n'
      · simp [hc]
      · simp [hc, Ne.symm hc]
    simp only [endRow, ih, suffixes, List.map_cons, hline]
    by_cases hc : c = '/' <;> simp [atEnd, mayEnd, isTail, hc]

/-- The first derivation of a whole path is the first one that can end there. -/
theorem firstDerivation?_eq_firstOf (tree : TokenTree) (catchAll : Bool) (path : List Char) :
    firstDerivation? tree catchAll path = firstOf (atEnd catchAll) tree path := by
  rw [firstDerivation?, firstOf]
  induction derivations tree path with
  | nil => rfl
  | cons found others ih =>
    cases h : mayEnd catchAll found.2 <;> simp [atEnd, h, ih]

/-- Matching in linear time finds the first derivation of the whole path. -/
theorem firstMatch?_eq_firstDerivation? (tree : TokenTree) (catchAll : Bool)
    (path : List Char) : firstMatch? tree catchAll path = firstDerivation? tree catchAll path := by
  rw [firstMatch?, endRow_eq, row_map_suffixes, suffixes_eq_cons, firstDerivation?_eq_firstOf]
  rfl

end RequestDispatch.Route
