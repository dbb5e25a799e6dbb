/-!
# What Was Set Last

A state goes through changes, one after another. Some of them set something that the state holds,
and none takes it away. Then what is held in the end is what was set last, or else what was held in
the beginning (`lastSet_foldl`). Whether a change sets it may be a condition on the change
(`lastSet_foldl_filter`); the last change that meets a condition is the one that no such change
follows (`getLast?_filter_eq_some_iff`).
-/

namespace RequestDispatch

variable {σ κ α : Type} {after : σ → κ → σ}

/-- If changes set something but never take it away, what is left is what was set last, or else
what was there before. -/
theorem lastSet_foldl (held : σ → Option α) {set : κ → Option α}
    (hafter : ∀ state change, held (after state change) = (set change).or (held state))
    (changes : List κ) (state : σ) :
    held (changes.foldl after state) =
      (changes.filterMap set).getLast?.or (held state) := by
  induction changes generalizing state with
  | nil => rfl
  | cons change changes ih =>
    rw [List.foldl_cons, ih, hafter]
    rcases hset : set change with _ | value
    · rw [List.filterMap_cons_none hset, Option.none_or]
    · rw [List.filterMap_cons_some hset, List.getLast?_cons, Option.some_or]
      rcases (changes.filterMap set).getLast? with _ | last <;> rfl

/-- If the changes that meet a condition set something, and the others leave it, what is left is
what the last change set that meets the condition, or else what was there before. -/
theorem lastSet_foldl_filter (held : σ → Option α) {condition : κ → Bool} {value : κ → α}
    (hafter : ∀ state change, held (after state change) =
      if condition change then some (value change) else held state)
    (changes : List κ) (state : σ) :
    held (changes.foldl after state) =
      ((changes.filter condition).getLast?.map value).or (held state) := by
  have hset : ∀ state change, held (after state change) =
      ((Option.guard condition change).map value).or (held state) := by
    intro state change
    rw [hafter, Option.guard]
    split <;> rfl
  rw [lastSet_foldl held hset, ← List.map_filterMap, List.filterMap_eq_filter, List.getLast?_map]

/-- The last item that meets a condition meets it, and none of the items behind it does. -/
theorem getLast?_filter_eq_some_iff {condition : κ → Bool} {items : List κ} {last : κ} :
    (items.filter condition).getLast? = some last ↔
      ∃ earlier later, items = earlier ++ last :: later ∧ condition last = true ∧
        ∀ item ∈ later, condition item = false := by
  rw [List.getLast?_filter, List.find?_eq_some_iff_append]
  constructor
  · rintro ⟨hlast, later, earlier, hreverse, hlater⟩
    refine ⟨earlier.reverse, later.reverse, ?_, hlast, ?_⟩
    · rw [List.reverse_eq_iff.mp hreverse]
      simp
    · intro item hitem
      simpa using hlater item (List.mem_reverse.mp hitem)
  · rintro ⟨earlier, later, rfl, hlast, hlater⟩
    refine ⟨hlast, later.reverse, earlier.reverse, by simp, ?_⟩
    intro item hitem
    rw [hlater item (List.mem_reverse.mp hitem)]
    rfl

end RequestDispatch
