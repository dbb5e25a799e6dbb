import Mathlib.Init

/-!
# Computations That Can Fail
-/

namespace RequestDispatch.Except

variable {ε α β γ : Type}

/-- One computation after another succeeds exactly if both do. -/
theorem bind_eq_ok_iff {first : Except ε α} {next : α → Except ε β} {result : β} :
    (first >>= next) = .ok result ↔ ∃ value, first = .ok value ∧ next value = .ok result := by
  rcases first with error | value
  · simp [bind, Except.bind]
  · simp [bind, Except.bind]

/-- A changed result comes of a result. -/
theorem map_eq_ok_iff {f : α → β} {computed : Except ε α} {result : β} :
    f <$> computed = .ok result ↔ ∃ value, computed = .ok value ∧ f value = result := by
  rcases computed with error | value
  · simp [Functor.map, Except.map]
  · simp [Functor.map, Except.map]

/-- Changing the result for each item changes each of the results. -/
theorem mapM_map (f : α → Except ε β) (g : β → γ) (items : List α) :
    items.mapM (fun item => g <$> f item) = List.map g <$> items.mapM f := by
  induction items with
  | nil => rfl
  | cons item items ih => simp [List.mapM_cons, ih]

/-- Each of the results is the one for some item. -/
theorem exists_of_mem_mapM {f : α → Except ε β} {items : List α} {results : List β}
    (hresults : items.mapM f = .ok results) {result : β} (hmem : result ∈ results) :
    ∃ item ∈ items, f item = .ok result := by
  induction items generalizing results with
  | nil =>
    cases hresults
    cases hmem
  | cons item items ih =>
    rw [List.mapM_cons] at hresults
    obtain ⟨head, hhead, hrest⟩ := bind_eq_ok_iff.mp hresults
    obtain ⟨tail, htail, hcons⟩ := bind_eq_ok_iff.mp hrest
    cases hcons
    rcases List.mem_cons.mp hmem with rfl | hmem
    · exact ⟨item, List.mem_cons_self, hhead⟩
    · obtain ⟨other, hother, hresult⟩ := ih htail hmem
      exact ⟨other, List.mem_cons_of_mem _ hother, hresult⟩

end RequestDispatch.Except
