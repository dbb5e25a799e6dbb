import RequestDispatch.NameMap

/-!
# Laws of Name Maps

Look-up determines a name map (`NameMap.ext_get?`), because the entries are sorted and each
name occurs once. So every operation is known once look-up after it is.
-/

namespace RequestDispatch.NameMap

universe u

variable {α : Type u}

@[simp]
theorem get?_emptyCollection (name : String) : (∅ : NameMap α).get? name = none := rfl

/-- Storing a value adds its name, and no other. -/
theorem contains_insert (map : NameMap α) (name other : String) (value : α) :
    (map.insert name value).contains other = (decide (other = name) || map.contains other) := by
  rw [contains, get?_insert, contains]
  by_cases hother : other = name
  · simp [hother]
  · simp [hother]

/-- The names are those that have a value. -/
theorem mem_names_iff {map : NameMap α} {name : String} :
    name ∈ map.names ↔ map.contains name = true := by
  rw [names, List.mem_map, contains, Option.isSome_iff_exists]
  constructor
  · rintro ⟨⟨name, value⟩, hmem, rfl⟩
    exact ⟨value, mem_entries_iff.mp hmem⟩
  · rintro ⟨value, hvalue⟩
    exact ⟨(name, value), mem_entries_iff.mpr hvalue, rfl⟩

/-- The names are in order, so that none occurs twice. -/
theorem pairwise_names (map : NameMap α) : map.names.Pairwise (· < ·) :=
  List.pairwise_map.mpr map.sorted

/-- Of entries in the order of their names, none has the name of the first one but itself. -/
theorem lookupByName_of_pairwise {name : String} {value : α} {entries : List (String × α)}
    (sorted : ((name, value) :: entries).Pairwise (·.1 < ·.1)) :
    lookupByName name entries = none := by
  rcases hfound : lookupByName name entries with _ | other
  · rfl
  · have hlt := (List.pairwise_cons.1 sorted).1 _ (mem_of_lookupByName hfound)
    exact absurd hlt (String.lt_irrefl name)

/-- Storing entries in the order of their names: those that are stored win over those that are
there. -/
theorem get?_insertMany {entries : List (String × α)} (sorted : entries.Pairwise (·.1 < ·.1))
    (map : NameMap α) (name : String) :
    (map.insertMany entries).get? name = (lookupByName name entries).or (map.get? name) := by
  induction entries generalizing map with
  | nil => rfl
  | cons entry entries ih =>
    obtain ⟨other, value⟩ := entry
    have hstored : map.insertMany ((other, value) :: entries) =
        (map.insert other value).insertMany entries := rfl
    rw [hstored, ih (List.pairwise_cons.1 sorted).2, get?_insert, lookupByName]
    by_cases hname : name = other
    · subst hname
      rw [lookupByName_of_pairwise sorted, if_pos rfl, if_pos rfl, Option.none_or, Option.some_or]
    · rw [if_neg hname, if_neg hname]

/-- A map that overrides another one wins where both have a value. -/
theorem get?_override (map other : NameMap α) (name : String) :
    (map.override other).get? name = (other.get? name).or (map.get? name) :=
  get?_insertMany other.sorted map name

/-- No entry occurs twice, since no name does. -/
theorem nodup_entries (map : NameMap α) : map.entries.Nodup :=
  map.sorted.imp fun hlt heq => String.ne_of_lt hlt (congrArg Prod.fst heq)

/-- Two maps that agree on every look-up are equal. -/
theorem ext_get? {a b : NameMap α} (h : ∀ name, a.get? name = b.get? name) : a = b := by
  have hmem : ∀ entry, entry ∈ a.entries ↔ entry ∈ b.entries := by
    rintro ⟨name, value⟩
    rw [mem_entries_iff, mem_entries_iff, h]
  have hperm : a.entries.Perm b.entries :=
    (List.perm_ext_iff_of_nodup a.nodup_entries b.nodup_entries).2 fun entry => hmem entry
  have hentries : a.entries = b.entries := by
    refine hperm.eq_of_pairwise (fun x y _ _ hxy hyx => ?_) a.sorted b.sorted
    exact absurd (String.lt_trans hxy hyx) (String.lt_irrefl _)
  cases a
  cases b
  cases hentries
  rfl

end RequestDispatch.NameMap
