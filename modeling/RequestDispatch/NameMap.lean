/-!
# Name Maps

A finite map from names to values that lists its entries in name order. Parameters,
template variables, header settings and environments are all of this shape, and their
order is visible wherever they are printed.

The order of names is the order of their code points, which is also the order of their
UTF-8 bytes. Each name occurs once: `NameMap.sorted` asks for strictly increasing names, so
the entries are exactly the pairs that look-up finds (`NameMap.mem_entries_iff`).
-/

namespace RequestDispatch

universe u

/-- Insert a value into a list sorted by name, in place of the value that has that name. -/
def insertByName {α : Type u} (name : String) (value : α) :
    List (String × α) → List (String × α)
  | [] => [(name, value)]
  | (other, old) :: rest =>
    if name < other then (name, value) :: (other, old) :: rest
    else if name = other then (name, value) :: rest
    else (other, old) :: insertByName name value rest

/-- The value stored under a name in a list of named values, the first one if there are
several. -/
def lookupByName {α : Type u} (name : String) : List (String × α) → Option α
  | [] => none
  | (other, value) :: rest => if name = other then some value else lookupByName name rest

theorem mem_insertByName {α : Type u} {name : String} {value : α} {entry : String × α}
    {entries : List (String × α)} (h : entry ∈ insertByName name value entries) :
    entry = (name, value) ∨ entry ∈ entries := by
  induction entries with
  | nil => simpa [insertByName] using h
  | cons head rest ih =>
    obtain ⟨other, old⟩ := head
    rw [insertByName] at h
    split at h
    · simpa using h
    · split at h
      · rcases List.mem_cons.1 h with h | h
        · exact Or.inl h
        · exact Or.inr (List.mem_cons_of_mem _ h)
      · rcases List.mem_cons.1 h with h | h
        · exact Or.inr (h ▸ List.mem_cons_self)
        · exact (ih h).imp_right (List.mem_cons_of_mem _)

theorem sorted_insertByName {α : Type u} (name : String) (value : α)
    {entries : List (String × α)} (sorted : entries.Pairwise (·.1 < ·.1)) :
    (insertByName name value entries).Pairwise (·.1 < ·.1) := by
  induction entries with
  | nil => simp [insertByName]
  | cons head rest ih =>
    obtain ⟨other, old⟩ := head
    obtain ⟨before, tail⟩ := List.pairwise_cons.1 sorted
    rw [insertByName]
    split
    · rename_i lt
      refine List.pairwise_cons.2 ⟨fun entry mem => ?_, sorted⟩
      rcases List.mem_cons.1 mem with rfl | mem
      · exact lt
      · exact String.lt_trans lt (before entry mem)
    · split
      · rename_i eq
        subst eq
        exact List.pairwise_cons.2 ⟨before, tail⟩
      · rename_i nlt ne
        refine List.pairwise_cons.2 ⟨fun entry mem => ?_, ih tail⟩
        rcases mem_insertByName mem with rfl | mem
        · rcases String.le_total other name with h | h
          · exact String.not_le.1 fun h' => ne (String.le_antisymm h' h)
          · exact absurd (String.not_le.1 fun h' => ne (String.le_antisymm h h')) nlt
        · exact before entry mem

theorem lookupByName_insertByName {α : Type u} (name other : String) (value : α)
    (entries : List (String × α)) :
    lookupByName other (insertByName name value entries) =
      if other = name then some value else lookupByName other entries := by
  induction entries with
  | nil => simp [insertByName, lookupByName]
  | cons head rest ih =>
    obtain ⟨key, old⟩ := head
    rw [insertByName]
    split
    · simp [lookupByName]
    · split
      · rename_i eq
        subst eq
        by_cases h : other = name <;> simp [lookupByName, h]
      · rename_i ne
        by_cases h : other = key
        · subst h
          simp [lookupByName, Ne.symm ne]
        · simp [lookupByName, h, ih]

theorem lookupByName_filter {α : Type u} (name other : String) (entries : List (String × α)) :
    lookupByName other (entries.filter (·.1 ≠ name)) =
      if other = name then none else lookupByName other entries := by
  induction entries with
  | nil => simp [lookupByName]
  | cons head rest ih =>
    obtain ⟨key, old⟩ := head
    by_cases h : key = name
    · subst h
      by_cases h' : other = key <;> simp_all [lookupByName]
    · by_cases h' : other = key
      · subst h'
        simp [h, lookupByName]
      · simp_all [lookupByName]

theorem mem_of_lookupByName {α : Type u} {name : String} {value : α}
    {entries : List (String × α)} (h : lookupByName name entries = some value) :
    (name, value) ∈ entries := by
  induction entries with
  | nil => simp [lookupByName] at h
  | cons head rest ih =>
    obtain ⟨key, old⟩ := head
    rw [lookupByName] at h
    split at h
    · rename_i eq
      subst eq
      simp_all
    · exact List.mem_cons_of_mem _ (ih h)

theorem lookupByName_of_mem {α : Type u} {name : String} {value : α}
    {entries : List (String × α)} (sorted : entries.Pairwise (·.1 < ·.1))
    (h : (name, value) ∈ entries) : lookupByName name entries = some value := by
  induction entries with
  | nil => simp at h
  | cons head rest ih =>
    obtain ⟨key, old⟩ := head
    obtain ⟨before, tail⟩ := List.pairwise_cons.1 sorted
    rcases List.mem_cons.1 h with h | h
    · cases h
      simp [lookupByName]
    · have ne : name ≠ key := (String.ne_of_lt (before _ h)).symm
      simp [lookupByName, ne, ih tail h]

/-- A finite map from names to values, listed in name order. -/
structure NameMap (α : Type u) where
  /-- The names with their values. -/
  entries : List (String × α)
  /-- Names increase strictly. -/
  sorted : entries.Pairwise (·.1 < ·.1)

namespace NameMap

variable {α : Type u}

/-- The map with no name. -/
def empty : NameMap α := ⟨[], List.Pairwise.nil⟩

instance : EmptyCollection (NameMap α) := ⟨empty⟩

instance : Inhabited (NameMap α) := ⟨empty⟩

instance [DecidableEq α] : DecidableEq (NameMap α) := fun a b =>
  decidable_of_iff (a.entries = b.entries)
    ⟨fun h => by cases a; cases b; cases h; rfl, fun h => h ▸ rfl⟩

/-- The value stored under a name. -/
def get? (map : NameMap α) (name : String) : Option α := lookupByName name map.entries

/-- Whether a name has a value. -/
def contains (map : NameMap α) (name : String) : Bool := (map.get? name).isSome

/-- Store a value under a name, in place of the one it had. -/
def insert (map : NameMap α) (name : String) (value : α) : NameMap α :=
  ⟨insertByName name value map.entries, sorted_insertByName name value map.sorted⟩

/-- Forget a name. -/
def erase (map : NameMap α) (name : String) : NameMap α :=
  ⟨map.entries.filter (·.1 ≠ name), map.sorted.filter _⟩

/-- Store named values one after another, so a later value replaces an earlier one. -/
def insertMany (map : NameMap α) (values : List (String × α)) : NameMap α :=
  values.foldl (fun map entry => map.insert entry.1 entry.2) map

/-- Copy every entry of `other` onto `map`; on a common name `other` wins. -/
def override (map other : NameMap α) : NameMap α := map.insertMany other.entries

/-- The map holding the given named values; of two values of one name the later wins. -/
def ofList (values : List (String × α)) : NameMap α := empty.insertMany values

/-- The names, in order. -/
def names (map : NameMap α) : List String := map.entries.map (·.1)

/-- How many names there are. -/
def size (map : NameMap α) : Nat := map.entries.length

/-- Whether there is no name. -/
def isEmpty (map : NameMap α) : Bool := map.entries.isEmpty

@[simp] theorem get?_empty (name : String) : (empty : NameMap α).get? name = none := rfl

theorem get?_insert (map : NameMap α) (name other : String) (value : α) :
    (map.insert name value).get? other = if other = name then some value else map.get? other :=
  lookupByName_insertByName name other value map.entries

theorem get?_erase (map : NameMap α) (name other : String) :
    (map.erase name).get? other = if other = name then none else map.get? other :=
  lookupByName_filter name other map.entries

/-- An entry is a name with the value looked up under it. -/
theorem mem_entries_iff {map : NameMap α} {name : String} {value : α} :
    (name, value) ∈ map.entries ↔ map.get? name = some value :=
  ⟨lookupByName_of_mem map.sorted, mem_of_lookupByName⟩

end NameMap

end RequestDispatch
