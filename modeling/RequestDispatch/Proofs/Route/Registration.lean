import RequestDispatch.Proofs.NameMap
import RequestDispatch.Proofs.Route.Table

/-!
# The Index of a Route Table

A table looks the route of a name up by an index of positions. `RouteTable.Indexed` says that this
index leads from each name to the one position where a route of that name stands. Adding a route
keeps it so (`RouteTable.Indexed.add`), hence it is so in every table of settings
(`RouteTable.indexed_of_ofSettings`), and the route that a request goes to is looked up by its name
(`RouteTable.Indexed.get?_of_routeNamed`).
-/

namespace RequestDispatch.RouteTable

variable {table : RouteTable} {name : String} {route : Route}

/-- What stands at a position of a list with one more element. -/
theorem getElem?_concat_eq_some_iff {names : List String} {last : String} {position : Nat} :
    (names ++ [last])[position]? = some name ↔
      names[position]? = some name ∨ position = names.length ∧ last = name := by
  rcases Nat.lt_trichotomy position names.length with hlt | rfl | hgt
  · simp [List.getElem?_append_left hlt, hlt.ne]
  · simp
  · rw [List.getElem?_eq_none (by simpa [Nat.succ_le_iff] using hgt), List.getElem?_eq_none hgt.le]
    simp [hgt.ne']

/-- The index leads from each name to the one position where a route of that name stands. -/
def Indexed (table : RouteTable) : Prop :=
  ∀ name position, table.positions.get? name = some position ↔
    (table.routes.map Prod.fst)[position]? = some name

theorem indexed_empty : empty.Indexed := by
  intro name position
  simp [empty]

/-- Adding a route keeps the index. A new name comes last, and a name in use keeps its position. -/
theorem Indexed.add (htable : table.Indexed) (name : String) (route : Route) :
    (table.add name route).Indexed := by
  intro other position
  rw [RouteTable.add]
  rcases hheld : table.positions.get? name with _ | held
  · rw [NameMap.get?_insert, List.map_append, List.map_singleton, getElem?_concat_eq_some_iff,
      ← htable, List.length_map]
    by_cases hother : other = name
    · simp [hother, hheld, eq_comm]
    · simp [hother, Ne.symm hother]
  · -- the route is replaced by one of the same name
    have hname := (htable name held).mp hheld
    obtain ⟨hlt, hget⟩ := List.getElem?_eq_some_iff.mp hname
    rw [List.map_set, ← hget, List.set_getElem_self]
    exact htable other position

/-- Adding the routes of settings keeps the index. -/
theorem Indexed.addSettings (htable : table.Indexed) {settings : List RouteSetting}
    {loaded : RouteTable} (hloaded : (table.addSettings settings).value = .ok loaded) :
    loaded.Indexed := by
  induction settings generalizing table with
  | nil =>
    obtain rfl : table = loaded := Except.ok.inj hloaded
    exact htable
  | cons setting settings ih =>
    rw [RouteTable.addSettings, Logged.value_bind] at hloaded
    rcases hcompiled : (Route.compile setting.pattern setting.defaults).value with error | route
    · rw [hcompiled] at hloaded
      cases hloaded
    · rw [hcompiled] at hloaded
      exact ih (htable.add setting.name route) hloaded

/-- The table of settings is indexed. -/
theorem indexed_of_ofSettings {settings : List RouteSetting}
    (htable : (ofSettings settings).value = .ok table) : table.Indexed := by
  rw [ofSettings, Logged.value_bind] at htable
  rcases hloaded : (empty.addSettings settings).value with error | loaded
  · rw [hloaded] at htable
    cases htable
  · rw [hloaded] at htable
    obtain rfl : loaded = table := Except.ok.inj htable
    exact indexed_empty.addSettings hloaded

/-- The entry that matches is one of those that are tried. -/
theorem mem_of_tryRoutes {routes : List (String × Route)} {entry : String × Route}
    {request routed : Request}
    (hrouted : (tryRoutes routes request).value = (.ok (some entry), routed)) :
    entry ∈ routes := by
  induction routes generalizing request with
  | nil => cases hrouted
  | cons first routes ih =>
    rw [tryRoutes, Logged.value_bind] at hrouted
    rcases hparsed : (first.2.parse request).value with ⟨error | matched | _, next⟩ <;>
      rw [hparsed] at hrouted
    · cases hrouted
    · cases hrouted
      exact List.mem_cons_self
    · exact List.mem_cons_of_mem _ (ih hrouted)

/-- The entry that a request goes to is one of the table. -/
theorem mem_of_routeNamed {request routed : Request}
    (hrouted : (table.routeNamed request).value = (.ok (name, route), routed)) :
    (name, route) ∈ table.routes := by
  rw [routeNamed_value] at hrouted
  rcases htried : (tryRoutes table.routes request).value with ⟨error | _ | entry, next⟩ <;>
    rw [htried] at hrouted <;> cases hrouted
  exact mem_of_tryRoutes htried

/-- The route of an entry is looked up by its name. -/
theorem Indexed.get?_of_mem (htable : table.Indexed) (hmem : (name, route) ∈ table.routes) :
    table.get? name = some route := by
  obtain ⟨position, hposition⟩ := List.mem_iff_getElem?.mp hmem
  have hname : table.positions.get? name = some position := by
    rw [htable, List.getElem?_map, hposition, Option.map_some]
  rw [get?, hname, Option.bind_some, hposition, Option.map_some]

/-- The route that a request goes to is looked up by its name. -/
theorem Indexed.get?_of_routeNamed (htable : table.Indexed) {request routed : Request}
    (hrouted : (table.routeNamed request).value = (.ok (name, route), routed)) :
    table.get? name = some route :=
  htable.get?_of_mem (mem_of_routeNamed hrouted)

end RequestDispatch.RouteTable
