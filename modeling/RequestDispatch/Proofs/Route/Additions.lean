import Mathlib.Data.List.Nodup
import RequestDispatch.Proofs.Except
import RequestDispatch.Proofs.Route.Registration

/-!
# What Is Added to a Route Table

A table is built by additions, each a route under a name. `RouteTable.Holds` says what a table then
is: its names are those of the additions, each at the place of its first addition, and under each
name stands the route that was added last. The index keeps up with this because an addition either
leaves all positions as they are or appends a new one (`RouteTable.Indexed.names_add`,
`RouteTable.Indexed.get?_add`).

The table of settings is built in this way from the routes that the settings compile to, and there
is none if one of them does not compile (`RouteTable.value_ofSettings`).
-/

namespace RequestDispatch.RouteTable

/-- The names of the routes, in matching order. -/
def names (table : RouteTable) : List String := table.routes.map Prod.fst

/-- Add routes one after another, each under its name. -/
def addAll (table : RouteTable) (additions : List (String × Route)) : RouteTable :=
  additions.foldl (fun table entry => table.add entry.1 entry.2) table

/-- The route that is added last under a name. -/
def lastAdded (additions : List (String × Route)) (name : String) : Option Route :=
  (additions.reverse.find? fun entry => entry.1 = name).map Prod.snd

/-- The routes of settings with their names, or why the first that does not compile fails to. -/
def compiled (settings : List RouteSetting) : Except RouteError (List (String × Route)) :=
  settings.mapM fun setting =>
    (setting.name, ·) <$> (Route.compile setting.pattern setting.defaults).value

/-- A table holds what has been added, one route after another. -/
structure Holds (table : RouteTable) (additions : List (String × Route)) : Prop where
  /-- No name occurs twice. -/
  nodup : table.names.Nodup
  /-- The index has the names of the table and no others, and leads each to its position. -/
  indexed : ∀ name position, table.positions.get? name = some position ↔
    table.names[position]? = some name
  /-- The index leads to routes. -/
  position_lt : ∀ name position, table.positions.get? name = some position →
    position < table.size
  /-- The names are in the order in which they were added for the first time. -/
  names_eq : table.names = (additions.map Prod.fst).eraseDups
  /-- A name is looked up to the route that was added last under it. -/
  get?_eq : ∀ name, table.get? name = lastAdded additions name
  /-- Under each name, the pattern of the route that was added last is listed. -/
  patterns_eq : table.patterns = table.names.filterMap fun name =>
    (lastAdded additions name).map fun route => (name, route.pattern.source)
  /-- The URLs of a name are generated by the route that was added last under it. -/
  url_eq : ∀ name params query fragment, table.url name params query fragment =
    match lastAdded additions name with
    | none => pure (.error (.unknownRoute name))
    | some route => route.url params query fragment

namespace Indexed

variable {table : RouteTable} (htable : table.Indexed)

include htable

/-- A name that is not in the table has no position. -/
theorem get?_positions_eq_none_iff {name : String} :
    table.positions.get? name = none ↔ name ∉ table.names := by
  rw [Option.eq_none_iff_forall_ne_some, List.mem_iff_getElem?, not_exists]
  exact forall_congr' fun position => not_congr (htable name position)

/-- The index leads to routes. -/
theorem lt_length {name : String} {position : Nat}
    (hposition : table.positions.get? name = some position) : position < table.routes.length := by
  obtain ⟨hlt, -⟩ := List.getElem?_eq_some_iff.mp ((htable name position).mp hposition)
  rwa [List.length_map] at hlt

/-- The names are distinct, because each of them has only one position. -/
theorem nodup_names : table.names.Nodup := by
  rw [List.nodup_iff_getElem?_ne_getElem?]
  intro first second hlt hbound heq
  have hsecond : table.names[second]? = some table.names[second] :=
    List.getElem?_eq_getElem hbound
  have hfirst := heq.trans hsecond
  have hpositions := ((htable _ _).mpr hfirst).symm.trans ((htable _ _).mpr hsecond)
  exact hlt.ne (Option.some.inj hpositions)

/-! ## One addition -/

/-- An addition appends a new name, and otherwise leaves the names as they are. -/
theorem names_add (name : String) (route : Route) :
    (table.add name route).names =
      if name ∈ table.names then table.names else table.names ++ [name] := by
  rw [RouteTable.add]
  rcases hheld : table.positions.get? name with _ | position
  · rw [if_neg (htable.get?_positions_eq_none_iff.mp hheld)]
    exact List.map_append
  · have hname : table.names[position]? = some name := (htable name position).mp hheld
    obtain ⟨hlt, hget⟩ := List.getElem?_eq_some_iff.mp hname
    rw [if_pos (List.mem_of_getElem? hname)]
    -- the name that is written at this position is the one that stands there
    calc (table.routes.set position (name, route)).map Prod.fst
        = table.names.set position name := List.map_set
      _ = table.names.set position table.names[position] := by rw [hget]
      _ = table.names := List.set_getElem_self hlt

/-- After an addition, its name is looked up to its route, and any other name as before. -/
theorem get?_add (name other : String) (route : Route) :
    (table.add name route).get? other =
      if other = name then some route else table.get? other := by
  have hadded := htable.add name route
  by_cases hother : other = name
  · subst hother
    rw [if_pos rfl]
    apply hadded.get?_of_mem
    rw [RouteTable.add]
    rcases hheld : table.positions.get? other with _ | position
    · exact List.mem_concat_self
    · exact List.mem_set (htable.lt_length hheld) _
  · rw [if_neg hother, get?, get?, RouteTable.add]
    rcases hposition : table.positions.get? other with _ | position
    · rcases table.positions.get? name with _ | held
      · rw [NameMap.get?_insert, if_neg hother, hposition]
        rfl
      · rw [hposition]
        rfl
    · have hlt := htable.lt_length hposition
      rcases hheld : table.positions.get? name with _ | held
      · rw [NameMap.get?_insert, if_neg hother, hposition]
        simp only [Option.bind_some, List.getElem?_append_left hlt]
      · -- the two names stand at different positions
        have hne : held ≠ position := by
          rintro rfl
          have hname := (htable name held).mp hheld
          rw [(htable other held).mp hposition] at hname
          exact hother (Option.some.inj hname)
        simp only [hposition, Option.bind_some, List.getElem?_set_ne hne]

/-! ## What is listed -/

/-- The patterns are those that the names are looked up to, in the order of the names. -/
theorem patterns_eq :
    table.patterns = table.names.filterMap fun name =>
      (table.get? name).map fun route => (name, route.pattern.source) := by
  rw [names, List.filterMap_map, patterns, ← List.filterMap_eq_map]
  apply List.filterMap_congr
  intro entry hentry
  rw [Function.comp_apply, Function.comp_apply, htable.get?_of_mem hentry]
  rfl

end Indexed

/-! ## All additions -/

variable (additions : List (String × Route))

theorem indexed_addAll : (empty.addAll additions).Indexed := by
  induction additions using List.reverseRecOn with
  | nil => exact indexed_empty
  | append_singleton additions entry ih =>
    rw [addAll, List.foldl_concat]
    exact ih.add entry.1 entry.2

theorem names_addAll : (empty.addAll additions).names = (additions.map Prod.fst).eraseDups := by
  induction additions using List.reverseRecOn with
  | nil => rfl
  | append_singleton additions entry ih =>
    have hadded := (indexed_addAll additions).names_add entry.1 entry.2
    rw [addAll, List.foldl_concat, ← addAll, hadded, ih, List.map_append, List.eraseDups_append]
    by_cases hmem : entry.1 ∈ additions.map Prod.fst
    · simp_all [List.removeAll]
    · simp_all [List.removeAll, List.eraseDups_cons]

theorem get?_addAll (name : String) :
    (empty.addAll additions).get? name = lastAdded additions name := by
  induction additions using List.reverseRecOn with
  | nil => rfl
  | append_singleton additions entry ih =>
    have hadded := (indexed_addAll additions).get?_add entry.1 name entry.2
    rw [addAll, List.foldl_concat, ← addAll, hadded, ih, lastAdded, lastAdded,
      List.reverse_concat, List.find?_cons]
    by_cases hname : entry.1 = name
    · simp [hname]
    · simp [hname, Ne.symm hname]

/-- Additions to the empty table leave a table that holds them. -/
theorem holds_addAll : (empty.addAll additions).Holds additions where
  nodup := (indexed_addAll additions).nodup_names
  indexed := indexed_addAll additions
  position_lt _ _ hposition := (indexed_addAll additions).lt_length hposition
  names_eq := names_addAll additions
  get?_eq := get?_addAll additions
  patterns_eq := by
    rw [(indexed_addAll additions).patterns_eq]
    simp only [get?_addAll]
  url_eq name params query fragment := by
    rw [← get?_addAll]
    rfl

/-! ## Settings -/

/-- The routes of settings are added one after another, if all of them compile. -/
theorem value_addSettings (table : RouteTable) (settings : List RouteSetting) :
    (table.addSettings settings).value = table.addAll <$> compiled settings := by
  induction settings generalizing table with
  | nil => rfl
  | cons setting settings ih =>
    rw [addSettings, Logged.value_bind, compiled, List.mapM_cons, ← compiled]
    rcases (Route.compile setting.pattern setting.defaults).value with error | route
    · rfl
    · have hadded : (table.addLogged setting.name route).value = table.add setting.name route := rfl
      simp only [Logged.value_bind, hadded, ih]
      rcases compiled settings with error | additions
      · rfl
      · rfl

/-- The table of settings is built by adding their routes, if all of them compile. -/
theorem value_ofSettings (settings : List RouteSetting) :
    (ofSettings settings).value = empty.addAll <$> compiled settings := by
  rw [ofSettings, Logged.value_bind, value_addSettings]
  rcases compiled settings with error | additions
  · rfl
  · rfl

/-- Whatever is added to a table, one route after another, is what the table holds: distinct names
in the order of their first addition, an index of their positions, and under each name the route
that was added last. This includes the table of settings, which is the one that their routes are
added to, in order. -/
theorem holds_additions :
    (∀ additions, (empty.addAll additions).Holds additions) ∧
    ∀ settings, (ofSettings settings).value = empty.addAll <$> compiled settings :=
  ⟨holds_addAll, value_ofSettings⟩

end RequestDispatch.RouteTable
