import Mathlib.Data.List.Dedup
import RequestDispatch.Controller.Registry
import RequestDispatch.Proofs.Controller.Naming
import RequestDispatch.Proofs.LastSet
import RequestDispatch.Proofs.NameMap

/-!
# Laws of the Controller Registry

A registry is built by registrations, one after another, and a later one takes the place of an
earlier one whose name stands for the same identity. So an absolute identity is looked up to the
factory of the last registration that names it, with or without the leading separator, and to
nothing if none does (`get?_ofRegistrations_eq_some_iff`).

Names are the same to a registry if they have the same absolute form. A name is looked up to the
last factory registered under a name that is the same in this sense, and the identities that are
stored are the different absolute forms of the registered names (`keyed_by_absoluteIdentity`).
-/

namespace RequestDispatch.ControllerRegistry

variable {φ : Type} {identity : String} {factory : φ}

/-- The registry built by registrations, each a name with a factory. -/
def ofRegistrations (registrations : List (String × φ)) : ControllerRegistry φ :=
  registrations.foldl (fun registry entry => registry.register entry.1 entry.2) {}

/-- A factory is the last one registered for an identity: its name names the identity, and the
name of no later registration does. -/
def RegistersLast (registrations : List (String × φ)) (identity : String) (factory : φ) : Prop :=
  ∃ earlier name later, registrations = earlier ++ (name, factory) :: later ∧
    Names name identity ∧ ∀ entry ∈ later, ¬ Names entry.1 identity

/-- A name is looked up to the factory just registered if that was under the same absolute form,
and to what it was looked up to before if not. -/
theorem get?_register (registry : ControllerRegistry φ) (name other : String) (registered : φ) :
    (registry.register name registered).get? other =
      if absoluteIdentity name = absoluteIdentity other then some registered
      else registry.get? other := by
  rw [get?, register, NameMap.get?_insert, get?]
  simp only [eq_comm]

/-- A name is looked up to the last factory that is registered under the same absolute form. -/
theorem get?_ofRegistrations (registrations : List (String × φ)) (name : String) :
    (ofRegistrations registrations).get? name =
      (registrations.filter fun entry =>
        absoluteIdentity entry.1 = absoluteIdentity name).getLast?.map (·.2) := by
  have hafter : ∀ (registry : ControllerRegistry φ) (entry : String × φ),
      (registry.register entry.1 entry.2).get? name =
        if decide (absoluteIdentity entry.1 = absoluteIdentity name) then some entry.2
        else registry.get? name := by
    intro registry entry
    rw [get?_register]
    simp only [decide_eq_true_eq]
  have hlast := lastSet_foldl_filter (fun registry : ControllerRegistry φ => registry.get? name)
    hafter registrations {}
  -- before the first registration, no name is looked up to anything
  have hempty : ({} : ControllerRegistry φ).get? name = none := rfl
  rwa [hempty, Option.or_none] at hlast

/-- An absolute identity is looked up to the last factory that is registered for it. -/
theorem get?_ofRegistrations_eq_some_iff {registrations : List (String × φ)}
    (habsolute : IsAbsolute identity) :
    (ofRegistrations registrations).get? identity = some factory ↔
      RegistersLast registrations identity factory := by
  rw [get?_ofRegistrations, absoluteIdentity_of_isAbsolute habsolute, Option.map_eq_some_iff]
  simp only [getLast?_filter_eq_some_iff, decide_eq_true_eq, decide_eq_false_iff_not,
    ← names_iff habsolute]
  constructor
  · rintro ⟨⟨name, factory⟩, ⟨earlier, later, hsplit, hnames, hlater⟩, rfl⟩
    exact ⟨earlier, name, later, hsplit, hnames, hlater⟩
  · rintro ⟨earlier, name, later, hsplit, hnames, hlater⟩
    exact ⟨(name, factory), ⟨earlier, later, hsplit, hnames, hlater⟩, rfl⟩

/-! ## Names with the same absolute form -/

/-- Registrations made one after another, with a report on each. -/
def registerAll (registrations : List (String × φ)) : Logged (ControllerRegistry φ) :=
  registrations.foldlM (fun registry entry => registry.registerLogged entry.1 entry.2) {}

/-- Reports have no influence on what is registered. -/
theorem value_registerLogged (registry : ControllerRegistry φ) (name : String) (factory : φ) :
    (registry.registerLogged name factory).value = registry.register name factory := by
  rw [registerLogged]
  split <;> rfl

theorem value_registerAll (registrations : List (String × φ)) :
    (registerAll registrations).value = ofRegistrations registrations := by
  rw [registerAll, ofRegistrations]
  generalize ({} : ControllerRegistry φ) = registry
  induction registrations generalizing registry with
  | nil => rfl
  | cons entry registrations ih =>
    rw [List.foldlM_cons, Logged.value_bind, value_registerLogged, ih, List.foldl_cons]

/-- A registration stores the absolute form of its name, and no other identity. -/
theorem mem_identities_register {registry : ControllerRegistry φ} {name : String} :
    identity ∈ (registry.register name factory).identities ↔
      absoluteIdentity name = identity ∨ identity ∈ registry.identities := by
  rw [identities, register, NameMap.mem_names_iff, NameMap.contains_insert, Bool.or_eq_true,
    decide_eq_true_eq, identities, NameMap.mem_names_iff, eq_comm]

/-- The identities that are stored are the absolute forms of the names in registrations. -/
theorem mem_identities_ofRegistrations {registrations : List (String × φ)} :
    identity ∈ (ofRegistrations registrations).identities ↔
      identity ∈ registrations.map fun entry => absoluteIdentity entry.1 := by
  induction registrations using List.reverseRecOn with
  | nil => rfl
  | append_singleton registrations entry ih =>
    rw [ofRegistrations, List.foldl_concat, mem_identities_register, ← ofRegistrations, ih,
      List.map_append, List.map_singleton, List.mem_append, List.mem_singleton, or_comm, eq_comm]

/-- As many controllers are stored as there are different absolute forms. -/
theorem size_ofRegistrations (registrations : List (String × φ)) :
    (ofRegistrations registrations).size =
      (registrations.map fun entry => absoluteIdentity entry.1).dedup.length := by
  have hnodup : (ofRegistrations registrations).identities.Nodup :=
    (NameMap.pairwise_names _).imp String.ne_of_lt
  have hperm : (ofRegistrations registrations).identities.Perm
      (registrations.map fun entry => absoluteIdentity entry.1).dedup := by
    apply (List.perm_ext_iff_of_nodup hnodup (List.nodup_dedup _)).mpr
    intro identity
    rw [mem_identities_ofRegistrations, List.mem_dedup]
  rw [← hperm.length_eq, identities, NameMap.names, List.length_map]
  rfl

/-- A registry does not tell names with the same absolute form apart: a name is looked up to the
last factory that is registered under such a name, and to none if there is no such name. What is
stored are the absolute forms of the registered names, each of them once. Taking the absolute form
changes nothing about a name that is absolute already. -/
theorem keyed_by_absoluteIdentity (registrations : List (String × φ)) :
    (registerAll registrations).value = ofRegistrations registrations ∧
    (∀ name, (ofRegistrations registrations).get? name =
      (registrations.filter fun entry =>
        absoluteIdentity entry.1 = absoluteIdentity name).getLast?.map (·.2)) ∧
    (ofRegistrations registrations).identities.Pairwise (· < ·) ∧
    (∀ identity, identity ∈ (ofRegistrations registrations).identities ↔
      ∃ entry ∈ registrations, absoluteIdentity entry.1 = identity) ∧
    (ofRegistrations registrations).size =
      (registrations.map fun entry => absoluteIdentity entry.1).dedup.length ∧
    (∀ name, absoluteIdentity name = name ↔ IsAbsolute name) ∧
    ∀ name, absoluteIdentity (absoluteIdentity name) = absoluteIdentity name := by
  refine ⟨value_registerAll registrations, get?_ofRegistrations registrations,
    NameMap.pairwise_names _, ?_, size_ofRegistrations registrations,
    fun _ => absoluteIdentity_eq_self_iff, absoluteIdentity_absoluteIdentity⟩
  intro identity
  rw [mem_identities_ofRegistrations, List.mem_map]

end RequestDispatch.ControllerRegistry
