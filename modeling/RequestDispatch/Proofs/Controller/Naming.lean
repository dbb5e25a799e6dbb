import RequestDispatch.Proofs.Text.Cut
import RequestDispatch.Settings.Basic

/-!
# Laws of Names

Camel case takes out what separates the words of a name, and puts in no character that comes
before the letter A (`mem_of_mem_camelcase`). So a name in camel case never has a dot, and a sign
such as `%` or `:` only if the name itself has it.

Under the class pattern of the default settings the module is substituted before the controller.
A module without percent signs leaves no marker behind, so that the controller goes exactly where
the pattern has it, whatever the controller is called (`substitute_controllerClasses`).
-/

namespace RequestDispatch

namespace Text

/-! ## Upper case -/

/-- A character given by its code point, which is not before the letter A, is not before it. -/
theorem le_toNat_ofNat {code : Nat} (hvalid : code.isValidChar) (hcode : 'A'.toNat ≤ code) :
    'A'.toNat ≤ (Char.ofNat code).toNat := by
  have htoNat : (Char.ofNat code).toNat = code := by
    rw [Char.ofNat, dif_pos hvalid]
    rfl
  rwa [htoNat]

/-- Characters are expanded to characters, none of which is before the letter A. -/
theorem le_of_mem_caseExpansions :
    ∀ entry ∈ caseExpansions, ∀ code ∈ entry.2, 'A'.toNat ≤ code ∧ code.isValidChar := by
  decide

/-- The letters of a run have upper-case letters none of which is before the letter A, and all
of which are on one side of the surrogates. -/
theorem le_of_mem_caseRuns :
    ∀ run ∈ caseRuns, 'A'.toNat ≤ run.first + run.offset ∧
      (run.last + run.offset < 0xd800 ∨
        0xdfff < run.first + run.offset ∧ run.last + run.offset < 0x110000) := by
  decide +kernel

/-- The upper-case form of a character has no character before the letter A but that character
itself. -/
theorem eq_of_mem_upperChar {a c : Char} (hmem : a ∈ upperChar c) (ha : a.toNat < 'A'.toNat) :
    a = c := by
  have hnot : ¬ 'A'.toNat ≤ a.toNat := Nat.not_le.mpr ha
  rw [upperChar] at hmem
  split at hmem
  · -- the character is expanded
    rename_i first codes hfind
    obtain ⟨code, hcode, rfl⟩ := List.mem_map.mp hmem
    obtain ⟨hle, hvalid⟩ := le_of_mem_caseExpansions _ (List.mem_of_find?_eq_some hfind) code hcode
    exact absurd (le_toNat_ofNat hvalid hle) hnot
  · split at hmem
    · -- the character has a single upper-case letter
      rename_i run hfind
      obtain rfl := List.mem_singleton.mp hmem
      have hcovers : run.covers c.toNat = true := by simpa using List.find?_some hfind
      obtain ⟨hle, hside⟩ := le_of_mem_caseRuns run (List.mem_of_find?_eq_some hfind)
      simp only [CaseRun.covers, Bool.and_eq_true, decide_eq_true_eq] at hcovers
      refine absurd (le_toNat_ofNat ?_ ?_) hnot
      · rw [Nat.isValidChar]
        omega
      · omega
    · exact List.mem_singleton.mp hmem

end Text

open Text

/-! ## Camel case -/

/-- A character before the letter A is in a name in camel case only if it is in the name and does
not separate words there. -/
theorem mem_of_mem_camelcase {a : Char} {name : String} (hmem : a ∈ (camelcase name).toList)
    (ha : a.toNat < 'A'.toNat) : a ∈ name.toList ∧ isWordBreak a = false := by
  rw [camelcase, String.toList_ofList, List.mem_flatMap] at hmem
  obtain ⟨word, hword, hmem⟩ := hmem
  cases word with
  | nil => cases hmem
  | cons first rest =>
    rw [capitalize, List.mem_append] at hmem
    refine not_stop_of_mem_pieces hword ?_
    rcases hmem with hfirst | hrest
    · rw [eq_of_mem_upperChar hfirst ha]
      exact List.mem_cons_self
    · exact List.mem_cons_of_mem first hrest

/-- A name in camel case has no dot. -/
theorem dot_not_mem_camelcase (name : String) : '.' ∉ (camelcase name).toList := by
  intro hmem
  have hbreak : isWordBreak '.' = false := (mem_of_mem_camelcase hmem (by decide)).2
  exact absurd hbreak (by decide)

/-! ## Absolute identities -/

/-- An identity is absolute if it begins with a separator. -/
def IsAbsolute (identity : String) : Prop := identitySeparator.toList <+: identity.toList

theorem absoluteIdentity_of_isAbsolute {name : String} (h : IsAbsolute name) :
    absoluteIdentity name = name := by
  rw [absoluteIdentity, if_pos (List.isPrefixOf_iff_prefix.mpr h)]

theorem absoluteIdentity_of_not_isAbsolute {name : String} (h : ¬ IsAbsolute name) :
    absoluteIdentity name = identitySeparator ++ name := by
  rw [absoluteIdentity, if_neg (mt List.isPrefixOf_iff_prefix.mp h)]

theorem isAbsolute_absoluteIdentity (name : String) : IsAbsolute (absoluteIdentity name) := by
  by_cases h : IsAbsolute name
  · rwa [absoluteIdentity_of_isAbsolute h]
  · rw [absoluteIdentity_of_not_isAbsolute h, IsAbsolute, String.toList_append]
    exact List.prefix_append _ _

/-- The absolute form of a name is the name itself only if the name is absolute. -/
theorem absoluteIdentity_eq_self_iff {name : String} :
    absoluteIdentity name = name ↔ IsAbsolute name := by
  refine ⟨fun heq => ?_, absoluteIdentity_of_isAbsolute⟩
  rw [← heq]
  exact isAbsolute_absoluteIdentity name

/-- An absolute form is its own absolute form. -/
@[simp]
theorem absoluteIdentity_absoluteIdentity (name : String) :
    absoluteIdentity (absoluteIdentity name) = absoluteIdentity name :=
  absoluteIdentity_of_isAbsolute (isAbsolute_absoluteIdentity name)

/-- A name names an absolute identity if it is that identity, with or without the separator that
the identity begins with. -/
def Names (name identity : String) : Prop :=
  name = identity ∨ ¬ IsAbsolute name ∧ identitySeparator ++ name = identity

/-- A name names the absolute form of it and no other absolute identity. -/
theorem names_iff {name identity : String} (habsolute : IsAbsolute identity) :
    Names name identity ↔ absoluteIdentity name = identity := by
  by_cases h : IsAbsolute name
  · simp [Names, absoluteIdentity_of_isAbsolute h, h]
  · rw [Names, absoluteIdentity_of_not_isAbsolute h]
    constructor
    · rintro (rfl | ⟨-, heq⟩)
      · exact absurd habsolute h
      · exact heq
    · intro heq
      exact .inr ⟨h, heq⟩

/-! ## Substitution -/

/-- Substituting a value replaces the marker of its key, then the marker of the key in camel
case. -/
theorem toList_substituteKey (pattern key value : String) :
    (substituteKey pattern key value).toList =
      replaceFrom ('%' :: ((camelcase key).toList ++ ['%'])) (camelcase value).toList 0
        (replaceFrom ('%' :: (key.toList ++ ['%'])) value.toList 0 pattern.toList) := by
  have hmarker (key : String) : ("%" ++ key ++ "%").toList = '%' :: (key.toList ++ ['%']) := by
    simp
  have hne (key : String) : ("%" ++ key ++ "%").isEmpty = false := by
    simp
  simp only [substituteKey, replaceWord, hne, hmarker, String.toList_ofList, Bool.false_eq_true,
    if_false]

/-- Text without percent signs has no markers. -/
theorem substituteKey_append {fixed : String} (hfixed : '%' ∉ fixed.toList)
    (pattern key value : String) :
    substituteKey (fixed ++ pattern) key value = fixed ++ substituteKey pattern key value := by
  apply String.toList_injective
  rw [String.toList_append, toList_substituteKey, toList_substituteKey, String.toList_append,
    replaceFrom_append_of_not_mem hfixed, replaceFrom_append_of_not_mem hfixed]

/-- The class pattern of the default settings puts a module and a controller, both in camel case,
between words of its own, if the module has no percent sign. -/
theorem substitute_controllerClasses {module : String}
    (hpercent : '%' ∉ (camelcase module).toList) (controller : String) :
    substitute ({} : KernelSettings).controllerClasses
        [("module", module), ("controller", controller)] =
      camelcase module ++ "Module::" ++ camelcase controller ++ "Controller" := by
  have hmodule : substituteKey ({} : KernelSettings).controllerClasses "module" module =
      camelcase module ++ "Module::%Controller%Controller" := by
    apply String.toList_injective
    rw [toList_substituteKey, String.toList_append]
    rfl
  have hcontroller : substituteKey "Module::%Controller%Controller" "controller" controller =
      "Module::" ++ camelcase controller ++ "Controller" := by
    apply String.toList_injective
    rw [toList_substituteKey, String.toList_append, String.toList_append]
    rfl
  calc substitute ({} : KernelSettings).controllerClasses
        [("module", module), ("controller", controller)]
      = substituteKey (substituteKey ({} : KernelSettings).controllerClasses "module" module)
          "controller" controller := rfl
    _ = camelcase module ++ substituteKey "Module::%Controller%Controller" "controller"
          controller := by rw [hmodule, substituteKey_append hpercent]
    _ = camelcase module ++ "Module::" ++ camelcase controller ++ "Controller" := by
      simp only [hcontroller, String.append_assoc]

end RequestDispatch
