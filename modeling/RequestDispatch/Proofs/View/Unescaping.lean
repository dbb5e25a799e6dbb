import Mathlib.Data.List.Infix
import RequestDispatch.Proofs.View.Escaping

/-!
# Unescaping

The default escaping loses nothing. It writes a text character by character, so what it writes for
two texts one after the other are the two escapes one after the other (`htmlEscape_append`). Each
character that it replaces becomes one of four entities, and an ampersand is among these characters.
So an escape has no ampersand but those that begin an entity (`hasOnlyEntities_htmlEscape`), and a
reader can decode it in one pass from left to right, even where the text itself looked like an
entity (`htmlUnescape_htmlEscape`).

Decoding gives each text back that is inert and has no other ampersands
(`htmlEscape_htmlUnescape`). Such texts are therefore the ones that escaping can write
(`exists_htmlEscape_eq_iff`).
-/

namespace RequestDispatch

/-! ## Entities -/

/-- The characters that are replaced, with the entities that stand for them. -/
def entities : List (Char × String) :=
  [('&', "&amp;"), ('<', "&lt;"), ('>', "&gt;"), ('"', "&quot;")]

/-- Every ampersand of a text begins an entity. -/
def HasOnlyEntities (text : String) : Prop :=
  ∀ rest, '&' :: rest <:+ text.toList → ∃ entity ∈ entities, entity.2.toList <+: '&' :: rest

/-- Decode entities from left to right. A decoded character is not looked at again, and an ampersand
that begins no entity stays. -/
def unescapeChars : List Char → List Char
  | '&' :: 'a' :: 'm' :: 'p' :: ';' :: rest => '&' :: unescapeChars rest
  | '&' :: 'l' :: 't' :: ';' :: rest => '<' :: unescapeChars rest
  | '&' :: 'g' :: 't' :: ';' :: rest => '>' :: unescapeChars rest
  | '&' :: 'q' :: 'u' :: 'o' :: 't' :: ';' :: rest => '"' :: unescapeChars rest
  | c :: rest => c :: unescapeChars rest
  | [] => []

/-- A text with its entities decoded. -/
def htmlUnescape (text : String) : String := String.ofList (unescapeChars text.toList)

/-- An entity is decoded once: what is left may look like an entity again. -/
example : htmlUnescape "&amp;lt; &lt; & &lt" = "&lt; < & &lt" := by decide +kernel

variable {text : String} {c : Char} {chars rest : List Char} {entity : Char × String}

/-- An entity is an ampersand followed by other characters. -/
theorem toList_entity (hentity : entity ∈ entities) :
    entity.2.toList = '&' :: entity.2.toList.tail ∧ '&' ∉ entity.2.toList.tail := by
  revert entity
  decide

theorem escapeChar_of_mem_entities (hentity : entity ∈ entities) :
    escapeChar entity.1 = entity.2.toList := by
  revert entity
  decide

/-- A character that is no ampersand and that markup is not made of stands for itself. -/
theorem escapeChar_of_ne (hne : c ≠ '&') (hmarkup : isMarkupChar c = false) :
    escapeChar c = [c] := by
  unfold escapeChar
  split
  · exact absurd rfl hne
  · cases hmarkup
  · cases hmarkup
  · cases hmarkup
  · rfl

/-- A character has an entity, or it stands for itself. -/
theorem escapeChar_cases (c : Char) :
    (∃ entity ∈ entities, entity.1 = c ∧ escapeChar c = entity.2.toList) ∨
      (c ≠ '&' ∧ escapeChar c = [c]) := by
  by_cases hentity : c ∈ entities.map (·.1)
  · obtain ⟨entity, hmem, rfl⟩ := List.mem_map.mp hentity
    exact .inl ⟨entity, hmem, rfl, escapeChar_of_mem_entities hmem⟩
  · simp only [entities, List.map_cons, List.map_nil, List.mem_cons, List.not_mem_nil, or_false,
      not_or] at hentity
    obtain ⟨hne, hless, hgreater, hquote⟩ := hentity
    exact .inr ⟨hne, escapeChar_of_ne hne (by simp [isMarkupChar, hless, hgreater, hquote])⟩

/-! ## Decoding an escape -/

/-- An entity at the front is decoded. -/
theorem unescapeChars_entity_append (hentity : entity ∈ entities) (rest : List Char) :
    unescapeChars (entity.2.toList ++ rest) = entity.1 :: unescapeChars rest := by
  simp only [entities, List.mem_cons, List.not_mem_nil, or_false] at hentity
  rcases hentity with rfl | rfl | rfl | rfl <;> rfl

/-- A character that is no ampersand begins no entity. -/
theorem unescapeChars_cons_of_ne (hne : c ≠ '&') (rest : List Char) :
    unescapeChars (c :: rest) = c :: unescapeChars rest := by
  rw [unescapeChars.eq_def]
  -- all equations but the last two are for an ampersand
  split <;> simp_all

/-- Decoding takes back what is written for one character, and goes on behind it. -/
theorem unescapeChars_escapeChar_append (c : Char) (rest : List Char) :
    unescapeChars (escapeChar c ++ rest) = c :: unescapeChars rest := by
  rcases escapeChar_cases c with ⟨entity, hentity, rfl, hescape⟩ | ⟨hne, hescape⟩
  · rw [hescape, unescapeChars_entity_append hentity]
  · rw [hescape, List.singleton_append, unescapeChars_cons_of_ne hne]

theorem unescapeChars_flatMap_escapeChar (chars : List Char) :
    unescapeChars (chars.flatMap escapeChar) = chars := by
  induction chars with
  | nil => rfl
  | cons c chars ih => rw [List.flatMap_cons, unescapeChars_escapeChar_append, ih]

/-- Decoding an escaped text gives the text back. -/
theorem htmlUnescape_htmlEscape (text : String) : htmlUnescape (htmlEscape text) = text := by
  rw [htmlUnescape, htmlEscape, String.toList_ofList, unescapeChars_flatMap_escapeChar,
    String.ofList_toList]

/-- What is written for two texts one after the other. -/
theorem htmlEscape_append (first second : String) :
    htmlEscape (first ++ second) = htmlEscape first ++ htmlEscape second := by
  rw [htmlEscape, String.toList_append, List.flatMap_append, String.ofList_append, htmlEscape,
    htmlEscape]

/-! ## Ampersands of an escape -/

/-- What begins with a character and ends a list begins behind a front that lacks the character. -/
theorem suffix_of_suffix_append {front back : List Char} (hfront : c ∉ front)
    (hsuffix : c :: rest <:+ front ++ back) : c :: rest <:+ back := by
  induction front with
  | nil => exact hsuffix
  | cons head front ih =>
    rw [List.mem_cons, not_or] at hfront
    rw [List.cons_append, List.suffix_cons_iff] at hsuffix
    rcases hsuffix with heq | hsuffix
    · exact absurd (List.cons.inj heq).1 hfront.1
    · exact ih hfront.2 hsuffix

/-- An ampersand in what is written for some characters begins an entity. -/
theorem exists_entity_of_suffix_flatMap (hsuffix : '&' :: rest <:+ chars.flatMap escapeChar) :
    ∃ entity ∈ entities, entity.2.toList <+: '&' :: rest := by
  induction chars with
  | nil => cases List.suffix_nil.mp hsuffix
  | cons c chars ih =>
    rw [List.flatMap_cons] at hsuffix
    rcases escapeChar_cases c with ⟨entity, hentity, -, hescape⟩ | ⟨hne, hescape⟩
    · -- an entity has its ampersand at the front and no other
      obtain ⟨hcons, hnot⟩ := toList_entity hentity
      rw [hescape, hcons, List.cons_append, List.suffix_cons_iff] at hsuffix
      rcases hsuffix with heq | hsuffix
      · refine ⟨entity, hentity, ?_⟩
        rw [heq, hcons]
        exact List.prefix_append _ _
      · exact ih (suffix_of_suffix_append hnot hsuffix)
    · -- a character that stands for itself is not the one looked for
      rw [hescape] at hsuffix
      exact ih (suffix_of_suffix_append (by simpa using hne.symm) hsuffix)

/-- Every ampersand of an escaped text begins an entity. -/
theorem hasOnlyEntities_htmlEscape (text : String) : HasOnlyEntities (htmlEscape text) := by
  intro rest hsuffix
  rw [htmlEscape, String.toList_ofList] at hsuffix
  exact exists_entity_of_suffix_flatMap hsuffix

/-! ## The texts that are escapes -/

/-- Escaping gives back what has been decoded, where each ampersand begins an entity and no other
character would have been replaced. -/
theorem flatMap_escapeChar_unescapeChars (hinert : ∀ c ∈ chars, isMarkupChar c = false)
    (hentities : ∀ rest, '&' :: rest <:+ chars →
      ∃ entity ∈ entities, entity.2.toList <+: '&' :: rest) :
    (unescapeChars chars).flatMap escapeChar = chars := by
  -- an entity is taken off the front as a whole, so the induction is on the length
  induction hlength : chars.length using Nat.strong_induction_on generalizing chars with
  | _ length ih =>
    -- both conditions hold of what is left behind some front
    have hback (back : List Char) (hsuffix : back <:+ chars) (hlt : back.length < length) :
        (unescapeChars back).flatMap escapeChar = back := by
      refine ih back.length hlt (fun c hc => hinert c (hsuffix.subset hc)) ?_ rfl
      exact fun rest hrest => hentities rest (hrest.trans hsuffix)
    cases chars with
    | nil => rfl
    | cons c rest =>
      rw [List.length_cons] at hlength
      by_cases hne : c = '&'
      · subst hne
        obtain ⟨entity, hentity, back, happend⟩ := hentities rest (List.suffix_refl _)
        -- an entity has a character at least, so that what is behind it is shorter
        have hlt : back.length < length := by
          have hsum := congrArg List.length happend
          rw [List.length_append, (toList_entity hentity).1, List.length_cons,
            List.length_cons] at hsum
          omega
        have hsuffix : back <:+ '&' :: rest := happend ▸ List.suffix_append _ _
        rw [← happend, unescapeChars_entity_append hentity, List.flatMap_cons,
          escapeChar_of_mem_entities hentity, hback back hsuffix hlt]
      · have hmarkup : isMarkupChar c = false := hinert c List.mem_cons_self
        rw [unescapeChars_cons_of_ne hne, List.flatMap_cons, escapeChar_of_ne hne hmarkup,
          hback rest (List.suffix_cons c rest) (by omega), List.singleton_append]

/-- Escaping gives a text back that has been decoded, if it could be an escape. -/
theorem htmlEscape_htmlUnescape (hinert : IsInert text) (hentities : HasOnlyEntities text) :
    htmlEscape (htmlUnescape text) = text := by
  rw [htmlEscape, htmlUnescape, String.toList_ofList,
    flatMap_escapeChar_unescapeChars hinert hentities, String.ofList_toList]

/-- The texts that escaping writes are those without markup that have only entities. -/
theorem exists_htmlEscape_eq_iff :
    (∃ original, htmlEscape original = text) ↔ IsInert text ∧ HasOnlyEntities text := by
  constructor
  · rintro ⟨original, rfl⟩
    exact ⟨isInert_htmlEscape original, hasOnlyEntities_htmlEscape original⟩
  · rintro ⟨hinert, hentities⟩
    exact ⟨htmlUnescape text, htmlEscape_htmlUnescape hinert hentities⟩

/-- Escaping keeps apart what a reader has to tell apart: an escape has no character that markup is
made of and no ampersand but those that begin an entity, decoding its entities in one pass gives the
text back, so that no two texts have one escape, and texts can be escaped piece by piece. -/
theorem htmlEscape_faithful :
    (∀ text, IsInert (htmlEscape text) ∧ HasOnlyEntities (htmlEscape text) ∧
      htmlUnescape (htmlEscape text) = text) ∧
    Function.Injective htmlEscape ∧
    ∀ first second, htmlEscape (first ++ second) = htmlEscape first ++ htmlEscape second := by
  refine ⟨fun text => ?_, ?_, htmlEscape_append⟩
  · exact ⟨isInert_htmlEscape text, hasOnlyEntities_htmlEscape text, htmlUnescape_htmlEscape text⟩
  · exact Function.LeftInverse.injective htmlUnescape_htmlEscape

end RequestDispatch
