import Mathlib.Data.List.TakeDrop
import RequestDispatch.Proofs.Template.Literals
import RequestDispatch.View.Renderer

/-!
# Escaped Output

What a rendered template can hold of the characters that markup is made of. The default escaping
leaves none of them (`isInert_htmlEscape`), and numbers, truth values and nothing have none in their
text. So where no markup is bound and the template does not ask for any, these characters come from
the template's own text or from lists and objects that are printed whole
(`Renderer.markup_of_render`): a list is not text, and the texts in it are quoted but not escaped
(`Renderer.render_items_unescaped`).
-/

namespace RequestDispatch

open Text

/-- Whether a character is one that tags and their attributes begin or end with. -/
def isMarkupChar (c : Char) : Bool := c = '<' || c = '>' || c = '"'

/-- A text has no character that markup is made of. -/
def IsInert (text : String) : Prop := ∀ c ∈ text.toList, isMarkupChar c = false

theorem isInert_iff_all {text : String} :
    (text.toList.all fun c => !isMarkupChar c) = true ↔ IsInert text := by
  simp [IsInert]

instance (text : String) : Decidable (IsInert text) := decidable_of_iff _ isInert_iff_all

/-! ## Inert texts -/

theorem isMarkupChar_of_mem_escapeChar {original c : Char} (hc : c ∈ escapeChar original) :
    isMarkupChar c = false := by
  unfold escapeChar at hc
  split at hc
  · exact (by decide : IsInert "&amp;") c hc
  · exact (by decide : IsInert "&lt;") c hc
  · exact (by decide : IsInert "&gt;") c hc
  · exact (by decide : IsInert "&quot;") c hc
  · -- any other character stands for itself
    obtain rfl := List.mem_singleton.mp hc
    simp_all [isMarkupChar]

/-- The default escaping leaves no character that markup is made of. -/
theorem isInert_htmlEscape (text : String) : IsInert (htmlEscape text) := by
  intro c hc
  rw [htmlEscape, String.toList_ofList, List.mem_flatMap] at hc
  obtain ⟨original, -, hc⟩ := hc
  exact isMarkupChar_of_mem_escapeChar hc

theorem IsInert.append {first second : String} (hfirst : IsInert first)
    (hsecond : IsInert second) : IsInert (first ++ second) := by
  intro c hc
  rw [String.toList_append, List.mem_append] at hc
  exact hc.elim (hfirst c) (hsecond c)

/-- Digits are no characters that markup is made of. -/
theorem isMarkupChar_of_isDigit {c : Char} (hdigit : c.isDigit = true) :
    isMarkupChar c = false := by
  by_contra hmarkup
  simp only [isMarkupChar, Bool.not_eq_false, Bool.or_eq_true, decide_eq_true_eq] at hmarkup
  rcases hmarkup with (rfl | rfl) | rfl <;> cases hdigit

theorem isMarkupChar_of_mem_toDigits {c : Char} {n : Nat} (hc : c ∈ Nat.toDigits 10 n) :
    isMarkupChar c = false :=
  isMarkupChar_of_isDigit (Nat.isDigit_of_mem_toDigits (by decide) (by decide) hc)

theorem isInert_repr (n : Nat) : IsInert n.repr := by
  intro c hc
  rw [Nat.toList_repr] at hc
  exact isMarkupChar_of_mem_toDigits hc

theorem isInert_toString_int (value : Int) : IsInert (toString value) := by
  cases value with
  | ofNat n => exact isInert_repr n
  | negSucc n => exact IsInert.append (by decide : IsInert "-") (isInert_repr (n + 1))

namespace Decimal

theorem isMarkupChar_of_mem_positional {style : Style} {number : Scaled} {c : Char}
    (hc : c ∈ positional style number) : isMarkupChar c = false := by
  have hdigits : ∀ c ∈ digitsOf number.digits, isMarkupChar c = false := fun _ hc =>
    isMarkupChar_of_mem_toDigits hc
  rw [positional] at hc
  split at hc
  · simp only [List.mem_append, List.mem_replicate] at hc
    rcases hc with (hc | ⟨-, rfl⟩) | hc
    · exact hdigits c hc
    · decide
    · split at hc
      · exact (by decide : IsInert ".0") c hc
      · cases hc
  · dsimp only at hc
    split at hc
    · rcases List.mem_append.mp hc with hc | hc
      · exact hdigits c (List.mem_of_mem_take hc)
      · rcases List.mem_cons.mp hc with rfl | hc
        · decide
        · exact hdigits c (List.mem_of_mem_drop hc)
    · simp only [List.mem_append, List.mem_replicate] at hc
      rcases hc with (hc | ⟨-, rfl⟩) | hc
      · exact (by decide : IsInert "0.") c hc
      · decide
      · exact hdigits c hc

theorem isMarkupChar_of_mem_withPower {style : Style} {number : Scaled} {c : Char}
    (hc : c ∈ withPower style number) : isMarkupChar c = false := by
  have hdigits : ∀ c ∈ digitsOf number.digits, isMarkupChar c = false := fun _ hc =>
    isMarkupChar_of_mem_toDigits hc
  rw [withPower] at hc
  generalize digitsOf number.digits = digits at hc hdigits
  simp only [List.mem_append, List.mem_cons] at hc
  rcases hc with (hc | rfl | hc) | hc
  · -- the point is all that the digits are given
    split at hc
    · exact hdigits c hc
    · exact hdigits c hc
    · simp only [List.mem_cons] at hc hdigits
      rcases hc with rfl | rfl | hc
      · exact hdigits _ (.inl rfl)
      · decide
      · exact hdigits c (.inr hc)
  · decide
  · split at hc
    · exact (by decide : IsInert "+") c hc
    · cases hc
  · exact isInert_toString_int _ c hc

/-- A number's text is made of digits, signs, points and letters. -/
theorem isInert_text {style : Style} (hnan : IsInert style.nan)
    (hinfinity : IsInert style.infinity) (value : Float) : IsInert (text style value) := by
  have hsign (negative : Bool) : IsInert (if negative then "-" else "") := by
    cases negative <;> decide
  rw [text]
  split
  · exact hnan
  · exact (hsign _).append hinfinity
  · refine (hsign _).append ?_
    split <;> decide
  · refine (hsign _).append ?_
    intro c hc
    rw [String.toList_ofList] at hc
    split at hc
    · exact isMarkupChar_of_mem_positional hc
    · exact isMarkupChar_of_mem_withPower hc

end Decimal

namespace TemplateValue

/-- Whether a value is a list or an object. -/
def isComposite : TemplateValue → Bool
  | data (.array _) => true
  | data (.object _) => true
  | _ => false

theorem isInert_numberText (number : JsonNumber) : IsInert (numberText number) := by
  cases number with
  | whole value => exact isInert_toString_int value
  | float value => exact Decimal.isInert_text (by decide) (by decide) value

/-- Printed data has no character that markup is made of, lists and objects apart. -/
theorem isInert_printed {value : TemplateValue} (hmarkup : value.isMarkup = false)
    (hcomposite : value.isComposite = false) : IsInert (value.printed htmlEscape) := by
  cases value with
  | undefined => exact (by decide : IsInert "")
  | markup text => cases hmarkup
  | data json =>
    cases json with
    | null => exact (by decide : IsInert "None")
    | bool value => cases value <;> decide
    | number value => exact isInert_numberText value
    | string text => exact isInert_htmlEscape text
    | array items => cases hcomposite
    | object members => cases hcomposite

end TemplateValue

namespace Renderer

/-- If no markup is bound, no name stands for it. -/
theorem isMarkupFree_scope {renderer : Renderer} (hmarkup : renderer.markup = ∅) :
    renderer.scope.IsMarkupFree := by
  intro entry hentry
  rw [scope, hmarkup, List.mem_append] at hentry
  rcases hentry with hentry | hentry
  · cases hentry
  · obtain ⟨value, -, rfl⟩ := List.mem_map.mp hentry
    rfl

variable {renderer : Renderer} {files : FileSystem} {name : String}
  {vars : Option ViewVars} {text : String}

/-- Variables that are given are added to those there are, and the way of escaping stays. -/
theorem escape_withVars : (renderer.withVars vars).vars.escape = renderer.vars.escape := by
  cases vars <;> rfl

theorem markup_withVars : (renderer.withVars vars).markup = renderer.markup := by
  cases vars <;> rfl

/-- Rendering reads the template's source, and evaluates it with the variables that are then
known. -/
theorem value_render :
    (renderer.render files name vars).value =
      match renderer.source files name with
      | .error error => (.error error, renderer)
      | .ok source =>
        (Template.outputText <$> (renderer.withVars vars).evaluate name source,
          renderer.withVars vars) := by
  rw [render]
  rcases renderer.source files name with error | source
  · rfl
  · rcases hpieces : (renderer.withVars vars).evaluate name source with error | pieces
    · simp [hpieces]
    · simp [hpieces]

/-- A text that has been rendered is what the template's source writes with the variables that are
then known. -/
theorem exists_pieces_of_render
    (hrender : (renderer.render files name vars).value.1 = .ok text) :
    ∃ source pieces, renderer.source files name = .ok source ∧
      Template.render renderer.vars.escape source (renderer.withVars vars).scope = .ok pieces ∧
      text = Template.outputText pieces := by
  rw [value_render] at hrender
  rcases hsource : renderer.source files name with error | source
  · rw [hsource] at hrender
    cases hrender
  rw [hsource] at hrender
  obtain ⟨pieces, hpieces, htext⟩ := Except.map_eq_ok_iff.mp hrender
  rw [evaluate, escape_withVars] at hpieces
  split at hpieces
  · rename_i written hwritten
    cases hpieces
    exact ⟨source, pieces, rfl, hwritten, htext.symm⟩
  · cases hpieces

/-- A text that has been rendered consists of the parts that a template writes. -/
theorem exists_parts_of_render
    (hrender : (renderer.render files name vars).value.1 = .ok text) :
    ∃ source template parts, renderer.source files name = .ok source ∧
      Template.parse? source = some template ∧
      template.parts (renderer.withVars vars).scope = .ok parts ∧
      text = Template.outputText (parts.map (TemplatePart.piece renderer.vars.escape)) := by
  obtain ⟨source, pieces, hsource, hpieces, htext⟩ := exists_pieces_of_render hrender
  rw [Template.render] at hpieces
  rcases hparse : Template.parse? source with _ | template
  · rw [hparse] at hpieces
    cases hpieces
  rw [hparse] at hpieces
  dsimp only at hpieces
  rw [Template.eval_eq_map_parts] at hpieces
  obtain ⟨parts, hparts, hpiece⟩ := Except.map_eq_ok_iff.mp hpieces
  exact ⟨source, template, parts, hsource, hparse, hparts, hpiece ▸ htext⟩

/-- A template is rendered by the default escaping, without markup bound to names and without
asking for any by a filter. Then the text is made of stretches of the source that stand in the
template, and of printed data. Any character that markup is made of belongs to the former or to a
list or an object that is printed. -/
theorem markup_of_render (hescape : renderer.vars.escape = htmlEscape)
    (hmarkup : renderer.markup = ∅)
    (hsafe : ∀ source template, renderer.source files name = .ok source →
      Template.parse? source = some template →
      ∀ expr ∈ template.printedExprs, "safe" ∉ expr.filters)
    (hrender : (renderer.render files name vars).value.1 = .ok text) :
    ∃ source template parts, renderer.source files name = .ok source ∧
      Template.parse? source = some template ∧
      template.parts (renderer.withVars vars).scope = .ok parts ∧
      text = Template.outputText (parts.map (TemplatePart.piece htmlEscape)) ∧
      (∀ own, .literal own ∈ parts →
        own ∈ template.literals ∧ own.toList <:+: source.toList) ∧
      ∀ value, .printed value ∈ parts →
        value.isMarkup = false ∧
          (value.isComposite = false → IsInert (value.printed htmlEscape)) := by
  obtain ⟨source, template, parts, hsource, hparse, hparts, htext⟩ :=
    exists_parts_of_render hrender
  rw [hescape] at htext
  refine ⟨source, template, parts, hsource, hparse, hparts, htext, ?_, ?_⟩
  · intro own hown
    have hstands := Template.mem_literals_of_mem_parts hparts hown
    exact ⟨hstands, Template.isInfix_of_mem_literals hparse hstands⟩
  · intro value hvalue
    have hdata : value.isMarkup = false :=
      Template.isMarkup_of_mem_parts (hsafe source template hsource hparse)
        (isMarkupFree_scope (markup_withVars.trans hmarkup)) hparts hvalue
    exact ⟨hdata, TemplateValue.isInert_printed hdata⟩

/-- Files of which every one holds the same text. -/
def filesOf (source : String) : FileSystem := ⟨fun _ => false, fun _ => true, fun _ => .ok source⟩

/-- A template that prints a title between tags, and then some items. -/
def pageSource : String := "<p>\x7b\x7b title \x7d\x7d</p>\x7b\x7b items \x7d\x7d"

/-- A template that prints some items and has no text of its own. -/
def itemsSource : String := "\x7b\x7b items \x7d\x7d"

/-- A title, and items of which one is a tag. -/
def pageVars : ViewVars :=
  ViewVars.set (ViewVars.set {} "title" (.string "<i>")) "items" (.array [.string "<b>"])

/-- The title of the page is escaped between its tags, and the items are a list. -/
theorem markup_of_render_page :
    (Renderer.render {} (filesOf pageSource) "page" (some pageVars)).value.1 =
      .ok "<p>&lt;i&gt;</p>[\"<b>\"]" ∧
    ∃ template parts, Template.parse? pageSource = some template ∧
      template.parts (withVars {} (some pageVars)).scope = .ok parts ∧
      "<p>&lt;i&gt;</p>[\"<b>\"]" =
        Template.outputText (parts.map (TemplatePart.piece htmlEscape)) ∧
      (∀ own, .literal own ∈ parts → own ∈ template.literals) ∧
      ∀ value, .printed value ∈ parts → value.isComposite = false →
        IsInert (value.printed htmlEscape) := by
  have hresult : (Renderer.render {} (filesOf pageSource) "page" (some pageVars)).value.1 =
      .ok "<p>&lt;i&gt;</p>[\"<b>\"]" := by
    decide +kernel
  have hparse : Template.parse? pageSource =
      some (.literal "<p>" (.print (.name "title")
        (.literal "</p>" (.print (.name "items") .done)))) := rfl
  have hsafe : ∀ source template, Renderer.source {} (filesOf pageSource) "page" = .ok source →
      Template.parse? source = some template →
      ∀ expr ∈ template.printedExprs, "safe" ∉ expr.filters := by
    intro source template hsource htemplate
    cases hsource
    cases hparse.symm.trans htemplate
    decide
  have hescape : ({} : Renderer).vars.escape = htmlEscape := rfl
  obtain ⟨source, template, parts, hsource, htemplate, hparts, htext, hown, hvalue⟩ :=
    markup_of_render hescape rfl hsafe hresult
  cases hsource
  exact ⟨hresult, template, parts, htemplate, hparts, htext, fun own hmem => (hown own hmem).1,
    fun value hmem => (hvalue value hmem).2⟩

/-- A text in a printed list is not escaped: the items are printed as `["<b>"]`, by a template that
has no text of its own. -/
theorem render_items_unescaped :
    ¬ ∀ (renderer : Renderer) (files : FileSystem) (name : String)
        (vars : Option ViewVars) (source text : String) (template : Template),
      renderer.vars.escape = htmlEscape → renderer.markup = ∅ →
      renderer.source files name = .ok source → Template.parse? source = some template →
      (∀ expr ∈ template.printedExprs, "safe" ∉ expr.filters) →
      (renderer.render files name vars).value.1 = .ok text →
      ∀ c ∈ text.toList, isMarkupChar c = true → ∃ own ∈ template.literals, c ∈ own.toList := by
  intro hliteral
  have hresult : (Renderer.render {} (filesOf itemsSource) "list" (some pageVars)).value.1 =
      .ok "[\"<b>\"]" := by
    decide +kernel
  have hparse : Template.parse? itemsSource = some (.print (.name "items") .done) := rfl
  obtain ⟨own, hown, -⟩ := hliteral {} (filesOf itemsSource) "list" (some pageVars) itemsSource
    "[\"<b>\"]" _ rfl rfl rfl hparse (by decide) hresult '<' (by decide) rfl
  cases hown

end Renderer

end RequestDispatch
