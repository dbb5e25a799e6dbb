import RequestDispatch.Proofs.Except
import RequestDispatch.Template.Evaluation

/-!
# What Templates Print

In a scope, a template writes text of its own and prints values. `Template.parts` lists both, before
any value has become text. How texts are escaped has no influence on them: what a template writes
is its parts, each of them turned into text by itself (`Template.eval_eq_map_parts`).

A property of parts holds of all that a template writes if it holds of the texts that stand in the
template, and of the values of the expressions that it prints (`Template.forall_mem_parts`). One
such property is that a printed value is data, and not markup (`Template.isMarkup_of_mem_parts`).
-/

namespace RequestDispatch

/-- A part of what a template writes. -/
inductive TemplatePart where
  /-- Text that stands in the template. -/
  | literal (text : String)
  /-- A value that is printed. -/
  | printed (value : TemplateValue)

/-- The piece of output that a part becomes. -/
def TemplatePart.piece (escape : String → String) : TemplatePart → TemplatePiece
  | .literal text => .literal text
  | .printed value => .printed (value.printed escape)

namespace TemplateValue

/-- Whether a value is markup, which is printed as it is. -/
def isMarkup : TemplateValue → Bool
  | markup _ => true
  | undefined => false
  | data _ => false

/-- No member of a value is markup. -/
theorem isMarkup_of_member? {value member : TemplateValue} {name : String}
    (hmember : value.member? name = .ok member) : member.isMarkup = false := by
  cases value with
  | undefined => cases hmember
  | markup text => cases hmember; rfl
  | data json =>
    cases hmember
    cases json.member? name <;> rfl

end TemplateValue

/-- No name in a scope stands for markup. -/
def TemplateScope.IsMarkupFree (scope : TemplateScope) : Prop :=
  ∀ entry ∈ scope, entry.2.isMarkup = false

/-- What a repeated part knows of its round is data. -/
theorem TemplateScope.IsMarkupFree.loopScope {scope : TemplateScope} (hscope : scope.IsMarkupFree)
    (item : String) (value : Json) (index count : Nat) :
    IsMarkupFree (loopScope item value index count scope) := by
  intro entry hentry
  rcases List.mem_cons.mp hentry with rfl | hentry
  · rfl
  · rcases List.mem_cons.mp hentry with rfl | hentry
    · rfl
    · exact hscope entry hentry

namespace TemplateExpr

/-- The filters that an expression sends values through. -/
def filters : TemplateExpr → List String
  | constant _ => []
  | name _ => []
  | member value _ => value.filters
  | filter value key => key :: value.filters
  | not value => value.filters
  | and first second => first.filters ++ second.filters
  | or first second => first.filters ++ second.filters

/-- Where no name stands for markup, only the filter `safe` makes it. -/
theorem isMarkup_of_eval {scope : TemplateScope} (hscope : scope.IsMarkupFree)
    {expr : TemplateExpr} (hsafe : "safe" ∉ expr.filters) {value : TemplateValue}
    (heval : expr.eval scope = .ok value) : value.isMarkup = false := by
  induction expr generalizing value with
  | constant json => cases heval; rfl
  | name key =>
    cases heval
    rcases hlookup : lookupByName key scope with _ | found
    · rfl
    · exact hscope _ (mem_of_lookupByName hlookup)
  | member inner key =>
    obtain ⟨before, -, hmember⟩ := Except.bind_eq_ok_iff.mp heval
    exact TemplateValue.isMarkup_of_member? hmember
  | filter inner key =>
    -- every other filter is unknown
    obtain ⟨before, -, hfiltered⟩ := Except.bind_eq_ok_iff.mp heval
    have hkey : key ≠ "safe" := fun heq => hsafe (by simp [filters, heq])
    simp [TemplateValue.filtered, hkey] at hfiltered
  | not inner =>
    obtain ⟨before, -, hnot⟩ := Except.bind_eq_ok_iff.mp heval
    cases hnot
    rfl
  | and first second ihFirst ihSecond =>
    rw [filters, List.mem_append, not_or] at hsafe
    obtain ⟨before, hfirst, hchosen⟩ := Except.bind_eq_ok_iff.mp heval
    split at hchosen
    · exact ihSecond hsafe.2 hchosen
    · cases hchosen
      exact ihFirst hsafe.1 hfirst
  | or first second ihFirst ihSecond =>
    rw [filters, List.mem_append, not_or] at hsafe
    obtain ⟨before, hfirst, hchosen⟩ := Except.bind_eq_ok_iff.mp heval
    split at hchosen
    · cases hchosen
      exact ihFirst hsafe.1 hfirst
    · exact ihSecond hsafe.2 hchosen

end TemplateExpr

namespace Template

/-- What a template writes in a scope, part by part. -/
def parts : Template → TemplateScope → Except TemplateFault (List TemplatePart)
  | done, _ => .ok []
  | literal text rest, scope => do return .literal text :: (← rest.parts scope)
  | print value rest, scope => do
    let value ← value.eval scope
    return .printed value :: (← rest.parts scope)
  | choose condition yes no rest, scope => do
    let value ← condition.eval scope
    let chosen ← (if value.isTrue then yes.parts scope else no.parts scope)
    return chosen ++ (← rest.parts scope)
  | forEach item items body otherwise rest, scope => do
    let items ← (← items.eval scope).items?
    let rounds ← (match items with
      | [] => otherwise.parts scope
      | items =>
        List.flatten <$> items.zipIdx.mapM fun (value, position) =>
          body.parts (loopScope item value (position + 1) items.length scope))
    return rounds ++ (← rest.parts scope)

/-- The texts that stand in a template. -/
def literals : Template → List String
  | done => []
  | literal text rest => text :: rest.literals
  | print _ rest => rest.literals
  | choose _ yes no rest => yes.literals ++ no.literals ++ rest.literals
  | forEach _ _ body otherwise rest => body.literals ++ otherwise.literals ++ rest.literals

/-- The expressions that a template prints. -/
def printedExprs : Template → List TemplateExpr
  | done => []
  | literal _ rest => rest.printedExprs
  | print value rest => value :: rest.printedExprs
  | choose _ yes no rest => yes.printedExprs ++ no.printedExprs ++ rest.printedExprs
  | forEach _ _ body otherwise rest =>
    body.printedExprs ++ otherwise.printedExprs ++ rest.printedExprs

/-- What a template writes is its parts, each turned into text by itself: the way of escaping has a
say in nothing else. -/
theorem eval_eq_map_parts (escape : String → String) (template : Template)
    (scope : TemplateScope) :
    template.eval escape scope =
      List.map (TemplatePart.piece escape) <$> template.parts scope := by
  induction template generalizing scope with
  | done => rfl
  | literal text rest ih => simp [eval, parts, ih, TemplatePart.piece]
  | print value rest ih => simp [eval, parts, ih, TemplatePart.piece]
  | choose condition yes no rest ihYes ihNo ihRest =>
    simp only [eval, parts, map_bind, ihYes, ihNo, ihRest]
    congr 1
    funext value
    split <;> simp
  | forEach item items body otherwise rest ihBody ihOtherwise ihRest =>
    simp only [eval, parts, map_bind, ihOtherwise, ihRest]
    congr 1
    funext value
    congr 1
    funext items
    cases items with
    | nil => simp
    | cons first others =>
      simp [ihBody, Except.mapM_map]

/-- What holds of the texts that stand in a template and of the values of the expressions that it
prints holds of every part that it writes. The expressions are evaluated in the scope or in one of
a round. -/
theorem forall_mem_parts {holds : TemplatePart → Prop} {inScope : TemplateScope → Prop}
    (hround : ∀ scope item value index count, inScope scope →
      inScope (loopScope item value index count scope))
    {template : Template} (hliteral : ∀ text ∈ template.literals, holds (.literal text))
    (hvalue : ∀ expr ∈ template.printedExprs, ∀ scope value, inScope scope →
      expr.eval scope = .ok value → holds (.printed value))
    {scope : TemplateScope} (hscope : inScope scope) {parts : List TemplatePart}
    (hparts : template.parts scope = .ok parts) : ∀ part ∈ parts, holds part := by
  induction template generalizing scope parts with
  | done =>
    cases hparts
    simp
  | literal text rest ih =>
    obtain ⟨others, hothers, hcons⟩ := Except.bind_eq_ok_iff.mp hparts
    cases hcons
    simp only [literals, List.forall_mem_cons] at hliteral ⊢
    exact ⟨hliteral.1, ih hliteral.2 hvalue hscope hothers⟩
  | print expr rest ih =>
    obtain ⟨value, heval, hrest⟩ := Except.bind_eq_ok_iff.mp hparts
    obtain ⟨others, hothers, hcons⟩ := Except.bind_eq_ok_iff.mp hrest
    cases hcons
    simp only [printedExprs, List.forall_mem_cons] at hvalue ⊢
    exact ⟨hvalue.1 scope value hscope heval, ih hliteral hvalue.2 hscope hothers⟩
  | choose condition yes no rest ihYes ihNo ihRest =>
    obtain ⟨value, -, hchoice⟩ := Except.bind_eq_ok_iff.mp hparts
    obtain ⟨chosen, hchosen, hrest⟩ := Except.bind_eq_ok_iff.mp hchoice
    obtain ⟨others, hothers, happend⟩ := Except.bind_eq_ok_iff.mp hrest
    cases happend
    simp only [literals, printedExprs, List.forall_mem_append] at hliteral hvalue ⊢
    refine ⟨?_, ihRest hliteral.2 hvalue.2 hscope hothers⟩
    split at hchosen
    · exact ihYes hliteral.1.1 hvalue.1.1 hscope hchosen
    · exact ihNo hliteral.1.2 hvalue.1.2 hscope hchosen
  | forEach item items body otherwise rest ihBody ihOtherwise ihRest =>
    obtain ⟨collection, -, hitems⟩ := Except.bind_eq_ok_iff.mp hparts
    obtain ⟨items, -, hwrites⟩ := Except.bind_eq_ok_iff.mp hitems
    obtain ⟨rounds, hrounds, hrest⟩ := Except.bind_eq_ok_iff.mp hwrites
    obtain ⟨others, hothers, happend⟩ := Except.bind_eq_ok_iff.mp hrest
    cases happend
    simp only [literals, printedExprs, List.forall_mem_append] at hliteral hvalue ⊢
    refine ⟨?_, ihRest hliteral.2 hvalue.2 hscope hothers⟩
    split at hrounds
    · exact ihOtherwise hliteral.1.2 hvalue.1.2 hscope hrounds
    · -- a part that a round writes is one of the body, in the scope of that round
      obtain ⟨written, hwritten, rfl⟩ := Except.map_eq_ok_iff.mp hrounds
      intro part hpart
      obtain ⟨round, hmem, hpart⟩ := List.mem_flatten.mp hpart
      obtain ⟨⟨value, position⟩, -, hbody⟩ := Except.exists_of_mem_mapM hwritten hmem
      exact ihBody hliteral.1.1 hvalue.1.1 (hround _ _ _ _ _ hscope) hbody part hpart

/-- A template writes no text of its own but what stands in it. -/
theorem mem_literals_of_mem_parts {template : Template} {scope : TemplateScope}
    {parts : List TemplatePart} (hparts : template.parts scope = .ok parts) {text : String}
    (hmem : .literal text ∈ parts) : text ∈ template.literals := by
  let holds : TemplatePart → Prop
    | .literal text => text ∈ template.literals
    | .printed _ => True
  have hholds : ∀ part ∈ parts, holds part :=
    forall_mem_parts (fun _ _ _ _ _ (_ : True) => trivial)
      (fun _ htext => htext) (fun _ _ _ _ _ _ => trivial) trivial hparts
  exact hholds _ hmem

/-- Where no name stands for markup and no printed expression makes it, only data is printed. -/
theorem isMarkup_of_mem_parts {template : Template}
    (hsafe : ∀ expr ∈ template.printedExprs, "safe" ∉ expr.filters) {scope : TemplateScope}
    (hscope : scope.IsMarkupFree) {parts : List TemplatePart}
    (hparts : template.parts scope = .ok parts) {value : TemplateValue}
    (hmem : .printed value ∈ parts) : value.isMarkup = false := by
  let holds : TemplatePart → Prop
    | .literal _ => True
    | .printed value => value.isMarkup = false
  have hholds : ∀ part ∈ parts, holds part :=
    forall_mem_parts
      (fun _ item value index count hscope => hscope.loopScope item value index count)
      (fun _ _ => trivial)
      (fun expr hexpr _ _ hscope heval =>
        TemplateExpr.isMarkup_of_eval hscope (hsafe expr hexpr) heval)
      hscope hparts
  exact hholds _ hmem

end Template

end RequestDispatch
