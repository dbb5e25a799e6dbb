import Mathlib.Data.List.Infix
import RequestDispatch.Proofs.Template.Parts

/-!
# Where Literal Text Comes From

The texts that stand in a template are taken from its source: each of them is a stretch of it
(`Template.isInfix_of_mem_literals`). Cutting the source makes segments of its text, and building
the template keeps these segments apart, whatever blocks they are put into.
-/

namespace RequestDispatch.Template

/-! ## Cutting -/

/-- The text that has been seen at a place and is not yet part of a segment. -/
def Place.pendingText : Place → List Char
  | .text seen => seen.reverse
  | .comment | .tag _ _ | .quote _ _ _ _ => []

theorem mem_literalSegment {seen : List Char} {text : String}
    (hmem : .literal text ∈ literalSegment seen) : text.toList = seen.reverse := by
  rw [literalSegment] at hmem
  split at hmem
  · cases hmem
  · cases List.mem_singleton.mp hmem
    rw [String.toList_ofList]

/-- A tag is no literal segment. -/
theorem literal_ne_tagSegment (text : String) (ending : Char) (seen : List Atom) :
    .literal text ≠ tagSegment ending seen := by
  rw [tagSegment]
  split <;> exact Segment.noConfusion

/-- The literal segments of a text are stretches of it. -/
theorem isInfix_of_cutFrom {place : Place} {cs : List Char} {segments : List Segment}
    (hcut : cutFrom place cs = some segments) {text : String} (hmem : .literal text ∈ segments) :
    text.toList <:+: place.pendingText ++ cs := by
  fun_induction cutFrom place cs generalizing segments with
  | case1 seen =>
    cases hcut
    rw [mem_literalSegment hmem, Place.pendingText, List.append_nil]
  | case2 seen rest ih | case3 seen rest ih | case4 seen rest ih =>
    -- a tag or a comment begins, and what has been seen becomes a segment
    obtain ⟨others, hothers, rfl⟩ := Option.map_eq_some_iff.mp hcut
    rcases List.mem_append.mp hmem with hseen | hother
    · rw [mem_literalSegment hseen]
      exact (List.prefix_append _ _).isInfix
    · exact (List.infix_cons (List.infix_cons (ih hothers hother))).trans
        (List.suffix_append _ _).isInfix
  | case5 seen c rest _ _ _ ih =>
    simpa [Place.pendingText] using ih hcut hmem
  | case6 rest ih => exact List.infix_cons (List.infix_cons (ih hcut hmem))
  | case9 seen c rest ih =>
    obtain ⟨others, hothers, rfl⟩ := Option.map_eq_some_iff.mp hcut
    rcases List.mem_cons.mp hmem with htag | hother
    · exact absurd htag (literal_ne_tagSegment _ _ _)
    · exact List.infix_cons (List.infix_cons (ih hothers hother))
  | case8 | case14 | case16 | case18 => cases hcut
  | case7 | case10 | case11 | case12 | case13 | case15 | case17 =>
    -- a character is passed over
    rename_i ih
    exact List.infix_cons (ih hcut hmem)

/-- Only the end of a text is dropped. -/
theorem prefix_dropLastBreak (cs : List Char) : dropLastBreak cs <+: cs := by
  rw [← List.reverse_suffix, dropLastBreak]
  split
  · rename_i rest hreverse
    rw [List.reverse_reverse, hreverse]
    exact (List.suffix_cons _ _).trans (List.suffix_cons _ _)
  · rename_i rest _ hreverse
    rw [List.reverse_reverse, hreverse]
    exact List.suffix_cons _ _
  · exact List.suffix_rfl

/-! ## Building -/

/-- The texts that stand in the parts of an open block that have been read. -/
def OpenBlock.literals (block : OpenBlock) : List String :=
  (block.otherwise.map Template.literals).getD [] ++ block.rest.literals

/-- The texts that stand in what has been read of a template. -/
def Ending.literals (ending : Ending) : List String :=
  ending.part.literals ++ ending.blocks.flatMap OpenBlock.literals

/-- Opening and closing blocks adds no text. -/
theorem literals_of_beforeTag {ending before : Ending} {tag : Tag}
    (hbefore : ending.beforeTag tag = some before) {text : String}
    (hmem : text ∈ before.literals) : text ∈ ending.literals := by
  obtain ⟨part, blocks⟩ := ending
  -- a tag fits the innermost open block, or there is no result
  rcases blocks with _ | ⟨⟨_ | _, _ | otherwise, rest⟩, blocks⟩ <;> cases tag <;> cases hbefore <;>
    simp_all [Ending.literals, OpenBlock.literals, literals, or_left_comm]

theorem mem_literals_of_before {ending before : Ending} {segment : Segment}
    (hbefore : ending.before segment = some before) {text : String}
    (hmem : text ∈ before.literals) : segment = .literal text ∨ text ∈ ending.literals := by
  cases segment with
  | literal own =>
    cases hbefore
    simpa [Ending.literals, literals, or_assoc, eq_comm] using hmem
  | output atoms =>
    right
    simp only [Ending.before, Option.bind_eq_bind, Option.bind_eq_some_iff] at hbefore
    obtain ⟨tokens, -, value, -, heq⟩ := hbefore
    cases heq
    exact hmem
  | statement atoms =>
    right
    simp only [Ending.before, Option.bind_eq_bind, Option.bind_eq_some_iff] at hbefore
    obtain ⟨tokens, -, tag, -, hbefore⟩ := hbefore
    exact literals_of_beforeTag hbefore hmem

/-- The texts that stand in what has been read are literal segments. -/
theorem mem_segments_of_endingOf {segments : List Segment} {ending : Ending}
    (hending : endingOf segments = some ending) {text : String}
    (hmem : text ∈ ending.literals) : .literal text ∈ segments := by
  induction segments generalizing ending with
  | nil =>
    cases hending
    simp [Ending.literals, literals] at hmem
  | cons segment rest ih =>
    simp only [endingOf, Option.bind_eq_bind, Option.bind_eq_some_iff] at hending
    obtain ⟨later, hlater, hbefore⟩ := hending
    rcases mem_literals_of_before hbefore hmem with rfl | hmem
    · exact List.mem_cons_self
    · exact List.mem_cons_of_mem _ (ih hlater hmem)

/-- The texts that stand in a template are stretches of its source. -/
theorem isInfix_of_mem_literals {source : String} {template : Template}
    (hparse : parse? source = some template) {text : String} (hmem : text ∈ template.literals) :
    text.toList <:+: source.toList := by
  simp only [parse?, ofSegments?, Option.bind_eq_bind, Option.bind_eq_some_iff] at hparse
  obtain ⟨segments, hsegments, ending, hending, hclosed⟩ := hparse
  split at hclosed
  · cases hclosed
    have hsegment : .literal text ∈ segments :=
      mem_segments_of_endingOf hending (List.mem_append_left _ hmem)
    exact (isInfix_of_cutFrom hsegments hsegment).trans (prefix_dropLastBreak _).isInfix
  · cases hclosed

end RequestDispatch.Template
