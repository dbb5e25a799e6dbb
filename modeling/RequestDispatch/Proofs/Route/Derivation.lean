import Mathlib.Computability.Language
import RequestDispatch.Proofs.Text.Cut
import RequestDispatch.Route.Derivation

/-!
# Derivations and Their Priority

What it means that tokens derive a text, said without any list of alternatives, and what it
means that one derivation comes before another.

* `Derives tree path choices bindings left`: the tokens of `tree` derive a beginning of `path`
  and leave `left`. A derivation is determined by its decisions `choices`: whether a group is
  taken, and how many characters a placeholder takes.
* `Earlier`: the priority of derivations. The first decision in which two of them differ
  counts; a group is taken before it is skipped, and shorter text is tried before longer.
* `TokenTree.language`: the texts that the tokens derive, as a language.

`decided` lists the derivations with their decisions. It has every derivation
(`derives_iff_mem_decided`) and has them by priority (`pairwise_earlier_decided`), and
`derivations` is that list without the decisions (`derivations_eq_map_decided`).
-/

namespace RequestDispatch.Route

open Text

/-! ## Decisions -/

/-- A decision of a derivation. -/
inductive Choice where
  /-- An optional part is taken. -/
  | taken
  /-- An optional part is skipped. -/
  | skipped
  /-- A placeholder takes this many characters. -/
  | length (count : Nat)
deriving DecidableEq, Repr

/-- The decision that is tried first: an optional part is taken before it is skipped, and a
placeholder tries shorter text before longer. -/
inductive Choice.Precedes : Choice → Choice → Prop
  | taken_skipped : Precedes .taken .skipped
  | shorter {m n : Nat} : m < n → Precedes (.length m) (.length n)

/-- One list of decisions comes before another: at the first place where they differ, the
decision of the first list is tried first. Earlier decisions dominate later ones. -/
inductive Earlier : List Choice → List Choice → Prop
  | here {a b : Choice} {as bs : List Choice} : a.Precedes b → Earlier (a :: as) (b :: bs)
  | later {a : Choice} {as bs : List Choice} : Earlier as bs → Earlier (a :: as) (a :: bs)

/-- What follows the decisions in question does not change which come first. -/
theorem Earlier.append {as bs : List Choice} (h : Earlier as bs) (x y : List Choice) :
    Earlier (as ++ x) (bs ++ y) := by
  induction h with
  | here hab => exact .here hab
  | later _ ih => exact .later ih

/-- Decisions in common do not change which come first. -/
theorem Earlier.append_left {as bs : List Choice} (h : Earlier as bs) (common : List Choice) :
    Earlier (common ++ as) (common ++ bs) := by
  induction common with
  | nil => exact h
  | cons a common ih => exact .later ih

theorem Choice.Precedes.irrefl {a : Choice} : ¬ a.Precedes a := by
  rintro ⟨⟩
  omega

theorem Choice.Precedes.asymm {a b : Choice} (hab : a.Precedes b) : ¬ b.Precedes a := by
  cases hab with
  | taken_skipped => rintro ⟨⟩
  | shorter hlt =>
    rintro ⟨⟩
    omega

/-- The priority of derivations is asymmetric, so at most one of them is first. -/
theorem Earlier.asymm {as bs : List Choice} (h : Earlier as bs) : ¬ Earlier bs as := by
  induction h with
  | here hab =>
    rintro (hba | _)
    · exact hab.asymm hba
    · exact hab.irrefl
  | later _ ih =>
    rintro (haa | hba)
    · exact haa.irrefl
    · exact ih hba

/-! ## Derivations -/

/-- The tokens derive a beginning of a path: with these decisions, binding these texts, and
leaving this end of the path. -/
inductive Derives : TokenTree → List Char → List Choice → Bindings → List Char → Prop
  | done (path : List Char) : Derives .done path [] [] path
  | literal (text : List Char) {tree : TokenTree} {path left : List Char}
      {choices : List Choice} {bindings : Bindings} :
      Derives tree path choices bindings left →
        Derives (.literal text tree) (text ++ path) choices bindings left
  | placeholder (name : String) {text : List Char} {tree : TokenTree} {path left : List Char}
      {choices : List Choice} {bindings : Bindings} :
      text ≠ [] → '\n' ∉ text → Derives tree path choices bindings left →
        Derives (.placeholder name tree) (text ++ path) (.length text.length :: choices)
          ((name, text) :: bindings) left
  | taken {content tree : TokenTree} {path middle left : List Char}
      {inner choices : List Choice} {found bindings : Bindings} :
      Derives content path inner found middle → Derives tree middle choices bindings left →
        Derives (.group content tree) path (.taken :: (inner ++ choices)) (found ++ bindings)
          left
  | skipped {content tree : TokenTree} {path left : List Char} {choices : List Choice}
      {bindings : Bindings} :
      Derives tree path choices bindings left →
        Derives (.group content tree) path (.skipped :: choices) bindings left

/-- The texts of one or more characters without a line break. -/
def lineTexts : Language Char := {text | text ≠ [] ∧ '\n' ∉ text}

/-- The texts that tokens derive: a literal itself, a placeholder one or more characters
without a line break, a group its content or nothing. -/
def TokenTree.language : TokenTree → Language Char
  | done => 1
  | literal text rest => {text} * rest.language
  | placeholder _ rest => lineTexts * rest.language
  | group content rest => (content.language + 1) * rest.language

/-- What the tokens derive is in their language. -/
theorem Derives.exists_mem_language {tree : TokenTree} {path left : List Char}
    {choices : List Choice} {bindings : Bindings} (h : Derives tree path choices bindings left) :
    ∃ text ∈ tree.language, path = text ++ left := by
  induction h with
  | done path => exact ⟨[], rfl, rfl⟩
  | literal text _ ih =>
    obtain ⟨rest, hrest, rfl⟩ := ih
    exact ⟨text ++ rest, Language.append_mem_mul rfl hrest, by simp⟩
  | placeholder name hne hline _ ih =>
    obtain ⟨rest, hrest, rfl⟩ := ih
    exact ⟨_ ++ rest, Language.append_mem_mul ⟨hne, hline⟩ hrest, by simp⟩
  | taken _ _ ihContent ihTree =>
    obtain ⟨first, hfirst, rfl⟩ := ihContent
    obtain ⟨rest, hrest, rfl⟩ := ihTree
    exact ⟨first ++ rest, Language.append_mem_mul (.inl hfirst) hrest, by simp⟩
  | skipped _ ih =>
    obtain ⟨rest, hrest, rfl⟩ := ih
    exact ⟨[] ++ rest, Language.append_mem_mul (.inr rfl) hrest, rfl⟩

/-- The tokens derive every text of their language, whatever follows it. -/
theorem exists_derives_of_mem_language {tree : TokenTree} {text : List Char}
    (h : text ∈ tree.language) (left : List Char) :
    ∃ choices bindings, Derives tree (text ++ left) choices bindings left := by
  induction tree generalizing text left with
  | done =>
    obtain rfl : text = [] := h
    exact ⟨[], [], .done left⟩
  | literal _ rest ih =>
    obtain ⟨_, rfl, tail, htail, rfl⟩ := Language.mem_mul.1 h
    obtain ⟨choices, bindings, hrest⟩ := ih htail left
    exact ⟨choices, bindings, by simpa using hrest.literal _⟩
  | placeholder name rest ih =>
    obtain ⟨value, ⟨hne, hline⟩, tail, htail, rfl⟩ := Language.mem_mul.1 h
    obtain ⟨choices, bindings, hrest⟩ := ih htail left
    exact ⟨_, _, by simpa using hrest.placeholder name hne hline⟩
  | group content rest ihContent ihRest =>
    obtain ⟨first, hfirst, tail, htail, rfl⟩ := Language.mem_mul.1 h
    obtain ⟨choices, bindings, hrest⟩ := ihRest htail left
    rcases hfirst with hcontent | hnil
    · obtain ⟨inner, found, hinner⟩ := ihContent hcontent (tail ++ left)
      exact ⟨_, _, by simpa using hinner.taken hrest⟩
    · obtain rfl : first = [] := hnil
      exact ⟨_, _, by simpa using hrest.skipped⟩

/-! ## The list of derivations -/

/-- A derivation: its decisions, what it binds, and what it leaves. -/
structure Decided where
  /-- The decisions, in order. -/
  choices : List Choice
  /-- The text of each placeholder occurrence that takes part, in order. -/
  bindings : Bindings
  /-- What is left of the path. -/
  left : List Char
deriving DecidableEq, Repr

/-- The derivations of a path by priority, with their decisions. -/
def decided : TokenTree → List Char → List Decided
  | .done, path => [⟨[], [], path⟩]
  | .literal text tree, path =>
    match rest? text path with
    | some left => decided tree left
    | none => []
  | .placeholder name tree, path =>
    (takes path).flatMap fun split =>
      (decided tree split.2).map fun found =>
        ⟨.length split.1.length :: found.choices, (name, split.1) :: found.bindings, found.left⟩
  | .group content tree, path =>
    ((decided content path).flatMap fun first =>
      (decided tree first.left).map fun found =>
        ⟨.taken :: (first.choices ++ found.choices), first.bindings ++ found.bindings,
          found.left⟩)
      ++ (decided tree path).map fun found => { found with choices := .skipped :: found.choices }

/-- `derivations` lists the derivations by priority, without their decisions. -/
theorem derivations_eq_map_decided (tree : TokenTree) (path : List Char) :
    derivations tree path = (decided tree path).map fun found => (found.bindings, found.left) := by
  induction tree generalizing path with
  | done => rfl
  | literal text rest ih =>
    rw [derivations, decided]
    cases rest? text path with
    | none => rfl
    | some left => exact ih left
  | placeholder name rest ih =>
    simp [derivations, decided, List.map_flatMap, ih, Function.comp_def]
  | group content rest ihContent ihRest =>
    simp [derivations, decided, List.map_flatMap, List.flatMap_map, ihContent, ihRest,
      Function.comp_def]

/-- A text can be split off exactly if it is a beginning of the path that a placeholder may
take. -/
theorem mem_takes_iff {path text left : List Char} :
    (text, left) ∈ takes path ↔ path = text ++ left ∧ text ≠ [] ∧ '\n' ∉ text := by
  induction path generalizing text with
  | nil => simp +contextual [takes]
  | cons c rest ih =>
    rw [takes]
    split
    · rename_i hc
      constructor
      · simp
      · rintro ⟨hpath, hne, hline⟩
        obtain ⟨d, tail, rfl⟩ := List.exists_cons_of_ne_nil hne
        obtain ⟨rfl, -⟩ := List.cons.inj hpath
        simp [hc] at hline
    · rename_i hc
      simp only [List.mem_cons, List.mem_map, Prod.exists, Prod.mk.injEq]
      constructor
      · rintro (⟨rfl, rfl⟩ | ⟨tail, left, htail, rfl, rfl⟩)
        · simp [Ne.symm hc]
        · obtain ⟨rfl, -, hline⟩ := ih.1 htail
          simp [Ne.symm hc, hline]
      · rintro ⟨hpath, hne, hline⟩
        obtain ⟨d, tail, rfl⟩ := List.exists_cons_of_ne_nil hne
        obtain ⟨rfl, rfl⟩ := List.cons.inj hpath
        -- the text is the first character alone, or goes on with a text from there
        by_cases htail : tail = []
        · exact .inl ⟨by rw [htail], by rw [htail]; rfl⟩
        · have hlineTail : '\n' ∉ tail := fun hmem => hline (List.mem_cons_of_mem _ hmem)
          exact .inr ⟨tail, left, ih.2 ⟨rfl, htail, hlineTail⟩, rfl, rfl⟩

/-- Shorter texts come first. -/
theorem pairwise_length_takes (path : List Char) :
    (takes path).Pairwise fun a b => a.1.length < b.1.length := by
  induction path with
  | nil => exact .nil
  | cons c rest ih =>
    rw [takes]
    split
    · exact .nil
    · refine List.pairwise_cons.2 ⟨?_, ?_⟩
      · intro split hsplit
        obtain ⟨⟨text, left⟩, htext, rfl⟩ := List.mem_map.1 hsplit
        simpa [List.length_pos_iff] using (mem_takes_iff.1 htext).2.1
      · simpa [List.pairwise_map] using ih

/-- Every derivation is listed, and nothing else is. -/
theorem derives_iff_mem_decided {tree : TokenTree} {path left : List Char}
    {choices : List Choice} {bindings : Bindings} :
    Derives tree path choices bindings left ↔ ⟨choices, bindings, left⟩ ∈ decided tree path := by
  constructor
  · intro h
    induction h with
    | done path => simp [decided]
    | literal text _ ih => simpa [decided] using ih
    | placeholder name hne hline _ ih =>
      exact List.mem_flatMap.2 ⟨_, mem_takes_iff.2 ⟨rfl, hne, hline⟩, List.mem_map.2 ⟨_, ih, rfl⟩⟩
    | taken _ _ ihContent ihTree =>
      refine List.mem_append_left _ (List.mem_flatMap.2 ⟨_, ihContent, ?_⟩)
      exact List.mem_map.2 ⟨_, ihTree, rfl⟩
    | skipped _ ih => exact List.mem_append_right _ (List.mem_map.2 ⟨_, ih, rfl⟩)
  · intro h
    induction tree generalizing path left choices bindings with
    | done =>
      obtain ⟨rfl, rfl, rfl⟩ : choices = [] ∧ bindings = [] ∧ left = path := by
        simpa [decided] using h
      exact .done left
    | literal text rest ih =>
      rw [decided] at h
      split at h
      · rename_i tail hrest
        rw [rest?_eq_some_iff.1 hrest]
        exact (ih h).literal text
      · simp at h
    | placeholder name rest ih =>
      obtain ⟨⟨text, tail⟩, htext, hfound⟩ := List.mem_flatMap.1 h
      obtain ⟨found, hmem, hfound⟩ := List.mem_map.1 hfound
      cases hfound
      obtain ⟨rfl, hne, hline⟩ := mem_takes_iff.1 htext
      exact (ih hmem).placeholder name hne hline
    | group content rest ihContent ihRest =>
      rcases List.mem_append.1 h with h | h
      · obtain ⟨first, hfirst, hfound⟩ := List.mem_flatMap.1 h
        obtain ⟨found, hmem, hfound⟩ := List.mem_map.1 hfound
        cases hfound
        exact (ihContent hfirst).taken (ihRest hmem)
      · obtain ⟨found, hmem, hfound⟩ := List.mem_map.1 h
        cases hfound
        exact (ihRest hmem).skipped

/-- Derivations that come earlier in the list have the earlier decisions. -/
theorem pairwise_earlier_decided (tree : TokenTree) (path : List Char) :
    (decided tree path).Pairwise fun a b => Earlier a.choices b.choices := by
  induction tree generalizing path with
  | done => exact List.pairwise_singleton _ _
  | literal text rest ih =>
    rw [decided]
    split
    · exact ih _
    · exact .nil
  | placeholder name rest ih =>
    -- derivations with the same text differ later, and shorter texts are tried first
    refine List.pairwise_flatMap.2 ⟨fun split _ => ?_, ?_⟩
    · exact List.pairwise_map.2 ((ih split.2).imp .later)
    · refine (pairwise_length_takes path).imp fun hlt x hx y hy => ?_
      obtain ⟨_, -, rfl⟩ := List.mem_map.1 hx
      obtain ⟨_, -, rfl⟩ := List.mem_map.1 hy
      exact .here (.shorter hlt)
  | group content rest ihContent ihRest =>
    refine List.pairwise_append.2 ⟨?_, ?_, ?_⟩
    · -- two derivations that take the group differ in its content, or else behind it
      refine List.pairwise_flatMap.2 ⟨fun first _ => ?_, ?_⟩
      · refine List.pairwise_map.2 ((ihRest first.left).imp fun h => ?_)
        exact .later (h.append_left _)
      · refine (ihContent path).imp fun h x hx y hy => ?_
        obtain ⟨_, -, rfl⟩ := List.mem_map.1 hx
        obtain ⟨_, -, rfl⟩ := List.mem_map.1 hy
        exact .later (h.append _ _)
    · exact List.pairwise_map.2 ((ihRest path).imp .later)
    · -- a derivation that takes the group comes before every one that skips it
      intro x hx y hy
      obtain ⟨_, -, hx⟩ := List.mem_flatMap.1 hx
      obtain ⟨_, -, rfl⟩ := List.mem_map.1 hx
      obtain ⟨_, -, rfl⟩ := List.mem_map.1 hy
      exact .here .taken_skipped

end RequestDispatch.Route
