import Mathlib.Data.List.DropRight
import RequestDispatch.Text.Cut

/-!
# Laws of Cutting Text

What the functions that cut texts compute. `rest?` inverts putting a text in front and `init?`
inverts putting one behind; `dropEnd` is `List.rdropWhile` and `before` is `List.takeWhile`, so
their laws are those of the library. `pieces` and `replaceFrom` have a lemma for each step that they
take at the first character, and all else is proved from these.

What lies between stops has none (`not_stop_of_mem_pieces`), and a stop separates the pieces on its
two sides (`pieces_append_cons`). A word is not replaced in a text in which it does not occur
(`replaceFrom_of_not_infix`), taking a word out changes only a text in which it does
(`replaceWord_empty_eq_self_iff`), and a word is not looked for where its first character does not
occur (`replaceFrom_append_of_not_mem`). Where it is found, the search goes on behind it
(`replaceFrom_append_self`). Text that comes together where a word was taken out can make the word
anew, but not if the word is a character twice (`not_pair_infix_replaceFrom`).
-/

namespace RequestDispatch.Text

/-- `rest? head cs` is what follows `head` in `cs`, if `cs` begins with `head`. -/
theorem rest?_eq_some_iff {head cs left : List Char} :
    rest? head cs = some left ↔ cs = head ++ left := by
  induction head generalizing cs with
  | nil => simp [rest?, eq_comm]
  | cons h head ih =>
    cases cs with
    | nil => simp [rest?]
    | cons c cs =>
      by_cases hc : h = c
      · simp [rest?, hc, ih]
      · simp [rest?, hc, Ne.symm hc]

@[simp]
theorem rest?_append (head left : List Char) : rest? head (head ++ left) = some left :=
  rest?_eq_some_iff.2 rfl

/-- `init? tail cs` is what precedes `tail` in `cs`, if `cs` ends with `tail`. -/
theorem init?_eq_some_iff {tail cs before : List Char} :
    init? tail cs = some before ↔ cs = before ++ tail := by
  rw [init?, Option.map_eq_some_iff]
  constructor
  · rintro ⟨front, hfront, rfl⟩
    have hcs := congrArg List.reverse (rest?_eq_some_iff.1 hfront)
    simpa using hcs
  · rintro rfl
    exact ⟨before.reverse, by simp, by simp⟩

theorem dropEnd_eq_rdropWhile (p : Char → Bool) (cs : List Char) :
    dropEnd p cs = cs.rdropWhile p := rfl

/-- A text none of whose characters satisfies `p` loses nothing at its end. -/
theorem dropEnd_of_forall_not {p : Char → Bool} {cs : List Char} (h : ∀ c ∈ cs, p c = false) :
    dropEnd p cs = cs := by
  rw [dropEnd_eq_rdropWhile, List.rdropWhile_eq_self_iff]
  intro hne
  simp [h _ (List.getLast_mem hne)]

/-- Characters that do not stop the text are kept, whatever follows them. -/
theorem before_append_of_forall_not {stop : Char → Bool} {cs : List Char}
    (h : ∀ c ∈ cs, stop c = false) (rest : List Char) :
    before stop (cs ++ rest) = cs ++ before stop rest := by
  have hkeep : ∀ c ∈ cs, (!stop c) = true := fun c hc => by rw [h c hc, Bool.not_false]
  rw [before, List.takeWhile_append_of_pos hkeep, before]

/-- What comes before the first mark begins with a text in which there is none. -/
theorem before_append_of_not_mem {mark : Char} {cs : List Char} (h : mark ∉ cs)
    (rest : List Char) : before (· = mark) (cs ++ rest) = cs ++ before (· = mark) rest := by
  apply before_append_of_forall_not
  intro c hc
  exact decide_eq_false fun heq => h (heq ▸ hc)

@[simp]
theorem before_cons_self (c : Char) (rest : List Char) : before (· = c) (c :: rest) = [] := by
  simp [before]

/-- What comes before a stop is cut no further. -/
@[simp]
theorem upTo_upTo (stop : Char → Bool) (text : String) :
    upTo stop (upTo stop text) = upTo stop text := by
  rw [upTo, upTo, String.toList_ofList, before, before, List.takeWhile_idem]

@[simp]
theorem pieces_nil (stop : Char → Bool) : pieces stop [] = [[]] := rfl

/-- A stop ends an empty piece. -/
theorem pieces_cons_of_stop {stop : Char → Bool} {c : Char} (hstop : stop c = true)
    (cs : List Char) : pieces stop (c :: cs) = [] :: pieces stop cs := if_pos hstop

theorem pieces_ne_nil (stop : Char → Bool) (cs : List Char) : pieces stop cs ≠ [] := by
  cases cs with
  | nil => simp
  | cons c cs =>
    rw [pieces]
    split
    · simp
    · split <;> simp

/-- Any other character is put in front of the first piece. -/
theorem pieces_cons_of_not_stop {stop : Char → Bool} {c : Char} (hc : stop c = false)
    {cs piece : List Char} {others : List (List Char)} (hcs : pieces stop cs = piece :: others) :
    pieces stop (c :: cs) = (c :: piece) :: others := by
  rw [pieces, hc, if_neg Bool.false_ne_true, hcs]

/-- What lies between stops are characters of the text, and none of them is a stop. -/
theorem not_stop_of_mem_pieces {stop : Char → Bool} {c : Char} {cs piece : List Char}
    (hpiece : piece ∈ pieces stop cs) (hc : c ∈ piece) : c ∈ cs ∧ stop c = false := by
  induction cs generalizing piece with
  | nil =>
    obtain rfl : piece = [] := by simpa using hpiece
    cases hc
  | cons first rest ih =>
    cases hfirst : stop first with
    | true =>
      rw [pieces_cons_of_stop hfirst] at hpiece
      rcases List.mem_cons.mp hpiece with rfl | hothers
      · cases hc
      · exact (ih hothers hc).imp_left (List.mem_cons_of_mem first)
    | false =>
      obtain ⟨next, others, hrest⟩ := List.exists_cons_of_ne_nil (pieces_ne_nil stop rest)
      rw [pieces_cons_of_not_stop hfirst hrest] at hpiece
      rw [hrest] at ih
      rcases List.mem_cons.mp hpiece with rfl | hothers
      · -- the first piece of the rest has grown by a character
        rcases List.mem_cons.mp hc with rfl | hnext
        · exact ⟨List.mem_cons_self, hfirst⟩
        · exact (ih List.mem_cons_self hnext).imp_left (List.mem_cons_of_mem first)
      · exact (ih (List.mem_cons_of_mem next hothers) hc).imp_left (List.mem_cons_of_mem first)

/-- A stop separates the pieces before it from those after it. -/
theorem pieces_append_cons {stop : Char → Bool} {c : Char} (hstop : stop c = true)
    (cs rest : List Char) : pieces stop (cs ++ c :: rest) = pieces stop cs ++ pieces stop rest := by
  induction cs with
  | nil => rw [List.nil_append, pieces_cons_of_stop hstop, pieces_nil, List.singleton_append]
  | cons first cs ih =>
    rw [List.cons_append]
    cases hfirst : stop first with
    | true => rw [pieces_cons_of_stop hfirst, pieces_cons_of_stop hfirst, ih, List.cons_append]
    | false =>
      obtain ⟨piece, others, hcs⟩ := List.exists_cons_of_ne_nil (pieces_ne_nil stop cs)
      have hboth : pieces stop (cs ++ c :: rest) = piece :: (others ++ pieces stop rest) := by
        rw [ih, hcs, List.cons_append]
      rw [pieces_cons_of_not_stop hfirst hboth, pieces_cons_of_not_stop hfirst hcs,
        List.cons_append]

/-- A text without stops is one piece. -/
theorem pieces_of_forall_not {stop : Char → Bool} {cs : List Char}
    (h : ∀ c ∈ cs, stop c = false) : pieces stop cs = [cs] := by
  induction cs with
  | nil => rfl
  | cons c cs ih =>
    have hcs : pieces stop cs = [cs] :=
      ih fun other hother => h other (List.mem_cons_of_mem c hother)
    exact pieces_cons_of_not_stop (h c List.mem_cons_self) hcs

/-- The first piece is what comes before the first stop. -/
theorem head?_pieces (stop : Char → Bool) (cs : List Char) :
    (pieces stop cs).head? = some (before stop cs) := by
  induction cs with
  | nil => rfl
  | cons c cs ih =>
    cases hc : stop c with
    | true => simp [pieces_cons_of_stop hc, before, hc]
    | false =>
      obtain ⟨others, hcs⟩ := List.head?_eq_some_iff.mp ih
      simp [pieces_cons_of_not_stop hc hcs, before, hc]

/-- A piece is a part of the text. -/
theorem infix_of_mem_pieces {stop : Char → Bool} {piece cs : List Char}
    (hpiece : piece ∈ pieces stop cs) : piece <:+: cs := by
  induction cs generalizing piece with
  | nil =>
    obtain rfl : piece = [] := by simpa using hpiece
    exact List.infix_refl []
  | cons c cs ih =>
    -- the first piece stands at the beginning, the others are pieces of the rest
    obtain ⟨others, hpieces⟩ := List.head?_eq_some_iff.mp (head?_pieces stop (c :: cs))
    have hothers : others ⊆ pieces stop cs := by
      cases hc : stop c with
      | true =>
        rw [pieces_cons_of_stop hc] at hpieces
        rw [(List.cons.inj hpieces).2]
        exact List.Subset.refl others
      | false =>
        obtain ⟨next, rest, hcs⟩ := List.exists_cons_of_ne_nil (pieces_ne_nil stop cs)
        rw [pieces_cons_of_not_stop hc hcs] at hpieces
        rw [hcs, (List.cons.inj hpieces).2]
        exact List.subset_cons_self next others
    rw [hpieces, List.mem_cons] at hpiece
    rcases hpiece with rfl | hother
    · exact (List.takeWhile_prefix _).isInfix
    · exact (ih (hothers hother)).trans (List.suffix_cons c cs).isInfix

/-- When the stops at the beginning of a text have been dropped, it does not begin with one. -/
theorem head?_dropWhile_ne {stop : Char → Bool} {c : Char} (hstop : stop c = true)
    (cs : List Char) : (cs.dropWhile stop).head? ≠ some c := by
  intro hhead
  have hnot := List.head?_dropWhile_not stop cs
  rw [hhead] at hnot
  exact absurd (hstop.symm.trans hnot) (by decide)

/-- Stops at the beginning of a text make no pieces but empty ones. -/
theorem pieces_dropWhile_subset (stop : Char → Bool) (cs : List Char) :
    pieces stop (cs.dropWhile stop) ⊆ pieces stop cs := by
  induction cs with
  | nil => exact List.Subset.refl _
  | cons c cs ih =>
    by_cases hc : stop c = true
    · rw [List.dropWhile_cons_of_pos hc, pieces_cons_of_stop hc]
      exact List.subset_cons_of_subset [] ih
    · rw [List.dropWhile_cons_of_neg hc]
      exact List.Subset.refl _

@[simp]
theorem replaceFrom_nil (old new : List Char) (skip : Nat) : replaceFrom old new skip [] = [] := by
  cases skip <;> rfl

/-- What is passed over is left out. -/
theorem replaceFrom_succ (old new : List Char) (skip : Nat) (c : Char) (cs : List Char) :
    replaceFrom old new (skip + 1) (c :: cs) = replaceFrom old new skip cs := rfl

/-- Where a word stands at the beginning, it is replaced, and the rest of it is passed over. -/
theorem replaceFrom_cons_of_starts {old : List Char} {c : Char} {cs : List Char}
    (h : old <+: c :: cs) (new : List Char) :
    replaceFrom old new 0 (c :: cs) = new ++ replaceFrom old new (old.length - 1) cs :=
  if_pos (List.isPrefixOf_iff_prefix.mpr h)

/-- Where a word does not stand at the beginning, the first character is kept. -/
theorem replaceFrom_cons_of_not_starts {old : List Char} {c : Char} {cs : List Char}
    (h : ¬ old <+: c :: cs) (new : List Char) :
    replaceFrom old new 0 (c :: cs) = c :: replaceFrom old new 0 cs :=
  if_neg fun hstarts => h (List.isPrefixOf_iff_prefix.mp hstarts)

/-- A word that does not occur in a text is not replaced. -/
theorem replaceFrom_of_not_infix {old cs : List Char} (h : ¬ old <:+: cs) (new : List Char) :
    replaceFrom old new 0 cs = cs := by
  induction cs with
  | nil => rfl
  | cons c cs ih =>
    have hnot : ¬ old <+: c :: cs := fun hstarts => h hstarts.isInfix
    have hrest : ¬ old <:+: cs := fun hoccurs => h (hoccurs.trans (List.suffix_cons c cs).isInfix)
    rw [replaceFrom_cons_of_not_starts hnot, ih hrest]

/-- Taking a word out of a text adds nothing. -/
theorem replaceFrom_nil_sublist (old : List Char) (skip : Nat) (cs : List Char) :
    (replaceFrom old [] skip cs).Sublist cs := by
  induction cs generalizing skip with
  | nil => rw [replaceFrom_nil]
  | cons c cs ih =>
    cases skip with
    | succ skip =>
      rw [replaceFrom_succ]
      exact (ih skip).cons c
    | zero =>
      by_cases hstarts : old <+: c :: cs
      · rw [replaceFrom_cons_of_starts hstarts]
        exact (ih (old.length - 1)).cons c
      · rw [replaceFrom_cons_of_not_starts hstarts]
        exact (ih 0).cons_cons c

/-- Taking a word out of a text changes it exactly if the word occurs in it. -/
theorem replaceFrom_nil_eq_self_iff {old : List Char} (hold : old ≠ []) (cs : List Char) :
    replaceFrom old [] 0 cs = cs ↔ ¬ old <:+: cs := by
  refine ⟨fun hsame => ?_, fun hoccurs => replaceFrom_of_not_infix hoccurs []⟩
  induction cs with
  | nil => simpa using hold
  | cons c cs ih =>
    by_cases hstarts : old <+: c :: cs
    · -- the text has become shorter
      have hlength := (replaceFrom_nil_sublist old (old.length - 1) cs).length_le
      rw [replaceFrom_cons_of_starts hstarts, List.nil_append] at hsame
      rw [hsame, List.length_cons] at hlength
      omega
    · rw [replaceFrom_cons_of_not_starts hstarts] at hsame
      rw [List.infix_cons_iff, not_or]
      exact ⟨hstarts, ih (List.cons_inj_right c |>.mp hsame)⟩

theorem toList_replaceWord_empty (old text : String) :
    (replaceWord old "" text).toList =
      if old = "" then text.toList else replaceFrom old.toList [] 0 text.toList := by
  rw [replaceWord]
  by_cases hold : old = ""
  · rw [if_pos hold, if_pos (String.isEmpty_iff.mpr hold)]
  · rw [if_neg hold, if_neg (by simpa using hold), String.toList_ofList]
    rfl

theorem replaceWord_empty_sublist (old text : String) :
    (replaceWord old "" text).toList.Sublist text.toList := by
  rw [toList_replaceWord_empty]
  split
  · exact List.Sublist.refl _
  · exact replaceFrom_nil_sublist _ 0 _

/-- A character that is not in a text is not there after a word has been taken out. -/
theorem not_mem_replaceWord_empty {c : Char} {text : String} (h : c ∉ text.toList)
    (old : String) : c ∉ (replaceWord old "" text).toList :=
  fun hmem => h ((replaceWord_empty_sublist old text).mem hmem)

/-- Taking a word out leaves a text as it is exactly if the word does not occur in it. -/
theorem replaceWord_empty_eq_self_iff {old : String} (hold : old ≠ "") (text : String) :
    replaceWord old "" text = text ↔ ¬ old.toList <:+: text.toList := by
  rw [← String.toList_inj, toList_replaceWord_empty, if_neg hold]
  exact replaceFrom_nil_eq_self_iff (by simpa using hold) _

/-- A word is not looked for in a text in which its first character does not occur. -/
theorem replaceFrom_append_of_not_mem {first : Char} {old new cs : List Char}
    (h : first ∉ cs) (rest : List Char) :
    replaceFrom (first :: old) new 0 (cs ++ rest) =
      cs ++ replaceFrom (first :: old) new 0 rest := by
  induction cs with
  | nil => rfl
  | cons c cs ih =>
    obtain ⟨hne, hcs⟩ := List.ne_and_not_mem_of_not_mem_cons h
    have hnot : ¬ first :: old <+: c :: (cs ++ rest) := fun hstarts =>
      hne (List.cons_prefix_cons.mp hstarts).1
    rw [List.cons_append, replaceFrom_cons_of_not_starts hnot, ih hcs, List.cons_append]

/-- What is passed over is not searched. -/
theorem replaceFrom_eq_drop (old new : List Char) (skip : Nat) (cs : List Char) :
    replaceFrom old new skip cs = replaceFrom old new 0 (cs.drop skip) := by
  induction cs generalizing skip with
  | nil => simp
  | cons c cs ih =>
    cases skip with
    | zero => rfl
    | succ skip => rw [replaceFrom_succ, List.drop_succ_cons, ih]

/-- Where a word stands at the beginning, it is replaced, and the search goes on behind it. -/
theorem replaceFrom_append_self {old : List Char} (hold : old ≠ []) (new rest : List Char) :
    replaceFrom old new 0 (old ++ rest) = new ++ replaceFrom old new 0 rest := by
  obtain ⟨first, others, rfl⟩ := List.exists_cons_of_ne_nil hold
  have hstarts : first :: others <+: first :: (others ++ rest) := List.prefix_append _ rest
  rw [List.cons_append, replaceFrom_cons_of_starts hstarts, replaceFrom_eq_drop]
  simp

/-- A text that begins with a character after its pairs have been taken out begins with it
before. -/
theorem head?_of_head?_replaceFrom_pair {c : Char} {cs : List Char}
    (hhead : (replaceFrom [c, c] [] 0 cs).head? = some c) : cs.head? = some c := by
  cases cs with
  | nil => cases hhead
  | cons first rest =>
    by_cases hpair : [c, c] <+: first :: rest
    · obtain ⟨rfl, -⟩ := List.cons_prefix_cons.mp hpair
      rfl
    · rw [replaceFrom_cons_of_not_starts hpair] at hhead
      exact hhead

/-- After the pairs of a character have been taken out, no pair of it is left. -/
theorem not_pair_infix_replaceFrom (c : Char) (skip : Nat) (cs : List Char) :
    ¬ [c, c] <:+: replaceFrom [c, c] [] skip cs := by
  induction cs generalizing skip with
  | nil => simp
  | cons first rest ih =>
    cases skip with
    | succ skip => exact ih skip
    | zero =>
      by_cases hpair : [c, c] <+: first :: rest
      · rw [replaceFrom_cons_of_starts hpair, List.nil_append]
        exact ih _
      · rw [replaceFrom_cons_of_not_starts hpair, List.infix_cons_iff, not_or]
        refine ⟨fun hstarts => hpair ?_, ih 0⟩
        -- the first character is kept, so a pair that begins with it was there before
        obtain ⟨rfl, hrest⟩ := List.cons_prefix_cons.mp hstarts
        have hhead : rest.head? = some c := by
          apply head?_of_head?_replaceFrom_pair
          obtain ⟨after, hafter⟩ := hrest
          rw [← hafter]
          rfl
        obtain ⟨after, rfl⟩ := List.head?_eq_some_iff.mp hhead
        exact List.prefix_append [c, c] after

end RequestDispatch.Text
