import Mathlib.Data.List.DropRight
import RequestDispatch.Path

/-!
# Laws of Paths

A path is cut into its last component and the directory that it is in, and joining the two leads
back to where the path leads (`Path.alike_join_parent`). It need not be the same text, since a
directory is named without slashes and dots that lead nowhere. `Path.Alike` relates paths that
differ in nothing else, and such paths have the same last component
(`Path.Alike.lastComponent_eq`).

The last component is the only part of a path that what is joined in front does not change
(`Path.lastComponent_join`), so a stem is known from the name that is joined
(`Path.stem_of_extension`). What a stem can be is listed in `Path.stem_cases`.
-/

namespace RequestDispatch.Path

/-! ## The last component -/

theorem toList_lastComponent (path : String) :
    (lastComponent path).toList = path.toList.rtakeWhile (· ≠ '/') := by
  rw [lastComponent, String.toList_ofList, List.rtakeWhile]

theorem slash_not_mem_lastComponent (path : String) : '/' ∉ (lastComponent path).toList := by
  rw [toList_lastComponent]
  intro hmem
  simpa using List.mem_rtakeWhile_imp hmem

/-- What follows a slash is all that the last component depends on. -/
theorem lastComponent_append_slash (before name : String) :
    lastComponent (before ++ "/" ++ name) = lastComponent name := by
  rw [lastComponent, lastComponent]
  congr 2
  simp only [String.toList_append, List.reverse_append, List.append_assoc]
  rw [List.takeWhile_append]
  split
  · -- no slash is in the name, so it ends at the one before it
    rename_i hall
    have hslash : "/".toList.reverse = ['/'] := rfl
    rw [hslash, List.singleton_append, List.takeWhile_cons_of_neg (by decide), List.append_nil]
    exact ((List.takeWhile_prefix _).eq_of_length hall).symm
  · rfl

/-- A text without slashes is part of the last component if it stands at the end. -/
theorem lastComponent_append_of_not_mem {ending : String} (hending : '/' ∉ ending.toList)
    (path : String) : lastComponent (path ++ ending) = lastComponent path ++ ending := by
  rw [← String.toList_inj, String.toList_append, toList_lastComponent, toList_lastComponent,
    String.toList_append, List.rtakeWhile, List.rtakeWhile, List.reverse_append,
    List.takeWhile_append_of_pos, List.reverse_append, List.reverse_reverse]
  intro c hc
  simpa using fun heq : c = '/' => hending (heq ▸ List.mem_reverse.mp hc)

theorem lastComponent_of_not_mem {name : String} (hname : '/' ∉ name.toList) :
    lastComponent name = name := by
  have hempty : lastComponent "" = "" := rfl
  rw [← String.empty_append (s := name), lastComponent_append_of_not_mem hname, hempty]

/-- A path is a single name, or a slash stands before its last name. -/
theorem eq_or_exists_slash (path : String) :
    '/' ∉ path.toList ∨ ∃ before name, path = before ++ "/" ++ name ∧ '/' ∉ name.toList := by
  by_cases hslash : '/' ∈ path.toList
  · -- the last slash is the first one of the reversed path
    right
    obtain ⟨name, before, hpath, hname⟩ :=
      List.eq_append_cons_of_mem (List.mem_reverse.mpr hslash)
    refine ⟨String.ofList before.reverse, String.ofList name.reverse, ?_, by simpa using hname⟩
    rw [← String.toList_inj, ← List.reverse_inj, hpath]
    simp
  · exact .inl hslash

/-! ## Joining -/

theorem isAbsolute_eq_false_of_not_mem {name : String} (hname : '/' ∉ name.toList) :
    isAbsolute name = false := by
  rw [isAbsolute]
  rcases hchars : name.toList with _ | ⟨c, rest⟩
  · rfl
  · rw [hchars] at hname
    simpa using fun heq : c = '/' => hname (heq ▸ List.mem_cons_self)

/-- What is joined to a directory is the whole path, or stands behind a slash. -/
theorem join_eq_or_exists (directory path : String) :
    join directory path = path ∨ ∃ before, join directory path = before ++ "/" ++ path := by
  rw [join]
  split
  · exact .inl rfl
  · split
    · -- an empty directory adds nothing, and the slash that one ends in is not put there again
      rename_i hends
      rw [Bool.or_eq_true, beq_iff_eq] at hends
      rcases hends with hempty | hslash
      · left
        rw [String.isEmpty_iff.mp hempty, String.empty_append]
      · right
        obtain ⟨before, hbefore⟩ := List.getLast?_eq_some_iff.mp hslash
        refine ⟨String.ofList before, ?_⟩
        rw [← String.toList_inj]
        simp [hbefore]
    · exact .inr ⟨directory, rfl⟩

/-- The last component does not depend on the directory that a path is joined to. -/
theorem lastComponent_join (directory path : String) :
    lastComponent (join directory path) = lastComponent path := by
  rcases join_eq_or_exists directory path with hjoin | ⟨before, hjoin⟩
  · rw [hjoin]
  · rw [hjoin, lastComponent_append_slash]

/-! ## Stems -/

/-- The stem of a name is what comes before its last dot, unless the name is the one that leads
up. -/
theorem stem_of_last_dot {path name ending : String}
    (hlast : lastComponent path = name ++ "." ++ ending) (hname : name ≠ "")
    (hdot : '.' ∉ ending.toList) :
    stem path = if lastComponent path = ".." then ".." else name := by
  -- read from its end, the name is passed over as far as the dot
  have hreversed : (lastComponent path).toList.reverse.dropWhile (· ≠ '.') =
      '.' :: name.toList.reverse := by
    rw [hlast]
    simp only [String.toList_append, List.reverse_append]
    rw [List.dropWhile_append_of_pos]
    · rfl
    · intro c hc
      simpa using fun heq : c = '.' => hdot (heq ▸ List.mem_reverse.mp hc)
  obtain ⟨c, rest, hchars⟩ : ∃ c rest, name.toList.reverse = c :: rest :=
    List.exists_cons_of_ne_nil (by simpa using hname)
  rw [stem]
  simp only [hreversed, hchars]
  rw [← hchars, List.reverse_reverse, String.ofList_toList]
  split
  · assumption
  · rfl

/-- The stem of a name with an extension is the name without it. -/
theorem stem_of_extension {path name extension : String}
    (hlast : lastComponent path = name ++ "." ++ extension) (hname : name ≠ "")
    (hextension : extension ≠ "") (hdot : '.' ∉ extension.toList) : stem path = name := by
  -- the name that leads up is too short to have an extension
  have hdots : lastComponent path ≠ ".." := by
    intro heq
    have hlength : name.length + 1 + extension.length = 2 := by
      have heqLength := congrArg String.length (hlast.symm.trans heq)
      rwa [String.length_append, String.length_append] at heqLength
    have hnameLength : name.length ≠ 0 := by simpa using hname
    have hextensionLength : extension.length ≠ 0 := by simpa using hextension
    omega
  rw [stem_of_last_dot hlast hname hdot, if_neg hdots]

/-- A name without a dot, or with one at its beginning only, is its own stem. -/
theorem stem_of_not_mem_tail {path : String} (htail : '.' ∉ (lastComponent path).toList.tail) :
    stem path = lastComponent path := by
  rw [stem]
  rcases hchars : (lastComponent path).toList with _ | ⟨first, rest⟩
  · simp
  · -- all but the first character are passed over
    rw [hchars, List.tail_cons] at htail
    have hrest : ∀ c ∈ rest.reverse, decide (c ≠ '.') = true := fun c hc => by
      simpa using fun heq : c = '.' => htail (heq ▸ List.mem_reverse.mp hc)
    simp only [List.reverse_cons, List.dropWhile_append_of_pos hrest]
    by_cases hfirst : first = '.'
    · rw [List.dropWhile_cons_of_neg (by simpa using hfirst)]
    · rw [List.dropWhile_cons_of_pos (by simpa using hfirst), List.dropWhile_nil]

/-- A name with a dot after its first character has something before its last dot. -/
theorem exists_last_dot {name : String} (htail : '.' ∈ name.toList.tail) :
    ∃ before ending, before ≠ "" ∧ '.' ∉ ending.toList ∧ name = before ++ "." ++ ending := by
  obtain ⟨ending, before, hreversed, hending⟩ :=
    List.eq_append_cons_of_mem (List.mem_reverse.mpr (List.mem_of_mem_tail htail))
  have hchars : name.toList = before.reverse ++ '.' :: ending.reverse := by
    rw [← List.reverse_inj, hreversed]
    simp
  refine ⟨String.ofList before.reverse, String.ofList ending.reverse, ?_, by simpa using hending,
    ?_⟩
  · -- otherwise the last dot is the first character, and no dot comes after it
    rintro hempty
    obtain rfl : before = [] := by simpa using hempty
    rw [hchars] at htail
    exact hending (by simpa using htail)
  · rw [← String.toList_inj, hchars]
    simp

/-- A name has no dot that an extension could follow, or it is the one that leads up, or its stem is
what comes before its last dot. -/
theorem stem_cases (path : String) :
    ('.' ∉ (lastComponent path).toList.tail ∧ stem path = lastComponent path) ∨
    (lastComponent path = ".." ∧ stem path = "..") ∨
    ∃ ending, stem path ≠ "" ∧ lastComponent path = stem path ++ "." ++ ending := by
  by_cases htail : '.' ∈ (lastComponent path).toList.tail
  · right
    obtain ⟨before, ending, hbefore, hending, hlast⟩ := exists_last_dot htail
    have hstem := stem_of_last_dot hlast hbefore hending
    split at hstem
    · rename_i hup
      exact .inl ⟨hup, hstem⟩
    · rw [hstem]
      exact .inr ⟨ending, hbefore, hlast⟩
  · exact .inl ⟨htail, stem_of_not_mem_tail htail⟩

theorem slash_not_mem_stem (path : String) : '/' ∉ (stem path).toList := by
  have hlast := slash_not_mem_lastComponent path
  rcases stem_cases path with ⟨-, hstem⟩ | ⟨-, hstem⟩ | ⟨ending, -, hname⟩
  · rwa [hstem]
  · rw [hstem]
    decide
  · rw [hname] at hlast
    simp only [String.toList_append, List.mem_append, not_or] at hlast
    exact hlast.1.1

/-! ## Paths that lead to the same place -/

/-- Two paths differ in nothing but slashes and dots that lead nowhere. -/
inductive Alike : String → String → Prop where
  /-- Nothing is different. -/
  | refl (path : String) : Alike path path
  /-- A slash after a slash leads nowhere. -/
  | slash (before after : String) : Alike (before ++ "//" ++ after) (before ++ "/" ++ after)
  /-- A dot between slashes leads nowhere. -/
  | dot (before after : String) : Alike (before ++ "/./" ++ after) (before ++ "/" ++ after)
  /-- The order of the two is of no account. -/
  | symm {first second : String} (halike : Alike first second) : Alike second first
  /-- Paths can differ in several places. -/
  | trans {first second third : String} (hfirst : Alike first second)
      (hsecond : Alike second third) : Alike first third

/-- The last component is the same. -/
theorem Alike.lastComponent_eq {first second : String} (halike : Alike first second) :
    lastComponent first = lastComponent second := by
  induction halike with
  | refl => rfl
  | slash before after =>
    have hslash : before ++ "//" ++ after = before ++ "/" ++ "/" ++ after := by
      rw [← String.toList_inj]
      simp
    rw [hslash, lastComponent_append_slash, lastComponent_append_slash]
  | dot before after =>
    have hdot : before ++ "/./" ++ after = before ++ "/." ++ "/" ++ after := by
      rw [← String.toList_inj]
      simp
    rw [hdot, lastComponent_append_slash, lastComponent_append_slash]
  | symm _ ih => exact ih.symm
  | trans _ _ ihfirst ihsecond => exact ihfirst.trans ihsecond

/-- Slashes and dots before a slash lead nowhere. -/
theorem alike_dropIdle (reversed : List Char) (name : String) :
    Alike (String.ofList reversed.reverse ++ "/" ++ name)
      (String.ofList (dropIdle reversed).reverse ++ "/" ++ name) := by
  -- each round of `dropIdle` is one step of `Alike` in front of the name
  induction reversed using dropIdle.induct with
  | case1 rest ih =>
    refine .trans ?_ ih
    have hslash : String.ofList ('/' :: rest).reverse ++ "/" ++ name =
        String.ofList rest.reverse ++ "//" ++ name := by
      rw [← String.toList_inj]
      simp
    rw [hslash]
    exact .slash _ _
  | case2 rest ih =>
    refine .trans ?_ ih
    have hdot : String.ofList ('.' :: '/' :: rest).reverse ++ "/" ++ name =
        String.ofList rest.reverse ++ "/./" ++ name := by
      rw [← String.toList_inj]
      simp
    rw [hdot]
    exact .dot _ _
  | case3 rest hslash hdot =>
    rw [dropIdle]
    · exact .refl _
    · exact hslash
    · exact hdot

/-- What is left of a directory does not end in a slash. -/
theorem head?_dropIdle (reversed : List Char) : (dropIdle reversed).head? ≠ some '/' := by
  induction reversed using dropIdle.induct with
  | case1 rest ih => exact ih
  | case2 rest ih => exact ih
  | case3 rest hslash hdot =>
    rw [dropIdle]
    · intro hhead
      obtain ⟨others, rfl⟩ := List.head?_eq_some_iff.mp hhead
      exact hslash others rfl
    · exact hslash
    · exact hdot

/-- If nothing is left of a directory, it begins with a slash. -/
theorem head?_of_dropIdle_eq_nil {reversed : List Char} (hnil : dropIdle reversed = []) :
    (reversed.reverse ++ ['/']).head? = some '/' := by
  induction reversed using dropIdle.induct with
  | case1 rest ih =>
    rw [List.reverse_cons, List.head?_append, ih hnil, Option.some_or]
  | case2 rest ih =>
    have hreverse :
        ('.' :: '/' :: rest).reverse ++ ['/'] = rest.reverse ++ ['/'] ++ ['.', '/'] := by
      simp
    rw [hreverse, List.head?_append, ih hnil, Option.some_or]
  | case3 rest hslash hdot =>
    rw [dropIdle] at hnil
    · rw [hnil]
      rfl
    · exact hslash
    · exact hdot

/-- The directory of a name behind a slash: what is before it, or the root. -/
theorem parent_append_slash (before : String) {name : String} (hname : '/' ∉ name.toList) :
    parent (before ++ "/" ++ name) =
      if dropIdle before.toList.reverse = [] then "/"
      else String.ofList (dropIdle before.toList.reverse).reverse := by
  have hreversed : (before ++ "/" ++ name).toList.reverse.dropWhile (· ≠ '/') =
      '/' :: before.toList.reverse := by
    simp only [String.toList_append, List.reverse_append]
    rw [List.dropWhile_append_of_pos]
    · rfl
    · intro c hc
      simpa using fun heq : c = '/' => hname (heq ▸ List.mem_reverse.mp hc)
  rw [parent, hreversed]
  dsimp only
  -- where nothing is left, the path begins at the root, since the last thing dropped was a slash
  rcases hleft : dropIdle before.toList.reverse with _ | ⟨c, rest⟩
  · have hhead := head?_of_dropIdle_eq_nil hleft
    rw [List.reverse_reverse] at hhead
    have habsolute : isAbsolute (before ++ "/" ++ name) = true := by
      rw [isAbsolute, String.toList_append, String.toList_append, List.head?_append, beq_iff_eq]
      exact congrArg (Option.or · _) hhead
    rw [if_pos habsolute, if_pos rfl]
  · rw [if_neg (List.cons_ne_nil c rest)]

/-- Joining the last component to the directory that it is in leads back. -/
theorem alike_join_parent (path : String) :
    Alike path (join (parent path) (lastComponent path)) := by
  rcases eq_or_exists_slash path with hname | ⟨before, name, rfl, hname⟩
  · -- a single name is in the empty directory, which adds nothing in front of it
    have hparent : parent path = "" := by
      rw [parent, List.dropWhile_eq_nil_iff.mpr]
      intro c hc
      simpa using fun heq : c = '/' => hname (heq ▸ List.mem_reverse.mp hc)
    have hjoin : join "" path = path := by
      rw [join, isAbsolute_eq_false_of_not_mem hname]
      exact String.empty_append
    rw [hparent, lastComponent_of_not_mem hname, hjoin]
    exact .refl path
  · have halike := alike_dropIdle before.toList.reverse name
    rw [List.reverse_reverse, String.ofList_toList] at halike
    rw [lastComponent_append_slash, lastComponent_of_not_mem hname,
      parent_append_slash before hname]
    refine .trans halike ?_
    rw [join, isAbsolute_eq_false_of_not_mem hname, if_neg Bool.false_ne_true]
    split
    · rename_i hnil
      rw [hnil]
      exact .refl _
    · rename_i hleft
      -- what is left of the directory does not end in a slash, so a slash is put behind it
      rw [if_neg]
      · exact .refl _
      · simpa [hleft] using head?_dropIdle before.toList.reverse

end RequestDispatch.Path
