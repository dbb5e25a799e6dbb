import RequestDispatch.Proofs.FileTree
import RequestDispatch.View.Renderer

/-!
# Template Files Stay Below Their Directory

The name of a template may come from a request, so it must not lead out of the template directory.
A renderer takes the pairs of dots out of a name, puts its extension behind and takes off the
slashes at the beginning. No pair of dots is left then, but the dot before the extension is put
behind whatever is there. It completes a component that leads up only if the extension is a single
dot (`Renderer.dots_not_mem_fileName`).

Whoever follows a path without such components from a place does not leave what is below it
(`FileTree.exists_inside_of_foldlM_step`), and a path that is joined to a directory is followed from
the place that the directory leads to (`FileTree.resolve_join`). So the file of a template is below
the template directory (`Renderer.file_below_directory`).
-/

namespace RequestDispatch

open Text

/-! ## Components of paths -/

/-- A name without slashes is its only component. -/
theorem splitAt_of_not_mem {name : String} (hname : '/' ∉ name.toList) :
    splitAt (· = '/') name = [name] := by
  have hplain : ∀ c ∈ name.toList, decide (c = '/') = false := by
    intro c hc
    exact decide_eq_false fun heq => hname (heq ▸ hc)
  rw [splitAt, pieces_of_forall_not hplain, List.map_singleton, String.ofList_toList]

/-- A component is a part of the path. -/
theorem infix_of_mem_splitAt {component path : String}
    (hcomponent : component ∈ splitAt (· = '/') path) :
    component.toList <:+: path.toList := by
  rw [splitAt, List.mem_map] at hcomponent
  obtain ⟨piece, hpiece, rfl⟩ := hcomponent
  rw [String.toList_ofList]
  exact infix_of_mem_pieces hpiece

/-- A path that does not begin with a slash is put behind the directory that it is joined to. -/
theorem Path.join_of_head? {path : String} (hpath : path.toList.head? ≠ some '/')
    (directory : String) :
    Path.join directory path =
      if directory = "" ∨ directory.toList.getLast? = some '/' then directory ++ path
      else directory ++ "/" ++ path := by
  have habsolute : Path.isAbsolute path = false := by
    unfold Path.isAbsolute
    simpa using hpath
  rw [Path.join, habsolute, if_neg Bool.false_ne_true]
  simp

namespace Renderer

/-! ## File names -/

/-- What is put behind the name of a template. -/
def fileEnding (extension : String) : String := if extension = "" then "" else "." ++ extension

theorem toList_fileName (extension name : String) :
    (fileName extension name).toList =
      (replaceWord ".." "" name ++ fileEnding extension).toList.dropWhile (· = '/') := by
  rw [fileName, fileEnding, String.toList_ofList]
  by_cases hextension : extension = ""
  · simp [hextension]
  · simp [hextension, String.append_assoc]

/-- A name stays as it is exactly if there is no pair of dots in it. -/
theorem replaceWord_dots_eq_self_iff {name : String} :
    replaceWord ".." "" name = name ↔ ¬ "..".toList <:+: name.toList :=
  replaceWord_empty_eq_self_iff (by decide) name

/-- No pair of dots is left in a name. -/
theorem not_dots_infix_replaceWord (name : String) :
    ¬ "..".toList <:+: (replaceWord ".." "" name).toList := by
  rw [toList_replaceWord_empty, if_neg (by decide)]
  exact not_pair_infix_replaceFrom '.' 0 name.toList

/-- A name with an extension that is not a single dot does not lead up. -/
theorem append_extension_ne_dots {name extension : String} (hextension : extension ≠ "")
    (hdot : extension ≠ ".") : name ++ "." ++ extension ≠ ".." := by
  intro hdots
  have hlength : name.length + 1 + extension.length = 2 := by
    have hlengths := congrArg String.length hdots
    rwa [String.length_append, String.length_append] at hlengths
  have hextensionLength : extension.length ≠ 0 := by simpa using hextension
  -- so nothing is in front of the dot, and a single character behind it
  have hname : name = "" := by
    rw [← String.length_eq_zero_iff]
    omega
  subst hname
  apply hdot
  rw [← String.toList_inj] at hdots ⊢
  simpa using hdots

/-- Behind a text without pairs of dots, an extension without slashes that is not a single dot
completes no component that leads up. -/
theorem dots_not_mem_splitAt_append {extension : String} (hslash : '/' ∉ extension.toList)
    (hdot : extension ≠ ".") {inside : String} (hinside : ¬ "..".toList <:+: inside.toList) :
    ".." ∉ splitAt (· = '/') (inside ++ fileEnding extension) := by
  rw [fileEnding]
  split
  · -- nothing is put behind
    rw [String.append_empty]
    exact fun hmem => hinside (infix_of_mem_splitAt hmem)
  · rename_i hextension
    have hlast (name : String) (hname : '/' ∉ name.toList) :
        splitAt (· = '/') (name ++ ("." ++ extension)) = [name ++ "." ++ extension] := by
      rw [splitAt_of_not_mem, String.append_assoc]
      simp [hname, hslash]
    rcases Path.eq_or_exists_slash inside with hname | ⟨before, name, rfl, hname⟩
    · rw [hlast inside hname, List.mem_singleton]
      exact (append_extension_ne_dots hextension hdot).symm
    · -- the extension belongs to the last component, the others were there before
      have hjoined : before ++ "/" ++ name ++ ("." ++ extension) =
          before ++ "/" ++ (name ++ ("." ++ extension)) := by
        simp only [String.append_assoc]
      rw [hjoined, FileTree.splitAt_append_slash, hlast name hname, List.mem_append,
        List.mem_singleton, not_or]
      refine ⟨fun hmem => hinside ?_, (append_extension_ne_dots hextension hdot).symm⟩
      refine (infix_of_mem_splitAt hmem).trans ?_
      rw [String.append_assoc, String.toList_append]
      exact (List.prefix_append _ _).isInfix

/-- A file name has no component that leads up. -/
theorem dots_not_mem_fileName {extension : String} (hslash : '/' ∉ extension.toList)
    (hdot : extension ≠ ".") (name : String) :
    ".." ∉ splitAt (· = '/') (fileName extension name) := by
  intro hmem
  apply dots_not_mem_splitAt_append hslash hdot (not_dots_infix_replaceWord name)
  -- the slashes that were taken off make only empty components
  rw [splitAt, toList_fileName] at hmem
  exact List.map_subset _ (pieces_dropWhile_subset _ _) hmem

/-- With a single dot for an extension, a name that ends in a slash leads up. -/
example : fileName "." "news/" = "news/.." := by decide +kernel

/-- A file name does not begin with a slash. -/
theorem head?_fileName (extension name : String) :
    (fileName extension name).toList.head? ≠ some '/' := by
  rw [toList_fileName]
  exact head?_dropWhile_ne (by decide) _

/-- Where no slash comes to stand at the beginning, none is taken off. -/
theorem fileName_of_head? {extension name : String}
    (hhead : (replaceWord ".." "" name ++ fileEnding extension).toList.head? ≠ some '/') :
    fileName extension name = replaceWord ".." "" name ++ fileEnding extension := by
  rw [← String.toList_inj, toList_fileName, List.dropWhile_eq_self_iff]
  intro hlength hfirst
  apply hhead
  rw [List.head?_eq_getElem?, List.getElem?_eq_getElem hlength]
  simpa using hfirst

/-- A name that has no pair of dots and does not begin with a slash is not changed. -/
theorem fileName_eq_append {extension name : String} (hdots : ¬ "..".toList <:+: name.toList)
    (hhead : name.toList.head? ≠ some '/') :
    fileName extension name = name ++ fileEnding extension := by
  have hkept : replaceWord ".." "" name = name := replaceWord_dots_eq_self_iff.mpr hdots
  rw [fileName_of_head?, hkept]
  rw [hkept, String.toList_append, List.head?_append]
  rcases hname : name.toList with _ | ⟨c, rest⟩
  · -- then the ending is all there is, and it does not begin with a slash either
    rw [List.head?_nil, Option.none_or]
    unfold fileEnding
    split <;> simp
  · rw [hname] at hhead
    exact hhead

end Renderer

/-! ## Paths that do not lead up -/

namespace FileTree

variable (tree : FileTree)

/-- A component that does not lead up leads no further than to what is in the directory. -/
theorem exists_inside_of_step {component : String} (hup : component ≠ "..")
    {directory : List String} {place : FilePlace}
    (hstep : tree.step (.inside directory) component = .ok place) :
    ∃ components, place = .inside (directory ++ components) := by
  unfold step at hstep
  split at hstep
  · cases hstep
  · split at hstep
    · cases hstep
      exact ⟨[], by rw [List.append_nil]⟩
    · simp only [beq_iff_eq, hup, if_false] at hstep
      split at hstep
      · cases hstep
        exact ⟨[component], rfl⟩
      · cases hstep

/-- Components that do not lead up lead to something below the place where they begin. -/
theorem exists_inside_of_foldlM_step {components : List String} (hup : ".." ∉ components)
    {directory : List String} {place : FilePlace}
    (hleads : components.foldlM tree.step (.inside directory) = .ok place) :
    ∃ below, place = .inside (directory ++ below) := by
  induction components generalizing directory with
  | nil =>
    cases hleads
    exact ⟨[], by rw [List.append_nil]⟩
  | cons component components ih =>
    rw [List.foldlM_cons] at hleads
    rcases hstep : tree.step (.inside directory) component with fault | next
    · rw [hstep] at hleads
      cases hleads
    · obtain ⟨first, rfl⟩ := tree.exists_inside_of_step
        (fun heq => hup (heq ▸ List.mem_cons_self)) hstep
      rw [hstep] at hleads
      obtain ⟨rest, rfl⟩ := ih (fun hmem => hup (List.mem_cons_of_mem _ hmem)) hleads
      exact ⟨first ++ rest, by rw [List.append_assoc]⟩

/-- A slash at the end of a path does not change where it leads. -/
theorem foldlM_step_of_append_slash {before : String} {place : FilePlace}
    (hleads : tree.resolve (before ++ "/") = .ok place) :
    (splitAt (· = '/') before).foldlM tree.step
      (if (before ++ "/").toList.head? = some '/' then .above else .inside []) = .ok place := by
  have hresolve := tree.resolve_append_slash before ""
  rw [String.append_empty, hleads, List.foldlM_append] at hresolve
  rcases hbefore : (splitAt (· = '/') before).foldlM tree.step
      (if (before ++ "/").toList.head? = some '/' then .above else .inside []) with fault | last
  · rw [hbefore] at hresolve
    cases hresolve
  · -- what follows the slash is an empty component, which stays where it is
    rw [hbefore] at hresolve
    have hempty : tree.step last "" = .ok place := by
      rw [← bind_pure (tree.step last "")]
      exact hresolve.symm
    unfold step at hempty
    split at hempty
    · cases hempty
    · exact hempty

/-- Going on from the place that a directory leads to is following the path that is joined to
it. -/
theorem resolve_join {directory path : String} {place : FilePlace}
    (hpath : path.toList.head? ≠ some '/') (hdirectory : tree.resolve directory = .ok place) :
    tree.resolve (Path.join directory path) = (splitAt (· = '/') path).foldlM tree.step place := by
  have hne : directory ≠ "" := by
    rintro rfl
    cases hdirectory
  rw [Path.join_of_head? hpath]
  split
  · rename_i hends
    obtain ⟨front, hfront⟩ := List.getLast?_eq_some_iff.mp (hends.resolve_left hne)
    obtain rfl : directory = String.ofList front ++ "/" := by
      rw [← String.toList_inj, hfront]
      simp
    rw [resolve_append_slash, List.foldlM_append, tree.foldlM_step_of_append_slash hdirectory]
    rfl
  · have hhead : (directory ++ "/").toList.head? = directory.toList.head? := by
      obtain ⟨c, rest, hchars⟩ := List.exists_cons_of_ne_nil
        (show directory.toList ≠ [] by simpa using hne)
      rw [String.toList_append, hchars]
      rfl
    rw [resolve, if_neg (by simpa using hne)] at hdirectory
    rw [resolve_append_slash, List.foldlM_append, hhead, hdirectory]
    rfl

end FileTree

namespace Renderer

/-- The file of a template is below the template directory, for an extension that has no slash and
is not a single dot. It is the directory with a path joined to it that does not begin with a slash,
and so does not take the directory's place, and in which no component leads up. Where the directory
leads to a place in a tree of files, the file is nowhere but below it. A name that has no pair of
dots and does not begin with a slash is the path, with the extension behind. -/
theorem file_below_directory (renderer : Renderer) (hslash : '/' ∉ renderer.extension.toList)
    (hdot : renderer.extension ≠ ".") (name : String) :
    let path := fileName renderer.extension name
    renderer.file name = Path.join renderer.directory path ∧
      path.toList.head? ≠ some '/' ∧
      (renderer.file name = renderer.directory ++ path ∨
        renderer.file name = renderer.directory ++ "/" ++ path) ∧
      ".." ∉ splitAt (· = '/') path ∧
      (∀ (tree : FileTree) (directory : List String) (place : FilePlace),
        tree.resolve renderer.directory = .ok (.inside directory) →
        tree.resolve (renderer.file name) = .ok place →
        ∃ below, place = .inside (directory ++ below)) ∧
      (¬ "..".toList <:+: name.toList → name.toList.head? ≠ some '/' →
        path = name ++ fileEnding renderer.extension) := by
  intro path
  have hhead : path.toList.head? ≠ some '/' := head?_fileName renderer.extension name
  have hup : ".." ∉ splitAt (· = '/') path := dots_not_mem_fileName hslash hdot name
  refine ⟨rfl, hhead, ?_, hup, ?_, fileName_eq_append⟩
  · rw [file, Path.join_of_head? hhead]
    split
    · exact .inl rfl
    · exact .inr rfl
  · intro tree directory place hdirectory hplace
    rw [file, tree.resolve_join hhead hdirectory] at hplace
    exact tree.exists_inside_of_foldlM_step hup hplace

/-- A template in a directory below the template directory. -/
def nestedTree : FileTree :=
  FileTree.empty.addFile ["views", "etc", "passwd.html"] "root".toUTF8

/-- A name with slashes at the beginning and runs of dots, and a name that is not changed. -/
theorem file_below_directory_runs :
    '/' ∉ "html".toList ∧ "html" ≠ "." ∧
      Renderer.file { directory := "views" } "//..../.../etc/passwd.." =
        "views/./etc/passwd.html" ∧
      ".." ∉ splitAt (· = '/') (fileName "html" "//..../.../etc/passwd..") ∧
      nestedTree.resolve "views" = .ok (.inside ["views"]) ∧
      nestedTree.resolve "views/./etc/passwd.html" =
        .ok (.inside ["views", "etc", "passwd.html"]) ∧
      (∃ below, FilePlace.inside ["views", "etc", "passwd.html"] = .inside (["views"] ++ below)) ∧
      fileName "html" "v1.2" = "v1.2" ++ fileEnding "html" := by
  have hslash : '/' ∉ "html".toList := by decide
  have hdot : "html" ≠ "." := by decide
  have hdirectory : nestedTree.resolve "views" = .ok (.inside ["views"]) := by decide +kernel
  have hfile : Renderer.file { directory := "views" } "//..../.../etc/passwd.." =
      "views/./etc/passwd.html" := by decide +kernel
  have hplace : nestedTree.resolve "views/./etc/passwd.html" =
      .ok (.inside ["views", "etc", "passwd.html"]) := by decide +kernel
  obtain ⟨-, -, -, hup, hbelow, -⟩ :=
    file_below_directory { directory := "views" } hslash hdot "//..../.../etc/passwd.."
  obtain ⟨-, -, -, -, -, hkept⟩ :=
    file_below_directory { directory := "views" } hslash hdot "v1.2"
  rw [hfile] at hbelow
  exact ⟨hslash, hdot, hfile, hup, hdirectory, hplace, hbelow nestedTree _ _ hdirectory hplace,
    hkept (by decide) (by decide)⟩

end Renderer

end RequestDispatch
