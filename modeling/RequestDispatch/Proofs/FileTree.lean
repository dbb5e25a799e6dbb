import RequestDispatch.FileTree
import RequestDispatch.Proofs.Path
import RequestDispatch.Proofs.Text.Cut

/-!
# How File Trees Follow Paths

A file system tells paths apart by where they lead: a slash after a slash and a dot between slashes
make no difference to it (`FileSystem.FollowsPaths`). A file tree follows paths in this way
(`FileTree.followsPaths_toFileSystem`), because an idle component is a step from a directory to
itself, and every other step also begins in a directory.
-/

namespace RequestDispatch

open Text

/-- A file system makes no difference between paths that differ in slashes and dots that lead
nowhere. -/
structure FileSystem.FollowsPaths (files : FileSystem) : Prop where
  /-- Both paths name a file, or neither does. -/
  isFile_eq : ∀ {first second : String}, Path.Alike first second →
    files.isFile first = files.isFile second
  /-- The same text is read. -/
  read_eq : ∀ {first second : String}, Path.Alike first second →
    files.read first = files.read second

namespace FileTree

variable (tree : FileTree)

/-- A component of a path leads nowhere. -/
def IsIdle (component : String) : Prop := component = "" ∨ component = "."

/-- A component that leads nowhere can be left out unless it is the last one. -/
theorem foldlM_step_of_isIdle {component : String} (hidle : IsIdle component)
    {components : List String} (hne : components ≠ []) (place : FilePlace) :
    (component :: components).foldlM tree.step place = components.foldlM tree.step place := by
  obtain ⟨next, others, rfl⟩ := List.exists_cons_of_ne_nil hne
  -- every step asks first whether it begins in a directory
  rcases hdirectory : tree.isDirectoryAt place with _ | _
  · -- a path that goes through a file leads nowhere, whatever its next component is
    have hstuck (name : String) : tree.step place name = .error .notADirectory := by
      simp [step, hdirectory]
    rw [List.foldlM_cons, List.foldlM_cons, hstuck, hstuck]
    rfl
  · have hstay : tree.step place component = .ok place := by
      rcases hidle with rfl | rfl
      · simp [step, hdirectory]
      · simp [step, hdirectory]
    rw [List.foldlM_cons, hstay]
    rfl

/-- The components of a path on the two sides of a slash. -/
theorem splitAt_append_slash (before after : String) :
    splitAt (· = '/') (before ++ "/" ++ after) =
      splitAt (· = '/') before ++ splitAt (· = '/') after := by
  have hchars : (before ++ "/" ++ after).toList = before.toList ++ '/' :: after.toList := by simp
  rw [splitAt, hchars, pieces_append_cons (by decide), List.map_append]
  rfl

/-- What stands behind a slash does not change how a path begins. -/
theorem head?_append_slash (before after : String) :
    (before ++ "/" ++ after).toList.head? = (before ++ "/").toList.head? := by
  have hslash : (before ++ "/").toList ≠ [] := by simp
  obtain ⟨c, rest, hchars⟩ := List.exists_cons_of_ne_nil hslash
  rw [String.toList_append, hchars]
  rfl

/-- The place that a path with a slash in it leads to. -/
theorem resolve_append_slash (before after : String) :
    tree.resolve (before ++ "/" ++ after) =
      (splitAt (· = '/') before ++ splitAt (· = '/') after).foldlM tree.step
        (if (before ++ "/").toList.head? = some '/' then .above else .inside []) := by
  rw [resolve, if_neg (by simp), head?_append_slash, splitAt_append_slash]

/-- A component that leads nowhere can be left out of the middle of a path. -/
theorem resolve_of_isIdle {component : String} (hidle : IsIdle component) (before after : String) :
    tree.resolve (before ++ "/" ++ component ++ "/" ++ after) =
      tree.resolve (before ++ "/" ++ after) := by
  have hcomponent : splitAt (· = '/') component = [component] := by
    rcases hidle with rfl | rfl <;> rfl
  have hstart : (before ++ "/" ++ component ++ "/").toList.head? =
      (before ++ "/").toList.head? := by
    rw [String.append_assoc, head?_append_slash]
  rw [resolve_append_slash, resolve_append_slash, hstart, splitAt_append_slash, hcomponent,
    List.append_assoc, List.foldlM_append, List.foldlM_append]
  -- after what comes before it, the component stands first of those that are left, but not alone
  congr 1
  funext place
  exact tree.foldlM_step_of_isIdle hidle (by simp [splitAt, pieces_ne_nil]) place

/-- Paths that are alike lead to the same place. -/
theorem resolve_of_alike {first second : String} (halike : Path.Alike first second) :
    tree.resolve first = tree.resolve second := by
  induction halike with
  | refl => rfl
  | slash before after =>
    have hidle := tree.resolve_of_isIdle (.inl rfl) before after
    have hslashes : before ++ "//" ++ after = before ++ "/" ++ "" ++ "/" ++ after := by
      rw [← String.toList_inj]
      simp
    rwa [hslashes]
  | dot before after =>
    have hidle := tree.resolve_of_isIdle (.inr rfl) before after
    have hslashes : before ++ "/./" ++ after = before ++ "/" ++ "." ++ "/" ++ after := by
      rw [← String.toList_inj]
      simp
    rwa [hslashes]
  | symm _ ih => exact ih.symm
  | trans _ _ ihfirst ihsecond => exact ihfirst.trans ihsecond

/-- A file tree follows paths. -/
theorem followsPaths_toFileSystem : tree.toFileSystem.FollowsPaths where
  isFile_eq halike := by
    simp only [toFileSystem, tree.resolve_of_alike halike]
  read_eq halike := by
    simp only [toFileSystem, read, tree.resolve_of_alike halike]

end FileTree

end RequestDispatch
