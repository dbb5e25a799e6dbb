import RequestDispatch.Proofs.View.Escaping
import RequestDispatch.Proofs.View.FileNames
import RequestDispatch.View.Views

/-!
# The Layout that is Rendered

A layout that has been found is rendered as the template that its stem names in the directory it is
in. The renderer makes a file name of the stem again: it takes pairs of dots out and puts its
extension behind. `Renderer.Rebuilds` says that this is the name of the file that was found, and
then that file is rendered (`Views.renderLayout_of_layoutFile`). With an empty extension, this is so
for the names without a dot after their first character (`Renderer.rebuilds_empty_iff`); with an
extension that has no dot, for the names that end in it (`Renderer.rebuilds_iff`). Of any other
layout, what is rendered is a file of another name, if there is one
(`Views.renderLayout_not_found`).
-/

namespace RequestDispatch

open Text

namespace Renderer

/-! ## The names of template files -/

/-- Without slashes, a file's name is the template's name without pairs of dots, and behind it the
extension. -/
theorem fileName_of_not_mem {extension name : String} (hextension : '/' ∉ extension.toList)
    (hname : '/' ∉ name.toList) :
    fileName extension name =
      if extension = "" then replaceWord ".." "" name
      else replaceWord ".." "" name ++ "." ++ extension := by
  have hinside := not_mem_replaceWord_empty hname ".."
  have hfull : '/' ∉ (replaceWord ".." "" name ++ fileEnding extension).toList := by
    unfold fileEnding
    split <;> simp [hinside, hextension]
  rw [fileName_of_head? fun hhead => hfull (List.mem_of_head? hhead), fileEnding]
  split
  · rw [String.append_empty]
  · rw [String.append_assoc]

theorem slash_not_mem_fileName {extension name : String} (hextension : '/' ∉ extension.toList)
    (hname : '/' ∉ name.toList) : '/' ∉ (fileName extension name).toList := by
  have hinside := not_mem_replaceWord_empty hname ".."
  rw [fileName_of_not_mem hextension hname]
  split
  · exact hinside
  · simp only [String.toList_append, List.mem_append, not_or]
    exact ⟨⟨hinside, by decide⟩, hextension⟩

/-! ## Stems that lead back to their file -/

/-- The name that a renderer makes of a file's stem is the name of the file. -/
def Rebuilds (extension file : String) : Prop :=
  fileName extension (Path.stem file) = Path.lastComponent file

instance (extension file : String) : Decidable (Rebuilds extension file) :=
  inferInstanceAs (Decidable (fileName extension (Path.stem file) = Path.lastComponent file))

/-- With an empty extension, a stem leads back to the file if nothing was cut off. -/
theorem rebuilds_empty_iff {file : String} :
    Rebuilds "" file ↔ '.' ∉ (Path.lastComponent file).toList.tail := by
  rw [Rebuilds, fileName_of_not_mem (by decide) (Path.slash_not_mem_stem file), if_pos rfl]
  rcases Path.stem_cases file with ⟨htail, hstem⟩ | ⟨hlast, hstem⟩ | ⟨ending, hne, hlast⟩
  · -- a pair of dots has one after the first character
    rw [hstem, replaceWord_dots_eq_self_iff]
    refine iff_of_true (fun hoccurs => htail ?_) htail
    exact hoccurs.sublist.tail.mem (by decide)
  · rw [hstem, hlast]
    decide
  · refine iff_of_false (fun hsame => ?_) (fun htail => htail ?_)
    · -- what is left of the stem is shorter than the name
      have hlength := (replaceWord_empty_sublist ".." (Path.stem file)).length_le
      rw [hsame, hlast] at hlength
      simp only [String.toList_append, List.length_append] at hlength
      have hdot : ".".toList.length = 1 := rfl
      omega
    · obtain ⟨first, rest, hstem⟩ : ∃ first rest, (Path.stem file).toList = first :: rest :=
        List.exists_cons_of_ne_nil (by simpa using hne)
      simp [hlast, hstem]

/-- With an extension that is a single name, a stem leads back to the file if the file's name is
some other name with this extension, without pairs of dots. -/
theorem rebuilds_iff {extension file : String} (hextension : extension ≠ "")
    (hdot : '.' ∉ extension.toList) (hslash : '/' ∉ extension.toList) :
    Rebuilds extension file ↔
      ∃ name, name ≠ "" ∧ ¬ "..".toList <:+: name.toList ∧
        Path.lastComponent file = name ++ "." ++ extension := by
  rw [Rebuilds, fileName_of_not_mem hslash (Path.slash_not_mem_stem file), if_neg hextension]
  constructor
  · intro hlast
    by_cases hinside : replaceWord ".." "" (Path.stem file) = ""
    · -- a name that begins with its only dot is its own stem, and nothing is taken out of it
      rw [hinside, String.empty_append] at hlast
      have htail : '.' ∉ (Path.lastComponent file).toList.tail := by
        rw [← hlast]
        simpa using hdot
      have hsame := rebuilds_empty_iff.mpr htail
      rw [Rebuilds, fileName_of_not_mem (by decide) (Path.slash_not_mem_stem file), if_pos rfl,
        hinside, ← hlast] at hsame
      exact absurd (congrArg String.toList hsame) (by simp)
    · have hstem := Path.stem_of_extension hlast.symm hinside hextension hdot
      exact ⟨Path.stem file, hstem ▸ hinside, replaceWord_dots_eq_self_iff.mp hstem.symm,
        by rw [← hlast, ← hstem]⟩
  · rintro ⟨name, hname, hdots, hlast⟩
    rw [Path.stem_of_extension hlast hname hextension hdot,
      replaceWord_dots_eq_self_iff.mpr hdots, hlast]

/-- The file that is rendered for a file: the one that its stem names in the directory it is in. -/
def fileBeside (renderer : Renderer) (file : String) : String :=
  { renderer with directory := Path.parent file }.file (Path.stem file)

theorem alike_fileBeside {renderer : Renderer} {file : String}
    (hrebuilds : Rebuilds renderer.extension file) :
    Path.Alike file (renderer.fileBeside file) := by
  have hbeside : renderer.fileBeside file =
      Path.join (Path.parent file) (Path.lastComponent file) :=
    congrArg (Path.join (Path.parent file)) hrebuilds
  rw [hbeside]
  exact Path.alike_join_parent file

/-- If the stem does not lead back to the file, the file that is rendered has another name. -/
theorem alike_fileBeside_iff {renderer : Renderer} (hslash : '/' ∉ renderer.extension.toList)
    {file : String} :
    Path.Alike file (renderer.fileBeside file) ↔ Rebuilds renderer.extension file := by
  refine ⟨fun halike => ?_, alike_fileBeside⟩
  -- paths that are alike have the same last component, here the whole name that is made
  have hname := slash_not_mem_fileName hslash (Path.slash_not_mem_stem file)
  have hlast := halike.lastComponent_eq
  rw [fileBeside, Renderer.file, Path.lastComponent_join,
    Path.lastComponent_of_not_mem hname] at hlast
  exact hlast.symm

/-! ## Rendering a file -/

/-- What a renderer makes of what is read at a path, as the template of a name. -/
def evaluateRead (renderer : Renderer) (path name : String) :
    Except ReadFault String → Except TemplateError String
  | .ok source => Template.outputText <$> renderer.evaluate name source
  | .error fault => .error (.unreadable path fault)

/-- Where something is read, or cannot be read, there is a file. -/
theorem evaluateRead_ne_notFound {renderer : Renderer} {path name missing : String}
    {read : Except ReadFault String} :
    renderer.evaluateRead path name read ≠ .error (.notFound missing) := by
  intro hnotFound
  rcases read with fault | text
  · cases hnotFound
  · rw [evaluateRead, evaluate] at hnotFound
    split at hnotFound <;> cases hnotFound

/-- Rendering a template makes something of what is read at its file, if there is a file. -/
theorem value_render_eq_ite (renderer : Renderer) (files : FileSystem) (name : String)
    (vars : Option ViewVars) :
    (renderer.render files name vars).value.1 =
      if files.isFile (renderer.file name) then
        (renderer.withVars vars).evaluateRead (renderer.file name) name
          (files.read (renderer.file name))
      else .error (.notFound (renderer.file name)) := by
  rw [value_render]
  by_cases hfile : files.isFile (renderer.file name) = true
  · rw [if_pos hfile]
    rcases hread : files.read (renderer.file name) with fault | text
    · have hsource : renderer.source files name =
          .error (.unreadable (renderer.file name) fault) := by
        simp [source, hfile, hread]
      rw [hsource]
      rfl
    · have hsource : renderer.source files name = .ok text := by
        simp [source, hfile, hread]
      rw [hsource]
      rfl
  · have hsource : renderer.source files name = .error (.notFound (renderer.file name)) := by
      simp [source, hfile]
    rw [if_neg hfile, hsource]

/-- Where a template has been rendered, its variables are kept. -/
theorem value_render_of_ok {renderer : Renderer} {files : FileSystem} {name text : String}
    {vars : Option ViewVars} (hrender : (renderer.render files name vars).value.1 = .ok text) :
    (renderer.render files name vars).value = (.ok text, renderer.withVars vars) := by
  rw [value_render] at hrender ⊢
  split at hrender
  · cases hrender
  · exact Prod.ext hrender rfl

end Renderer

namespace Views

variable {views : Views} {files : FileSystem} {renderer : Renderer} {layout file : String}

/-- A layout that has been found is a file. -/
theorem isFile_of_layoutFile {directory : String}
    (hfound : views.layoutFile files directory layout = .ok file) : files.isFile file = true := by
  rw [layoutFile] at hfound
  split at hfound
  · rename_i first hfind
    cases hfound
    exact List.find?_some hfind
  · cases hfound

/-- For a layout that is found, the file beside it is rendered, with the content bound. -/
theorem value_renderLayout (hfound : views.layoutFile files renderer.directory layout = .ok file)
    (content : String) :
    (views.renderLayout files renderer content layout).value =
      if files.isFile (renderer.fileBeside file) then
        (renderer.setMarkup contentName content).evaluateRead (renderer.fileBeside file)
          (Path.stem file) (files.read (renderer.fileBeside file))
      else .error (.notFound (renderer.fileBeside file)) := by
  rw [renderLayout, hfound]
  -- binding the content changes neither the directory nor the extension
  have hrender := Renderer.value_render_eq_ite
    ({ renderer with directory := Path.parent file }.setMarkup contentName content) files
    (Path.stem file) none
  exact hrender

/-- If the stem of the layout leads back to its file, that file is rendered. -/
theorem value_renderLayout_of_rebuilds (hfiles : files.FollowsPaths)
    (hfound : views.layoutFile files renderer.directory layout = .ok file)
    (hrebuilds : Renderer.Rebuilds renderer.extension file) (content : String) :
    (views.renderLayout files renderer content layout).value =
      (renderer.setMarkup contentName content).evaluateRead (renderer.fileBeside file)
        (Path.stem file) (files.read file) := by
  have halike := Renderer.alike_fileBeside hrebuilds
  rw [value_renderLayout hfound, ← hfiles.isFile_eq halike, ← hfiles.read_eq halike,
    if_pos (isFile_of_layoutFile hfound)]

/-- For a layout that has been found, the template that its stem names in the directory it is in is
rendered, with the content bound. If the stem leads back to the file that was found, that file is
rendered, and so it is there. If not, the file that is rendered has another name, where the
extension has no slash. The stem leads back from exactly those names that have no dot after their
first character, if the extension is empty, and if it is a single name, from exactly those that end
in it and have no pairs of dots before. -/
theorem renderLayout_of_layoutFile (hfiles : files.FollowsPaths) (renderer : Renderer)
    (hfound : views.layoutFile files renderer.directory layout = .ok file) (content : String) :
    (views.renderLayout files renderer content layout).value =
      (if files.isFile (renderer.fileBeside file) then
        (renderer.setMarkup contentName content).evaluateRead (renderer.fileBeside file)
          (Path.stem file) (files.read (renderer.fileBeside file))
      else .error (.notFound (renderer.fileBeside file))) ∧
    (Renderer.Rebuilds renderer.extension file →
      (views.renderLayout files renderer content layout).value =
        (renderer.setMarkup contentName content).evaluateRead (renderer.fileBeside file)
          (Path.stem file) (files.read file) ∧
      Path.Alike file (renderer.fileBeside file) ∧
      ∀ path, (views.renderLayout files renderer content layout).value ≠ .error (.notFound path)) ∧
    ('/' ∉ renderer.extension.toList → ¬ Renderer.Rebuilds renderer.extension file →
      ¬ Path.Alike file (renderer.fileBeside file)) ∧
    (renderer.extension = "" →
      (Renderer.Rebuilds renderer.extension file ↔
        '.' ∉ (Path.lastComponent file).toList.tail)) ∧
    (renderer.extension ≠ "" → '.' ∉ renderer.extension.toList →
      '/' ∉ renderer.extension.toList →
      (Renderer.Rebuilds renderer.extension file ↔
        ∃ name, name ≠ "" ∧ ¬ "..".toList <:+: name.toList ∧
          Path.lastComponent file = name ++ "." ++ renderer.extension)) := by
  refine ⟨value_renderLayout hfound content, fun hrebuilds => ?_, fun hslash => ?_,
    fun hempty => ?_, fun hextension hdot hslash => Renderer.rebuilds_iff hextension hdot hslash⟩
  · have hvalue := value_renderLayout_of_rebuilds hfiles hfound hrebuilds content
    refine ⟨hvalue, Renderer.alike_fileBeside hrebuilds, fun path hnotFound => ?_⟩
    exact Renderer.evaluateRead_ne_notFound (hvalue.symm.trans hnotFound)
  · exact mt (Renderer.alike_fileBeside_iff hslash).mp
  · rw [hempty]
    exact Renderer.rebuilds_empty_iff

/-- A frame, in a file with an extension. -/
def frameTree : FileTree :=
  FileTree.empty.addFile ["v", "layout.html"] "[\x7b\x7b content \x7d\x7d]".toUTF8

/-- Views whose layouts have no extension but that in their names. -/
def plainViews : Views := { settings := { extension := "" } }

/-- With the extension `html`, the frame is found by its stem, and rendered. -/
theorem renderLayout_of_layoutFile_frame :
    Views.layoutFile {} frameTree.toFileSystem "v" "layout" = .ok "v/layout.html" ∧
    Renderer.Rebuilds "html" "v/layout.html" ∧
    (Views.renderLayout {} frameTree.toFileSystem { directory := "v" } "body" "layout").value =
      .ok "[body]" := by
  have hfound : Views.layoutFile {} frameTree.toFileSystem "v" "layout" = .ok "v/layout.html" := by
    decide +kernel
  obtain ⟨-, hrendered, -, -, hnames⟩ :=
    renderLayout_of_layoutFile frameTree.followsPaths_toFileSystem { directory := "v" } hfound
      "body"
  have hrebuilds : Renderer.Rebuilds "html" "v/layout.html" :=
    (hnames (by decide) (by decide) (by decide)).mpr ⟨"layout", by decide, by decide, by decide⟩
  refine ⟨hfound, hrebuilds, ?_⟩
  rw [(hrendered hrebuilds).1]
  decide +kernel

/-- With an empty extension, the frame is found by its whole name. But its stem alone does not lead
back to it, and there is no file of that name. -/
theorem renderLayout_not_found :
    ¬ ∀ (views : Views) (files : FileSystem) (renderer : Renderer) (content layout file : String),
      files.FollowsPaths → renderer.extension = views.settings.extension →
      views.layoutFile files renderer.directory layout = .ok file →
      ∀ path, (views.renderLayout files renderer content layout).value ≠
        .error (.notFound path) := by
  intro hfinds
  have hfound : plainViews.layoutFile frameTree.toFileSystem "v" "layout.html" =
      .ok "v/layout.html" := by
    decide +kernel
  refine hfinds plainViews frameTree.toFileSystem { directory := "v", extension := "" } "body"
    "layout.html" "v/layout.html" frameTree.followsPaths_toFileSystem rfl hfound "v/layout" ?_
  decide +kernel

end Views

end RequestDispatch
