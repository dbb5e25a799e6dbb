import RequestDispatch.Proofs.NameMap
import RequestDispatch.Proofs.View.Layouts

/-!
# Content in its Layout

A view in a layout is two renderings by one renderer. The first one has the model's variables in its
scope, and nothing else (`Views.scope_withVars`). The second one has the same variables behind the
content, which is markup (`Views.scope_setMarkup`): it hides a variable of that name and is printed
as it is. Both escape texts in the same way, so a view is what its layout's source writes in the
second scope (`Views.render_in_layout`).
-/

namespace RequestDispatch

/-! ## The scopes of the two renderings -/

/-- The scope that variables are to a template: all names stand for data. -/
def ViewVars.scope (vars : ViewVars) : TemplateScope :=
  vars.values.entries.map fun entry => (entry.1, .data entry.2)

theorem ViewVars.lookupByName_scope (vars : ViewVars) (name : String) :
    lookupByName name vars.scope = (vars.raw? name).map .data := by
  rw [scope, raw?, NameMap.get?]
  induction vars.values.entries with
  | nil => rfl
  | cons entry entries ih =>
    rw [List.map_cons, lookupByName, lookupByName, ih]
    split <;> rfl

namespace Views

/-- The scope of a layout: the content is markup, and hides a variable of that name. -/
def layoutScope (content : String) (vars : ViewVars) : TemplateScope :=
  (contentName, .markup content) :: vars.scope

theorem eval_content_layoutScope (content : String) (vars : ViewVars) :
    (TemplateExpr.name contentName).eval (layoutScope content vars) = .ok (.markup content) := by
  rw [TemplateExpr.eval, layoutScope, lookupByName, if_pos rfl]
  rfl

/-- All other names stand for the same values as without the content. -/
theorem eval_name_layoutScope {name : String} (hname : name ≠ contentName) (content : String)
    (vars : ViewVars) :
    (TemplateExpr.name name).eval (layoutScope content vars) =
      (TemplateExpr.name name).eval vars.scope := by
  rw [TemplateExpr.eval, TemplateExpr.eval, layoutScope, lookupByName, if_neg hname]

variable (views : Views) (request : Request) (vars : ViewVars)

/-- The scope of a request's template is that of the model's variables. -/
theorem scope_withVars : ((views.renderer request).withVars (some vars)).scope = vars.scope := by
  -- the renderer has no variables before, so it has the model's then, and no markup yet
  have hvalues : (∅ : NameMap Json).override vars.values = vars.values := by
    refine NameMap.ext_get? fun name => ?_
    rw [NameMap.get?_override, NameMap.get?_emptyCollection, Option.or_none]
  have hscope : ((views.renderer request).withVars (some vars)).scope =
      [] ++ ((∅ : NameMap Json).override vars.values).entries.map
        fun entry => (entry.1, .data entry.2) := rfl
  rw [hscope, hvalues, List.nil_append, ViewVars.scope]

/-- The scope of its layout begins with the content. -/
theorem scope_setMarkup (content : String) :
    (((views.renderer request).withVars (some vars)).setMarkup contentName content).scope =
      layoutScope content vars := by
  rw [layoutScope, ← scope_withVars views request]
  rfl

/-! ## The file of a layout -/

/-- The file of a layout next to a request's templates. -/
def layoutNextTo (layout : String) : String :=
  Path.join (views.directory request) (layout ++ "." ++ views.settings.extension)

/-- The file of a layout in the directory above a request's templates. -/
def layoutAbove (layout : String) : String :=
  Path.join (Path.join (views.directory request) "..") (layout ++ "." ++ views.settings.extension)

/-- The nearest file of a layout: next to a request's templates if it is there, and above them if
not. -/
def nearestLayout (files : FileSystem) (layout : String) : String :=
  if files.isFile (views.layoutNextTo request layout) then views.layoutNextTo request layout
  else views.layoutAbove request layout

variable {views request vars} {files : FileSystem} {model : ViewModel}
  {content layout file : String}

/-- A layout that is not itself a file is the nearest one. -/
theorem layoutFile_of_not_isFile (hextension : views.settings.extension ≠ "")
    (hplain : files.isFile layout = false)
    (hexists : files.isFile (views.layoutNextTo request layout) = true ∨
      files.isFile (views.layoutAbove request layout) = true) :
    views.layoutFile files (views.directory request) layout =
      .ok (views.nearestLayout request files layout) := by
  have hcandidates : views.layoutCandidates (views.directory request) layout =
      [layout, views.layoutNextTo request layout, views.layoutAbove request layout] := by
    rw [layoutCandidates, if_neg (by simpa using hextension)]
    rfl
  -- the layout as it is given is passed over, and one of the two others is there
  rw [layoutFile, hcandidates, List.find?_cons_of_neg (by simp [hplain]), nearestLayout]
  by_cases hnext : files.isFile (views.layoutNextTo request layout) = true
  · rw [List.find?_cons_of_pos hnext, if_pos hnext]
  · rw [List.find?_cons_of_neg hnext, if_neg hnext,
      List.find?_cons_of_pos (hexists.resolve_left hnext)]

/-- The nearest file is named by the layout's last component and the extension. -/
theorem lastComponent_nearestLayout (request : Request) (files : FileSystem) (layout : String)
    (hslash : '/' ∉ views.settings.extension.toList) :
    Path.lastComponent (views.nearestLayout request files layout) =
      Path.lastComponent layout ++ "." ++ views.settings.extension := by
  have hending : '/' ∉ ("." ++ views.settings.extension).toList := by simpa using hslash
  have hname : Path.lastComponent (layout ++ "." ++ views.settings.extension) =
      Path.lastComponent layout ++ "." ++ views.settings.extension := by
    rw [String.append_assoc, Path.lastComponent_append_of_not_mem hending, String.append_assoc]
  rw [nearestLayout]
  split
  · rw [layoutNextTo, Path.lastComponent_join, hname]
  · rw [layoutAbove, Path.lastComponent_join, hname]

/-- A layout without a dot in its name leads back to its nearest file. -/
theorem rebuilds_nearestLayout (request : Request) (files : FileSystem)
    (hname : Path.lastComponent layout ≠ "") (hdot : '.' ∉ (Path.lastComponent layout).toList)
    (hextension : views.settings.extension ≠ "")
    (hextensionDot : '.' ∉ views.settings.extension.toList)
    (hextensionSlash : '/' ∉ views.settings.extension.toList) :
    Renderer.Rebuilds views.settings.extension (views.nearestLayout request files layout) := by
  -- without a dot, there is no pair of dots to be taken out
  have hdots : ¬ "..".toList <:+: (Path.lastComponent layout).toList := fun hoccurs =>
    hdot (hoccurs.subset (by decide))
  exact (Renderer.rebuilds_iff hextension hextensionDot hextensionSlash).mpr
    ⟨_, hname, hdots, lastComponent_nearestLayout request files layout hextensionSlash⟩

/-! ## One rendering after the other -/

/-- Where a layout is used, the rendered template is put into it, by the renderer that has the
model's variables now. -/
theorem value_render_of_content
    (hcontent : ((views.renderer request).render files (model.template.getD request.action)
      (some model.vars)).value.1 = .ok content)
    (henabled : model.layoutEnabled.getD views.settings.layoutEnabled = true) :
    (views.render files request model).value =
      (views.renderLayout files ((views.renderer request).withVars (some model.vars)) content
        (model.layout.getD views.settings.layout)).value := by
  rw [render, Logged.value_bind, Renderer.value_render_of_ok hcontent]
  dsimp only
  rw [if_pos henabled]

/-- What is read as a layout is rendered where the content hides a variable of its name. -/
theorem evaluateRead_setMarkup (path name : String) (read : Except ReadFault String) :
    (((views.renderer request).withVars (some vars)).setMarkup contentName content).evaluateRead
        path name read =
      match read with
      | .error fault => .error (.unreadable path fault)
      | .ok source =>
        match Template.render views.escape source (layoutScope content vars) with
        | .error fault => .error (.render name fault)
        | .ok pieces => .ok (Template.outputText pieces) := by
  rcases read with fault | source
  · rfl
  · have hescape : (((views.renderer request).withVars (some vars)).setMarkup contentName
        content).vars.escape = views.escape := rfl
    rw [Renderer.evaluateRead, Renderer.evaluate, scope_setMarkup, hescape]
    dsimp only
    cases Template.render views.escape source (layoutScope content vars) <;> rfl

/-- The view of a request is what is read at the nearest file of the layout, rendered with the
content. -/
theorem value_render_in_layout (hfiles : files.FollowsPaths)
    (hcontent : ((views.renderer request).render files (model.template.getD request.action)
      (some model.vars)).value.1 = .ok content)
    (henabled : model.layoutEnabled.getD views.settings.layoutEnabled = true)
    (hfound : views.layoutFile files (views.directory request)
      (model.layout.getD views.settings.layout) = .ok file)
    (hrebuilds : Renderer.Rebuilds views.settings.extension file) :
    ∃ path, Path.Alike file path ∧
      (views.render files request model).value =
        match files.read file with
        | .error fault => .error (.unreadable path fault)
        | .ok source =>
          match Template.render views.escape source (layoutScope content model.vars) with
          | .error fault => .error (.render (Path.stem file) fault)
          | .ok pieces => .ok (Template.outputText pieces) := by
  let renderer := (views.renderer request).withVars (some model.vars)
  -- the first rendering has left the directory in which the layout is looked for
  have hdirectory : renderer.directory = views.directory request := rfl
  rw [← hdirectory] at hfound
  have hrender := value_renderLayout_of_rebuilds hfiles hfound hrebuilds content
  refine ⟨renderer.fileBeside file, Renderer.alike_fileBeside hrebuilds, ?_⟩
  rw [value_render_of_content hcontent henabled, hrender, evaluateRead_setMarkup]

/-- A request's template has been rendered, and a layout is used that is not itself a file, but is
one with the extension, next to the templates or above them. Then the view is what the source of the
nearest one writes where the content is markup in front of the same variables, which are escaped in
the same way: it is printed as it is, even if there is a variable of that name. The template itself
has been rendered with that variable. -/
theorem render_in_layout (hfiles : files.FollowsPaths)
    (hcontent : ((views.renderer request).render files (model.template.getD request.action)
      (some model.vars)).value.1 = .ok content)
    (henabled : model.layoutEnabled.getD views.settings.layoutEnabled = true)
    (hlayout : model.layout.getD views.settings.layout = layout)
    (hname : Path.lastComponent layout ≠ "") (hdot : '.' ∉ (Path.lastComponent layout).toList)
    (hextension : views.settings.extension ≠ "")
    (hextensionDot : '.' ∉ views.settings.extension.toList)
    (hextensionSlash : '/' ∉ views.settings.extension.toList)
    (hplain : files.isFile layout = false)
    (hexists : files.isFile (views.layoutNextTo request layout) = true ∨
      files.isFile (views.layoutAbove request layout) = true) :
    files.isFile (views.nearestLayout request files layout) = true ∧
    (∃ path, Path.Alike (views.nearestLayout request files layout) path ∧
      (views.render files request model).value =
        match files.read (views.nearestLayout request files layout) with
        | .error fault => .error (.unreadable path fault)
        | .ok source =>
          match Template.render views.escape source (layoutScope content model.vars) with
          | .error fault => .error (.render (Path.lastComponent layout) fault)
          | .ok pieces => .ok (Template.outputText pieces)) ∧
    (TemplateExpr.name contentName).eval (layoutScope content model.vars) =
      .ok (.markup content) ∧
    (∀ escape, TemplateValue.printed escape (.markup content) = content) ∧
    (∀ name, name ≠ contentName →
      (TemplateExpr.name name).eval (layoutScope content model.vars) =
        (TemplateExpr.name name).eval model.vars.scope) ∧
    (∃ source pieces,
      (views.renderer request).source files (model.template.getD request.action) = .ok source ∧
      Template.render views.escape source model.vars.scope = .ok pieces ∧
      content = Template.outputText pieces) ∧
    ∀ name, (TemplateExpr.name name).eval model.vars.scope =
      .ok (((model.vars.raw? name).map .data).getD .undefined) := by
  have hfound := layoutFile_of_not_isFile hextension hplain hexists
  have hlast := lastComponent_nearestLayout request files layout hextensionSlash
  have hstem := Path.stem_of_extension hlast hname hextension hextensionDot
  have hrebuilds := rebuilds_nearestLayout request files hname hdot hextension hextensionDot
    hextensionSlash
  obtain ⟨path, halike, hvalue⟩ :=
    value_render_in_layout hfiles hcontent henabled (hlayout ▸ hfound) hrebuilds
  rw [hstem] at hvalue
  have hpieces := Renderer.exists_pieces_of_render hcontent
  rw [scope_withVars] at hpieces
  refine ⟨isFile_of_layoutFile hfound, ⟨path, halike, hvalue⟩, eval_content_layoutScope _ _,
    fun _ => rfl, fun name hother => eval_name_layoutScope hother _ _, hpieces, fun name => ?_⟩
  rw [TemplateExpr.eval, ViewVars.lookupByName_scope]

/-- A list that prints the variable of the content's name, and a frame above it. -/
def newsTree : FileTree :=
  (FileTree.empty.addFile ["blog", "news", "list.html"]
    "<i>\x7b\x7b content \x7d\x7d</i>".toUTF8).addFile ["blog", "layout.html"]
    "[\x7b\x7b content \x7d\x7d|\x7b\x7b title \x7d\x7d]".toUTF8

/-- Views by module and controller, in a layout. -/
def newsViews : Views :=
  { settings := { directoryPattern := "%module%/%controller%", layoutEnabled := true } }

/-- A request for the list. -/
def newsRequest : Request :=
  { uri := "/", module := "blog", controller := "news", action := "list" }

/-- A model with a variable of the content's name. -/
def newsModel : ViewModel :=
  { vars := ViewVars.set (ViewVars.set {} contentName (.string "<b>")) "title" (.string "a&b") }

/-- The list prints the model's variable, escaped. The frame prints the list as it is, instead of
that variable, and escapes the title. -/
theorem render_in_layout_news :
    ((newsViews.renderer newsRequest).render newsTree.toFileSystem
      (newsModel.template.getD newsRequest.action) (some newsModel.vars)).value.1 =
        .ok "<i>&lt;b&gt;</i>" ∧
    newsViews.nearestLayout newsRequest newsTree.toFileSystem "layout" =
      "blog/news/../layout.html" ∧
    (newsViews.render newsTree.toFileSystem newsRequest newsModel).value =
      .ok "[<i>&lt;b&gt;</i>|a&amp;b]" := by
  have hcontent : ((newsViews.renderer newsRequest).render newsTree.toFileSystem
      (newsModel.template.getD newsRequest.action) (some newsModel.vars)).value.1 =
        .ok "<i>&lt;b&gt;</i>" := by
    decide +kernel
  have hlayout : newsModel.layout.getD newsViews.settings.layout = "layout" := rfl
  have hnearest : newsViews.nearestLayout newsRequest newsTree.toFileSystem "layout" =
      "blog/news/../layout.html" := by
    decide +kernel
  obtain ⟨-, ⟨path, -, hvalue⟩, -⟩ :=
    render_in_layout newsTree.followsPaths_toFileSystem hcontent rfl hlayout (by decide)
      (by decide) (by decide) (by decide) (by decide) (by decide +kernel)
      (.inr (by decide +kernel))
  refine ⟨hcontent, hnearest, ?_⟩
  rw [hvalue, hnearest]
  have hread : newsTree.toFileSystem.read "blog/news/../layout.html" =
      .ok "[\x7b\x7b content \x7d\x7d|\x7b\x7b title \x7d\x7d]" := by
    decide +kernel
  rw [hread]
  dsimp only
  decide +kernel

end Views

end RequestDispatch
