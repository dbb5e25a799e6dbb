import Mathlib.Logic.Relation
import RequestDispatch.Proofs.Event.Counting
import RequestDispatch.Proofs.Event.Replies

/-!
# Who Hears an Event

An event is delivered to the listeners that are registered when it is fired, although a listener
may register others while it hears the event. `Hearing` is what happens when one listener hears an
event, and `Delivery.Replying.Hears` a sequence of such hearings, each of which begins with the
event and the scene that the one before has left. `Delivery.Replying.Tells` says of such a sequence
that it is all that comes of a delivery: those that hear the event are the first of the listeners,
once each and in their order, up to one that fails or stops the event, if there is one. There is
such a sequence for every delivery (`Delivery.Replying.exists_tells_deliverFrom`).

Whatever happens to a scene later on, its listeners stay where they are
(`Scene.Later.prefix_kinds`). So the listeners that were registered during a delivery hear later
events, after those that had been there before (`Delivery.fire_in_order`).
-/

namespace RequestDispatch

open Relation (ReflTransGen)

variable {app : Application} {ε ρ : Type}

/-! ## One listener after another -/

/-- What happens when a listener hears an event. -/
structure Hearing (app : Application) (ε ρ : Type) where
  /-- The listener. -/
  kind : ListenerKind app
  /-- What it replies. -/
  reply : ρ
  /-- The event after the reply. -/
  event : ε
  /-- The listeners that it registers, the first one first. -/
  added : List (ListenerKind app)

namespace Delivery.Replying

variable {delivery : Delivery app ε} (replying : delivery.Replying ρ)

/-- Listeners, of which the first is at a position, hear an event one after another. The event and
the scene that one of them leaves are those that the next one finds, and the last two arguments are
what the last one leaves. -/
inductive Hears : Nat → ε → Scene app → List (Hearing app ε ρ) → ε → Scene app → Prop where
  /-- No listener hears the event. -/
  | nil {position : Nat} {event : ε} {scene : Scene app} :
      Hears position event scene [] event scene
  /-- A listener hears the event, then others do. -/
  | cons {position : Nat} {hearing : Hearing app ε ρ} {hearings : List (Hearing app ε ρ)}
      {event last : ε} {scene next lastScene : Scene app}
      (hanswer : replying.answer position hearing.kind event scene = (hearing.reply, next))
      (hevent : hearing.event = replying.after event hearing.reply)
      (hadded : next.kinds = scene.kinds ++ hearing.added)
      (hrest : Hears (position + 1) hearing.event next hearings last lastScene) :
      Hears position event scene (hearing :: hearings) last lastScene

/-- Whether a delivery ends with a hearing: the listener fails, or the event is stopped now. -/
def endsWith (hearing : Hearing app ε ρ) : Bool :=
  (replying.failure hearing.reply).isSome || delivery.stopped hearing.event

/-- Hearings are all that comes of delivering an event to listeners, of which the first is at a
position. -/
structure Tells (position : Nat) (kinds : List (ListenerKind app)) (event : ε) (scene : Scene app)
    (delivered : Delivered app ε) (hearings : List (Hearing app ε ρ)) : Prop where
  /-- The event and the scene afterwards are what the last hearing leaves. -/
  hears : replying.Hears position event scene hearings delivered.event delivered.scene
  /-- Each hearing counts once. -/
  heard : delivered.heard = position + hearings.length
  /-- The first of the listeners hear the event, in their order. -/
  first_kinds : hearings.map (·.kind) <+: kinds
  /-- The delivery goes on after each hearing but the last one. -/
  goesOn : ∀ hearing ∈ hearings.dropLast, replying.endsWith hearing = false
  /-- If the delivery ends with none of the hearings, all listeners hear the event. -/
  kinds_eq : (∀ hearing ∈ hearings, replying.endsWith hearing = false) →
    hearings.map (·.kind) = kinds
  /-- The delivery fails for the reason of the first listener that does. -/
  failure : delivered.failure = hearings.findSome? fun hearing => replying.failure hearing.reply

variable {replying} {position : Nat} {kind : ListenerKind app} {event last : ε}
  {scene next lastScene : Scene app} {hearing : Hearing app ε ρ}
  {hearings : List (Hearing app ε ρ)}

theorem endsWith_eq_false_iff :
    replying.endsWith hearing = false ↔
      replying.failure hearing.reply = none ∧ delivery.stopped hearing.event = false := by
  simp [endsWith]

/-- A listener leaves the registered listeners where they are. -/
theorem exists_added_of_answer {given : ρ}
    (hanswer : replying.answer position kind event scene = (given, next)) :
    ∃ added, next.kinds = scene.kinds ++ added := by
  have hprefix := delivery.kinds_prefix_hear position kind event scene
  rw [hear_of_answer hanswer] at hprefix
  obtain ⟨added, hadded⟩ := hprefix
  exact ⟨added, hadded.symm⟩

/-- If the delivery ends with the first hearing, that is all that comes of it. -/
theorem value_deliverFrom_of_endsWith
    (hanswer : replying.answer position hearing.kind event scene = (hearing.reply, next))
    (hevent : hearing.event = replying.after event hearing.reply)
    (hends : replying.endsWith hearing = true) (kinds : List (ListenerKind app)) :
    (delivery.deliverFrom position (hearing.kind :: kinds) event scene).value =
      ⟨replying.failure hearing.reply, hearing.event, next, position + 1⟩ := by
  have hheard := hear_of_answer hanswer
  rw [← hevent] at hheard
  -- a delivery can end in two ways: the event is stopped, or the listener fails
  rcases hfailure : replying.failure hearing.reply with _ | failure
  · rw [hfailure] at hheard
    have hstops : delivery.stopped hearing.event = true := by
      simpa [endsWith, hfailure] using hends
    exact value_deliverFrom_of_stops hheard hstops kinds
  · rw [hfailure] at hheard
    exact value_deliverFrom_of_fails hheard kinds

/-- If the delivery goes on after the first hearing, the other listeners hear what it leaves. -/
theorem value_deliverFrom_of_not_endsWith
    (hanswer : replying.answer position hearing.kind event scene = (hearing.reply, next))
    (hevent : hearing.event = replying.after event hearing.reply)
    (hgoesOn : replying.endsWith hearing = false) (kinds : List (ListenerKind app)) :
    (delivery.deliverFrom position (hearing.kind :: kinds) event scene).value =
      (delivery.deliverFrom (position + 1) kinds hearing.event next).value := by
  obtain ⟨hfailure, hstops⟩ := endsWith_eq_false_iff.mp hgoesOn
  have hheard := hear_of_answer hanswer
  rw [← hevent, hfailure] at hheard
  exact value_deliverFrom_of_goesOn hheard hstops kinds

/-- A hearing with which the delivery ends tells all of it. -/
theorem tells_of_endsWith
    (hanswer : replying.answer position hearing.kind event scene = (hearing.reply, next))
    (hevent : hearing.event = replying.after event hearing.reply)
    (hadded : next.kinds = scene.kinds ++ hearing.added)
    (hends : replying.endsWith hearing = true) (kinds : List (ListenerKind app)) :
    replying.Tells position (hearing.kind :: kinds) event scene
      (delivery.deliverFrom position (hearing.kind :: kinds) event scene).value [hearing] := by
  rw [value_deliverFrom_of_endsWith hanswer hevent hends]
  refine ⟨.cons hanswer hevent hadded .nil, rfl, by simp, by simp, ?_, ?_⟩
  · -- the one hearing ends the delivery, so the others need not have heard of it
    intro hgoesOn
    rw [hgoesOn hearing List.mem_cons_self] at hends
    cases hends
  · rw [List.findSome?_singleton]

/-- A hearing after which the delivery goes on is told before the others. -/
theorem Tells.cons {kinds : List (ListenerKind app)}
    (hanswer : replying.answer position hearing.kind event scene = (hearing.reply, next))
    (hevent : hearing.event = replying.after event hearing.reply)
    (hadded : next.kinds = scene.kinds ++ hearing.added)
    (hgoesOn : replying.endsWith hearing = false)
    (hrest : replying.Tells (position + 1) kinds hearing.event next
      (delivery.deliverFrom (position + 1) kinds hearing.event next).value hearings) :
    replying.Tells position (hearing.kind :: kinds) event scene
      (delivery.deliverFrom position (hearing.kind :: kinds) event scene).value
      (hearing :: hearings) := by
  rw [value_deliverFrom_of_not_endsWith hanswer hevent hgoesOn]
  refine ⟨.cons hanswer hevent hadded hrest.hears, ?_, ?_, ?_, ?_, ?_⟩
  · rw [hrest.heard, List.length_cons]
    omega
  · simpa using hrest.first_kinds
  · -- the first hearing is not the last one, or else it is not asked about
    cases hearings with
    | nil => simp
    | cons other others =>
      intro earlier hearlier
      rw [List.dropLast_cons_cons, List.mem_cons] at hearlier
      rcases hearlier with rfl | hearlier
      · exact hgoesOn
      · exact hrest.goesOn earlier hearlier
  · intro hall
    rw [List.map_cons, hrest.kinds_eq fun other hother => hall other (.tail _ hother)]
  · rw [List.findSome?_cons_of_isNone]
    · exact hrest.failure
    · rw [(endsWith_eq_false_iff.mp hgoesOn).1]
      rfl

variable (replying)

/-- Whatever listeners an event is delivered to, there are hearings that tell what comes of it. -/
theorem exists_tells_deliverFrom (position : Nat) (kinds : List (ListenerKind app)) (event : ε)
    (scene : Scene app) :
    ∃ hearings, replying.Tells position kinds event scene
      (delivery.deliverFrom position kinds event scene).value hearings := by
  -- the listeners are those of the beginning, whatever the scene has come to meanwhile
  induction kinds generalizing position event scene with
  | nil => exact ⟨[], .nil, rfl, List.prefix_rfl, by simp, fun _ => rfl, rfl⟩
  | cons kind kinds ih =>
    rcases hanswer : replying.answer position kind event scene with ⟨given, next⟩
    obtain ⟨added, hadded⟩ := exists_added_of_answer hanswer
    let hearing : Hearing app ε ρ := ⟨kind, given, replying.after event given, added⟩
    have hheard : replying.answer position hearing.kind event scene = (hearing.reply, next) :=
      hanswer
    rcases hends : replying.endsWith hearing with _ | _
    · obtain ⟨hearings, hrest⟩ := ih (position + 1) hearing.event next
      exact ⟨hearing :: hearings, .cons hheard rfl hadded hends hrest⟩
    · exact ⟨[hearing], tells_of_endsWith hheard rfl hadded hends kinds⟩

variable {replying}

/-! ## What is left -/

/-- The listeners that are registered during a delivery follow those that were there before. -/
theorem Hears.kinds_eq (hhears : replying.Hears position event scene hearings last lastScene) :
    lastScene.kinds = scene.kinds ++ hearings.flatMap (·.added) := by
  induction hhears with
  | nil => simp
  | cons _ _ hadded _ ih => rw [ih, hadded, List.flatMap_cons, List.append_assoc]

/-- The event that is left is the one before with all replies applied to it. -/
theorem Hears.event_eq (hhears : replying.Hears position event scene hearings last lastScene) :
    last = (hearings.map (·.reply)).foldl replying.after event := by
  induction hhears with
  | nil => rfl
  | cons _ hevent _ _ ih => rw [ih, hevent, List.map_cons, List.foldl_cons]

/-- If the replies set something but never take it away, what is left is what was set last. -/
theorem Hears.lastSet_eq {α : Type}
    (hhears : replying.Hears position event scene hearings last lastScene)
    (held : ε → Option α) (set : ρ → Option α)
    (hafter : ∀ event reply, held (replying.after event reply) = (set reply).or (held event)) :
    held last = (hearings.filterMap fun hearing => set hearing.reply).getLast?.or (held event) := by
  rw [hhears.event_eq, lastSet_foldl held hafter, List.filterMap_map]
  rfl

/-- The event after a hearing is one that the listener has replied to. -/
theorem Hears.exists_event_eq
    (hhears : replying.Hears position event scene hearings last lastScene)
    (hmem : hearing ∈ hearings) :
    ∃ before, hearing.event = replying.after before hearing.reply := by
  induction hhears with
  | nil => cases hmem
  | cons _ hevent _ _ ih =>
    rcases List.mem_cons.mp hmem with rfl | hmem
    · exact ⟨_, hevent⟩
    · exact ih hmem

/-- A delivery that a hearing ends has no later hearing. -/
theorem Tells.eq_nil_of_endsWith {kinds : List (ListenerKind app)} {delivered : Delivered app ε}
    {before after : List (Hearing app ε ρ)}
    (htells : replying.Tells position kinds event scene delivered (before ++ hearing :: after))
    (hends : replying.endsWith hearing = true) : after = [] := by
  by_contra hafter
  have hmem : hearing ∈ (before ++ hearing :: after).dropLast := by
    rw [List.dropLast_append_cons, List.dropLast_cons_of_ne_nil hafter]
    simp
  rw [htells.goesOn hearing hmem] at hends
  cases hends

/-- If as many listeners hear the event as it is delivered to, all of them do. -/
theorem Tells.kinds_eq_of_heard {kinds : List (ListenerKind app)} {delivered : Delivered app ε}
    (htells : replying.Tells position kinds event scene delivered hearings)
    (hheard : delivered.heard = position + kinds.length) : hearings.map (·.kind) = kinds := by
  refine htells.first_kinds.eq_of_length ?_
  rw [List.length_map]
  exact Nat.add_left_cancel (htells.heard.symm.trans hheard)

end Delivery.Replying

/-- Listeners reply to the event of a response. -/
def filterReplying (hooks : Hooks app) : (filterDelivery hooks).Replying FilterReply where
  reply kind event := kind.onFilterResponse hooks event
  failure reply := reply.failure
  after := FilterEvent.after
  deliver_eq _ _ := rfl

/-- With the response to an outcome, its delivery ends, because a response stops the event. -/
theorem endsWith_of_response {hooks : Hooks app} {files : FileSystem} {position : Nat}
    {event last : ResultEvent app} {scene lastScene : Scene app}
    {hearing : Hearing app (ResultEvent app) ResultReply}
    {hearings : List (Hearing app (ResultEvent app) ResultReply)} {response : Response}
    (hhears : (resultReplying hooks files).Hears position event scene hearings last lastScene)
    (hmem : hearing ∈ hearings) (hresponse : hearing.reply.response = some response) :
    (resultReplying hooks files).endsWith hearing = true := by
  obtain ⟨before, hevent⟩ := hhears.exists_event_eq hmem
  -- the event is one that the reply was applied to, and a response in it stops the event
  have hstopped : (resultDelivery hooks files).stopped hearing.event =
      (before.stopped || hearing.reply.stop || hearing.reply.response.isSome) := by
    rw [hevent]
    rfl
  rw [Delivery.Replying.endsWith, hstopped, hresponse]
  simp

/-! ## Later deliveries -/

namespace Scene

/-- What can happen to a scene. -/
inductive Change : Scene app → Scene app → Prop where
  /-- An event is fired. -/
  | fire {ε : Type} (delivery : Delivery app ε) (event : ε) (scene : Scene app) :
      Change scene (delivery.fire event scene).value.scene
  /-- Code of the application runs. -/
  | run {α : Type} (action : AppAction app α) (scene : Scene app) :
      Change scene (scene.run action).value.2
  /-- A listener is registered. -/
  | add (kind : ListenerKind app) (scene : Scene app) : Change scene (scene.add kind)

/-- One scene comes of another by whatever can happen to it. -/
def Later : Scene app → Scene app → Prop := ReflTransGen Change

theorem Change.prefix_kinds {scene next : Scene app} (hchange : Change scene next) :
    scene.kinds <+: next.kinds := by
  cases hchange with
  | fire delivery event => exact delivery.kinds_prefix_fire event scene
  | run action => exact scene.kinds_prefix_run action
  | add kind =>
    rw [kinds, kinds, Scene.add, List.map_append]
    exact List.prefix_append _ _

/-- Listeners are neither lost nor reordered, and others are registered after them. -/
theorem Later.prefix_kinds {scene later : Scene app} (hlater : scene.Later later) :
    scene.kinds <+: later.kinds := by
  induction hlater with
  | refl => exact List.prefix_rfl
  | tail _ hchange ih => exact ih.trans hchange.prefix_kinds

end Scene

namespace Delivery

/-- Firing an event, the first of the listeners that are registered then hear it, once each and in
their order. They are all of them, or those up to the first one that fails, which is why the
delivery fails, or up to the first one after which the event is stopped. Only the event of an
outcome can be stopped. The listeners that are registered meanwhile follow those that were there, in
whatever scene the next event is fired. A response to an outcome stops the event, so it is the first
one and stays, while of the responses before routing and before dispatch the last one stays. -/
theorem fire_in_order :
    (∀ {ε ρ : Type} (delivery : Delivery app ε) (replying : delivery.Replying ρ) (event : ε)
        (scene : Scene app), ∃ hearings,
      replying.Tells 0 scene.kinds event scene (delivery.fire event scene).value hearings ∧
      ∀ later, (delivery.fire event scene).value.scene.Later later →
        ∃ more, later.kinds = scene.kinds ++ hearings.flatMap (·.added) ++ more) ∧
    (∀ (hooks : Hooks app) (files : FileSystem),
      (∀ hearing, (routeReplying hooks).endsWith hearing = hearing.reply.failure.isSome) ∧
      (∀ hearing, (controllerReplying hooks).endsWith hearing = hearing.reply.failure.isSome) ∧
      (∀ hearing, (resultReplying hooks files).endsWith hearing =
        (hearing.reply.failure.isSome || hearing.event.stopped)) ∧
      ∀ hearing, (filterReplying hooks).endsWith hearing = hearing.reply.failure.isSome) ∧
    (∀ (hooks : Hooks app) (files : FileSystem) event scene before hearing after response,
      (resultReplying hooks files).Tells 0 scene.kinds event scene
        ((resultDelivery hooks files).fire event scene).value (before ++ hearing :: after) →
      hearing.reply.response = some response →
        after = [] ∧
          ((resultDelivery hooks files).fire event scene).value.event.response = some response) ∧
    (∀ (hooks : Hooks app) event scene hearings,
      (routeReplying hooks).Tells 0 scene.kinds event scene
        ((routeDelivery hooks).fire event scene).value hearings →
      ((routeDelivery hooks).fire event scene).value.event.response =
        (hearings.filterMap (·.reply.response)).getLast?.or event.response) ∧
    ∀ (hooks : Hooks app) event scene hearings,
      (controllerReplying hooks).Tells 0 scene.kinds event scene
        ((controllerDelivery hooks).fire event scene).value hearings →
      ((controllerDelivery hooks).fire event scene).value.event.response =
        (hearings.filterMap (·.reply.response)).getLast?.or event.response := by
  refine ⟨?_, ?_, ?_, ?_, ?_⟩
  · -- what is left of a delivery is a scene whose listeners begin with those of the hearings
    intro ε ρ delivery replying event scene
    obtain ⟨hearings, htells⟩ := replying.exists_tells_deliverFrom 0 scene.kinds event scene
    refine ⟨hearings, htells, fun later hlater => ?_⟩
    obtain ⟨more, hmore⟩ := hlater.prefix_kinds
    exact ⟨more, by rw [← hmore, ← htells.hears.kinds_eq]; rfl⟩
  · -- only the event of an outcome asks whether it is stopped
    intro hooks files
    refine ⟨fun hearing => ?_, fun hearing => ?_, fun hearing => rfl, fun hearing => ?_⟩
    all_goals exact Bool.or_false _
  · intro hooks files event scene before hearing after response htells hresponse
    obtain rfl := htells.eq_nil_of_endsWith
      (endsWith_of_response htells.hears List.mem_append_cons_self hresponse)
    refine ⟨rfl, ?_⟩
    rw [htells.hears.lastSet_eq ResultEvent.response ResultReply.response fun _ _ => rfl]
    simp [List.filterMap_append, hresponse]
  · intro hooks event scene hearings htells
    exact htells.hears.lastSet_eq RouteEvent.response RouteReply.response fun _ _ => rfl
  · intro hooks event scene hearings htells
    exact htells.hears.lastSet_eq ControllerEvent.response ControllerReply.response
      fun _ _ => rfl

/-- An application whose listeners have names. -/
def crew : Application := ⟨String, Unit, Unit, Unit⟩

/-- Listeners that answer with their names, all but a guide. Before routing, a guide registers a
guest. -/
def crewHooks : Hooks crew where
  onRoute (name : String) event := do
    if name = "guide" then AppAction.addListener (.custom "guest")
    return ⟨event.request, if name = "guide" then none else some (.text 200 name), none⟩
  onController (name : String) _ :=
    return { response := if name = "guide" then none else some (.text 200 name) }
  onControllerResult (name : String) _ :=
    return { response := if name = "guide" then none else some (.text 200 name) }
  onFilterResponse _ event := return ⟨event.response, none⟩

/-- A guide, a porter and a clerk. -/
def crewScene : Scene crew :=
  Scene.addAll { plugins := { memory := () } } [.custom "guide", .custom "porter", .custom "clerk"]

/-- Files of which there are none. -/
def noFiles : FileSystem := ⟨fun _ => false, fun _ => false, fun _ => .error .notFound⟩

/-- What comes of the event before routing. -/
def crewRouted : Delivered crew RouteEvent :=
  ((routeDelivery crewHooks).fire { request := { uri := "/" } } crewScene).value

/-- What comes of the event of a built controller thereafter. -/
def crewBuilt : Delivered crew (ControllerEvent crew) :=
  ((controllerDelivery crewHooks).fire { request := { uri := "/" }, controller := () }
    crewRouted.scene).value

/-- An outcome that no listener has heard of. -/
def crewOutcome : ResultEvent crew :=
  { request := { uri := "/" }, controller := (), outcome := .empty }

/-- What comes of the event of that outcome. -/
def crewResult : Delivered crew (ResultEvent crew) :=
  ((resultDelivery crewHooks noFiles).fire crewOutcome crewBuilt.scene).value

/-- Before routing, the guide, the porter and the clerk hear of a request, and the clerk's answer is
the last one. The guest that is registered meanwhile hears of the controller, after the others, and
has the last answer to that. Of the outcome, the porter is the last one to hear, whose answer is the
first one. -/
theorem fire_in_order_crew :
    ∃ routed built guide porter,
      (routeReplying crewHooks).Tells 0 crewScene.kinds { request := { uri := "/" } } crewScene
        crewRouted routed ∧
      routed.map (·.kind) = [.custom "guide", .custom "porter", .custom "clerk"] ∧
      routed.flatMap (·.added) = [.custom "guest"] ∧
      (routed.filterMap (·.reply.response)).getLast? = some (.text 200 "clerk") ∧
      crewRouted.scene.Later crewBuilt.scene ∧
      (∃ more, crewBuilt.scene.kinds = crewScene.kinds ++ routed.flatMap (·.added) ++ more) ∧
      (controllerReplying crewHooks).Tells 0 crewRouted.scene.kinds
        { request := { uri := "/" }, controller := () } crewRouted.scene crewBuilt built ∧
      built.map (·.kind) = crewScene.kinds ++ [.custom "guest"] ∧
      (built.filterMap (·.reply.response)).getLast? = some (.text 200 "guest") ∧
      (resultReplying crewHooks noFiles).Tells 0 crewBuilt.scene.kinds crewOutcome crewBuilt.scene
        crewResult [guide, porter] ∧
      porter.reply.response = some (.text 200 "porter") ∧
      crewResult.event.response = some (.text 200 "porter") := by
  obtain ⟨horder, -, hfirst, hlast, hlastBuilt⟩ := @fire_in_order crew
  obtain ⟨routed, hrouted, hlater⟩ := horder (routeDelivery crewHooks) (routeReplying crewHooks)
    { request := { uri := "/" } } crewScene
  have hbuilt : crewRouted.scene.Later crewBuilt.scene := .single (.fire _ _ _)
  -- what was registered is what the scene has more than before
  have hadded : routed.flatMap (·.added) = [.custom "guest"] := by
    have hkinds : crewRouted.scene.kinds = crewScene.kinds ++ [.custom "guest"] := rfl
    exact List.append_cancel_left (hrouted.hears.kinds_eq.symm.trans hkinds)
  obtain ⟨built, htold, -⟩ := horder (controllerDelivery crewHooks) (controllerReplying crewHooks)
    { request := { uri := "/" }, controller := () } crewRouted.scene
  -- the hearings of the outcome are given one by one, since the response is asked of the second
  let answer : ResultReply := { response := some (.text 200 "porter") }
  let guide : Hearing crew (ResultEvent crew) ResultReply :=
    ⟨.custom "guide", {}, crewOutcome, []⟩
  let porter : Hearing crew (ResultEvent crew) ResultReply :=
    ⟨.custom "porter", answer, crewOutcome.after answer, []⟩
  have hresult : (resultReplying crewHooks noFiles).Tells 0 crewBuilt.scene.kinds crewOutcome
      crewBuilt.scene crewResult [guide, porter] :=
    { hears := .cons rfl rfl rfl (.cons rfl rfl rfl .nil)
      heard := rfl
      first_kinds := ⟨[.custom "clerk", .custom "guest"], rfl⟩
      goesOn := fun hearing hmem => by
        obtain rfl : hearing = guide := List.mem_singleton.mp hmem
        rfl
      kinds_eq := fun hgoesOn => by cases hgoesOn porter (by simp)
      failure := rfl }
  have hporter := hfirst crewHooks noFiles crewOutcome crewBuilt.scene [guide] porter [] _
    hresult rfl
  have hclerk := hlast crewHooks { request := { uri := "/" } } crewScene routed hrouted
  have hguest := hlastBuilt crewHooks { request := { uri := "/" }, controller := () }
    crewRouted.scene built htold
  rw [Option.or_none] at hclerk hguest
  exact ⟨routed, built, guide, porter, hrouted, hrouted.kinds_eq_of_heard rfl, hadded,
    hclerk.symm, hbuilt, hlater _ hbuilt, htold, htold.kinds_eq_of_heard rfl, hguest.symm,
    hresult, rfl, hporter.2⟩

end Delivery

end RequestDispatch
