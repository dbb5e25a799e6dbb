import RequestDispatch.Event.Delivery

/-!
# Deliveries That Pass

`Delivery.Passes` says, listener by listener, that an event went through listeners without
failure and without being stopped, and what it and the scene became on the way. Delivering an
event to listeners starts with those that it passes (`deliverFrom_of_passes`), and an event
that nothing stops fires without failure exactly if it passes all registered listeners
(`fire_eq_iff_passes`). Any event fires with a failure exactly if a listener fails at it, after it
has passed those before (`failure_fire_eq_some_iff`).
-/

namespace RequestDispatch.Delivery

variable {app : Application} {ε : Type} (delivery : Delivery app ε)

/-- What the listener at a position makes of an event: why it failed, if it did, with the event
and the scene afterwards. The event is counted before it is delivered. -/
def hear (position : Nat) (kind : ListenerKind app) (event : ε) (scene : Scene app) :
    (Option Failure × ε) × Scene app :=
  ((scene.count position (delivery.count event)).run (delivery.deliver kind event)).value

/-- Listeners, of which the first is at a position, hear an event one after another, and none
of them fails or stops it. The last two arguments are the event and the scene afterwards. -/
inductive Passes : Nat → List (ListenerKind app) → ε → Scene app → ε → Scene app → Prop where
  /-- There is no listener. -/
  | nil {position : Nat} {event : ε} {scene : Scene app} :
      Passes position [] event scene event scene
  /-- The first listener hears the event, then the others do. -/
  | cons {position : Nat} {kind : ListenerKind app} {kinds : List (ListenerKind app)}
      {event next last : ε} {scene nextScene lastScene : Scene app}
      (hheard : delivery.hear position kind event scene = ((none, next), nextScene))
      (hgoesOn : delivery.stopped next = false)
      (hrest : Passes (position + 1) kinds next nextScene last lastScene) :
      Passes position (kind :: kinds) event scene last lastScene

/-- What comes of delivering an event, by whether and why a listener fails at it. -/
theorem Delivered.eq_of_failure_eq {delivered : Delivered app ε} {failure : Option Failure}
    (hfailure : delivered.failure = failure) :
    delivered = ⟨failure, delivered.event, delivered.scene, delivered.heard⟩ := by
  rw [← hfailure]

variable {delivery}

@[simp]
theorem value_deliverFrom_nil (position : Nat) (event : ε) (scene : Scene app) :
    (delivery.deliverFrom position [] event scene).value = ⟨none, event, scene, position⟩ := rfl

/-- A listener that fails is the last one to hear the event. -/
theorem value_deliverFrom_of_fails {position : Nat} {kind : ListenerKind app}
    {event next : ε} {scene nextScene : Scene app} {failure : Failure}
    (hheard : delivery.hear position kind event scene = ((some failure, next), nextScene))
    (kinds : List (ListenerKind app)) :
    (delivery.deliverFrom position (kind :: kinds) event scene).value =
      ⟨some failure, next, nextScene, position + 1⟩ := by
  rw [hear] at hheard
  simp [deliverFrom, hheard]

/-- A listener that stops the event is the last one to hear it. -/
theorem value_deliverFrom_of_stops {position : Nat} {kind : ListenerKind app}
    {event next : ε} {scene nextScene : Scene app}
    (hheard : delivery.hear position kind event scene = ((none, next), nextScene))
    (hstops : delivery.stopped next = true) (kinds : List (ListenerKind app)) :
    (delivery.deliverFrom position (kind :: kinds) event scene).value =
      ⟨none, next, nextScene, position + 1⟩ := by
  rw [hear] at hheard
  simp [deliverFrom, hheard, hstops]

/-- After a listener that neither fails nor stops the event, the others hear it. -/
theorem value_deliverFrom_of_goesOn {position : Nat} {kind : ListenerKind app}
    {event next : ε} {scene nextScene : Scene app}
    (hheard : delivery.hear position kind event scene = ((none, next), nextScene))
    (hgoesOn : delivery.stopped next = false) (kinds : List (ListenerKind app)) :
    (delivery.deliverFrom position (kind :: kinds) event scene).value =
      (delivery.deliverFrom (position + 1) kinds next nextScene).value := by
  rw [hear] at hheard
  simp [deliverFrom, hheard, hgoesOn]

/-- Delivering an event starts with the listeners that it passes. -/
theorem deliverFrom_of_passes {position : Nat} {kinds : List (ListenerKind app)}
    {event last : ε} {scene lastScene : Scene app}
    (hpasses : delivery.Passes position kinds event scene last lastScene)
    (others : List (ListenerKind app)) :
    (delivery.deliverFrom position (kinds ++ others) event scene).value =
      (delivery.deliverFrom (position + kinds.length) others last lastScene).value := by
  induction hpasses with
  | nil => rfl
  | @cons position kind kinds _ _ _ _ _ _ hheard hgoesOn _ ih =>
    calc (delivery.deliverFrom position (kind :: (kinds ++ others)) _ _).value
        = (delivery.deliverFrom (position + 1) (kinds ++ others) _ _).value :=
          value_deliverFrom_of_goesOn hheard hgoesOn _
      _ = (delivery.deliverFrom (position + 1 + kinds.length) others _ _).value := ih
      _ = _ := by rw [List.length_cons, Nat.add_right_comm, Nat.add_assoc]

/-- If nothing stops an event and no listener fails, it passes all listeners. -/
theorem passes_of_deliverFrom (hstops : ∀ event, delivery.stopped event = false)
    {position heard : Nat} {kinds : List (ListenerKind app)} {event last : ε}
    {scene lastScene : Scene app}
    (hdelivered : (delivery.deliverFrom position kinds event scene).value =
      ⟨none, last, lastScene, heard⟩) :
    delivery.Passes position kinds event scene last lastScene ∧
      heard = position + kinds.length := by
  induction kinds generalizing position event scene with
  | nil =>
    rw [value_deliverFrom_nil] at hdelivered
    cases hdelivered
    exact ⟨.nil, rfl⟩
  | cons kind kinds ih =>
    rcases hheard : delivery.hear position kind event scene with
      ⟨⟨_ | failure, next⟩, nextScene⟩
    · rw [value_deliverFrom_of_goesOn hheard (hstops next)] at hdelivered
      obtain ⟨hpasses, hlength⟩ := ih hdelivered
      refine ⟨.cons hheard (hstops next) hpasses, ?_⟩
      rw [hlength, List.length_cons]
      omega
    · -- a failure contradicts that there is none
      rw [value_deliverFrom_of_fails hheard] at hdelivered
      cases hdelivered

/-- An event that nothing stops fires without failure exactly if it passes all registered
listeners, and then all of them have heard it. -/
theorem fire_eq_iff_passes (hstops : ∀ event, delivery.stopped event = false)
    {heard : Nat} {event last : ε} {scene lastScene : Scene app} :
    (delivery.fire event scene).value = ⟨none, last, lastScene, heard⟩ ↔
      delivery.Passes 0 scene.kinds event scene last lastScene ∧
        heard = scene.kinds.length := by
  rw [fire]
  constructor
  · intro hfired
    simpa using passes_of_deliverFrom hstops hfired
  · rintro ⟨hpasses, rfl⟩
    simpa using deliverFrom_of_passes hpasses []

/-! ## Deliveries that fail -/

variable (delivery) in
/-- A listener fails at an event. It is one of the registered listeners, the event passes those
before it, and it is the last one to hear the event. -/
def Fails (event : ε) (scene : Scene app) (failure : Failure) : Prop :=
  ∃ before kind others middle middleScene last lastScene,
    scene.kinds = before ++ kind :: others ∧
    delivery.Passes 0 before event scene middle middleScene ∧
    delivery.hear before.length kind middle middleScene = ((some failure, last), lastScene)

/-- If delivering an event fails, one of the listeners fails, and the event passes those before
it. -/
theorem exists_passes_of_failure {position : Nat} {kinds : List (ListenerKind app)} {event : ε}
    {scene : Scene app} {failure : Failure}
    (hfailure : (delivery.deliverFrom position kinds event scene).value.failure = some failure) :
    ∃ before kind others middle middleScene last lastScene,
      kinds = before ++ kind :: others ∧
      delivery.Passes position before event scene middle middleScene ∧
      delivery.hear (position + before.length) kind middle middleScene =
        ((some failure, last), lastScene) := by
  induction kinds generalizing position event scene with
  | nil => cases hfailure
  | cons kind kinds ih =>
    rcases hheard : delivery.hear position kind event scene with
      ⟨⟨_ | reason, next⟩, nextScene⟩
    · rcases hstops : delivery.stopped next with _ | _
      · rw [value_deliverFrom_of_goesOn hheard hstops] at hfailure
        obtain ⟨before, failing, others, middle, middleScene, last, lastScene, rfl, hpasses,
          hfails⟩ := ih hfailure
        refine ⟨kind :: before, failing, others, middle, middleScene, last, lastScene, rfl,
          .cons hheard hstops hpasses, ?_⟩
        rwa [List.length_cons, Nat.add_comm before.length, ← Nat.add_assoc]
      · -- what is stopped has not failed
        rw [value_deliverFrom_of_stops hheard hstops] at hfailure
        cases hfailure
    · rw [value_deliverFrom_of_fails hheard] at hfailure
      obtain rfl : reason = failure := Option.some.inj hfailure
      exact ⟨[], kind, kinds, event, scene, next, nextScene, rfl, .nil, hheard⟩

/-- Firing an event fails exactly if a listener fails at it, and for the reason of that
listener. -/
theorem failure_fire_eq_some_iff {event : ε} {scene : Scene app} {failure : Failure} :
    (delivery.fire event scene).value.failure = some failure ↔
      delivery.Fails event scene failure := by
  rw [fire]
  constructor
  · intro hfailure
    simpa [Fails] using exists_passes_of_failure hfailure
  · rintro ⟨before, kind, others, middle, middleScene, last, lastScene, hkinds, hpasses, hfails⟩
    rw [hkinds, deliverFrom_of_passes hpasses]
    rw [value_deliverFrom_of_fails (by simpa using hfails)]

/-- If a listener fails at an event, firing the event ends with the failure. -/
theorem exists_fire_of_fails {event : ε} {scene : Scene app} {failure : Failure}
    (hfails : delivery.Fails event scene failure) :
    ∃ last lastScene heard,
      (delivery.fire event scene).value = ⟨some failure, last, lastScene, heard⟩ :=
  ⟨_, _, _, Delivered.eq_of_failure_eq (failure_fire_eq_some_iff.mpr hfails)⟩

end RequestDispatch.Delivery

namespace RequestDispatch

variable {app : Application} (hooks : Hooks app)

/-! ## The events of a request -/

@[simp]
theorem name_routeDelivery : (routeDelivery hooks).name = .route := rfl

@[simp]
theorem name_controllerDelivery : (controllerDelivery hooks).name = .controller := rfl

@[simp]
theorem name_resultDelivery (files : FileSystem) :
    (resultDelivery hooks files).name = .controllerResult := rfl

@[simp]
theorem name_filterDelivery : (filterDelivery hooks).name = .filterResponse := rfl

/-- Nothing stops the event of a response. -/
theorem stopped_filterDelivery (event : FilterEvent) :
    (filterDelivery hooks).stopped event = false := rfl

end RequestDispatch
