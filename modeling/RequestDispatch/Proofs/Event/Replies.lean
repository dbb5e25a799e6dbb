import RequestDispatch.Proofs.Event.Delivery
import RequestDispatch.Proofs.LastSet

/-!
# Replies to an Event

A listener hears an event and replies, and the reply says whether it failed and what becomes of
the event. `Delivery.Replying` splits a delivery in this way, and `Replying.replies` are the replies
of the listeners that hear an event. The event that is left is the first one with the replies
applied one after another (`Replying.event_deliverFrom`). So a response or an outcome that a reply
sets stays until a later reply sets another one, and the one that is left is the one set last
(`Replying.lastSet_deliverFrom`). A delivery fails as the first reply that does
(`Replying.failure_deliverFrom`).
-/

namespace RequestDispatch

variable {app : Application} {ε ρ α : Type}

namespace Delivery

/-- A way to deliver an event by replies of the listeners. -/
structure Replying (delivery : Delivery app ε) (ρ : Type) where
  /-- What a listener replies to an event. -/
  reply : ListenerKind app → ε → AppAction app ρ
  /-- Why a listener failed, if its reply says so. -/
  failure : ρ → Option Failure
  /-- The event after a reply. -/
  after : ε → ρ → ε
  /-- The event is delivered by asking for the reply. -/
  deliver_eq : ∀ kind event, delivery.deliver kind event = do
    let given ← reply kind event
    return (failure given, after event given)

namespace Replying

variable {delivery : Delivery app ε} (replying : delivery.Replying ρ)

/-- What the listener at a position replies to an event, with the scene afterwards. -/
def answer (position : Nat) (kind : ListenerKind app) (event : ε) (scene : Scene app) :
    ρ × Scene app :=
  ((scene.count position (delivery.count event)).run (replying.reply kind event)).value

/-- What listeners, of which the first is at a position, reply to an event. A listener that fails
or stops the event is the last one to reply. -/
def replies (position : Nat) : List (ListenerKind app) → ε → Scene app → List ρ
  | [], _, _ => []
  | kind :: kinds, event, scene =>
    let (given, nextScene) := replying.answer position kind event scene
    let next := replying.after event given
    if (replying.failure given).isSome || delivery.stopped next then [given]
    else given :: replies (position + 1) kinds next nextScene

variable {replying}

/-- A listener hears an event by replying to it. -/
theorem hear_of_answer {position : Nat} {kind : ListenerKind app} {event : ε} {given : ρ}
    {scene nextScene : Scene app}
    (hanswer : replying.answer position kind event scene = (given, nextScene)) :
    delivery.hear position kind event scene =
      ((replying.failure given, replying.after event given), nextScene) := by
  obtain ⟨rfl, rfl⟩ := Prod.mk.inj hanswer
  rw [hear, replying.deliver_eq]
  simp [Scene.run, bind, pure]

variable (replying)

/-- An event that has been delivered is the one before with all replies applied to it. -/
theorem event_deliverFrom (position : Nat) (kinds : List (ListenerKind app)) (event : ε)
    (scene : Scene app) :
    (delivery.deliverFrom position kinds event scene).value.event =
      (replying.replies position kinds event scene).foldl replying.after event := by
  induction kinds generalizing position event scene with
  | nil => rfl
  | cons kind kinds ih =>
    rw [replies]
    rcases hanswer : replying.answer position kind event scene with ⟨given, nextScene⟩
    have hheard := hear_of_answer hanswer
    dsimp only
    -- a reply is the last one if it fails or stops the event, which is when delivery ends
    rcases hfailure : replying.failure given with _ | failure
    · rw [hfailure] at hheard
      rcases hstops : delivery.stopped (replying.after event given) with _ | _
      · rw [value_deliverFrom_of_goesOn hheard hstops, ih]
        rfl
      · rw [value_deliverFrom_of_stops hheard hstops]
        rfl
    · rw [hfailure] at hheard
      rw [value_deliverFrom_of_fails hheard]
      rfl

/-- If replies set something but never take it away, an event that has been delivered holds what
was set last, or else what it held before. -/
theorem lastSet_deliverFrom (held : ε → Option α) (set : ρ → Option α)
    (hafter : ∀ event reply, held (replying.after event reply) = (set reply).or (held event))
    (position : Nat) (kinds : List (ListenerKind app)) (event : ε) (scene : Scene app) :
    held (delivery.deliverFrom position kinds event scene).value.event =
      ((replying.replies position kinds event scene).filterMap set).getLast?.or
        (held event) := by
  rw [event_deliverFrom, lastSet_foldl held hafter]

/-- A delivery fails for the reason of the first reply that gives one. -/
theorem failure_deliverFrom (position : Nat) (kinds : List (ListenerKind app)) (event : ε)
    (scene : Scene app) :
    (delivery.deliverFrom position kinds event scene).value.failure =
      (replying.replies position kinds event scene).findSome? replying.failure := by
  induction kinds generalizing position event scene with
  | nil => rfl
  | cons kind kinds ih =>
    rw [replies]
    rcases hanswer : replying.answer position kind event scene with ⟨given, nextScene⟩
    have hheard := hear_of_answer hanswer
    dsimp only
    rcases hfailure : replying.failure given with _ | failure
    · rw [hfailure] at hheard
      rcases hstops : delivery.stopped (replying.after event given) with _ | _
      · rw [value_deliverFrom_of_goesOn hheard hstops, ih]
        simp [hfailure]
      · rw [value_deliverFrom_of_stops hheard hstops]
        simp [hfailure]
    · rw [hfailure] at hheard
      rw [value_deliverFrom_of_fails hheard]
      simp [hfailure]

/-- If replies set something but never take it away, a delivery leaves neither it nor a failure
exactly if no reply sets it or fails. -/
theorem failure_eq_none_and_lastSet_eq_none_iff (held : ε → Option α) (set : ρ → Option α)
    (hafter : ∀ event reply, held (replying.after event reply) = (set reply).or (held event))
    {position : Nat} {kinds : List (ListenerKind app)} {event : ε} {scene : Scene app}
    (hheld : held event = none) :
    (delivery.deliverFrom position kinds event scene).value.failure = none ∧
        held (delivery.deliverFrom position kinds event scene).value.event = none ↔
      ∀ reply ∈ replying.replies position kinds event scene,
        replying.failure reply = none ∧ set reply = none := by
  rw [replying.lastSet_deliverFrom held set hafter, hheld, Option.or_none,
    replying.failure_deliverFrom, List.findSome?_eq_none_iff, List.getLast?_eq_none_iff,
    List.filterMap_eq_nil_iff]
  constructor
  · rintro ⟨hfailure, hset⟩ reply hreply
    exact ⟨hfailure reply hreply, hset reply hreply⟩
  · intro hreplies
    exact ⟨fun reply hreply => (hreplies reply hreply).1,
      fun reply hreply => (hreplies reply hreply).2⟩

end Replying

end Delivery

/-! ## The events that can be answered -/

/-- Listeners reply to the event before routing. -/
def routeReplying (hooks : Hooks app) : (routeDelivery hooks).Replying RouteReply where
  reply kind event := kind.onRoute hooks event
  failure reply := reply.failure
  after := RouteEvent.after
  deliver_eq _ _ := rfl

/-- Listeners reply to the event of a built controller. -/
def controllerReplying (hooks : Hooks app) :
    (controllerDelivery hooks).Replying (ControllerReply app) where
  reply kind event := kind.onController hooks event
  failure reply := reply.failure
  after := ControllerEvent.after
  deliver_eq _ _ := rfl

/-- Listeners reply to the event of an outcome. -/
def resultReplying (hooks : Hooks app) (files : FileSystem) :
    (resultDelivery hooks files).Replying ResultReply where
  reply kind event := kind.onControllerResult hooks files event
  failure reply := reply.failure
  after := ResultEvent.after
  deliver_eq _ _ := rfl

end RequestDispatch
