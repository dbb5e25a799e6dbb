import RequestDispatch.Kernel.Handling

/-!
# Parts of a Handling

What each part from which the handling of a request is put together does to a state, as
equations for `simp`. With them a handling unfolds one part at a time, and branches only where
it asks for a result.
-/

namespace RequestDispatch.Handling

variable {app : Application} {α β ε : Type}

/-- One handling after another: a failure of the first is the end, and otherwise the steps and
the lines of the second follow. -/
theorem bind_apply (first : Handling app α) (next : α → Handling app β)
    (state : HandlingState app) :
    (first >>= next) state =
      match (first state).result with
      | .error error =>
        ⟨.error error, (first state).state, (first state).steps, (first state).lines⟩
      | .ok value =>
        ⟨(next value (first state).state).result, (next value (first state).state).state,
          (first state).steps ++ (next value (first state).state).steps,
          (first state).lines ++ (next value (first state).state).lines⟩ := rfl

@[simp]
theorem pure_apply (value : α) (state : HandlingState app) :
    (pure value : Handling app α) state = ⟨.ok value, state, [], []⟩ := rfl

@[simp]
theorem fail_apply (error : KernelError) (state : HandlingState app) :
    (fail error : Handling app α) state = ⟨.error error, state, [], []⟩ := rfl

@[simp]
theorem write_apply (level : Level) (message : String) (fields : List (String × FieldValue))
    (state : HandlingState app) :
    write level message fields state =
      ⟨.ok (), state, [], [{ level, component := .kernel, message, fields }]⟩ := rfl

@[simp]
theorem record_apply (step : KernelStep) (state : HandlingState app) :
    record step state = ⟨.ok (), state, [step], []⟩ := rfl

@[simp]
theorem ofLogged_apply (logged : Logged α) (state : HandlingState app) :
    ofLogged logged state = ⟨.ok logged.value, state, [], logged.lines⟩ := rfl

@[simp]
theorem request_apply (state : HandlingState app) :
    request state = ⟨.ok state.request, state, [], []⟩ := rfl

@[simp]
theorem setRequest_apply (request : Request) (state : HandlingState app) :
    setRequest request state = ⟨.ok (), { state with request }, [], []⟩ := rfl

@[simp]
theorem act_apply (action : AppAction app α) (state : HandlingState app) :
    act action state =
      ⟨.ok (state.scene.run action).value.1,
        { state with scene := (state.scene.run action).value.2 }, [],
        (state.scene.run action).lines⟩ := rfl

@[simp]
theorem deliver_apply (delivery : Delivery app ε) (event : ε) (state : HandlingState app) :
    deliver delivery event state =
      ⟨.ok ((delivery.fire event state.scene).value.failure,
          (delivery.fire event state.scene).value.event),
        { state with scene := (delivery.fire event state.scene).value.scene },
        [.fired delivery.name (delivery.fire event state.scene).value.heard],
        (delivery.fire event state.scene).lines⟩ := rfl

end RequestDispatch.Handling
