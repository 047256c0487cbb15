import Messenger.Client

/-!
# What a run sends

The requests of a run are read off its trace (`World.sent`). Only sending adds to them: noting what
is about to be invoked and warning leave them as they are.
-/

namespace Messenger

namespace Event

/-- The request, if one was handed to the transport. -/
def request? : Event → Option Wire.Request
  | .sent request => some request
  | _ => none

@[simp]
theorem request?_invoking (name : String) : (invoking name).request? = none := rfl

@[simp]
theorem request?_warned (warning : Warning) : (warned warning).request? = none := rfl

@[simp]
theorem request?_sent (request : Wire.Request) : (sent request).request? = some request := rfl

end Event

namespace World

/-- The requests that were handed to the transport, in order. -/
def sent (world : World) : List Wire.Request :=
  world.trace.filterMap Event.request?

end World

namespace Client

variable {ε α : Type}

/-- A request is sent once, uses up the next answer and brings what that means for it. -/
theorem invoke_spec (request : Wire.Request) (services : Services) (world : World) :
    (invoke request services world).1 =
        receive request (world.answers.head?.getD (.error .dropped)) ∧
      (invoke request services world).2.sent = world.sent ++ [request] ∧
      (invoke request services world).2.answers = world.answers.tail := by
  rw [invoke_apply]
  refine ⟨rfl, ?_, rfl⟩
  simp [World.sent, List.filterMap_cons]

/-- Warnings send nothing and use up no answer. -/
theorem warned_spec (value : Warned α) (services : Services) (world : World) :
    ((warned value : Client ε α) services world).1 = .ok value.value ∧
      ((warned value : Client ε α) services world).2.sent = world.sent ∧
      ((warned value : Client ε α) services world).2.answers = world.answers := by
  rw [warned_apply]
  refine ⟨rfl, ?_, rfl⟩
  simp [World.sent]

end Client

end Messenger
