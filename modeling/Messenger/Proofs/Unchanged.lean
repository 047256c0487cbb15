import Messenger.Client.Settings
import Messenger.Proofs.Steps

/-!
# What a run leaves as it is

Of a world one may look at some things only: the numbers of messages, the warnings that were logged.
`Client.Keeps observe run` says that the run leaves what is looked at as it is. That is so of whatever
is made of runs of this kind, one after the other or for each value of a list (`Keeps.bind`,
`Keeps.mapM`). So the rules of a request, which only resolve references, keep whatever resolving
keeps (`keeps_ruleOf`).
-/

namespace Messenger.Client

variable {ε α β γ : Type} (observe : World → γ)

/-- What is observed of the world is the same after the run. -/
def Keeps (run : Client ε α) : Prop :=
  ∀ services world, observe (run services world).2 = observe world

theorem keeps_pure (value : α) : Keeps observe (pure value : Client ε α) :=
  fun _ _ => rfl

theorem keeps_throw (error : ε) : Keeps observe (throw error : Client ε α) :=
  fun _ _ => rfl

theorem keeps_read : Keeps observe (read : Client ε Services) :=
  fun _ _ => rfl

/-- A run that may only fail with a request keeps the same where methods fail for other reasons. -/
theorem Keeps.lift {run : Client CallError α} (hrun : Keeps observe run) :
    Keeps observe (liftM run : Client MethodError α) := by
  intro services world
  rw [lift_apply]
  exact hrun services world

/-- What keeps the observation may follow or not: it is that of the first part. -/
theorem observe_bind (first : Client ε α) {next : α → Client ε β}
    (hnext : ∀ value, Keeps observe (next value)) (services : Services) (world : World) :
    observe ((first >>= next) services world).2 = observe (first services world).2 := by
  rw [bind_apply]
  rcases first services world with ⟨error | value, world'⟩
  · rfl
  · exact hnext value services world'

theorem Keeps.bind {first : Client ε α} {next : α → Client ε β} (hfirst : Keeps observe first)
    (hnext : ∀ value, Keeps observe (next value)) : Keeps observe (first >>= next) := by
  intro services world
  rw [observe_bind observe first hnext]
  exact hfirst services world

theorem Keeps.map {run : Client ε α} (hrun : Keeps observe run) (f : α → β) :
    Keeps observe (run >>= fun value => pure (f value)) :=
  hrun.bind observe fun value => keeps_pure observe (f value)

/-- A run for each of some values, one after the other. -/
theorem Keeps.mapM {run : α → Client ε β} (hrun : ∀ value, Keeps observe (run value))
    (values : List α) : Keeps observe (values.mapM run) := by
  induction values with
  | nil => exact keeps_pure observe []
  | cons value values ih =>
    rw [List.mapM_cons]
    exact (hrun value).bind observe fun part => ih.map observe (part :: ·)

theorem Keeps.mapM_option {run : α → Client ε β} (hrun : ∀ value, Keeps observe (run value))
    (value? : Option α) : Keeps observe (value?.mapM run) := by
  cases value? with
  | none => exact keeps_pure observe none
  | some value =>
    rw [Option.mapM_some, map_eq_pure_bind]
    exact (hrun value).map observe some

/-! ## References -/

variable {observe} (hpeer : ∀ chat, Keeps observe (peerOf chat))
include hpeer

/-- A reference to somebody leads to a user, or is refused for the reason. -/
theorem keeps_user (chat : ChatRef) (reason : InvalidArgument) :
    Keeps observe (peerOf chat >>= fun peer =>
      match peer.user? with
      | some user => pure user
      | none => throw (.invalidArgument reason)) := by
  refine (hpeer chat).bind observe fun peer => ?_
  split
  · exact keeps_pure observe _
  · exact keeps_throw observe _

theorem keeps_ruleChat (chat : ChatRef) : Keeps observe (ruleChat chat) := by
  refine (hpeer chat).bind observe fun peer => ?_
  split
  · exact keeps_pure observe _
  · exact keeps_throw observe _

/-- To make the rule of a request, only references are resolved. -/
theorem keeps_ruleOf (rule : PrivacyRequest) : Keeps observe (ruleOf rule) := by
  have husers := Keeps.mapM observe fun chat => keeps_user hpeer chat (.notUser chat)
  have hchats := Keeps.mapM observe (keeps_ruleChat hpeer)
  cases rule with
  | allowUsers users => exact (husers users).map observe _
  | disallowUsers users => exact (husers users).map observe _
  | allowChats chats => exact (hchats chats).map observe _
  | disallowChats chats => exact (hchats chats).map observe _
  | _ => exact keeps_pure observe _

end Messenger.Client
