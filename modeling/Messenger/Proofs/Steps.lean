import Mathlib.Data.List.Forall2
import Messenger.Proofs.Sent

/-!
# The steps of a run

What a run does to its surroundings is a list of steps, each with what came of it: a reference is
resolved, a file is saved, or a request is sent. Noting what is about to be invoked and warning are
no steps.

1. **Steps** (`Step`): what came of a step may be a failure (`Step.failure?`), which is to be the
   end of the run (`FailsLast`).
2. **Worlds** (`Performs`): the steps from one world to another use up the answers that are to come.
3. **Runs** (`Client.Takes`): the steps of a run are those of its parts, one after the other, up to
   the part that fails; the same holds of a run over a list (`Client.takes_mapM`).
-/

namespace Messenger

/-! ## Answers -/

/-- A request succeeds exactly with a value of the kind that it returns. -/
theorem Client.receive_eq_ok_iff {request : Wire.Request} {answer : Answer}
    {value : request.returns.Value} :
    receive request answer = .ok value ↔ answer = .ok ⟨request.returns, value⟩ := by
  constructor
  · intro hreceive
    rcases answer with error | ⟨kind, got⟩
    · cases error <;> cases hreceive
    · by_cases hkind : kind = request.returns
      · subst hkind
        simpa [receive, Wire.Response.as] using hreceive
      · simp [receive, Wire.Response.as, hkind] at hreceive
  · rintro rfl
    simp [receive, Wire.Response.as]

/-- In a method, a request succeeds exactly with a value of the kind that it returns. -/
theorem Client.mapError_receive_eq_ok_iff {request : Wire.Request} {answer : Answer}
    {value : request.returns.Value} :
    (receive request answer).mapError MethodError.invocation = .ok value ↔
      answer = .ok ⟨request.returns, value⟩ := by
  rw [← receive_eq_ok_iff]
  cases receive request answer with
  | error error => simp [Except.mapError]
  | ok got => simp [Except.mapError]

/-- In a method, no argument is refused by a request. -/
theorem Client.mapError_receive_ne {request : Wire.Request} {answer : Answer}
    {reason : InvalidArgument} :
    (receive request answer).mapError MethodError.invocation ≠
      .error (.invalidArgument reason) := by
  cases receive request answer with
  | error error => simp [Except.mapError]
  | ok value => simp [Except.mapError]

/-! ## Steps -/

/-- Something that a run does to its surroundings, and what came of it. -/
inductive Step where
  /-- A reference is resolved. -/
  | resolved (chat : ChatRef) (found : Except CallError (Option Wire.InputPeer))
  /-- A file is handed to the uploader. -/
  | saved (file : LocalFile) (answer : UploadAnswer)
  /-- A request is handed to the transport. -/
  | sent (request : Wire.Request) (answer : Answer)

namespace Step

/-- What the trace shows of the step. -/
def event : Step → Event
  | .resolved chat _ => .resolved chat
  | .saved file _ => .saved file
  | .sent request _ => .sent request

/-- The request, if one is sent. -/
def request? : Step → Option Wire.Request
  | .sent request _ => some request
  | _ => none

/-- The answer of the transport, if a request is sent. -/
def answer? : Step → Option Answer
  | .sent _ answer => some answer
  | _ => none

/-- The failure that came of the step, if it failed. -/
def failure? : Step → Option MethodError
  | .resolved _ (.ok (some _)) => none
  | .resolved chat (.ok none) => some (.peerNotFound chat)
  | .resolved _ (.error error) => some (.invocation error)
  | .saved _ (.ok _) => none
  | .saved _ (.error error) => some (.upload error)
  | .sent request answer =>
    match Client.receive request answer with
    | .ok _ => none
    | .error error => some (.invocation error)

/-- The step did not fail. -/
def succeeds (step : Step) : Bool :=
  step.failure?.isNone

theorem request?_event (step : Step) : step.event.request? = step.request? := by
  cases step <;> rfl

theorem failure?_sent_ok (request : Wire.Request) (value : request.returns.Value) :
    (sent request (.ok ⟨request.returns, value⟩)).failure? = none := by
  simp [failure?, Client.receive_eq_ok_iff.2]

theorem failure?_sent_of_error {request : Wire.Request} {answer : Answer} {error : CallError}
    (hreceive : Client.receive request answer = .error error) :
    (sent request answer).failure? = some (.invocation error) := by
  simp [failure?, hreceive]

theorem succeeds_sent_ok (request : Wire.Request) (value : request.returns.Value) :
    (sent request (.ok ⟨request.returns, value⟩)).succeeds = true := by
  rw [succeeds, failure?_sent_ok]
  rfl

theorem succeeds_sent_of_error {request : Wire.Request} {answer : Answer} {error : CallError}
    (hreceive : Client.receive request answer = .error error) :
    (sent request answer).succeeds = false := by
  rw [succeeds, failure?_sent_of_error hreceive]
  rfl

end Step

/-- A step is the last one, or one of those before it. -/
theorem Step.last_or_mem {steps earlier later : List Step} {last step : Step}
    (hsplit : steps ++ [last] = earlier ++ step :: later) :
    (later = [] ∧ earlier = steps ∧ step = last) ∨ step ∈ steps := by
  rcases List.eq_nil_or_concat later with rfl | ⟨others, final, rfl⟩
  · obtain ⟨rfl, hlast⟩ := List.append_inj' hsplit rfl
    exact Or.inl ⟨rfl, rfl, (List.cons.inj hlast).1.symm⟩
  · rw [List.concat_eq_append, ← List.cons_append, ← List.append_assoc] at hsplit
    rw [List.append_inj_left' hsplit rfl]
    exact Or.inr (by simp)

/-- Only the last step may have failed, and then its failure is that of the run. -/
structure FailsLast {α : Type} (steps : List Step) (result : Except MethodError α) : Prop where
  earlier : ∀ step ∈ steps.dropLast, step.failure? = none
  last : ∀ error, steps.getLast?.bind Step.failure? = some error → result = .error error

namespace FailsLast

variable {α : Type} {result : Except MethodError α} {earlier later : List Step}

theorem of_succeeds (hearlier : ∀ step ∈ earlier, step.failure? = none) :
    FailsLast earlier result := by
  refine ⟨fun step hmem => hearlier step (List.dropLast_subset _ hmem), ?_⟩
  intro error hlast
  obtain ⟨step, hstep, hfailed⟩ := Option.bind_eq_some_iff.1 hlast
  cases (hearlier step (List.mem_of_getLast? hstep)).symm.trans hfailed

theorem nil : FailsLast [] result := of_succeeds (by simp)

theorem single {step : Step} (hlast : ∀ error, step.failure? = some error → result = .error error) :
    FailsLast [step] result := ⟨by simp, by simpa using hlast⟩

/-- Steps that succeeded may come first. -/
theorem append (hearlier : ∀ step ∈ earlier, step.failure? = none)
    (hlater : FailsLast later result) : FailsLast (earlier ++ later) result := by
  rcases List.eq_nil_or_concat later with rfl | ⟨others, final, rfl⟩
  · rw [List.append_nil]
    exact of_succeeds hearlier
  · obtain ⟨hothers, hfinal⟩ := hlater
    simp only [List.concat_eq_append, List.dropLast_concat, List.getLast?_concat] at hothers hfinal
    simp only [List.concat_eq_append, ← List.append_assoc]
    refine ⟨?_, by simpa using hfinal⟩
    intro step hmem
    rw [List.dropLast_concat] at hmem
    rcases List.mem_append.1 hmem with hmem | hmem
    · exact hearlier step hmem
    · exact hothers step hmem

theorem cons {step : Step} (hstep : step.failure? = none) (hlater : FailsLast later result) :
    FailsLast (step :: later) result := by
  rw [← List.singleton_append]
  exact append (by simpa using hstep) hlater

/-- A step that failed is the last one, and its failure is that of the run. -/
theorem of_failed {step : Step} {error : MethodError}
    (hfails : FailsLast (earlier ++ step :: later) result) (hfailed : step.failure? = some error) :
    later = [] ∧ result = .error error := by
  rcases List.eq_nil_or_concat later with rfl | ⟨others, final, rfl⟩
  · exact ⟨rfl, hfails.last error (by simpa using hfailed)⟩
  · -- a step that comes before another one succeeded
    have hconcat : earlier ++ step :: others.concat final = earlier ++ step :: others ++ [final] := by
      simp
    have hearlier := hfails.earlier
    rw [hconcat, List.dropLast_concat] at hearlier
    have hsucceeds := hearlier step (by simp)
    rw [hfailed] at hsucceeds
    cases hsucceeds

end FailsLast

/-! ## Worlds -/

/-- What the event does goes beyond the client: it is more than a note. -/
def Event.isDeed : Event → Bool
  | .invoking _ => false
  | .warned _ => false
  | _ => true

namespace World

/-- What was done to the surroundings, in order. -/
def deeds (world : World) : List Event :=
  world.trace.filter Event.isDeed

theorem filterMap_request?_deeds (world : World) :
    world.deeds.filterMap Event.request? = world.sent := by
  rw [deeds, sent, List.filterMap_filter]
  congr 1
  funext event
  cases event <;> rfl

end World

/-- The steps that were performed from one world to another. The services and the answers that are
to come say what comes of each; once there are no answers, requests are dropped and files are
refused. -/
inductive Performs (services : Services) : World → List Step → World → Prop
  | nothing {world world' : World} (deeds : world'.deeds = world.deeds)
      (answers : world'.answers = world.answers) (uploads : world'.uploads = world.uploads) :
      Performs services world [] world'
  | resolved {world world' world'' : World} {chat : ChatRef} {later : List Step}
      (deeds : world'.deeds = world.deeds ++ [.resolved chat])
      (answers : world'.answers = world.answers) (uploads : world'.uploads = world.uploads)
      (rest : Performs services world' later world'') :
      Performs services world (.resolved chat (services.resolve chat) :: later) world''
  | saved {world world' world'' : World} {file : LocalFile} {later : List Step}
      (deeds : world'.deeds = world.deeds ++ [.saved file])
      (answers : world'.answers = world.answers) (uploads : world'.uploads = world.uploads.tail)
      (rest : Performs services world' later world'') :
      Performs services world
        (.saved file (world.uploads.head?.getD (.error (Client.noUploader file.name))) :: later)
        world''
  | sent {world world' world'' : World} {request : Wire.Request} {later : List Step}
      (deeds : world'.deeds = world.deeds ++ [.sent request])
      (answers : world'.answers = world.answers.tail) (uploads : world'.uploads = world.uploads)
      (rest : Performs services world' later world'') :
      Performs services world
        (.sent request (world.answers.head?.getD (.error .dropped)) :: later) world''

namespace Performs

variable {services : Services} {world world' world'' : World} {steps later : List Step}

theorem refl (services : Services) (world : World) : Performs services world [] world :=
  .nothing rfl rfl rfl

theorem single_resolved {chat : ChatRef} (hdeeds : world'.deeds = world.deeds ++ [.resolved chat])
    (hanswers : world'.answers = world.answers) (huploads : world'.uploads = world.uploads) :
    Performs services world [.resolved chat (services.resolve chat)] world' :=
  .resolved hdeeds hanswers huploads (.refl services world')

theorem single_saved {file : LocalFile} (hdeeds : world'.deeds = world.deeds ++ [.saved file])
    (hanswers : world'.answers = world.answers) (huploads : world'.uploads = world.uploads.tail) :
    Performs services world
      [.saved file (world.uploads.head?.getD (.error (Client.noUploader file.name)))] world' :=
  .saved hdeeds hanswers huploads (.refl services world')

theorem single_sent {request : Wire.Request}
    (hdeeds : world'.deeds = world.deeds ++ [.sent request])
    (hanswers : world'.answers = world.answers.tail) (huploads : world'.uploads = world.uploads) :
    Performs services world [.sent request (world.answers.head?.getD (.error .dropped))] world' :=
  .sent hdeeds hanswers huploads (.refl services world')

/-- A world in which nothing else was done takes the place of another one. -/
theorem of_same (hdeeds : world.deeds = world'.deeds) (hanswers : world.answers = world'.answers)
    (huploads : world.uploads = world'.uploads)
    (hperforms : Performs services world' steps world'') :
    Performs services world steps world'' := by
  cases hperforms with
  | nothing deeds answers uploads =>
    exact .nothing (deeds.trans hdeeds.symm) (answers.trans hanswers.symm)
      (uploads.trans huploads.symm)
  | resolved deeds answers uploads rest =>
    exact .resolved (hdeeds ▸ deeds) (hanswers ▸ answers) (huploads ▸ uploads) rest
  | saved deeds answers uploads rest =>
    rw [← huploads] at uploads ⊢
    exact .saved (hdeeds ▸ deeds) (hanswers ▸ answers) uploads rest
  | sent deeds answers uploads rest =>
    rw [← hanswers] at answers ⊢
    exact .sent (hdeeds ▸ deeds) answers (huploads ▸ uploads) rest

/-- A request uses up the next answer. -/
theorem of_sent {request : Wire.Request} {answer : Answer}
    (hperforms : Performs services world [.sent request answer] world') :
    answer = world.answers.head?.getD (.error .dropped) ∧
      world'.answers = world.answers.tail := by
  cases hperforms with
  | sent deeds answers uploads rest =>
    cases rest with
    | nothing deeds' answers' uploads' => exact ⟨rfl, answers'.trans answers⟩

theorem append (hfirst : Performs services world steps world')
    (hlater : Performs services world' later world'') :
    Performs services world (steps ++ later) world'' := by
  induction hfirst with
  | nothing deeds answers uploads =>
    exact of_same deeds.symm answers.symm uploads.symm hlater
  | resolved deeds answers uploads _ ih => exact .resolved deeds answers uploads (ih hlater)
  | saved deeds answers uploads _ ih => exact .saved deeds answers uploads (ih hlater)
  | sent deeds answers uploads _ ih => exact .sent deeds answers uploads (ih hlater)

theorem deeds_eq (hperforms : Performs services world steps world') :
    world'.deeds = world.deeds ++ steps.map Step.event := by
  induction hperforms with
  | nothing deeds answers uploads => simpa using deeds
  | resolved deeds _ _ _ ih => simp [ih, deeds, Step.event]
  | saved deeds _ _ _ ih => simp [ih, deeds, Step.event]
  | sent deeds _ _ _ ih => simp [ih, deeds, Step.event]

/-- The requests of the steps are those that were sent. -/
theorem sent_eq (hperforms : Performs services world steps world') :
    world'.sent = world.sent ++ steps.filterMap Step.request? := by
  rw [← World.filterMap_request?_deeds, ← World.filterMap_request?_deeds, hperforms.deeds_eq,
    List.filterMap_append, List.filterMap_map]
  congr 2
  funext step
  exact step.request?_event

end Performs

/-! ## Runs -/

/-- The request that runs the call, on behalf of the business connection if there is one. -/
def Wire.Call.onBehalfOf (call : Wire.Call) : Option String → Wire.Request
  | some id => .onBehalf id (.call call)
  | none => .call call

theorem Step.failure?_sent_onBehalfOf (call : Wire.Call) (connectionId : Option String)
    (value : call.returns.Value) :
    (Step.sent (call.onBehalfOf connectionId) (.ok ⟨call.returns, value⟩)).failure? = none := by
  cases connectionId with
  | none => exact Step.failure?_sent_ok (.call call) value
  | some id => exact Step.failure?_sent_ok (.onBehalf id (.call call)) value

namespace Client

variable {ε α β : Type}

/-- In a world, the run takes the steps and ends with the result. -/
structure Takes (run : Client ε α) (services : Services) (world : World) (steps : List Step)
    (result : Except ε α) : Prop where
  result_eq : (run services world).1 = result
  performs : Performs services world steps (run services world).2

variable {services : Services} {world : World} {steps later : List Step}

theorem takes_pure (value : α) (services : Services) (world : World) :
    Takes (pure value : Client ε α) services world [] (.ok value) :=
  ⟨rfl, .refl services world⟩

theorem takes_throw (error : ε) (services : Services) (world : World) :
    Takes (throw error : Client ε α) services world [] (.error error) :=
  ⟨rfl, .refl services world⟩

theorem takes_read (services : Services) (world : World) :
    Takes (read : Client ε Services) services world [] (.ok services) :=
  ⟨rfl, .refl services world⟩

theorem takes_newRandomId (services : Services) (world : World) :
    Takes (newRandomId : Client ε Int64) services world [] (.ok world.nextRandomId.value) :=
  ⟨rfl, .nothing rfl rfl rfl⟩

theorem takes_warned (value : Warned α) (services : Services) (world : World) :
    Takes (warned value : Client ε α) services world [] (.ok value.value) := by
  refine ⟨rfl, .nothing ?_ rfl rfl⟩
  rw [warned_apply]
  simp [World.deeds, Event.isDeed]

/-- A request is one step, and the result is what the answer means for it. -/
theorem takes_invoke (request : Wire.Request) (services : Services) (world : World) :
    let answer := world.answers.head?.getD (.error .dropped)
    Takes (invoke request) services world [.sent request answer] (receive request answer) := by
  refine ⟨congrArg Prod.fst (invoke_apply request services world), ?_⟩
  rw [invoke_apply]
  exact .single_sent (by simp [World.deeds, Event.isDeed]) rfl rfl

/-- A request brings a value of the kind that it returns, or fails as its answer says. -/
theorem invoke_cases (request : Wire.Request) (services : Services) (world : World) :
    (∃ value, Takes (invoke request) services world
        [.sent request (.ok ⟨request.returns, value⟩)] (.ok value)) ∨
      ∃ answer error, receive request answer = .error error ∧
        Takes (invoke request) services world [.sent request answer] (.error error) := by
  have htakes := takes_invoke request services world
  dsimp only at htakes
  generalize world.answers.head?.getD (.error .dropped) = answer at htakes
  cases hreceive : receive request answer with
  | ok value =>
    rw [hreceive, receive_eq_ok_iff.1 hreceive] at htakes
    exact Or.inl ⟨value, htakes⟩
  | error error =>
    rw [hreceive] at htakes
    exact Or.inr ⟨answer, error, hreceive, htakes⟩

/-- The peer that was found, unless there is none or the resolver failed. -/
def found (chat : ChatRef) : Except CallError (Option Wire.InputPeer) →
    Except MethodError Wire.InputPeer
  | .ok (some peer) => .ok peer
  | .ok none => .error (.peerNotFound chat)
  | .error error => .error (.invocation error)

theorem peerOf_apply (chat : ChatRef) (services : Services) (world : World) :
    peerOf chat services world =
      (found chat (services.resolve chat),
        { world with trace := world.trace ++ [.resolved chat] }) := by
  simp only [peerOf, bind_apply, record_apply, read_apply]
  rcases services.resolve chat with error | _ | peer <;> rfl

theorem failure?_resolved_of_error {chat : ChatRef}
    {answer : Except CallError (Option Wire.InputPeer)} {error : MethodError}
    (hfound : found chat answer = .error error) :
    (Step.resolved chat answer).failure? = some error := by
  rcases answer with failure | _ | peer <;> cases hfound <;> rfl

theorem failure?_resolved_of_ok {chat : ChatRef}
    {answer : Except CallError (Option Wire.InputPeer)} {peer : Wire.InputPeer}
    (hfound : found chat answer = .ok peer) : (Step.resolved chat answer).failure? = none := by
  rcases answer with failure | _ | peer <;> cases hfound
  rfl

/-- A reference is resolved in one step. -/
theorem takes_peerOf (chat : ChatRef) (services : Services) (world : World) :
    Takes (peerOf chat) services world [.resolved chat (services.resolve chat)]
      (found chat (services.resolve chat)) := by
  refine ⟨congrArg Prod.fst (peerOf_apply chat services world), ?_⟩
  rw [peerOf_apply]
  exact .single_resolved (by simp [World.deeds, Event.isDeed]) rfl rfl

theorem upload_apply (file : LocalFile) (services : Services) (world : World) :
    upload file services world =
      ((world.uploads.head?.getD (.error (noUploader file.name))).mapError .upload,
        { world with
          uploads := world.uploads.tail
          trace := world.trace ++ [.saved file] }) := by
  simp only [upload, bind_apply, record_apply, nextUpload_apply]
  generalize world.uploads.head?.getD (.error (noUploader file.name)) = answer
  cases answer <;> rfl

/-- A file is saved in one step. -/
theorem takes_upload (file : LocalFile) (services : Services) (world : World) :
    let answer := world.uploads.head?.getD (.error (noUploader file.name))
    Takes (upload file) services world [.saved file answer] (answer.mapError .upload) := by
  refine ⟨congrArg Prod.fst (upload_apply file services world), ?_⟩
  rw [upload_apply]
  exact .single_saved (by simp [World.deeds, Event.isDeed]) rfl rfl

/-- A file is saved, or the uploader refuses it. -/
theorem upload_cases (file : LocalFile) (services : Services) (world : World) :
    (∃ saved, Takes (upload file) services world [.saved file (.ok saved)] (.ok saved)) ∨
      ∃ error, Takes (upload file) services world [.saved file (.error error)]
        (.error (.upload error)) := by
  have htakes := takes_upload file services world
  dsimp only at htakes
  generalize world.uploads.head?.getD (.error (noUploader file.name)) = answer at htakes
  cases answer with
  | ok saved => exact Or.inl ⟨saved, htakes⟩
  | error error => exact Or.inr ⟨error, htakes⟩

/-- A call on behalf of a business connection brings what the call itself brings. -/
theorem runOnBehalf_cases (call : Wire.Call) (connectionId : Option String) (services : Services)
    (world : World) :
    (∃ value, Takes (runOnBehalf call connectionId) services world
        [.sent (call.onBehalfOf connectionId) (.ok ⟨call.returns, value⟩)] (.ok value)) ∨
      ∃ answer error, receive (call.onBehalfOf connectionId) answer = .error error ∧
        Takes (runOnBehalf call connectionId) services world
          [.sent (call.onBehalfOf connectionId) answer] (.error error) := by
  cases connectionId with
  | none => exact invoke_cases (.call call) services world
  | some id => exact invoke_cases (.onBehalf id (.call call)) services world

/-- A part that succeeds is followed by the next one. -/
theorem Takes.bind {first : Client ε α} {next : α → Client ε β} {value : α} {result : Except ε β}
    (hfirst : Takes first services world steps (.ok value))
    (hnext : Takes (next value) services (first services world).2 later result) :
    Takes (first >>= next) services world (steps ++ later) result := by
  have hbind : (first >>= next) services world = next value services (first services world).2 := by
    rw [bind_apply]
    rcases hrun : first services world with ⟨outcome, world'⟩
    have houtcome := hfirst.result_eq
    rw [hrun] at houtcome
    rw [show outcome = .ok value from houtcome]
  exact ⟨hbind ▸ hnext.result_eq, hbind ▸ hfirst.performs.append hnext.performs⟩

/-- What follows a part may take no further steps. -/
theorem Takes.bind_nil {first : Client ε α} {next : α → Client ε β} {value : α}
    {result : Except ε β} (hfirst : Takes first services world steps (.ok value))
    (hnext : Takes (next value) services (first services world).2 [] result) :
    Takes (first >>= next) services world steps result := by
  rw [← List.append_nil steps]
  exact hfirst.bind hnext

/-- A part that fails is the last one. -/
theorem Takes.bind_error {first : Client ε α} {next : α → Client ε β} {error : ε}
    (hfirst : Takes first services world steps (.error error)) :
    Takes (first >>= next) services world steps (.error error) := by
  have hbind : (first >>= next) services world = (.error error, (first services world).2) := by
    rw [bind_apply]
    rcases hrun : first services world with ⟨outcome, world'⟩
    have houtcome := hfirst.result_eq
    rw [hrun] at houtcome
    rw [show outcome = .error error from houtcome]
  exact ⟨congrArg Prod.fst hbind, by rw [hbind]; exact hfirst.performs⟩

/-- A run that may only fail with a request takes the same steps where methods fail for other
reasons. -/
theorem Takes.lift {run : Client CallError α} {result : Except CallError α}
    (hrun : Takes run services world steps result) :
    Takes (liftM run : Client MethodError α) services world steps
      (result.mapError .invocation) := by
  refine ⟨?_, ?_⟩
  · rw [lift_apply, ← hrun.result_eq]
  · rw [lift_apply]
    exact hrun.performs

/-- A call whose value is looked at is one step. -/
theorem takes_run_map (call : Wire.Call) (view : call.returns.Value → α) (services : Services)
    (world : World) :
    let answer := world.answers.head?.getD (.error .dropped)
    Takes (run call >>= fun value => pure (view value)) services world [.sent (.call call) answer]
      ((receive (.call call) answer).map view) := by
  intro answer
  have hrun : Takes (run call) services world [.sent (.call call) answer]
      (receive (.call call) answer) := takes_invoke (.call call) services world
  cases hreceive : receive (.call call) answer with
  | ok value =>
    rw [hreceive] at hrun
    exact hrun.bind_nil (takes_pure _ _ _)
  | error error =>
    rw [hreceive] at hrun
    exact hrun.bind_error

/-- A run over some values takes the steps for each of them, in their order, up to one for which it
fails. -/
theorem takes_mapM {γ : Type} {run : γ → Client ε α} {Done : γ → List Step × α → Prop}
    {Failed : γ → List Step → ε → Prop}
    (hrun : ∀ value world,
      (∃ part, Done value part ∧ Takes (run value) services world part.1 (.ok part.2)) ∨
        ∃ steps error, Failed value steps error ∧
          Takes (run value) services world steps (.error error))
    (values : List γ) (world : World) :
    (∃ parts, List.Forall₂ Done values parts ∧
        Takes (values.mapM run) services world (parts.flatMap Prod.fst)
          (.ok (parts.map Prod.snd))) ∨
      ∃ before value after parts steps error, values = before ++ value :: after ∧
        List.Forall₂ Done before parts ∧ Failed value steps error ∧
        Takes (values.mapM run) services world (parts.flatMap Prod.fst ++ steps)
          (.error error) := by
  induction values generalizing world with
  | nil => exact Or.inl ⟨[], .nil, takes_pure [] services world⟩
  | cons value values ih =>
    rw [List.mapM_cons]
    rcases hrun value world with ⟨part, hdone, htakes⟩ | ⟨steps, error, hfailed, htakes⟩
    · rcases ih (run value services world).2 with
        ⟨parts, hparts, hvalues⟩ |
        ⟨before, failing, after, parts, steps, error, rfl, hbefore, hfailed, hvalues⟩
      · exact Or.inl ⟨part :: parts, .cons hdone hparts,
          htakes.bind (hvalues.bind_nil (takes_pure _ _ _))⟩
      · refine Or.inr ⟨value :: before, failing, after, part :: parts, steps, error, rfl,
          .cons hdone hbefore, hfailed, ?_⟩
        rw [List.flatMap_cons, List.append_assoc]
        exact htakes.bind hvalues.bind_error
    · exact Or.inr ⟨[], value, values, [], steps, error, rfl, .nil, hfailed, htakes.bind_error⟩

end Client

end Messenger
