import Messenger.Proofs.Paging.Resume
import Messenger.Proofs.Methods.Catalogue

/-!
# How methods go about their steps

What holds of every run that is put together from requests and uploads:

1. **Accounts** (`Accounts`): the steps account for the result. Only the last one may have failed,
   its failure is that of the run, and a run fails like a request only if its last step did.
2. **Direct runs** (`Client.Direct`): a run that resolves nothing, and accounts for its result. The
   parts of a direct run are direct runs, so it is enough to look at the single steps.
-/

namespace Messenger

variable {α β : Type}

/-! ## Accounts -/

/-- The steps account for the result. -/
structure Accounts (steps : List Step) (result : Except MethodError α) : Prop
    extends FailsLast steps result where
  /-- A failed request is not made up. -/
  blame : ∀ error, result = .error (.invocation error) →
    steps.getLast?.bind Step.failure? = some (.invocation error)

namespace Accounts

variable {steps later : List Step} {result : Except MethodError α}

theorem of_succeeds (hsteps : ∀ step ∈ steps, step.failure? = none)
    (hresult : ∀ error, result ≠ .error (.invocation error)) : Accounts steps result :=
  ⟨.of_succeeds hsteps, fun error herror => absurd herror (hresult error)⟩

theorem nil (hresult : ∀ error, result ≠ .error (.invocation error)) : Accounts [] result :=
  of_succeeds (by simp) hresult

theorem single {step : Step} {error : MethodError} (hfailed : step.failure? = some error) :
    Accounts [step] (.error error : Except MethodError α) := by
  refine ⟨.single ?_, ?_⟩
  · intro other hother
    rw [hfailed] at hother
    cases hother
    rfl
  · intro other hother
    cases hother
    simpa using hfailed

/-- If the run succeeds, so do all of its steps. -/
theorem failure?_of_mem {value : α} (haccounts : Accounts steps (.ok value)) {step : Step}
    (hmem : step ∈ steps) : step.failure? = none := by
  obtain ⟨earlier, later, rfl⟩ := List.append_of_mem hmem
  cases hfailure : step.failure? with
  | none => rfl
  | some error =>
    obtain ⟨-, hresult⟩ := haccounts.toFailsLast.of_failed hfailure
    cases hresult

/-- Steps that succeeded may come first. -/
theorem append (hearlier : ∀ step ∈ steps, step.failure? = none)
    (hlater : Accounts later result) : Accounts (steps ++ later) result := by
  refine ⟨.append hearlier hlater.toFailsLast, ?_⟩
  intro error herror
  obtain ⟨final, hfinal, hfailed⟩ := Option.bind_eq_some_iff.1 (hlater.blame error herror)
  rw [List.getLast?_append, hfinal]
  exact hfailed

/-- A failure is accounted for whatever was to be brought. -/
theorem of_error {error : MethodError} (haccounts : Accounts steps (.error error : Except _ α)) :
    Accounts steps (.error error : Except _ β) := by
  obtain ⟨⟨hearlier, hlast⟩, hblame⟩ := haccounts
  refine ⟨⟨hearlier, ?_⟩, ?_⟩
  · intro other hother
    cases hlast other hother
    rfl
  · intro other hother
    cases hother
    exact hblame _ rfl

end Accounts

/-! ## Direct runs -/

/-- The chat, if one is resolved. -/
def Step.chat? : Step → Option ChatRef
  | .resolved chat _ => some chat
  | _ => none

/-- The trace of such steps shows that nothing is resolved. -/
theorem Step.resolved_notMem_events {steps : List Step}
    (hsilent : ∀ step ∈ steps, step.chat? = none) (chat : ChatRef) :
    Event.resolved chat ∉ steps.map Step.event := by
  intro hmem
  obtain ⟨step, hstep, hevent⟩ := List.mem_map.1 hmem
  have hchat := hsilent step hstep
  cases step with
  | resolved => cases hchat
  | saved => cases hevent
  | sent => cases hevent

/-- Fetching pages resolves nothing. -/
theorem Pages.Fetches.chat?_eq_none {ρ : Type} [Paged ρ α] {pages pages' : Pages ρ α}
    {steps : List Step} (hfetches : Fetches pages steps pages') :
    ∀ step ∈ steps, step.chat? = none := by
  induction hfetches with
  | nothing => simp
  | more _ _ ih => simpa [Step.chat?] using ih

namespace Client

/-- The run resolves nothing, and its steps account for its result. -/
def Direct (run : Client MethodError α) : Prop :=
  ∀ services world, ∃ steps result, Takes run services world steps result ∧
    Accounts steps result ∧ ∀ step ∈ steps, step.chat? = none

theorem direct_pure (value : α) : Direct (pure value) := by
  intro services world
  exact ⟨[], _, takes_pure value services world, .nil (by simp), by simp⟩

/-- A run may fail without a step, but not like a request. -/
theorem direct_throw {error : MethodError} (herror : ∀ cause, error ≠ .invocation cause) :
    Direct (throw error : Client MethodError α) := by
  intro services world
  exact ⟨[], _, takes_throw error services world, .nil (by simpa using herror), by simp⟩

theorem direct_read : Direct (read : Client MethodError Services) := by
  intro services world
  exact ⟨[], _, takes_read services world, .nil (by simp), by simp⟩

theorem direct_newRandomId : Direct newRandomId := by
  intro services world
  exact ⟨[], _, takes_newRandomId services world, .nil (by simp), by simp⟩

theorem direct_warned (value : Warned α) : Direct (warned value) := by
  intro services world
  exact ⟨[], _, takes_warned value services world, .nil (by simp), by simp⟩

/-- To warn of something is no step. -/
theorem direct_warn (warning : Warning) : Direct (record (.warned warning)) :=
  direct_warned ⟨(), [warning]⟩

/-- A request that fails is the whole account of the failure. -/
theorem direct_invoke (request : Wire.Request) : Direct (liftM (invoke request)) := by
  intro services world
  rcases invoke_cases request services world with
    ⟨value, htakes⟩ | ⟨answer, error, hfailed, htakes⟩
  · refine ⟨_, _, htakes.lift, .of_succeeds ?_ (by simp [Except.mapError]), by simp [Step.chat?]⟩
    simp [Step.failure?_sent_ok request value]
  · exact ⟨_, _, htakes.lift, .single (Step.failure?_sent_of_error hfailed), by simp [Step.chat?]⟩

theorem direct_upload (file : LocalFile) : Direct (upload file) := by
  intro services world
  rcases upload_cases file services world with ⟨saved, htakes⟩ | ⟨error, htakes⟩
  · exact ⟨_, _, htakes, .of_succeeds (by simp [Step.failure?]) (by simp), by simp [Step.chat?]⟩
  · exact ⟨_, _, htakes, .single rfl, by simp [Step.chat?]⟩

/-- Direct runs one after the other are a direct run. -/
theorem Direct.bind {first : Client MethodError α} {next : α → Client MethodError β}
    (hfirst : Direct first) (hnext : ∀ value, Direct (next value)) : Direct (first >>= next) := by
  intro services world
  obtain ⟨steps, result, htakes, haccounts, hsilent⟩ := hfirst services world
  cases result with
  | error error => exact ⟨steps, _, htakes.bind_error, haccounts.of_error, hsilent⟩
  | ok value =>
    obtain ⟨later, result, hlater, haccounts', hsilent'⟩ :=
      hnext value services (first services world).2
    refine ⟨steps ++ later, result, htakes.bind hlater,
      .append (fun _ => haccounts.failure?_of_mem) haccounts', ?_⟩
    intro step hmem
    rcases List.mem_append.1 hmem with hmem | hmem
    · exact hsilent step hmem
    · exact hsilent' step hmem

/-- Where methods fail for other reasons too, the parts of a run are lifted one by one. -/
theorem lift_bind (first : Client CallError α) (next : α → Client CallError β) :
    (liftM (first >>= next) : Client MethodError β) =
      (liftM first : Client MethodError α) >>= fun value => liftM (next value) := by
  funext services world
  rw [lift_apply, bind_apply, bind_apply, lift_apply]
  rcases first services world with ⟨error | value, world'⟩ <;> rfl

theorem Direct.lift_bind {first : Client CallError α} {next : α → Client CallError β}
    (hfirst : Direct (liftM first)) (hnext : ∀ value, Direct (liftM (next value))) :
    Direct (liftM (first >>= next)) := by
  rw [Client.lift_bind]
  exact hfirst.bind hnext

/-- A direct run for each of some values is a direct run. -/
theorem Direct.mapM {run : α → Client MethodError β} (hrun : ∀ value, Direct (run value))
    (values : List α) : Direct (values.mapM run) := by
  induction values with
  | nil => exact direct_pure []
  | cons value values ih =>
    rw [List.mapM_cons]
    exact (hrun value).bind fun part => ih.bind fun parts => direct_pure (part :: parts)

theorem Direct.mapM_option {run : α → Client MethodError β} (hrun : ∀ value, Direct (run value))
    (value? : Option α) : Direct (value?.mapM run) := by
  cases value? with
  | none => exact direct_pure none
  | some value =>
    rw [Option.mapM_some, map_eq_pure_bind]
    exact (hrun value).bind fun part => direct_pure (some part)

/-! ## Iterators -/

variable {ρ : Type} [Paged ρ α]

/-- Taking an item fetches pages, the last of which may fail. -/
theorem direct_take (pages : Pages ρ α) : Direct (liftM pages.take) := by
  intro services world
  obtain ⟨steps, before, hfetches, hcourse⟩ := Pages.next_cases pages services world
  have hsucceeds : ∀ step ∈ steps, step.failure? = none := by
    intro step hmem
    have hkept := List.filter_eq_self.1 hfetches.filter_succeeds step hmem
    exact Option.isNone_iff_eq_none.1 hkept
  have hsilent : ∀ step ∈ steps, step.chat? = none := hfetches.chat?_eq_none
  rcases hcourse with
    ⟨item, after, world', hready, hperforms, hnext⟩ |
    ⟨answer, error, world', hready, hfailed, hperforms, hnext⟩
  · have htakes : Takes pages.take services world steps (.ok item) :=
      ⟨congrArg Pages.Taken.result hnext, by rw [Pages.take, hnext]; exact hperforms⟩
    exact ⟨steps, _, htakes.lift, .of_succeeds hsucceeds (by simp [Except.mapError]), hsilent⟩
  · have htakes : Takes pages.take services world (steps ++ [.sent before.request answer])
        (.error error) :=
      ⟨congrArg Pages.Taken.result hnext, by rw [Pages.take, hnext]; exact hperforms⟩
    refine ⟨_, _, htakes.lift,
      .append hsucceeds (.single (Step.failure?_sent_of_error hfailed)), ?_⟩
    intro step hmem
    rcases List.mem_append.1 hmem with hmem | hmem
    · exact hsilent step hmem
    · rw [List.mem_singleton.1 hmem]
      rfl

/-- To learn how many items there are takes a request, unless it is known. -/
theorem direct_askTotal (pages : Pages ρ α) : Direct (liftM pages.askTotal) := by
  unfold Pages.askTotal
  cases pages.total with
  | some total => exact direct_pure (total, pages)
  | none =>
    exact (direct_invoke (.call (Paged.call pages.position 1))).lift_bind fun _ => direct_pure _

theorem direct_countAll (pages : Pages ρ α) : Direct (liftM pages.countAll) :=
  (direct_askTotal pages).lift_bind fun known => direct_pure known.1

end Client

end Messenger
