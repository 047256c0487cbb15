import Messenger.Proofs.Methods.Conduct

/-!
# References that a run needs

Many methods are given references to chats, and can do nothing without the peers that these lead to.

1. **Needs** (`Need`): a reference, with what is said to a peer that is of no use.
2. **Bars** (`Barred`): the first reference that is of no use is the end of the run.
3. **Gathering** (`Client.Gathers`): a run that only resolves references, up to the first that is
   barred. The parts of such a run gather one after the other.
4. **Following** (`Client.Follows`): a run that gathers what it needs, and after that is direct.
-/

namespace Messenger

variable {α β : Type}

/-! ## Needs -/

/-- A reference that a method needs. -/
structure Need (α : Type) where
  chat : ChatRef
  /-- How the method ends if the reference leads to a peer that is of no use to it. -/
  refusal? : Wire.InputPeer → Option (Except InvalidArgument α)

namespace Need

/-- Any peer is of use. -/
def any (chat : ChatRef) : Need α := ⟨chat, fun _ => none⟩

/-- Only a user is of use. -/
def user (chat : ChatRef) (reason : InvalidArgument) : Need α where
  chat := chat
  refusal?
    | .self => none
    | .user _ _ => none
    | _ => some (.error reason)

/-- Only a small group or a channel is of use. -/
def group (chat : ChatRef) (reason : InvalidArgument) : Need α where
  chat := chat
  refusal?
    | .chat _ => none
    | .channel _ _ => none
    | _ => some (.error reason)

/-- Only a channel is of use, and to do nothing for anything else is no failure. -/
def channel (chat : ChatRef) : Need Bool where
  chat := chat
  refusal?
    | .channel _ _ => none
    | _ => some (.ok false)

/-- How the reference ends the method, unless it leads to a peer that is of use. -/
def end? (services : Services) (need : Need α) : Option (Except MethodError α) :=
  match services.resolve need.chat with
  | .ok (some peer) => (need.refusal? peer).map (·.mapError .invalidArgument)
  | .ok none => some (.error (.peerNotFound need.chat))
  | .error error => some (.error (.invocation error))

/-- The step in which the reference is resolved. -/
def step (services : Services) (need : Need α) : Step :=
  .resolved need.chat (services.resolve need.chat)

/-- What the trace shows once the reference is resolved. -/
def event (need : Need α) : Event := .resolved need.chat

theorem event_comp_step (services : Services) :
    Step.event ∘ step services = (event : Need α → Event) := rfl

variable {services : Services} {need : Need α}

theorem failure?_step (hmet : need.end? services = none) :
    (need.step services).failure? = none := by
  unfold end? at hmet
  unfold step
  rcases hresolve : services.resolve need.chat with error | _ | peer
  · simp [hresolve] at hmet
  · simp [hresolve] at hmet
  · rfl

/-- A reference that ends the method accounts for the end. -/
theorem accounts_step {result : Except MethodError α} (hbar : need.end? services = some result) :
    Accounts [need.step services] result := by
  unfold end? at hbar
  unfold step
  rcases hresolve : services.resolve need.chat with error | _ | peer
  · rw [hresolve] at hbar
    cases hbar
    exact .single rfl
  · rw [hresolve] at hbar
    cases hbar
    exact .single rfl
  · -- the peer was found, so the method ends by its own judgement
    rw [hresolve] at hbar
    obtain ⟨refusal, -, rfl⟩ := Option.map_eq_some_iff.1 hbar
    refine .of_succeeds (by simp [Step.failure?]) ?_
    intro error
    cases refusal <;> simp [Except.mapError]

end Need

/-! ## Bars -/

/-- The references that are resolved up to the first that ends the method, and how it ends. -/
inductive Barred (services : Services) :
    List (Need α) → List (Need α) → Except MethodError α → Prop
  | intro {earlier later : List (Need α)} {need : Need α} {result : Except MethodError α}
      (met : ∀ other ∈ earlier, other.end? services = none)
      (bar : need.end? services = some result) :
      Barred services (earlier ++ need :: later) (earlier ++ [need]) result

namespace Barred

variable {services : Services} {needs asked : List (Need α)} {result : Except MethodError α}

theorem single {need : Need α} (hbar : need.end? services = some result) :
    Barred services [need] [need] result := by
  have hmet : ∀ other ∈ ([] : List (Need α)), other.end? services = none := by simp
  have hbarred : Barred services ([] ++ need :: []) ([] ++ [need]) result := .intro hmet hbar
  exact hbarred

/-- What would come later does not matter. -/
theorem append (hbarred : Barred services needs asked result) (later : List (Need α)) :
    Barred services (needs ++ later) asked result := by
  obtain ⟨hmet, hbar⟩ := hbarred
  rw [List.append_assoc, List.cons_append]
  exact .intro hmet hbar

/-- References that are of use may come first. -/
theorem prepend {earlier : List (Need α)} (hmet : ∀ need ∈ earlier, need.end? services = none)
    (hbarred : Barred services needs asked result) :
    Barred services (earlier ++ needs) (earlier ++ asked) result := by
  obtain ⟨hothers, hbar⟩ := hbarred
  rw [← List.append_assoc, ← List.append_assoc]
  refine .intro ?_ hbar
  intro other hmem
  rcases List.mem_append.1 hmem with hmem | hmem
  · exact hmet other hmem
  · exact hothers other hmem

theorem accounts (hbarred : Barred services needs asked result) :
    Accounts (asked.map (Need.step services)) result := by
  obtain ⟨hmet, hbar⟩ := hbarred
  rw [List.map_append, List.map_singleton]
  refine .append ?_ (Need.accounts_step hbar)
  intro step hmem
  obtain ⟨other, hother, rfl⟩ := List.mem_map.1 hmem
  exact Need.failure?_step (hmet other hother)

/-- If all references are of use, none bars the run. -/
theorem exists_mem (hbarred : Barred services needs asked result) :
    ∃ need ∈ needs, need.end? services ≠ none := by
  obtain ⟨-, hbar⟩ := hbarred
  exact ⟨_, List.mem_append_right _ List.mem_cons_self, by simp [hbar]⟩

end Barred

namespace Client

variable {γ : Type} {needs later : List (Need α)}

/-- A reference leads to a peer that is of use, to one that is not, or nowhere. -/
theorem takes_need (need : Need α) (services : Services) (world : World) :
    (∃ peer, need.end? services = none ∧ need.refusal? peer = none ∧
        Takes (peerOf need.chat) services world [need.step services] (.ok peer)) ∨
      (∃ peer refusal, need.end? services = some (refusal.mapError MethodError.invalidArgument) ∧
        need.refusal? peer = some refusal ∧
        Takes (peerOf need.chat) services world [need.step services] (.ok peer)) ∨
      ∃ error, need.end? services = some (.error error) ∧
        Takes (peerOf need.chat) services world [need.step services] (.error error) := by
  have hpeer := takes_peerOf need.chat services world
  change Takes _ _ _ [need.step services] _ at hpeer
  rcases hresolve : services.resolve need.chat with error | _ | peer
  · rw [hresolve] at hpeer
    exact Or.inr (Or.inr ⟨.invocation error, by simp [Need.end?, hresolve], hpeer⟩)
  · rw [hresolve] at hpeer
    exact Or.inr (Or.inr ⟨.peerNotFound need.chat, by simp [Need.end?, hresolve], hpeer⟩)
  · rw [hresolve] at hpeer
    cases hrefusal : need.refusal? peer with
    | none => exact Or.inl ⟨peer, by simp [Need.end?, hresolve, hrefusal], hrefusal, hpeer⟩
    | some refusal =>
      exact Or.inr (Or.inl
        ⟨peer, refusal, by simp [Need.end?, hresolve, hrefusal], hrefusal, hpeer⟩)

/-! ## Gathering -/

/-- The run resolves the references in their order, up to the first that is of no use, and does
nothing else; a reference that is of no use makes it fail. -/
def Gathers (run : Client MethodError β) (needs : List (Need α)) : Prop :=
  ∀ services world,
    (∃ value, (∀ need ∈ needs, need.end? services = none) ∧
        Takes run services world (needs.map (Need.step services)) (.ok value)) ∨
      ∃ asked error, Barred services needs asked (.error error) ∧
        Takes run services world (asked.map (Need.step services)) (.error error)

theorem gathers_pure (value : β) : Gathers (pure value) ([] : List (Need α)) := by
  intro services world
  exact Or.inl ⟨value, by simp, takes_pure value services world⟩

/-- What is made of the peer of a single reference. -/
theorem gathers_peer (need : Need α) {next : Wire.InputPeer → Client MethodError β}
    (huse : ∀ peer, need.refusal? peer = none → ∃ value, next peer = pure value)
    (hrefuse : ∀ peer refusal, need.refusal? peer = some refusal →
      ∃ reason, refusal = .error reason ∧ next peer = throw (.invalidArgument reason)) :
    Gathers (peerOf need.chat >>= next) [need] := by
  intro services world
  rcases takes_need need services world with
    ⟨peer, hmet, hrefusal, hpeer⟩ | ⟨peer, refusal, hbar, hrefusal, hpeer⟩ | ⟨error, hbar, hpeer⟩
  · obtain ⟨value, hvalue⟩ := huse peer hrefusal
    refine Or.inl ⟨value, by simpa using hmet, hpeer.bind_nil ?_⟩
    rw [hvalue]
    exact takes_pure value services _
  · obtain ⟨reason, rfl, hreason⟩ := hrefuse peer refusal hrefusal
    refine Or.inr ⟨[need], .invalidArgument reason, .single hbar, hpeer.bind_nil ?_⟩
    rw [hreason]
    exact takes_throw (MethodError.invalidArgument reason) services _
  · exact Or.inr ⟨[need], error, .single hbar, hpeer.bind_error⟩

/-- What is gathered in two parts is gathered in the order of the parts. -/
theorem Gathers.bind {first : Client MethodError β} {next : β → Client MethodError γ}
    (hfirst : Gathers first needs) (hnext : ∀ value, Gathers (next value) later) :
    Gathers (first >>= next) (needs ++ later) := by
  intro services world
  rcases hfirst services world with ⟨value, hmet, htakes⟩ | ⟨asked, error, hbarred, htakes⟩
  · rcases hnext value services (first services world).2 with
      ⟨value', hmet', htakes'⟩ | ⟨asked, error, hbarred, htakes'⟩
    · refine Or.inl ⟨value', ?_, ?_⟩
      · intro need hmem
        rcases List.mem_append.1 hmem with hmem | hmem
        · exact hmet need hmem
        · exact hmet' need hmem
      · rw [List.map_append]
        exact htakes.bind htakes'
    · refine Or.inr ⟨needs ++ asked, error, hbarred.prepend hmet, ?_⟩
      rw [List.map_append]
      exact htakes.bind htakes'
  · exact Or.inr ⟨asked, error, hbarred.append later, htakes.bind_error⟩

theorem Gathers.map {run : Client MethodError β} (hrun : Gathers run needs) (f : β → γ) :
    Gathers (run >>= fun value => pure (f value)) needs := by
  rw [← List.append_nil needs]
  exact hrun.bind fun value => gathers_pure (f value)

/-- References of a list of parts are gathered in the order of the list. -/
theorem Gathers.mapM {part : β → Client MethodError γ} {needsOf : β → List (Need α)}
    (hpart : ∀ value, Gathers (part value) (needsOf value)) (values : List β) :
    Gathers (values.mapM part) (values.flatMap needsOf) := by
  induction values with
  | nil => exact gathers_pure []
  | cons value values ih =>
    rw [List.mapM_cons, List.flatMap_cons]
    exact (hpart value).bind fun made => ih.map (made :: ·)

/-! ## Following -/

/-- The run resolves the references in their order. The first that is of no use ends it; if all are
of use, the run goes on without a further reference. -/
def Follows (run : Client MethodError α) (needs : List (Need α)) : Prop :=
  ∀ services world,
    (∃ asked result, Barred services needs asked result ∧
        Takes run services world (asked.map (Need.step services)) result) ∨
      ∃ later result, (∀ need ∈ needs, need.end? services = none) ∧
        Takes run services world (needs.map (Need.step services) ++ later) result ∧
        Accounts later result ∧ ∀ step ∈ later, step.chat? = none

/-- A direct run needs no reference. -/
theorem Direct.follows {run : Client MethodError α} (hrun : Direct run) : Follows run [] := by
  intro services world
  obtain ⟨steps, result, htakes, haccounts, hsilent⟩ := hrun services world
  exact Or.inr ⟨steps, result, by simp, htakes, haccounts, hsilent⟩

theorem Gathers.follows {run : Client MethodError α} (hrun : Gathers run needs) :
    Follows run needs := by
  intro services world
  rcases hrun services world with ⟨value, hmet, htakes⟩ | ⟨asked, error, hbarred, htakes⟩
  · refine Or.inr ⟨[], .ok value, hmet, ?_, .nil (by simp), by simp⟩
    rw [List.append_nil]
    exact htakes
  · exact Or.inl ⟨asked, .error error, hbarred, htakes⟩

/-- References are gathered, and what is made of them is direct. -/
theorem Gathers.bind_direct {first : Client MethodError β} {next : β → Client MethodError α}
    (hfirst : Gathers first needs) (hnext : ∀ value, Direct (next value)) :
    Follows (first >>= next) needs := by
  intro services world
  rcases hfirst services world with ⟨value, hmet, htakes⟩ | ⟨asked, error, hbarred, htakes⟩
  · obtain ⟨steps, result, htakes', haccounts, hsilent⟩ :=
      hnext value services (first services world).2
    exact Or.inr ⟨steps, result, hmet, htakes.bind htakes', haccounts, hsilent⟩
  · exact Or.inl ⟨asked, .error error, hbarred, htakes.bind_error⟩

end Client

end Messenger
