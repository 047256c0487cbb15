import Mathlib.Data.List.Forall2
import Messenger.Client.Search
import Messenger.Proofs.Tables
import Messenger.Proofs.Unchanged

/-!
# Listings account for every identifier

Privacy rules and search results list identifiers, and tables say what these stand for. Nothing that
is listed is lost without a trace.

1. **Lists** (`Accounted`): each identifier is kept or left out with a warning.
2. **Answers** (`PrivacyRule.Covers`, `SearchResults.Covers`): the listings of an answer are taken one
   after the other.
3. **Logs** (`World.warnings`, `Client.Reports`): the warnings of an answer are logged as they come,
   and nothing else is.

Main statement: `listings_account_for_every_identifier`.
-/

namespace Messenger

variable {ι α β ε : Type} {holds : ι → Option β} {warning : ι → Warning}

/-! ## Lists -/

/-- Each of the listed identifiers either adds what it stands for to the values, or is left out and
adds one warning. The values and the warnings come in the order of the list. -/
inductive Accounted (holds : ι → Option β) (warning : ι → Warning) :
    List ι → List β → List Warning → Prop
  | nil : Accounted holds warning [] [] []
  | kept {id : ι} {value : β} {ids : List ι} {values : List β} {warnings : List Warning}
      (known : holds id = some value) (rest : Accounted holds warning ids values warnings) :
      Accounted holds warning (id :: ids) (value :: values) warnings
  | leftOut {id : ι} {ids : List ι} {values : List β} {warnings : List Warning}
      (unknown : holds id = none) (rest : Accounted holds warning ids values warnings) :
      Accounted holds warning (id :: ids) values (warning id :: warnings)

namespace Accounted

variable {ids : List ι} {values : List β} {warnings : List Warning}

theorem eq_nil_iff (haccounted : Accounted holds warning ids values warnings) :
    values = [] ↔ ∀ id ∈ ids, holds id = none := by
  induction haccounted with
  | nil => simp
  | kept hknown => simp [hknown]
  | leftOut hunknown _ ih => simp [hunknown, ih]

end Accounted

theorem accounted_collect (holds : ι → Option β) (warning : ι → Warning) (ids : List ι) :
    Accounted holds warning ids (Listing.collect holds warning ids).value
      (Listing.collect holds warning ids).warnings := by
  induction ids with
  | nil => exact .nil
  | cons id ids ih =>
    rw [Listing.collect]
    cases hid : holds id with
    | none => exact .leftOut hid ih
    | some value => simpa using Accounted.kept hid ih

/-- What is shown for the listed identifiers: the values that are kept, or nothing exactly if none
of them is. -/
structure Lists (holds : ι → Option β) (warning : ι → Warning) (ids : List ι)
    (shown : Option (List β)) (warnings : List Warning) : Prop where
  accounted : Accounted holds warning ids (shown.getD []) warnings
  missing : shown = none ↔ ∀ id ∈ ids, holds id = none

theorem lists_collect (holds : ι → Option β) (warning : ι → Warning) (ids : List ι) :
    Lists holds warning ids (Listing.nonempty? (Listing.collect holds warning ids).value)
      (Listing.collect holds warning ids).warnings := by
  have haccounted := accounted_collect holds warning ids
  refine ⟨?_, Listing.nonempty?_eq_none_iff.trans haccounted.eq_nil_iff⟩
  rwa [Listing.getD_nonempty?]

/-- Where nothing is listed, nothing is shown and there is nothing to warn about. -/
theorem lists_nil (holds : ι → Option β) (warning : ι → Warning) :
    Lists holds warning [] none [] :=
  ⟨.nil, by simp⟩

/-! ## Answers -/

namespace Tables

/-- The small group with a bare identifier, or else the channel with it, as the tables have them. -/
def bareChat? (tables : Tables) (id : Int64) : Option Chat :=
  (tables.chat? (.chat id)).or (tables.chat? (.channel id))

variable (tables : Tables)

theorem user?_directory_eq : tables.directory.user? = tables.user? :=
  funext tables.user?_directory

theorem chat?_directory_eq : tables.directory.chat? = tables.chat? :=
  funext tables.chat?_directory

theorem bareChat?_directory_eq : tables.directory.bareChat? = tables.bareChat? := by
  funext id
  rw [Directory.bareChat?, Option.orElse_eq_orElse, Option.orElse_eq_or, chat?_directory,
    chat?_directory, bareChat?]

end Tables

namespace Wire.PrivacyRule

/-- The users that the rule lists. -/
def users : PrivacyRule ι → List ι
  | .allowUsers users => users
  | .disallowUsers users => users
  | _ => []

/-- The bare identifiers of the groups and channels that the rule lists. -/
def chats : PrivacyRule ι → List Int64
  | .allowChats chats => chats
  | .disallowChats chats => chats
  | _ => []

end Wire.PrivacyRule

namespace PrivacyRule

/-- What is shown for a rule, with the warnings about it. -/
def Covers (tables : Tables) (raw : Wire.PrivacyRule Int64) (shown : PrivacyRule)
    (warnings : List Warning) : Prop :=
  ∃ ofUsers ofChats, warnings = ofUsers ++ ofChats ∧
    Lists tables.user? .ruleOfUnknownUser raw.users shown.users ofUsers ∧
    Lists tables.bareChat? .ruleOfUnknownChat raw.chats shown.chats ofChats

/-- What is shown for the rules of an answer: one rule for each, the warnings in their order. -/
def CoversAll (answer : Wire.PrivacyRules) (shown : List PrivacyRule) (warnings : List Warning) :
    Prop :=
  ∃ parts : List (PrivacyRule × List Warning),
    List.Forall₂ (fun raw part => Covers ⟨answer.users, answer.chats⟩ raw part.1 part.2)
        answer.rules parts ∧
      shown = parts.map Prod.fst ∧ warnings = parts.flatMap Prod.snd

theorem CoversAll.length_eq {answer : Wire.PrivacyRules} {shown : List PrivacyRule}
    {warnings : List Warning} (hcovers : CoversAll answer shown warnings) :
    shown.length = answer.rules.length := by
  obtain ⟨parts, hparts, rfl, -⟩ := hcovers
  rw [List.length_map, hparts.length_eq]

variable (tables : Tables)

theorem covers_ofUsers (allow : Bool) {raw : Wire.PrivacyRule Int64} (hchats : raw.chats = []) :
    let rule := ofUsers tables.directory allow raw.users
    Covers tables raw rule.value rule.warnings := by
  refine ⟨_, [], rfl, ?_, ?_⟩
  · rw [← tables.user?_directory_eq]
    exact lists_collect tables.directory.user? .ruleOfUnknownUser raw.users
  · rw [hchats]
    exact lists_nil _ _

theorem covers_ofChats (allow : Bool) {raw : Wire.PrivacyRule Int64} (husers : raw.users = []) :
    let rule := ofChats tables.directory allow raw.chats
    Covers tables raw rule.value rule.warnings := by
  refine ⟨[], _, List.append_nil _, ?_, ?_⟩
  · rw [husers]
    exact lists_nil _ _
  · rw [← tables.bareChat?_directory_eq]
    exact lists_collect tables.directory.bareChat? .ruleOfUnknownChat raw.chats

theorem covers_ofRaw (raw : Wire.PrivacyRule Int64) :
    Covers tables raw (ofRaw tables.directory raw).value (ofRaw tables.directory raw).warnings := by
  cases raw with
  | allowUsers => exact covers_ofUsers tables true rfl
  | disallowUsers => exact covers_ofUsers tables false rfl
  | allowChats => exact covers_ofChats tables true rfl
  | disallowChats => exact covers_ofChats tables false rfl
  | _ => exact ⟨[], [], rfl, lists_nil _ _, lists_nil _ _⟩

theorem coversAll_ofAnswer (answer : Wire.PrivacyRules) :
    CoversAll answer (ofAnswer answer).value (ofAnswer answer).warnings := by
  let directory := (Tables.mk answer.users answer.chats).directory
  refine ⟨answer.rules.map fun raw => ((ofRaw directory raw).value, (ofRaw directory raw).warnings),
    ?_, ?_, ?_⟩
  · rw [List.forall₂_map_right_iff, List.forall₂_same]
    exact fun raw _ => covers_ofRaw _ raw
  · rw [ofAnswer, Warned.value_mapM, List.map_map]
    rfl
  · rw [ofAnswer, Warned.warnings_mapM, List.flatMap_map]
    rfl

end PrivacyRule

namespace SearchResults

/-- What is shown for the two listings of a search, with the warnings about them. -/
def Covers (raw : Wire.Found) (shown : SearchResults) (warnings : List Warning) : Prop :=
  let tables : Tables := ⟨raw.users, raw.chats⟩
  ∃ ofKnown ofEverywhere, warnings = ofKnown ++ ofEverywhere ∧
    Lists tables.chat? .resultOfUnknown raw.myResults shown.known ofKnown ∧
    Lists tables.chat? .resultOfUnknown raw.results shown.everywhere ofEverywhere

theorem covers_ofRaw (raw : Wire.Found) :
    Covers raw (ofRaw raw).value (ofRaw raw).warnings := by
  let tables : Tables := ⟨raw.users, raw.chats⟩
  have hlists := lists_collect tables.directory.chat? .resultOfUnknown
  refine ⟨_, _, congrArg (_ ++ ·) (List.append_nil _), ?_, ?_⟩
  · rw [← tables.chat?_directory_eq]
    exact hlists raw.myResults
  · rw [← tables.chat?_directory_eq]
    exact hlists raw.results

end SearchResults

/-! ## Logs -/

/-- The warning, if the event is one. -/
def Event.warning? : Event → Option Warning
  | .warned warning => some warning
  | _ => none

/-- The warnings that were logged, in their order. -/
def World.warnings (world : World) : List Warning :=
  world.trace.filterMap Event.warning?

/-- What of a world is as before when references were resolved and nothing else was done. -/
def World.exchange (world : World) : List Wire.Request × List Answer × List Warning :=
  (world.sent, world.answers, world.warnings)

namespace Client

theorem warnings_warned (value : Warned α) (services : Services) (world : World) :
    ((warned value : Client ε α) services world).2.warnings = world.warnings ++ value.warnings := by
  have hlogged : (value.warnings.map Event.warned).filterMap Event.warning? = value.warnings := by
    rw [List.filterMap_map]
    exact List.filterMap_some
  rw [warned_apply, World.warnings, List.filterMap_append, hlogged]
  rfl

theorem keepsWarnings_invoke (request : Wire.Request) :
    Keeps World.warnings (invoke request) := by
  intro services world
  simp [invoke_apply, World.warnings, Event.warning?]

theorem keepsExchange_peerOf (chat : ChatRef) : Keeps World.exchange (peerOf chat) := by
  intro services world
  simp [peerOf_apply, World.exchange, World.sent, World.warnings, Event.request?, Event.warning?]

theorem result_invoke_of_answer (request : Wire.Request) (services : Services) {world : World}
    {value : request.returns.Value}
    (hanswer : world.answers.head? = some (.ok ⟨request.returns, value⟩)) :
    (invoke request services world).1 = .ok value := by
  rw [invoke_apply, hanswer]
  exact receive_eq_ok_iff.2 rfl

variable {services : Services} {world : World} {kind : Wire.ResponseKind}
  {Covers : kind.Value → α → List Warning → Prop}

/-- If the next answer is of the kind, then the run ends with a value that covers it, and logs the
warnings about it and no others. -/
def Reports (run : Client ε α) (services : Services) (world : World) (kind : Wire.ResponseKind)
    (Covers : kind.Value → α → List Warning → Prop) : Prop :=
  ∀ answer, world.answers.head? = some (.ok ⟨kind, answer⟩) →
    ∃ value warnings, Covers answer value warnings ∧ (run services world).1 = .ok value ∧
      (run services world).2.warnings = world.warnings ++ warnings

/-- An answer is reported by the warnings about what is shown for it. -/
theorem reports_warned {first : Client ε kind.Value} {view : kind.Value → Warned α}
    (hkeeps : Keeps World.warnings first)
    (hfirst : ∀ answer, world.answers.head? = some (.ok ⟨kind, answer⟩) →
      (first services world).1 = .ok answer)
    (hcovers : ∀ answer, Covers answer (view answer).value (view answer).warnings) :
    Reports (first >>= fun answer => warned (view answer)) services world kind Covers := by
  intro answer hanswer
  refine ⟨_, _, hcovers answer, ?_⟩
  have hresult := hfirst answer hanswer
  have hwarnings := hkeeps services world
  rw [bind_apply]
  generalize first services world = ran at hresult hwarnings
  rcases ran with ⟨outcome, world'⟩
  obtain rfl : outcome = .ok answer := hresult
  exact ⟨rfl, (warnings_warned _ services world').trans (congrArg (· ++ _) hwarnings)⟩

theorem reports_run (call : Wire.Call) {view : call.returns.Value → Warned α}
    {Covers : call.returns.Value → α → List Warning → Prop}
    (hcovers : ∀ answer, Covers answer (view answer).value (view answer).warnings) :
    Reports (run call >>= fun answer => warned (view answer)) services world call.returns Covers :=
  reports_warned (keepsWarnings_invoke (.call call))
    (fun _ => result_invoke_of_answer (.call call) services) hcovers

/-- References may be resolved first. If that fails, nothing is sent. -/
theorem Reports.after {first : Client ε β} {next : β → Client ε α}
    (hfirst : Keeps World.exchange first)
    (hnext : ∀ value world, Reports (next value) services world kind Covers) :
    ((first >>= next) services world).2.sent = world.sent ∨
      Reports (first >>= next) services world kind Covers := by
  have hkept := hfirst services world
  rw [Reports, bind_apply]
  generalize first services world = ran at hkept
  rcases ran with ⟨error | value, world'⟩
  · exact Or.inl (congrArg Prod.fst hkept)
  · simp only [World.exchange, Prod.mk.injEq] at hkept
    obtain ⟨-, hanswers, hwarnings⟩ := hkept
    refine Or.inr fun answer hanswer => ?_
    rw [← hanswers] at hanswer
    rw [← hwarnings]
    exact hnext value world' answer hanswer

end Client

/-! ## Main statement -/

/-- Whatever rules or peers an answer lists, known or not and however often, and whatever its tables
are: once the answer to a request for the rules of a setting comes, there is one rule for each rule of
the answer, and each listed identifier adds what the tables hold for it, at its place, or is left out
and adds one warning that names it, at its place among the warnings. The list of a rule is missing
exactly if nothing that it lists is known. The same holds when rules are replaced, unless a reference
of theirs is refused and nothing is sent, and of the two listings of a search. -/
theorem listings_account_for_every_identifier (services : Services) (world : World) :
    (∀ key, Client.Reports (Client.privacy key) services world .privacyRules
        fun answer rules warnings =>
          rules.length = answer.rules.length ∧ PrivacyRule.CoversAll answer rules warnings) ∧
      (∀ key requests, let replacing := Client.replacePrivacy key requests
        (replacing services world).2.sent = world.sent ∨
          Client.Reports replacing services world .privacyRules fun answer rules warnings =>
            rules.length = answer.rules.length ∧ PrivacyRule.CoversAll answer rules warnings) ∧
      ∀ query limit, Client.Reports (Client.search query limit) services world .found
        SearchResults.Covers := by
  have hcovers : ∀ answer, (PrivacyRule.ofAnswer answer).value.length = answer.rules.length ∧
      PrivacyRule.CoversAll answer (PrivacyRule.ofAnswer answer).value
        (PrivacyRule.ofAnswer answer).warnings := fun answer =>
    ⟨(PrivacyRule.coversAll_ofAnswer answer).length_eq, PrivacyRule.coversAll_ofAnswer answer⟩
  refine ⟨fun key => ?_, fun key requests => ?_, fun query limit => ?_⟩
  · exact Client.reports_run (.getPrivacy key) hcovers
  · refine Client.Reports.after (Client.Keeps.mapM _ ?_ requests) fun rules world' => ?_
    · exact Client.keeps_ruleOf Client.keepsExchange_peerOf
    · refine Client.reports_warned (Client.Keeps.lift _ (Client.keepsWarnings_invoke _)) ?_ hcovers
      intro answer hanswer
      rw [Client.lift_apply]
      exact congrArg (Except.mapError _)
        (Client.result_invoke_of_answer (.call (.setPrivacy key rules)) services hanswer)
  · exact Client.reports_run (.searchContacts query (Client.searchLimit limit))
      SearchResults.covers_ofRaw

end Messenger
