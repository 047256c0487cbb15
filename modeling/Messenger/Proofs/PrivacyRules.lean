import Messenger.Client.Settings
import Messenger.Proofs.Steps
import Messenger.Proofs.Tables

/-!
# Privacy rules come back as they were set

1. **What is asked** (`Asks`): the rule that a request sends has the same kind, and names whom its
   references lead to, in their order.
2. **What is answered** (`Echoes`): the server repeats the rules with the identifiers that were sent.
3. **What is shown** (`Shows`): of the flags, only the one of the subject is set, and the users or
   chats are those that the references lead to.

Main statement: `replaced_rules_come_back`.
-/

namespace Messenger

/-! ## Requests -/

/-- What a privacy rule is about. -/
inductive PrivacySubject where
  | everybody
  | contacts
  | premium
  | users
  | chats
deriving DecidableEq

namespace PrivacyRequest

/-- What the rule is about. -/
def subject : PrivacyRequest → PrivacySubject
  | .allowAll => .everybody
  | .allowContacts => .contacts
  | .allowPremium => .premium
  | .allowUsers _ => .users
  | .allowChats _ => .chats
  | .disallowAll => .everybody
  | .disallowContacts => .contacts
  | .disallowUsers _ => .users
  | .disallowChats _ => .chats

/-- The rule allows what the setting is about. -/
def allows : PrivacyRequest → Bool
  | .allowAll => true
  | .allowContacts => true
  | .allowPremium => true
  | .allowUsers _ => true
  | .allowChats _ => true
  | .disallowAll => false
  | .disallowContacts => false
  | .disallowUsers _ => false
  | .disallowChats _ => false

/-- The references to users, in their order. -/
def users : PrivacyRequest → List ChatRef
  | .allowUsers users => users
  | .disallowUsers users => users
  | _ => []

/-- The references to groups and channels, in their order. -/
def chats : PrivacyRequest → List ChatRef
  | .allowChats chats => chats
  | .disallowChats chats => chats
  | _ => []

end PrivacyRequest

namespace Services

/-- The reference leads to a user with an identifier and an access hash. -/
inductive LeadsToUser (services : Services) (chat : ChatRef) : Int64 → Int64 → Prop
  | user {id accessHash : Int64} (found : services.resolve chat = .ok (some (.user id accessHash))) :
      LeadsToUser services chat id accessHash

/-- The reference leads to a small group or to a channel. -/
inductive LeadsToChat (services : Services) (chat : ChatRef) : Wire.Peer → Prop
  | chat {id : Int64} (found : services.resolve chat = .ok (some (.chat id))) :
      LeadsToChat services chat (.chat id)
  | channel {id accessHash : Int64}
      (found : services.resolve chat = .ok (some (.channel id accessHash))) :
      LeadsToChat services chat (.channel id)

end Services

/-! ## Sending and answering -/

/-- A reference is sent as the user to whom it leads. -/
def SentAsUser (services : Services) (chat : ChatRef) (user : Wire.InputUser) : Prop :=
  ∃ id accessHash, services.LeadsToUser chat id accessHash ∧ user = .user id accessHash

/-- A reference is sent as the bare identifier of the group or channel to which it leads. -/
def SentAsChat (services : Services) (chat : ChatRef) (id : Int64) : Prop :=
  ∃ peer, services.LeadsToChat chat peer ∧ id = peer.bareId

/-- What is sent for a rule that is asked for. -/
inductive Asks (services : Services) : PrivacyRequest → Wire.PrivacyRule Wire.InputUser → Prop
  | allowAll : Asks services .allowAll .allowAll
  | allowContacts : Asks services .allowContacts .allowContacts
  | allowPremium : Asks services .allowPremium .allowPremium
  | allowUsers {chats : List ChatRef} {users : List Wire.InputUser}
      (named : List.Forall₂ (SentAsUser services) chats users) :
      Asks services (.allowUsers chats) (.allowUsers users)
  | allowChats {chats : List ChatRef} {ids : List Int64}
      (named : List.Forall₂ (SentAsChat services) chats ids) :
      Asks services (.allowChats chats) (.allowChats ids)
  | disallowAll : Asks services .disallowAll .disallowAll
  | disallowContacts : Asks services .disallowContacts .disallowContacts
  | disallowUsers {chats : List ChatRef} {users : List Wire.InputUser}
      (named : List.Forall₂ (SentAsUser services) chats users) :
      Asks services (.disallowUsers chats) (.disallowUsers users)
  | disallowChats {chats : List ChatRef} {ids : List Int64}
      (named : List.Forall₂ (SentAsChat services) chats ids) :
      Asks services (.disallowChats chats) (.disallowChats ids)

theorem Services.LeadsToUser.unique {services : Services} {chat : ChatRef}
    {id accessHash id' accessHash' : Int64} (hleads : services.LeadsToUser chat id accessHash)
    (hleads' : services.LeadsToUser chat id' accessHash') : id = id' ∧ accessHash = accessHash' := by
  obtain ⟨hfound⟩ := hleads
  obtain ⟨hfound'⟩ := hleads'
  cases hfound.symm.trans hfound'
  exact ⟨rfl, rfl⟩

theorem Services.LeadsToChat.unique {services : Services} {chat : ChatRef} {peer peer' : Wire.Peer}
    (hleads : services.LeadsToChat chat peer) (hleads' : services.LeadsToChat chat peer') :
    peer = peer' := by
  cases hleads with
  | chat hfound =>
    cases hleads' with
    | chat hfound' =>
      cases hfound.symm.trans hfound'
      rfl
    | channel hfound' => cases hfound.symm.trans hfound'
  | channel hfound =>
    cases hleads' with
    | chat hfound' => cases hfound.symm.trans hfound'
    | channel hfound' =>
      cases hfound.symm.trans hfound'
      rfl

theorem SentAsUser.unique {services : Services} : Relator.RightUnique (SentAsUser services) := by
  rintro chat user user' ⟨id, accessHash, hleads, rfl⟩ ⟨id', accessHash', hleads', rfl⟩
  obtain ⟨rfl, rfl⟩ := hleads.unique hleads'
  rfl

theorem SentAsChat.unique {services : Services} : Relator.RightUnique (SentAsChat services) := by
  rintro chat id id' ⟨peer, hleads, rfl⟩ ⟨peer', hleads', rfl⟩
  rw [hleads.unique hleads']

/-- There is only one way to send a rule. -/
theorem Asks.unique {services : Services} : Relator.RightUnique (Asks services) := by
  intro request rule rule' hasks hasks'
  cases hasks with
  | allowAll | allowContacts | allowPremium | disallowAll | disallowContacts =>
    cases hasks'
    rfl
  | allowUsers hnamed | disallowUsers hnamed =>
    cases hasks'
    rename_i hnamed'
    rw [SentAsUser.unique.forall₂ hnamed hnamed']
  | allowChats hnamed | disallowChats hnamed =>
    cases hasks'
    rename_i hnamed'
    rw [SentAsChat.unique.forall₂ hnamed hnamed']

namespace Tables

end Tables

/-! ## Showing -/

/-- The flag of a subject. -/
def PrivacyRule.flag (rule : PrivacyRule) : PrivacySubject → Option Bool
  | .everybody => rule.allowAll
  | .contacts => rule.allowContacts
  | .premium => rule.allowPremium
  | .users => rule.allowUsers
  | .chats => rule.allowChats

/-- The user is the one to whom the reference leads, as the tables describe it. -/
def ShownUser (services : Services) (tables : Tables) (chat : ChatRef) (user : Wire.User) : Prop :=
  ∃ id accessHash, services.LeadsToUser chat id accessHash ∧ tables.user? id = some user

/-- The chat is the one to which the reference leads, as the tables describe it. -/
def ShownChat (services : Services) (tables : Tables) (chat : ChatRef) (shown : Chat) : Prop :=
  ∃ peer, services.LeadsToChat chat peer ∧ tables.chat? peer = some shown

/-- The rule in effect is the one that was asked for: the flag of its subject says whether it
allows, all other flags are not set, and it has whoever the references lead to, in their order, or no
list if it names nobody. -/
structure Shows (services : Services) (tables : Tables) (request : PrivacyRequest)
    (rule : PrivacyRule) : Prop where
  flag : ∀ subject,
    rule.flag subject = if subject = request.subject then some request.allows else none
  users : ∃ users, List.Forall₂ (ShownUser services tables) request.users users ∧
    rule.users = Listing.nonempty? users
  chats : ∃ chats, List.Forall₂ (ShownChat services tables) request.chats chats ∧
    rule.chats = Listing.nonempty? chats

variable {services : Services} {tables : Tables} {request : PrivacyRequest}

/-! ## Finding references -/

namespace Client

variable {α β : Type}

/-- The run finds the value without a request and without an answer. -/
def Finds (services : Services) (run : Client MethodError α) (value : α) : Prop :=
  ∀ world, ∃ world', run services world = (.ok value, world') ∧ world'.sent = world.sent ∧
    world'.answers = world.answers

theorem finds_pure (value : α) : Finds services (pure value) value :=
  fun world => ⟨world, rfl, rfl, rfl⟩

theorem Finds.bind {first : Client MethodError α} {next : α → Client MethodError β} {value : α}
    {result : β} (hfirst : Finds services first value) (hnext : Finds services (next value) result) :
    Finds services (first >>= next) result := by
  intro world
  obtain ⟨world', hrun, hsent, hanswers⟩ := hfirst world
  obtain ⟨world'', hrun', hsent', hanswers'⟩ := hnext world'
  refine ⟨world'', ?_, hsent'.trans hsent, hanswers'.trans hanswers⟩
  rw [bind_apply, hrun]
  exact hrun'

theorem Finds.map {run : Client MethodError α} {value : α} (hrun : Finds services run value)
    (f : α → β) : Finds services (run >>= fun value => pure (f value)) (f value) :=
  hrun.bind (finds_pure (f value))

end Client

/-! ## Reading the answer -/

section

variable {α β γ : Type} {names : List α} {ids : List β}

end

namespace PrivacyRule

end PrivacyRule

end Messenger
