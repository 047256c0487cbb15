import Messenger.Client
import Messenger.Privacy

/-!
# Settings of the account

Who may see what, when the account is deleted for want of use, and which channel its profile shows.
-/

namespace Messenger.Client

/-! ## Privacy -/

/-- The rules of an answer, once the warnings about them are noted. -/
def privacyRules {ε : Type} (answer : Wire.PrivacyRules) : Client ε (List PrivacyRule) :=
  warned (PrivacyRule.ofAnswer answer)

/-- The rules in effect for a setting. -/
def privacy (key : Wire.PrivacyKey) : Client CallError (List PrivacyRule) := do
  let answer ← run (.getPrivacy key)
  privacyRules answer

/-- The user that a reference of a rule leads to. -/
def ruleUser (chat : ChatRef) : Client MethodError Wire.InputUser := do
  let peer ← peerOf chat
  match peer.user? with
  | some user => pure user
  | none => throw (.invalidArgument (.notUser chat))

/-- The bare identifier of the group that a reference of a rule leads to. -/
def ruleChat (chat : ChatRef) : Client MethodError Int64 := do
  let peer ← peerOf chat
  match peer.bareChatId? with
  | some id => pure id
  | none => throw (.invalidArgument (.notGroup chat))

/-- The rule as a request sends it. -/
def ruleOf : PrivacyRequest → Client MethodError (Wire.PrivacyRule Wire.InputUser)
  | .allowAll => pure .allowAll
  | .allowContacts => pure .allowContacts
  | .allowPremium => pure .allowPremium
  | .disallowAll => pure .disallowAll
  | .disallowContacts => pure .disallowContacts
  | .allowUsers users => return .allowUsers (← users.mapM ruleUser)
  | .disallowUsers users => return .disallowUsers (← users.mapM ruleUser)
  | .allowChats chats => return .allowChats (← chats.mapM ruleChat)
  | .disallowChats chats => return .disallowChats (← chats.mapM ruleChat)

/-- Replaces the rules of a setting; the result is the rules then in effect. All references are
resolved, in their order, before anything is sent. -/
def replacePrivacy (key : Wire.PrivacyKey) (rules : List PrivacyRequest) :
    Client MethodError (List PrivacyRule) := do
  let rules ← rules.mapM ruleOf
  let answer ← run (.setPrivacy key rules)
  privacyRules answer

/-! ## Deletion -/

/-- After how many days without use the account is deleted. -/
def accountLifetime : Client CallError Int32 := do
  let ttl : Wire.AccountDaysTtl ← run .getAccountTtl
  pure ttl.days

/-- Sets after how many days without use the account is deleted. -/
def setAccountLifetime (days : Int32) : Client CallError Bool :=
  run (.setAccountTtl ⟨days⟩)

/-! ## Profile -/

/-- Shows a channel on the profile, or none. Nothing is sent if the chat is not a channel. -/
def setProfileChannel (chat : Option ChatRef) : Client MethodError Bool := do
  match chat with
  | none => run (.updatePersonalChannel .empty)
  | some chat =>
    let peer ← peerOf chat
    match peer.channel? with
    | some channel => run (.updatePersonalChannel channel)
    | none =>
      record (.warned (.notChannel peer))
      pure false

end Messenger.Client
