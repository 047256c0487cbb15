import Messenger.Wire.Chat

/-!
# Privacy rules

What a privacy setting is about (`PrivacyKey`), and the rules that say to whom it applies. The same
ten kinds of rule are sent and received; they differ in how they name users.
-/

namespace Messenger.Wire

open Schema (tagged)

/-- A thing whose visibility the account decides about. -/
inductive PrivacyKey where
  | statusTimestamp
  | chatInvite
  | phoneCall
  | phoneP2P
  | forwards
  | profilePhoto
  | phoneNumber
  | addedByPhone
  | voiceMessages
  | about
  | birthday
deriving DecidableEq, Inhabited

/-- A rule of a privacy setting, with users named by values of `υ`. -/
inductive PrivacyRule (υ : Type) where
  | allowContacts
  | allowAll
  | allowUsers (users : List υ)
  | disallowContacts
  | disallowAll
  | disallowUsers (users : List υ)
  | allowChats (chats : List Int64)
  | disallowChats (chats : List Int64)
  | allowCloseFriends
  | allowPremium
deriving DecidableEq, Inhabited

/-- The rules of a setting as the server answers them, with the tables for them. -/
structure PrivacyRules where
  rules : List (PrivacyRule Int64)
  chats : List ChatEntry
  users : List UserEntry
deriving DecidableEq, Inhabited

/-! ## Schemas -/

instance : Schema PrivacyKey := .ofForms
  (fun
    | .statusTimestamp => .bare "StatusTimestamp"
    | .chatInvite => .bare "ChatInvite"
    | .phoneCall => .bare "PhoneCall"
    | .phoneP2P => .bare "PhoneP2P"
    | .forwards => .bare "Forwards"
    | .profilePhoto => .bare "ProfilePhoto"
    | .phoneNumber => .bare "PhoneNumber"
    | .addedByPhone => .bare "AddedByPhone"
    | .voiceMessages => .bare "VoiceMessages"
    | .about => .bare "About"
    | .birthday => .bare "Birthday")
  [("StatusTimestamp", .bare .statusTimestamp),
    ("ChatInvite", .bare .chatInvite),
    ("PhoneCall", .bare .phoneCall),
    ("PhoneP2P", .bare .phoneP2P),
    ("Forwards", .bare .forwards),
    ("ProfilePhoto", .bare .profilePhoto),
    ("PhoneNumber", .bare .phoneNumber),
    ("AddedByPhone", .bare .addedByPhone),
    ("VoiceMessages", .bare .voiceMessages),
    ("About", .bare .about),
    ("Birthday", .bare .birthday)]

/-- The record of a rule that lists somebody under the key. -/
@[reducible]
def PrivacyRule.listRecord (υ : Type) [Schema υ] (name key : String) : Schema (List υ) :=
  .record name id (.field key id .done)

/-- The schema of the rules, given what the names of their records start with. -/
@[reducible]
def PrivacyRule.schema {υ : Type} [Schema υ] (start : String) : Schema (PrivacyRule υ) := .ofForms
  (fun
    | .allowContacts => .bare "AllowContacts"
    | .allowAll => .bare "AllowAll"
    | .allowUsers users => tagged "AllowUsers" (listRecord υ (start ++ "AllowUsers") "users") users
    | .disallowContacts => .bare "DisallowContacts"
    | .disallowAll => .bare "DisallowAll"
    | .disallowUsers users =>
      tagged "DisallowUsers" (listRecord υ (start ++ "DisallowUsers") "users") users
    | .allowChats chats =>
      tagged "AllowChatParticipants"
        (listRecord Int64 (start ++ "AllowChatParticipants") "chats") chats
    | .disallowChats chats =>
      tagged "DisallowChatParticipants"
        (listRecord Int64 (start ++ "DisallowChatParticipants") "chats") chats
    | .allowCloseFriends => .bare "AllowCloseFriends"
    | .allowPremium => .bare "AllowPremium")
  [("AllowContacts", .bare .allowContacts),
    ("AllowAll", .bare .allowAll),
    ("AllowUsers", .of (listRecord υ (start ++ "AllowUsers") "users") .allowUsers),
    ("DisallowContacts", .bare .disallowContacts),
    ("DisallowAll", .bare .disallowAll),
    ("DisallowUsers", .of (listRecord υ (start ++ "DisallowUsers") "users") .disallowUsers),
    ("AllowChatParticipants",
      .of (listRecord Int64 (start ++ "AllowChatParticipants") "chats") .allowChats),
    ("DisallowChatParticipants",
      .of (listRecord Int64 (start ++ "DisallowChatParticipants") "chats") .disallowChats),
    ("AllowCloseFriends", .bare .allowCloseFriends),
    ("AllowPremium", .bare .allowPremium)]

/-- The rules that a request sends. -/
instance : Schema (PrivacyRule InputUser) := PrivacyRule.schema "InputPrivacyValue"

/-- The rules that the server answers. -/
instance : Schema (PrivacyRule Int64) := PrivacyRule.schema "PrivacyValue"

instance : Schema PrivacyRules :=
  .single "Rules" <| .record "PrivacyRules" PrivacyRules.mk <|
  .field "rules" (·.rules) <|
  .field "chats" (·.chats) <|
  .field "users" (·.users)
  .done

end Messenger.Wire
