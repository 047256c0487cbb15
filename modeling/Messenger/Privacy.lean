import Messenger.ChatRef
import Messenger.Directory
import Messenger.Listing
import Messenger.Wire.Privacy

/-!
# Privacy rules

A rule says of some people whether a setting of the account applies to them. `PrivacyRequest` is a
rule that is to be set, and names people by references; `PrivacyRule` is a rule that is in effect, and
shows them.
-/

namespace Messenger

/-- A rule to be set. -/
inductive PrivacyRequest where
  | allowAll
  | allowContacts
  | allowPremium
  | allowUsers (users : List ChatRef)
  /-- The members of the groups are allowed. -/
  | allowChats (chats : List ChatRef)
  | disallowAll
  | disallowContacts
  | disallowUsers (users : List ChatRef)
  /-- The members of the groups are not allowed. -/
  | disallowChats (chats : List ChatRef)
deriving DecidableEq, Inhabited

/-- A rule in effect. Of the flags, the one that the rule is about says whether it allows. -/
structure PrivacyRule where
  allowAll : Option Bool
  allowChats : Option Bool
  allowContacts : Option Bool
  allowPremium : Option Bool
  allowUsers : Option Bool
  /-- The users whom a rule about users names, as far as they are known. -/
  users : Option (List Wire.User)
  /-- The chats that a rule about chats names, as far as they are known. -/
  chats : Option (List Chat)
deriving DecidableEq, Inhabited

namespace PrivacyRule

/-- A rule about nobody. -/
def none : PrivacyRule where
  allowAll := .none
  allowChats := .none
  allowContacts := .none
  allowPremium := .none
  allowUsers := .none
  users := .none
  chats := .none

/-- A rule about users. -/
def ofUsers (directory : Directory) (allow : Bool) (ids : List Int64) : Warned PrivacyRule := do
  let users ← Listing.collect directory.user? .ruleOfUnknownUser ids
  pure { none with allowUsers := some allow, users := Listing.nonempty? users }

/-- A rule about the members of chats. -/
def ofChats (directory : Directory) (allow : Bool) (ids : List Int64) : Warned PrivacyRule := do
  let chats ← Listing.collect directory.bareChat? .ruleOfUnknownChat ids
  pure { none with allowChats := some allow, chats := Listing.nonempty? chats }

/-- The rule that the server sent. -/
def ofRaw (directory : Directory) : Wire.PrivacyRule Int64 → Warned PrivacyRule
  | .allowAll => pure { none with allowAll := some true }
  | .disallowAll => pure { none with allowAll := some false }
  | .allowContacts => pure { none with allowContacts := some true }
  | .disallowContacts => pure { none with allowContacts := some false }
  | .allowPremium => pure { none with allowPremium := some true }
  | .allowUsers ids => ofUsers directory true ids
  | .disallowUsers ids => ofUsers directory false ids
  | .allowChats ids => ofChats directory true ids
  | .disallowChats ids => ofChats directory false ids
  | .allowCloseFriends => pure none

/-- The rules of an answer, in its order. -/
def ofAnswer (answer : Wire.PrivacyRules) : Warned (List PrivacyRule) :=
  answer.rules.mapM (ofRaw (.ofTables answer.users answer.chats))

end PrivacyRule

end Messenger
