import Messenger.Wire.Peer

/-!
# Users and chats

The entries of the tables that a response carries, so that the peers it mentions can be shown.
There are two tables: one of users (`UserEntry`), one of small groups and channels (`ChatEntry`).
-/

namespace Messenger.Wire

open Schema (tagged)

/-- A user account. -/
structure User where
  isSelf : Bool
  contact : Bool
  mutualContact : Bool
  deleted : Bool
  bot : Bool
  verified : Bool
  restricted : Bool
  scam : Bool
  fake : Bool
  premium : Bool
  id : Int64
  accessHash : Option Int64
  firstName : Option String
  lastName : Option String
  username : Option String
  phone : Option String
  langCode : Option String
deriving DecidableEq, Inhabited

/-- An entry of a table of users. -/
inductive UserEntry where
  /-- A user of whom only the identifier is known. -/
  | empty (id : Int64)
  | user (user : User)
deriving DecidableEq, Inhabited

/-- A small group. -/
structure Group where
  creator : Bool
  left : Bool
  deactivated : Bool
  noforwards : Bool
  id : Int64
  title : String
  participantsCount : Int32
  date : Int32
  version : Int32
deriving DecidableEq, Inhabited

/-- A small group that the account may not see any more. -/
structure ForbiddenGroup where
  id : Int64
  title : String
deriving DecidableEq, Inhabited

/-- A channel: a broadcast or a large group. -/
structure Channel where
  creator : Bool
  left : Bool
  broadcast : Bool
  verified : Bool
  megagroup : Bool
  restricted : Bool
  scam : Bool
  fake : Bool
  gigagroup : Bool
  noforwards : Bool
  forum : Bool
  id : Int64
  accessHash : Option Int64
  title : String
  username : Option String
  date : Int32
  participantsCount : Option Int32
deriving DecidableEq, Inhabited

/-- A channel that the account may not see any more. -/
structure ForbiddenChannel where
  broadcast : Bool
  megagroup : Bool
  id : Int64
  accessHash : Int64
  title : String
  untilDate : Option Int32
deriving DecidableEq, Inhabited

/-- An entry of a table of chats. -/
inductive ChatEntry where
  /-- A small group of which only the identifier is known. -/
  | empty (id : Int64)
  | group (group : Group)
  | forbiddenGroup (group : ForbiddenGroup)
  | channel (channel : Channel)
  | forbiddenChannel (channel : ForbiddenChannel)
deriving DecidableEq, Inhabited

/-! ## Schemas -/

instance : Schema User := .record "User" User.mk <|
  .field "is_self" (·.isSelf) <|
  .field "contact" (·.contact) <|
  .field "mutual_contact" (·.mutualContact) <|
  .field "deleted" (·.deleted) <|
  .field "bot" (·.bot) <|
  .field "verified" (·.verified) <|
  .field "restricted" (·.restricted) <|
  .field "scam" (·.scam) <|
  .field "fake" (·.fake) <|
  .field "premium" (·.premium) <|
  .field "id" (·.id) <|
  .field "access_hash" (·.accessHash) <|
  .field "first_name" (·.firstName) <|
  .field "last_name" (·.lastName) <|
  .field "username" (·.username) <|
  .field "phone" (·.phone) <|
  .field "lang_code" (·.langCode)
  .done

instance : Schema UserEntry := .ofForms
  (fun
    | .empty id => tagged "Empty" (idRecord "UserEmpty" "id") id
    | .user user => tagged "User" inferInstance user)
  [("Empty", .of (idRecord "UserEmpty" "id") .empty),
    ("User", .of inferInstance .user)]

instance : Schema Group := .record "Chat" Group.mk <|
  .field "creator" (·.creator) <|
  .field "left" (·.left) <|
  .field "deactivated" (·.deactivated) <|
  .field "noforwards" (·.noforwards) <|
  .field "id" (·.id) <|
  .field "title" (·.title) <|
  .field "participants_count" (·.participantsCount) <|
  .field "date" (·.date) <|
  .field "version" (·.version)
  .done

instance : Schema ForbiddenGroup := .record "ChatForbidden" ForbiddenGroup.mk <|
  .field "id" (·.id) <|
  .field "title" (·.title)
  .done

instance : Schema Channel := .record "Channel" Channel.mk <|
  .field "creator" (·.creator) <|
  .field "left" (·.left) <|
  .field "broadcast" (·.broadcast) <|
  .field "verified" (·.verified) <|
  .field "megagroup" (·.megagroup) <|
  .field "restricted" (·.restricted) <|
  .field "scam" (·.scam) <|
  .field "fake" (·.fake) <|
  .field "gigagroup" (·.gigagroup) <|
  .field "noforwards" (·.noforwards) <|
  .field "forum" (·.forum) <|
  .field "id" (·.id) <|
  .field "access_hash" (·.accessHash) <|
  .field "title" (·.title) <|
  .field "username" (·.username) <|
  .field "date" (·.date) <|
  .field "participants_count" (·.participantsCount)
  .done

instance : Schema ForbiddenChannel := .record "ChannelForbidden" ForbiddenChannel.mk <|
  .field "broadcast" (·.broadcast) <|
  .field "megagroup" (·.megagroup) <|
  .field "id" (·.id) <|
  .field "access_hash" (·.accessHash) <|
  .field "title" (·.title) <|
  .field "until_date" (·.untilDate)
  .done

instance : Schema ChatEntry := .ofForms
  (fun
    | .empty id => tagged "Empty" (idRecord "ChatEmpty" "id") id
    | .group group => tagged "Chat" inferInstance group
    | .forbiddenGroup group => tagged "Forbidden" inferInstance group
    | .channel channel => tagged "Channel" inferInstance channel
    | .forbiddenChannel channel => tagged "ChannelForbidden" inferInstance channel)
  [("Empty", .of (idRecord "ChatEmpty" "id") .empty),
    ("Chat", .of inferInstance .group),
    ("Forbidden", .of inferInstance .forbiddenGroup),
    ("Channel", .of inferInstance .channel),
    ("ChannelForbidden", .of inferInstance .forbiddenChannel)]

end Messenger.Wire
