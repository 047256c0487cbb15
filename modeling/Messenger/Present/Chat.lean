import Messenger.Chat
import Messenger.Date
import Messenger.SearchResults
import Messenger.Privacy

/-!
# Chats as documents

How references, users and chats are presented to programs that do not know the library, and what
lists them: rules in effect and the results of a search. A user or chat is shown with what the
library says about it and, under `raw`, with all that the server sent.
-/

namespace Messenger

open Json (orNull each)
open Schema (write)

/-- The document of a date: its seconds. -/
def Date.present (date : Date) : Json :=
  .integer date.seconds.toInt

namespace ChatRef

/-- The kind of the reference and what it carries. -/
def parts : ChatRef → String × Json
  | .id marked => ("Id", write marked)
  | .username name => ("Username", .str name)
  | .phone digits => ("PhoneNumber", .str digits)
  | .me => ("Me", .null)

/-- The document of a reference. -/
def present (chat : ChatRef) : Json :=
  .obj [("variant", .str chat.parts.1), ("value", chat.parts.2), ("display", .str chat.text)]

end ChatRef

namespace Wire.User

/-- What the document of a user holds. -/
def members (user : User) : List (String × Json) :=
  [("type", .str "User"),
    ("id", write user.id),
    ("first_name", .str user.givenName),
    ("last_name", write user.lastName),
    ("full_name", .str user.fullName),
    ("username", write user.username),
    ("phone", write user.phone),
    ("is_self", .bool user.isSelf),
    ("is_bot", .bool user.bot),
    ("is_deleted", .bool user.deleted),
    ("is_premium", .bool user.premium),
    ("chat_ref", .str user.chatRef.text),
    ("raw", write user)]

/-- The document of a user. -/
def present (user : User) : Json :=
  .obj user.members

end Wire.User

namespace Chat

/-- What the document of a chat holds that depends on the kind of the chat. -/
def members : Chat → List (String × Json)
  | .user raw => raw.members
  | .group raw =>
    [("type", .str "Group"),
      ("id", write raw.peer.markedId),
      ("title", .str raw.title),
      ("is_megagroup", .bool raw.isMegagroup),
      ("chat_ref", .str (chatRef (.group raw)).text),
      ("raw", write raw)]
  | .channel raw =>
    [("type", .str "Channel"),
      ("id", write raw.peer.markedId),
      ("title", .str raw.title),
      ("username", write raw.username),
      ("chat_ref", .str (chatRef (.channel raw)).text),
      ("raw", write raw)]

/-- The document of a chat. -/
def present (chat : Chat) : Json :=
  .obj (("chat_id", write chat.id) :: ("name", .str chat.name) :: chat.members)

end Chat

/-- The document of a rule in effect. -/
def PrivacyRule.present (rule : PrivacyRule) : Json :=
  .obj [("allow_all", write rule.allowAll),
    ("allow_chats", write rule.allowChats),
    ("allow_contacts", write rule.allowContacts),
    ("allow_premium", write rule.allowPremium),
    ("allow_users", write rule.allowUsers),
    ("users", orNull (each Wire.User.present) rule.users),
    ("chats", orNull (each Chat.present) rule.chats)]

/-- The document of what a search found. -/
def SearchResults.present (found : SearchResults) : Json :=
  .obj [("my_results", orNull (each Chat.present) found.known),
    ("global_results", orNull (each Chat.present) found.everywhere)]

end Messenger
