import Messenger.Wire.Chat
import Messenger.Wire.Message

/-!
# Dialogs

The entries of the list of conversations, and the pages in which the server hands them out.
-/

namespace Messenger.Wire

open Schema (tagged)

/-- A folder of conversations. -/
structure Folder where
  id : Int32
  title : String
deriving DecidableEq, Inhabited

/-- A conversation of the list. -/
structure Dialog where
  pinned : Bool
  unreadMark : Bool
  viewForumAsMessages : Bool
  peer : Peer
  topMessage : Int32
  readInboxMaxId : Int32
  readOutboxMaxId : Int32
  unreadCount : Int32
  unreadMentionsCount : Int32
  unreadReactionsCount : Int32
  pts : Option Int32
  folderId : Option Int32
  ttlPeriod : Option Int32
deriving DecidableEq, Inhabited

/-- A folder that stands in the list like a conversation. -/
structure DialogFolder where
  pinned : Bool
  folder : Folder
  peer : Peer
  topMessage : Int32
  unreadMutedPeersCount : Int32
  unreadUnmutedPeersCount : Int32
  unreadMutedMessagesCount : Int32
  unreadUnmutedMessagesCount : Int32
deriving DecidableEq, Inhabited

/-- An entry of the list. -/
inductive DialogEntry where
  | dialog (dialog : Dialog)
  | folder (folder : DialogFolder)
deriving DecidableEq, Inhabited

/-- The whole list, with the tables for it. -/
structure AllDialogs where
  dialogs : List DialogEntry
  messages : List Message
  chats : List ChatEntry
  users : List UserEntry
deriving Inhabited

/-- A part of a list of `count` entries, with the tables for it. -/
structure DialogsSlice where
  count : Int32
  dialogs : List DialogEntry
  messages : List Message
  chats : List ChatEntry
  users : List UserEntry
deriving Inhabited

/-- What the server answers when it is asked for dialogs. -/
inductive Dialogs where
  | all (dialogs : AllDialogs)
  | slice (slice : DialogsSlice)
  | notModified (count : Int32)
deriving Inhabited

/-- How far the updates have come. -/
structure UpdateState where
  pts : Int32
  qts : Int32
  date : Int32
  seq : Int32
  unreadCount : Int32
deriving DecidableEq, Inhabited

/-- Particular dialogs, with the tables for them. -/
structure PeerDialogs where
  dialogs : List DialogEntry
  messages : List Message
  chats : List ChatEntry
  users : List UserEntry
  state : UpdateState
deriving Inhabited

/-! ## Schemas -/

instance : Schema Folder :=
  .single "Folder" <| .record "Folder" Folder.mk <|
  .field "id" (·.id) <|
  .field "title" (·.title)
  .done

instance : Schema Dialog := .record "Dialog" Dialog.mk <|
  .field "pinned" (·.pinned) <|
  .field "unread_mark" (·.unreadMark) <|
  .field "view_forum_as_messages" (·.viewForumAsMessages) <|
  .field "peer" (·.peer) <|
  .field "top_message" (·.topMessage) <|
  .field "read_inbox_max_id" (·.readInboxMaxId) <|
  .field "read_outbox_max_id" (·.readOutboxMaxId) <|
  .field "unread_count" (·.unreadCount) <|
  .field "unread_mentions_count" (·.unreadMentionsCount) <|
  .field "unread_reactions_count" (·.unreadReactionsCount) <|
  .field "pts" (·.pts) <|
  .field "folder_id" (·.folderId) <|
  .field "ttl_period" (·.ttlPeriod)
  .done

instance : Schema DialogFolder := .record "DialogFolder" DialogFolder.mk <|
  .field "pinned" (·.pinned) <|
  .field "folder" (·.folder) <|
  .field "peer" (·.peer) <|
  .field "top_message" (·.topMessage) <|
  .field "unread_muted_peers_count" (·.unreadMutedPeersCount) <|
  .field "unread_unmuted_peers_count" (·.unreadUnmutedPeersCount) <|
  .field "unread_muted_messages_count" (·.unreadMutedMessagesCount) <|
  .field "unread_unmuted_messages_count" (·.unreadUnmutedMessagesCount)
  .done

instance : Schema DialogEntry := .ofForms
  (fun
    | .dialog dialog => tagged "Dialog" inferInstance dialog
    | .folder folder => tagged "Folder" inferInstance folder)
  [("Dialog", .of inferInstance .dialog),
    ("Folder", .of inferInstance .folder)]

instance : Schema AllDialogs := .record "Dialogs" AllDialogs.mk <|
  .field "dialogs" (·.dialogs) <|
  .field "messages" (·.messages) <|
  .field "chats" (·.chats) <|
  .field "users" (·.users)
  .done

instance : Schema DialogsSlice := .record "DialogsSlice" DialogsSlice.mk <|
  .field "count" (·.count) <|
  .field "dialogs" (·.dialogs) <|
  .field "messages" (·.messages) <|
  .field "chats" (·.chats) <|
  .field "users" (·.users)
  .done

/-- The record that says only how many dialogs there are. -/
@[reducible]
def Dialogs.countRecord : Schema Int32 :=
  .record "DialogsNotModified" id <| .field "count" id .done

instance : Schema Dialogs := .ofForms
  (fun
    | .all dialogs => tagged "Dialogs" inferInstance dialogs
    | .slice slice => tagged "Slice" inferInstance slice
    | .notModified count => tagged "NotModified" Dialogs.countRecord count)
  [("Dialogs", .of inferInstance .all),
    ("Slice", .of inferInstance .slice),
    ("NotModified", .of Dialogs.countRecord .notModified)]

instance : Schema UpdateState :=
  .single "State" <| .record "State" UpdateState.mk <|
  .field "pts" (·.pts) <|
  .field "qts" (·.qts) <|
  .field "date" (·.date) <|
  .field "seq" (·.seq) <|
  .field "unread_count" (·.unreadCount)
  .done

instance : Schema PeerDialogs :=
  .single "Dialogs" <| .record "PeerDialogs" PeerDialogs.mk <|
  .field "dialogs" (·.dialogs) <|
  .field "messages" (·.messages) <|
  .field "chats" (·.chats) <|
  .field "users" (·.users) <|
  .field "state" (·.state)
  .done

end Messenger.Wire
