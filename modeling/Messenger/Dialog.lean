import Messenger.Message
import Messenger.Paging
import Messenger.Wire.Dialog

/-!
# Dialogs

A dialog is a conversation in the list of the account, with its chat and the message on top of it.
The list comes in pages:

1. **Messages** (`TopMessages`): a page brings the messages on top of its dialogs; each is handed out
   once.
2. **Entries** (`Dialog.ofEntries`): a dialog whose chat the page does not describe is left out, with
   a warning. Folders group other dialogs and have no chat of their own.
3. **Positions** (`DialogPosition.after`): the next page starts after the last dialog of the page,
   even if that is left out.
-/

namespace Messenger

/-! ## Messages -/

/-- The messages of a page that have not been handed out. -/
structure TopMessages where
  messages : List Message
deriving Inhabited

namespace TopMessages

/-- A message without content is on top of nothing. -/
def isShown : Wire.Message → Bool
  | .empty _ => false
  | _ => true

/-- The messages of a page. -/
def ofPage (messages : List Wire.Message) (directory : Directory) : TopMessages :=
  ⟨(messages.filter isShown).map (Message.ofRaw · directory)⟩

/-- The message of the conversation with a peer; of several, the last one. -/
def message? (table : TopMessages) (peer : Wire.Peer) : Option Message :=
  table.messages.reverse.find? (·.raw.peer? = some peer)

/-- What is left once the message of the conversation is handed out. -/
def erase (table : TopMessages) (peer : Wire.Peer) : TopMessages :=
  ⟨table.messages.filter (·.raw.peer? ≠ some peer)⟩

end TopMessages

/-! ## Dialogs -/

/-- A conversation in the list of the account. -/
structure Dialog where
  chat : Chat
  /-- The last message of the conversation. -/
  topMessage : Option Message
  unreadMessagesCount : Int32
  unreadMentionsCount : Int32
  unreadReactionsCount : Int32
  /-- The account marked the dialog as unread. -/
  unreadMark : Bool
  isPinned : Bool
  folderId : Option Int32
  /-- After how many seconds messages are deleted. -/
  ttlPeriod : Option Int32
  raw : Wire.Dialog
deriving Inhabited

namespace Dialog

/-- The dialog that the server sent, in the given chat. -/
def ofRaw (raw : Wire.Dialog) (chat : Chat) (topMessage : Option Message) : Dialog where
  chat := chat
  topMessage := topMessage
  unreadMessagesCount := raw.unreadCount
  unreadMentionsCount := raw.unreadMentionsCount
  unreadReactionsCount := raw.unreadReactionsCount
  unreadMark := raw.unreadMark
  isPinned := raw.pinned
  folderId := raw.folderId
  ttlPeriod := raw.ttlPeriod
  raw := raw

/-- The dialogs of a page, each with its message. -/
def ofEntries (directory : Directory) : List Wire.Dialog → TopMessages → Warned (List Dialog)
  | [], _ => pure []
  | raw :: rest, messages =>
    match directory.chat? raw.peer with
    | some chat => do
      let others ← ofEntries directory rest (messages.erase raw.peer)
      pure (ofRaw raw chat (messages.message? raw.peer) :: others)
    | none => do
      Warned.warn (.dialogOfUnknown raw.peer)
      ofEntries directory rest messages

end Dialog

namespace Wire.DialogEntry

/-- The dialog of an entry, if it is not a folder. -/
def dialog? : DialogEntry → Option Wire.Dialog
  | .dialog raw => some raw
  | .folder _ => none

end Wire.DialogEntry

/-! ## Positions -/

/-- A place in the list of dialogs: behind what the offsets say, in a folder or in all of them. -/
structure DialogPosition where
  excludePinned : Bool
  folderId : Option Int32
  offsetDate : Int32
  offsetId : Int32
  offsetPeer : Wire.InputPeer
deriving DecidableEq, Inhabited

namespace DialogPosition

/-- The folder of the archive, or the main one. -/
def folder (fromArchive : Bool) : Int32 :=
  if fromArchive then 1 else 0

/-- The start of the list: of the archive, of the main folder, or of all folders. -/
def start (fromArchive : Option Bool) : DialogPosition where
  excludePinned := false
  folderId := fromArchive.map folder
  offsetDate := 0
  offsetId := 0
  offsetPeer := .empty

/-- The call for the page at the position. -/
def call (position : DialogPosition) (limit : Int32) : Wire.Call :=
  .getDialogs {
    excludePinned := position.excludePinned
    folderId := position.folderId
    offsetDate := position.offsetDate
    offsetId := position.offsetId
    offsetPeer := position.offsetPeer
    limit := limit
    hash := 0 }

/-- The place behind a dialog. Pinned dialogs come only with the first page. The date stays as it
was if the message of the dialog did not come with it. -/
def after (position : DialogPosition) (last : Wire.Dialog) (messages : TopMessages)
    (directory : Directory) : DialogPosition where
  excludePinned := true
  folderId := position.folderId
  offsetDate := (messages.message? last.peer).elim position.offsetDate (·.raw.timestamp)
  offsetId := last.topMessage
  offsetPeer := (directory.chat? last.peer).elim last.peer.ambient Chat.inputPeer

end DialogPosition

/-! ## Pages -/

namespace Wire.Dialogs

/-- The entries that came. -/
def entries : Dialogs → List DialogEntry
  | .all answer => answer.dialogs
  | .slice answer => answer.dialogs
  | .notModified _ => []

/-- The messages that came. -/
def messages : Dialogs → List Message
  | .all answer => answer.messages
  | .slice answer => answer.messages
  | .notModified _ => []

/-- The directory of what came. -/
def directory : Dialogs → Directory
  | .all answer => .ofTables answer.users answer.chats
  | .slice answer => .ofTables answer.users answer.chats
  | .notModified _ => .empty

/-- How many dialogs there are in all. -/
def count : Dialogs → UInt64
  | .all answer => .ofNat answer.dialogs.length
  | .slice answer => answer.count.toInt64.toUInt64
  | .notModified count => count.toInt64.toUInt64

/-- Nothing comes after the answer, given how many entries were asked for. -/
def isLast (limit : Int32) : Dialogs → Bool
  | .all _ => true
  | .slice answer => answer.dialogs.isEmpty || answer.dialogs.length < limit.toNatClampNeg
  | .notModified _ => true

end Wire.Dialogs

namespace DialogPosition

/-- Where the next page starts. A page of nothing but folders does not move the position. -/
def advance (position : DialogPosition) (limit : Int32) (answer : Wire.Dialogs) : DialogPosition :=
  if answer.isLast limit then position
  else
    match (answer.entries.filterMap (·.dialog?)).getLast? with
    | some last => position.after last (.ofPage answer.messages answer.directory) answer.directory
    | none => position

/-- What a page brings. -/
def page (position : DialogPosition) (limit : Int32) (answer : Wire.Dialogs) :
    Warned (Page DialogPosition Dialog) := do
  let dialogs ← Dialog.ofEntries answer.directory (answer.entries.filterMap (·.dialog?))
    (.ofPage answer.messages answer.directory)
  pure {
    items := dialogs
    next := position.advance limit answer
    isLast := answer.isLast limit }

instance : Paged DialogPosition Dialog where
  call := call
  page := page
  count _ _ answer := answer.count

end DialogPosition

end Messenger
