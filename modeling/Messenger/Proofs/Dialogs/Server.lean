import Messenger.Proofs.Dialogs.Pages

/-!
# A server that holds a list of dialogs

A `DialogServer` holds dialogs and folders in a fixed order, and answers each request for dialogs
with the part of its list behind the dialog that the request names. What else comes with a part, its
messages and tables, is arbitrary, but for the flag of the account's own user.

1. **Names** (`Wire.InputPeer.peer?`): a request names a peer by what a page said about it.
2. **Parts** (`DialogServer.remaining`): what comes behind the dialog that a request names.
3. **Moving on** (`remaining_of_last`): the part after a page starts behind its last dialog.
-/

namespace Messenger

/-! ## Names -/

namespace Wire

/-- The peer that a request names, given the user who owns the account. -/
def InputPeer.peer? (self : Int64) : InputPeer → Option Peer
  | .empty => none
  | .self => some (.user self)
  | .chat id => some (.chat id)
  | .user id _ => some (.user id)
  | .channel id _ => some (.channel id)

/-- An unknown peer is named by itself. -/
theorem Peer.peer?_ambient (self : Int64) (peer : Peer) :
    peer.ambient.peer? self = some peer := by
  cases peer <;> rfl

theorem ChatEntry.peer?_inputPeer (self : Int64) (entry : ChatEntry) :
    entry.inputPeer.peer? self = some entry.peer := by
  cases entry <;> rfl

/-- The peer of a dialog; folders have none. -/
def DialogEntry.peer? (entry : DialogEntry) : Option Peer :=
  entry.dialog?.map (·.peer)

end Wire

/-- Of the users in a table, only the one who owns the account is flagged so. -/
def OwnFlagged (self : Int64) (users : List Wire.UserEntry) : Prop :=
  ∀ user ∈ users, user.toUser.isSelf = true → user.toUser.id = self

instance (self : Int64) (users : List Wire.UserEntry) : Decidable (OwnFlagged self users) :=
  inferInstanceAs (Decidable (∀ user ∈ users, _ → _))

/-- A chat that is described is named by its peer. -/
theorem Directory.peer?_inputPeer {self : Int64} {users : List Wire.UserEntry}
    {chats : List Wire.ChatEntry} (hown : OwnFlagged self users) {peer : Wire.Peer} {chat : Chat}
    (hchat : (Directory.ofTables users chats).chat? peer = some chat) :
    chat.inputPeer.peer? self = some peer := by
  have hpeer : chat.peer = peer := by simpa using List.find?_some hchat
  have hmem : chat ∈ users.map Chat.ofUser ++ chats.map Chat.ofEntry :=
    List.mem_reverse.1 (List.mem_of_find?_eq_some hchat)
  rw [← hpeer]
  cases chat with
  | group entry => exact entry.peer?_inputPeer self
  | channel channel => rfl
  | user user =>
    rcases List.mem_append.1 hmem with huser | hentry
    · obtain ⟨entry, hentry, heq⟩ := List.mem_map.1 huser
      have huserEq : entry.toUser = user := Chat.user.inj heq
      have hself := hown entry hentry
      rw [huserEq] at hself
      by_cases hflag : user.isSelf = true
      · simp [Chat.inputPeer, Wire.User.inputPeer, hflag, Wire.InputPeer.peer?, Chat.peer,
          Wire.User.peer, hself hflag]
      · simp [Chat.inputPeer, Wire.User.inputPeer, hflag, Wire.InputPeer.peer?, Chat.peer,
          Wire.User.peer]
    -- an entry of the table of chats is no user
    · obtain ⟨entry, -, heq⟩ := List.mem_map.1 hentry
      unfold Chat.ofEntry at heq
      split at heq
      · split at heq <;> cases heq
      · split at heq <;> cases heq
      · cases heq

/-- The place behind a dialog names its peer, whether or not its chat is described. -/
theorem DialogPosition.peer?_after {self : Int64} {users : List Wire.UserEntry}
    {chats : List Wire.ChatEntry} (hown : OwnFlagged self users) (position : DialogPosition)
    (last : Wire.Dialog) (messages : TopMessages) :
    (position.after last messages (.ofTables users chats)).offsetPeer.peer? self =
      some last.peer := by
  unfold after
  cases hchat : (Directory.ofTables users chats).chat? last.peer with
  | none => exact last.peer.peer?_ambient self
  | some chat => exact Directory.peer?_inputPeer hown hchat

/-! ## Parts -/

/-- The entries behind the dialog with a peer. -/
def behind (peer : Wire.Peer) (entries : List Wire.DialogEntry) : List Wire.DialogEntry :=
  (entries.dropWhile (·.peer? ≠ some peer)).tail

/-- The entries behind the dialog that a request names, or all of them if it names none. -/
def remaining (self : Int64) (entries : List Wire.DialogEntry) (offset : Wire.InputPeer) :
    List Wire.DialogEntry :=
  (offset.peer? self).elim entries (behind · entries)

/-- A server that holds a list of dialogs and folders: no two dialogs are with one peer, each
request is answered with the entries behind the dialog that it names, as many as it asks for, and
only the user who owns the account is flagged so. -/
structure DialogServer where
  entries : List Wire.DialogEntry
  /-- The user who owns the account. -/
  self : Int64
  /-- The answer to a request. -/
  part : Wire.GetDialogs → Wire.DialogsSlice
  distinct : (entries.filterMap (·.peer?)).Nodup
  dialogs_eq : ∀ request, (part request).dialogs =
    (remaining self entries request.offsetPeer).take request.limit.toNatClampNeg
  ownFlagged : ∀ request, OwnFlagged self (part request).users

theorem remaining_suffix (self : Int64) (entries : List Wire.DialogEntry)
    (offset : Wire.InputPeer) : remaining self entries offset <:+ entries := by
  unfold remaining
  cases offset.peer? self with
  | none => exact List.suffix_refl entries
  | some peer => exact (List.tail_suffix _).trans (List.dropWhile_suffix _)

/-- What is behind a dialog starts right after it, as no other dialog is with its peer. -/
theorem behind_eq {entries before rest : List Wire.DialogEntry} {last : Wire.Dialog}
    (hdistinct : (entries.filterMap (·.peer?)).Nodup)
    (hsplit : entries = before ++ .dialog last :: rest) : behind last.peer entries = rest := by
  have hpeer : (Wire.DialogEntry.dialog last).peer? = some last.peer := rfl
  -- the first dialog with the peer is the one at the split
  have hbefore : ∀ entry ∈ before, entry.peer? ≠ some last.peer := by
    intro entry hentry heq
    rw [hsplit, List.filterMap_append, List.filterMap_cons, hpeer, List.nodup_append] at hdistinct
    have hearlier : last.peer ∈ before.filterMap (·.peer?) :=
      List.mem_filterMap.2 ⟨entry, hentry, heq⟩
    exact hdistinct.2.2 last.peer hearlier last.peer List.mem_cons_self rfl
  rw [behind, hsplit, List.dropWhile_append_of_pos (by simpa using hbefore),
    List.dropWhile_cons_of_neg (by simp [hpeer])]
  rfl

/-- A page is nothing but folders, or has a last dialog, behind which there are only folders. -/
theorem folders_or_last (entries : List Wire.DialogEntry) :
    (∀ entry ∈ entries, entry.dialog? = none) ∨
      ∃ front last back, entries = front ++ .dialog last :: back ∧
        ∀ entry ∈ back, entry.dialog? = none := by
  induction entries with
  | nil => simp
  | cons first entries ih =>
    rcases ih with hfolders | ⟨front, last, back, rfl, hback⟩
    · cases first with
      | dialog raw => exact Or.inr ⟨[], raw, entries, rfl, hfolders⟩
      | folder folder =>
        left
        intro entry hentry
        rcases List.mem_cons.1 hentry with rfl | hrest
        · rfl
        · exact hfolders entry hrest
    · exact Or.inr ⟨first :: front, last, back, rfl, hback⟩

namespace DialogServer

/-- The server that describes with each part the chats of its dialogs, as far as some tables do. -/
def ofTables (entries : List Wire.DialogEntry) (self : Int64) (users : List Wire.UserEntry)
    (chats : List Wire.ChatEntry) (distinct : (entries.filterMap (·.peer?)).Nodup)
    (ownFlagged : OwnFlagged self users) : DialogServer where
  entries := entries
  self := self
  part request :=
    let dialogs := (remaining self entries request.offsetPeer).take request.limit.toNatClampNeg
    let peers := dialogs.filterMap (·.peer?)
    { count := .ofNat entries.length
      dialogs := dialogs
      messages := []
      chats := chats.filter fun entry => (Chat.ofEntry entry).peer ∈ peers
      users := users.filter fun entry => (Chat.ofUser entry).peer ∈ peers }
  distinct := distinct
  dialogs_eq _ := rfl
  ownFlagged _ user huser := ownFlagged user (List.mem_filter.1 huser).1

variable (server : DialogServer)

/-- The page that the server sends for a position. -/
def page (position : DialogPosition) (size : Int32) : Wire.Dialogs :=
  .slice (server.part (position.request size))

/-- What is left of the list behind a position. -/
def left (position : DialogPosition) : List Wire.DialogEntry :=
  remaining server.self server.entries position.offsetPeer

theorem entries_page (position : DialogPosition) (size : Int32) :
    (server.page position size).entries = (server.left position).take size.toNatClampNeg :=
  server.dialogs_eq (position.request size)

/-! ## Moving on -/

variable {server} {position : DialogPosition} {size : Int32}

/-- A page of nothing but folders does not move the position. -/
theorem advance_of_folders
    (hfolders : ∀ entry ∈ (server.page position size).entries, entry.dialog? = none) :
    position.advance size (server.page position size) = position := by
  have hnone : (server.page position size).entries.filterMap (·.dialog?) = [] :=
    List.filterMap_eq_nil_iff.2 hfolders
  unfold DialogPosition.advance
  rw [hnone]
  split <;> rfl

/-- After a page with a dialog, the folders behind its last dialog come again, and then what was
left behind the page. -/
theorem left_advance (hgoing : (server.page position size).isLast size = false)
    {front back : List Wire.DialogEntry} {last : Wire.Dialog}
    (hpage : (server.page position size).entries = front ++ .dialog last :: back)
    (hback : ∀ entry ∈ back, entry.dialog? = none) :
    server.left (position.advance size (server.page position size)) =
      back ++ (server.left position).drop size.toNatClampNeg := by
  have hlast : ((server.page position size).entries.filterMap (·.dialog?)).getLast? =
      some last := by
    have hnone : back.filterMap (·.dialog?) = [] := List.filterMap_eq_nil_iff.2 hback
    rw [hpage, List.filterMap_append, List.filterMap_cons, hnone]
    exact List.getLast?_concat
  have hnamed : (position.advance size (server.page position size)).offsetPeer.peer? server.self =
      some last.peer := by
    unfold DialogPosition.advance
    rw [hgoing, hlast]
    exact DialogPosition.peer?_after (server.ownFlagged _) position last _
  obtain ⟨before, hbefore⟩ := remaining_suffix server.self server.entries position.offsetPeer
  have hleft : server.left position =
      front ++ .dialog last :: (back ++ (server.left position).drop size.toNatClampNeg) := by
    rw [← List.cons_append, ← List.append_assoc, ← hpage, entries_page, List.take_append_drop]
  have hsplit : server.entries =
      (before ++ front) ++ .dialog last ::
        (back ++ (server.left position).drop size.toNatClampNeg) := by
    rw [List.append_assoc, ← hleft]
    exact hbefore.symm
  rw [left, remaining, hnamed]
  exact behind_eq server.distinct hsplit

end DialogServer

end Messenger
