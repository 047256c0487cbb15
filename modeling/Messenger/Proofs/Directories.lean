import Mathlib.Data.Finset.Card
import Mathlib.Data.Finset.Dedup
import Messenger.Proofs.Tables

/-!
# Directories index their tables

A directory is looked up by peers, and what it finds is named to the server and to a person. All of
this is read off one entry of the tables: the last one that describes the peer.

1. **Entries** (`TableEntry`): what an entry says of its peer, and the chat that it makes.
2. **Look-ups** (`Tables.LastAbout`): the entry that counts for a peer.
3. **Names** (`TableEntry.inputPeer_toChat`): the chat of an entry is named by the peer and the access
   hash of the entry.
4. **Sizes** (`length_eraseDups`): a peer that is described twice counts once.

Main statement: `directories_index_their_tables`.
-/

namespace Messenger

/-! ## Entries -/

/-- An entry of one of the two tables. -/
inductive TableEntry where
  | user (entry : Wire.UserEntry)
  | chat (entry : Wire.ChatEntry)

namespace TableEntry

/-- The peer that the entry describes. -/
def peer : TableEntry → Wire.Peer
  | .user (.empty id) => .user id
  | .user (.user raw) => .user raw.id
  | .chat (.empty id) => .chat id
  | .chat (.group raw) => .chat raw.id
  | .chat (.forbiddenGroup raw) => .chat raw.id
  | .chat (.channel raw) => .channel raw.id
  | .chat (.forbiddenChannel raw) => .channel raw.id

/-- The access hash that came with the entry, if one did. -/
def accessHash? : TableEntry → Option Int64
  | .user (.user raw) => raw.accessHash
  | .chat (.channel raw) => raw.accessHash
  | .chat (.forbiddenChannel raw) => some raw.accessHash
  | _ => none

/-- The entry describes the user who owns the account. -/
def isOwn : TableEntry → Bool
  | .user (.user raw) => raw.isSelf
  | _ => false

/-- The chat that the entry makes. -/
def toChat : TableEntry → Chat
  | .user entry => .ofUser entry
  | .chat entry => .ofEntry entry

theorem peer_toChat (entry : TableEntry) : entry.toChat.peer = entry.peer := by
  cases entry with
  | user entry => cases entry <;> rfl
  | chat entry =>
    rw [toChat, Chat.peer_ofEntry]
    cases entry <;> rfl

end TableEntry

/-! ## Names -/

/-- The peer, as a request names it with an access hash. Small groups have none. -/
def Wire.Peer.withHash (accessHash : Int64) : Peer → InputPeer
  | .user id => .user id accessHash
  | .chat id => .chat id
  | .channel id => .channel id accessHash

/-- A group that is made of the entry of a channel is named by that entry, and so is a channel that
the account may not see. -/
theorem Chat.inputPeer_ofEntry (entry : Wire.ChatEntry) :
    (ofEntry entry).inputPeer = entry.inputPeer := by
  cases entry with
  | channel raw => cases hbroadcast : raw.broadcast <;> simp [ofEntry, hbroadcast] <;> rfl
  | forbiddenChannel raw =>
    cases hbroadcast : raw.broadcast <;> simp [ofEntry, hbroadcast] <;> rfl
  | empty id => rfl
  | group raw => rfl
  | forbiddenGroup raw => rfl

/-- The chat of an entry is named by the peer and the access hash of the entry, unless it is the
account itself. -/
theorem TableEntry.inputPeer_toChat (entry : TableEntry) :
    entry.toChat.inputPeer =
      if entry.isOwn then .self else entry.peer.withHash (entry.accessHash?.getD 0) := by
  cases entry with
  | user entry => cases entry <;> rfl
  | chat entry =>
    rw [toChat, Chat.inputPeer_ofEntry]
    cases entry <;> rfl

namespace Tables

variable (tables : Tables)

/-- The entries of both tables, the users first. -/
def entries : List TableEntry :=
  tables.users.map .user ++ tables.chats.map .chat

theorem chats_directory : tables.directory.chats = tables.entries.map TableEntry.toChat := by
  simp only [directory, Directory.ofTables, entries, List.map_append, List.map_map]
  rfl

/-! ## Look-ups -/

/-- The entry is the last one that describes the peer. -/
def LastAbout (peer : Wire.Peer) (entry : TableEntry) : Prop :=
  entry.peer = peer ∧ ∃ before after, tables.entries = before ++ entry :: after ∧
    ∀ later ∈ after, later.peer ≠ peer

/-- The entry that counts for a peer. -/
def about? (peer : Wire.Peer) : Option TableEntry :=
  tables.entries.reverse.find? (·.peer = peer)

theorem about?_eq_some_iff {peer : Wire.Peer} {entry : TableEntry} :
    tables.about? peer = some entry ↔ tables.LastAbout peer entry := by
  rw [about?, List.find?_eq_some_iff_append, LastAbout, decide_eq_true_eq]
  refine and_congr_right fun _ => ⟨?_, ?_⟩
  · rintro ⟨after, before, hreverse, hafter⟩
    refine ⟨before.reverse, after.reverse, ?_, by simpa using hafter⟩
    rw [← List.reverse_reverse tables.entries, hreverse]
    simp
  · rintro ⟨before, after, hentries, hafter⟩
    exact ⟨after.reverse, before.reverse, by simp [hentries], by simpa using hafter⟩

theorem about?_eq_none_iff {peer : Wire.Peer} :
    tables.about? peer = none ↔ ∀ entry ∈ tables.entries, entry.peer ≠ peer := by
  simp [about?, List.find?_eq_none]

/-- What a directory finds is the chat of the entry that counts. -/
theorem chat?_directory_eq_map (peer : Wire.Peer) :
    tables.directory.chat? peer = (tables.about? peer).map TableEntry.toChat := by
  rw [Directory.chat?, chats_directory, about?, ← List.map_reverse, List.find?_map]
  simp only [Function.comp_def, TableEntry.peer_toChat]

/-! ## Kinds -/

/-- A user is looked up as a chat is, and only users have the peers of users. -/
theorem map_user?_directory (id : Int64) :
    (tables.directory.user? id).map Chat.user = tables.directory.chat? (.user id) := by
  rw [user?_directory, chat?_directory, chat?]

/-- Nothing that is found under the peer of a small group or of a channel is a user. -/
theorem chat?_directory_ne_user {peer : Wire.Peer} (hother : ∀ id, peer ≠ .user id)
    (user : Wire.User) : tables.directory.chat? peer ≠ some (.user user) := by
  rw [chat?_directory, chat?_of_ne_user tables hother]
  intro hsome
  obtain ⟨entry, -, hchat⟩ := Option.map_eq_some_iff.1 hsome
  have hpeer := congrArg Chat.peer hchat
  rw [Chat.peer_ofEntry] at hpeer
  exact entry.peer_ne_user user.id hpeer

end Tables

/-! ## Sizes -/

theorem nodup_eraseDups {α : Type} [DecidableEq α] (items : List α) : items.eraseDups.Nodup := by
  cases items with
  | nil => exact List.nodup_nil
  | cons item others =>
    rw [List.eraseDups_cons, List.nodup_cons]
    exact ⟨by simp [List.mem_eraseDups],
      nodup_eraseDups (others.filter fun other => !other == item)⟩
termination_by items.length
decreasing_by exact Nat.lt_succ_of_le (List.length_filter_le _ _)

/-- Without repetitions, there are as many items as there are distinct ones. -/
theorem length_eraseDups {α : Type} [DecidableEq α] (items : List α) :
    items.eraseDups.length = items.toFinset.card := by
  rw [← List.toFinset_card_of_nodup (nodup_eraseDups items)]
  congr 1
  ext item
  simp [List.mem_eraseDups]

/-! ## Main statement -/

/-- For all tables, in whatever order and with whatever repetitions, the directory is an index of
them:

1. Nothing is found for a peer that no entry describes. For any other, the chat of the last entry
   that describes it is found: it has that peer and its marked identifier, and a request names it by
   the peer and the access hash of the entry, if there is one, or as the account itself.
2. A user is found by the identifier exactly if a chat is found for the peer, and they are the same.
3. By a bare identifier the small group is found that has it, and the channel only if there is no
   such group; it never leads to a user.
4. The size is the number of distinct peers that the entries describe. -/
theorem directories_index_their_tables (tables : Tables) :
    let directory := tables.directory
    (∀ peer,
      (∀ entry ∈ tables.entries, entry.peer ≠ peer) ∧ directory.chat? peer = none ∨
        ∃ entry, tables.LastAbout peer entry ∧ directory.chat? peer = some entry.toChat ∧
          entry.toChat.peer = peer ∧ entry.toChat.id = peer.markedId ∧
          entry.toChat.inputPeer =
            if entry.isOwn then .self else peer.withHash (entry.accessHash?.getD 0)) ∧
      (∀ id, (directory.user? id).map Chat.user = directory.chat? (.user id)) ∧
      (∀ id,
        (∀ chat, directory.chat? (.chat id) = some chat → directory.bareChat? id = some chat) ∧
          (directory.chat? (.chat id) = none →
            directory.bareChat? id = directory.chat? (.channel id)) ∧
          ∀ user, directory.bareChat? id ≠ some (.user user)) ∧
      directory.size = (tables.entries.map TableEntry.peer).toFinset.card := by
  intro directory
  refine ⟨fun peer => ?_, tables.map_user?_directory, fun id => ⟨?_, ?_, fun user => ?_⟩, ?_⟩
  · have hfound := tables.chat?_directory_eq_map peer
    cases hentry : tables.about? peer with
    | none =>
      rw [hentry] at hfound
      exact Or.inl ⟨tables.about?_eq_none_iff.1 hentry, hfound⟩
    | some entry =>
      rw [hentry] at hfound
      have hlast := tables.about?_eq_some_iff.1 hentry
      have hpeer : entry.toChat.peer = peer := entry.peer_toChat.trans hlast.1
      refine Or.inr ⟨entry, hlast, hfound, hpeer, congrArg Wire.Peer.markedId hpeer, ?_⟩
      rw [entry.inputPeer_toChat, hlast.1]
  · intro chat hchat
    rw [Directory.bareChat?, hchat]
    rfl
  · intro hnone
    rw [Directory.bareChat?, hnone]
    rfl
  · intro hbare
    rw [Directory.bareChat?, Option.orElse_eq_orElse, Option.orElse_eq_or] at hbare
    rcases Option.or_eq_some_iff.1 hbare with hgroup | ⟨-, hchannel⟩
    · exact tables.chat?_directory_ne_user (fun _ => Wire.Peer.noConfusion) user hgroup
    · exact tables.chat?_directory_ne_user (fun _ => Wire.Peer.noConfusion) user hchannel
  · have hpeers : directory.chats.map Chat.peer = tables.entries.map TableEntry.peer := by
      rw [tables.chats_directory, List.map_map]
      exact List.map_congr_left fun entry _ => entry.peer_toChat
    rw [Directory.size, hpeers, length_eraseDups]

end Messenger
