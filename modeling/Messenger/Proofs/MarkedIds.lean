import Messenger.Client
import Messenger.Proofs.ReferenceTexts
import Messenger.Proofs.Tables

/-!
# Marked identifiers name chats

Between the chats that a response describes and the references that lead back to them.

1. **Marks** (`Wire.Peer.mark`): the number that a marked identifier stands for. For peers in range
   it has 64 bits (`Wire.Peer.toInt_markedId`), and marking and taking the mark away undo each other
   (`Wire.Peer.ofMarkedId_markedId`, `Wire.Peer.markedId_ofMarkedId`).
2. **References** (`Chat.resolveAmbient_chatRef`): the reference of a chat leads to its peer, even
   if nothing is known of the chat but the reference, and even if that was printed.

Main statement: `chats_are_named_and_found`.
-/

namespace Messenger

namespace Wire

/-! ## Marks -/

namespace Peer

/-- The number that the marked identifier of the peer stands for. -/
def mark : Peer → Int
  | .user id => id.toInt
  | .chat id => -id.toInt
  | .channel id => -10 ^ 12 - id.toInt

/-- The bare identifier is one that peers of the kind have: users have none below zero, small groups
have those between zero and the mark of channels, and channels those that still have 64 bits when
they are marked. -/
def InRange : Peer → Prop
  | .user id => 0 ≤ id.toInt
  | .chat id => 1 ≤ id.toInt ∧ id.toInt ≤ 10 ^ 12 - 1
  | .channel id => 0 ≤ id.toInt ∧ -2 ^ 63 ≤ -10 ^ 12 - id.toInt

/-- A difference that has 64 bits is exact. -/
theorem toInt_sub_of_fits {a b : Int64} (hlow : -2 ^ 63 ≤ a.toInt - b.toInt)
    (hhigh : a.toInt - b.toInt < 2 ^ 63) : (a - b).toInt = a.toInt - b.toInt := by
  rw [Int64.toInt_sub]
  exact Int.bmod_eq_of_le (by omega) (by omega)

/-- The least number is the only one that cannot be negated. -/
theorem toInt_neg_of_ne {a : Int64} (hmin : a ≠ Int64.minValue) : (-a).toInt = -a.toInt := by
  have hne : a.toInt ≠ -2 ^ 63 := fun htoInt => hmin (Int64.toInt_inj.1 htoInt)
  have hlow := a.le_toInt
  have hhigh := a.toInt_lt
  rw [Int64.toInt_neg]
  exact Int.bmod_eq_of_le (by omega) (by omega)

/-- Even where the sums wrap, a mark is put on and taken away. -/
theorem unmark_mark (mark id : Int64) : -(-mark - id) - mark = id := by grind

theorem mark_unmark (mark id : Int64) : -mark - (-id - mark) = id := by grind

theorem toInt_channelMark : channelMark.toInt = 10 ^ 12 := rfl

theorem toInt_neg_channelMark : (-channelMark).toInt = -10 ^ 12 := rfl

/-- The marked identifier of a peer in range is exact. -/
theorem toInt_markedId {peer : Peer} (hrange : peer.InRange) : peer.markedId.toInt = peer.mark := by
  cases peer with
  | user id => rfl
  | chat id =>
    -- the least number is no group
    refine toInt_neg_of_ne ?_
    rintro rfl
    exact absurd hrange.1 (by decide)
  | channel id =>
    obtain ⟨hlow, hhigh⟩ := hrange
    have hneg := toInt_neg_channelMark
    rw [markedId, toInt_sub_of_fits (by omega) (by omega), hneg, mark]

/-- The peer in range that is marked is found again. -/
theorem ofMarkedId_markedId {peer : Peer} (hrange : peer.InRange) :
    ofMarkedId peer.markedId = peer := by
  have hmarked := toInt_markedId hrange
  rw [ofMarkedId]
  simp only [Int64.le_iff_toInt_le, Int64.lt_iff_toInt_lt, hmarked,
    toInt_neg_channelMark, Int64.toInt_zero]
  cases peer with
  | user id =>
    have hid : 0 ≤ id.toInt := hrange
    rw [mark, if_pos hid, markedId]
  | chat id =>
    obtain ⟨hlow, hhigh⟩ := hrange
    rw [mark, if_neg (by omega), if_pos (by omega), markedId, Int64.neg_neg]
  | channel id =>
    obtain ⟨hlow, hhigh⟩ := hrange
    rw [mark, if_neg (by omega), if_neg (by omega), markedId, unmark_mark]

/-- Every number is the marked identifier of the peer that it makes. -/
theorem markedId_ofMarkedId (id : Int64) : (ofMarkedId id).markedId = id := by
  rw [ofMarkedId]
  split
  · rfl
  · split
    · rw [markedId, Int64.neg_neg]
    · rw [markedId, mark_unmark]

/-- The peer that a number makes is in range, except for the least number, which cannot be
negated. -/
theorem inRange_ofMarkedId {id : Int64} (hmin : id ≠ Int64.minValue) : (ofMarkedId id).InRange := by
  have hneg := toInt_neg_of_ne hmin
  have hlow := id.le_toInt
  rw [ofMarkedId]
  simp only [Int64.le_iff_toInt_le, Int64.lt_iff_toInt_lt, toInt_neg_channelMark,
    Int64.toInt_zero]
  split
  · assumption
  · split
    · simp only [InRange, hneg]
      omega
    · have hsub : (-id - channelMark).toInt = -id.toInt - 10 ^ 12 := by
        rw [toInt_sub_of_fits] <;> rw [hneg, toInt_channelMark] <;> omega
      simp only [InRange, hsub]
      omega

/-- Peers in range are told apart by their marked identifiers. -/
theorem eq_of_markedId_eq {peer other : Peer} (hrange : peer.InRange) (hother : other.InRange)
    (hmarked : peer.markedId = other.markedId) : peer = other := by
  rw [← ofMarkedId_markedId hrange, hmarked, ofMarkedId_markedId hother]

/-- The peer of a request is of the same kind, and has the same bare identifier. -/
inductive NamedBy : Peer → InputPeer → Prop
  | user (id accessHash : Int64) : NamedBy (.user id) (.user id accessHash)
  | chat (id : Int64) : NamedBy (.chat id) (.chat id)
  | channel (id accessHash : Int64) : NamedBy (.channel id) (.channel id accessHash)

theorem namedBy_ambient (peer : Peer) : peer.NamedBy peer.ambient := by
  cases peer with
  | user id => exact .user id 0
  | chat id => exact .chat id
  | channel id => exact .channel id 0

end Peer

end Wire

/-! ## References -/

namespace Chat

/-- The chat is the conversation of the account with itself. -/
def isOwn : Chat → Bool
  | .user raw => raw.isSelf
  | _ => false

/-- The chat is what the table entry of a response about the peer makes. -/
inductive Describes : Chat → Wire.Peer → Prop
  | user (entry : Wire.UserEntry) : Describes (.ofUser entry) (.user entry.toUser.id)
  | entry (entry : Wire.ChatEntry) : Describes (.ofEntry entry) entry.peer

theorem Describes.peer_eq {chat : Chat} {peer : Wire.Peer} (hdescribes : chat.Describes peer) :
    chat.peer = peer := by
  cases hdescribes with
  | user entry => rfl
  | entry entry => exact peer_ofEntry entry

theorem chatRef_eq (chat : Chat) : chat.chatRef = if chat.isOwn then .me else .id chat.id := by
  cases chat <;> rfl

/-- The reference of a chat is found again once it is printed. -/
theorem ofText_chatRef (chat : Chat) : .ofText chat.chatRef.text = chat.chatRef := by
  have hprintable : chat.chatRef.Printable := by
    rw [chatRef_eq]
    split <;> trivial
  exact ChatRef.ofText_text hprintable

/-- The reference of a chat leads to the account itself if the chat is its own, and else to the peer
of the chat. -/
theorem resolveAmbient_chatRef {chat : Chat} (hrange : chat.peer.InRange) :
    Services.resolveAmbient chat.chatRef =
      some (if chat.isOwn then .self else chat.peer.ambient) := by
  rw [chatRef_eq]
  cases chat.isOwn with
  | true => rfl
  | false =>
    have hpeer := congrArg Wire.Peer.ambient (Wire.Peer.ofMarkedId_markedId hrange)
    exact congrArg some hpeer

end Chat

/-! ## Main statement -/

/-- For all chats that the tables of a response describe, with bare identifiers in range:

1. The reference of a chat, whether or not it is printed and read again in between, leads to the
   account itself if the chat is its own, and else to the peer that the table describes.
2. Every number but the least is the marked identifier of the peer in range that it makes.
3. Peers in range are told apart by their marked identifiers, and so are chats. -/
theorem chats_are_named_and_found :
    (∀ (chat : Chat) peer, chat.Describes peer → peer.InRange →
      ∀ reference, reference = chat.chatRef ∨ reference = .ofText chat.chatRef.text →
        ∃ found, Services.resolveAmbient reference = some found ∧
          if chat.isOwn then found = .self else peer.NamedBy found) ∧
      (∀ id, id ≠ Int64.minValue →
        (Wire.Peer.ofMarkedId id).markedId = id ∧ (Wire.Peer.ofMarkedId id).InRange) ∧
      (∀ peer other : Wire.Peer, peer.InRange → other.InRange →
        peer.markedId = other.markedId → peer = other) ∧
      ∀ (chat other : Chat) peer otherPeer, chat.Describes peer → other.Describes otherPeer →
        peer.InRange → otherPeer.InRange → (chat.id = other.id ↔ peer = otherPeer) := by
  refine ⟨?_, ?_, ?_, ?_⟩
  · intro chat peer hdescribes hrange reference hreference
    have hchat : reference = chat.chatRef := by
      rcases hreference with hdirect | hprinted
      · exact hdirect
      · rw [hprinted, chat.ofText_chatRef]
    rw [← hdescribes.peer_eq] at hrange
    rw [hchat, ← hdescribes.peer_eq, Chat.resolveAmbient_chatRef hrange]
    refine ⟨_, rfl, ?_⟩
    split
    · rfl
    · exact chat.peer.namedBy_ambient
  · intro id hmin
    exact ⟨Wire.Peer.markedId_ofMarkedId id, Wire.Peer.inRange_ofMarkedId hmin⟩
  · intro peer other hrange hother hmarked
    exact Wire.Peer.eq_of_markedId_eq hrange hother hmarked
  · intro chat other peer otherPeer hdescribes hother hrange hotherRange
    have hid : chat.id = peer.markedId := by rw [Chat.id, hdescribes.peer_eq]
    have hotherId : other.id = otherPeer.markedId := by rw [Chat.id, hother.peer_eq]
    rw [hid, hotherId]
    exact ⟨Wire.Peer.eq_of_markedId_eq hrange hotherRange, congrArg Wire.Peer.markedId⟩

end Messenger
