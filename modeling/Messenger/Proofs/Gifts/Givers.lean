import Messenger.Client.Gifts
import Messenger.Message
import Messenger.Proofs.Steps
import Messenger.Proofs.Tables

/-!
# Gifts that were received, and gifts that were given

A gift is shown, hidden or converted by the account that received it, and the request names who gave
it and the message in which it came.

1. **Methods** (`GiftMethod`): what can be done with a gift, and the call for it.
2. **Gifts** (`StarGift.Addresses`, `StarGift.Refused`): a gift either names somebody in whatever is
   done with it, or nothing can be done with it.
3. **Messages** (`AddressesGiver`): which gifts of messages are to name whom.

Main statement: `gifts_address_their_givers_iff`. A gift that the account gave to somebody names the
receiver (`given_gift_is_addressed`).
-/

namespace Messenger

/-! ## Methods -/

/-- Something that can be done with a gift. -/
inductive GiftMethod where
  | display
  | hide
  | convert
deriving DecidableEq

namespace GiftMethod

/-- The method of the gift. -/
def run (gift : StarGift) : GiftMethod → Client MethodError Bool
  | .display => gift.display
  | .hide => gift.hide
  | .convert => gift.convert

/-- The call that names the user who gave the gift and the message in which it came. -/
def call (user : Wire.InputUser) (messageId : Int32) : GiftMethod → Wire.Call
  | .display => .saveStarGift ⟨false, user, messageId⟩
  | .hide => .saveStarGift ⟨true, user, messageId⟩
  | .convert => .convertStarGift user messageId

end GiftMethod

/-! ## Gifts -/

namespace StarGift

/-- Whatever is done with the gift, one request is sent. It names the user and the message, and what
comes of it is what the server says. -/
def Addresses (gift : StarGift) (user : Wire.InputUser) (messageId : Int32) : Prop :=
  ∀ (method : GiftMethod) (services : Services) (world : World), ∃ answer result,
    Client.Takes (method.run gift) services world
        [.sent (.call (method.call user messageId)) answer] result ∧
      ∀ accepted, result = .ok accepted ↔ answer = .ok ⟨.bool, accepted⟩

/-- Whatever is to be done with the gift is refused, and nothing is sent. -/
def Refused (gift : StarGift) : Prop :=
  ∀ (method : GiftMethod) (services : Services) (world : World),
    Client.Takes (method.run gift) services world [] (.error (.invalidArgument .giftNotReceived))

variable {gift : StarGift} {user : Wire.InputUser} {messageId : Int32}

/-- A gift that was addressed cannot have been refused. -/
theorem Addresses.not_refused (haddresses : gift.Addresses user messageId) : ¬ gift.Refused := by
  intro hrefused
  let services : Services := .blank
  obtain ⟨answer, result, htakes, -⟩ := haddresses .convert services default
  have hsent := htakes.performs.deeds_eq
  rw [(hrefused .convert services default).performs.deeds_eq, List.append_cancel_left_eq] at hsent
  cases hsent

theorem addresses_of_origin (horigin : gift.origin? = some (user, messageId)) :
    gift.Addresses user messageId := by
  have hrequire : gift.requireOrigin = pure (user, messageId) := by
    rw [requireOrigin, horigin]
  intro method services world
  cases method with
  | display | hide =>
    simp only [GiftMethod.run, display, hide, setShown, hrequire, pure_bind]
    exact ⟨_, _, (Client.takes_invoke _ services world).lift,
      fun _ => Client.mapError_receive_eq_ok_iff⟩
  | convert =>
    simp only [GiftMethod.run, convert, hrequire, pure_bind]
    exact ⟨_, _, (Client.takes_invoke _ services world).lift,
      fun _ => Client.mapError_receive_eq_ok_iff⟩

theorem refused_of_origin (horigin : gift.origin? = none) : gift.Refused := by
  have hrequire : gift.requireOrigin = throw (.invalidArgument .giftNotReceived) := by
    rw [requireOrigin, horigin]
  intro method services world
  have htakes : Client.Takes gift.requireOrigin services world []
      (.error (.invalidArgument .giftNotReceived)) := by
    rw [hrequire]
    exact Client.takes_throw _ services world
  cases method with
  | display => exact htakes.bind_error
  | hide => exact htakes.bind_error
  | convert => exact htakes.bind_error

/-- A gift of the catalogue came from nobody. -/
theorem refused_ofCatalogue (raw : Wire.StarGift) : (ofCatalogue raw).value.Refused := by
  refine refused_of_origin ?_
  rw [ofCatalogue]
  split <;> rfl

end StarGift

/-! ## Messages -/

namespace Tables

/-- The peer is the private conversation with the user, as the tables describe the user. -/
def IsPrivate (tables : Tables) (peer : Wire.Peer) (user : Wire.User) : Prop :=
  peer = .user user.id ∧ tables.user? user.id = some user

theorem id_of_user? {tables : Tables} {id : Int64} {user : Wire.User}
    (huser : tables.user? id = some user) : user.id = id := by
  obtain ⟨entry, hentry, rfl⟩ := Option.map_eq_some_iff.1 huser
  simpa using List.find?_some hentry

end Tables

/-- The gift of a message names the giver, in the way that the tables describe the giver. Nothing can
be done with a gift that the account gave to somebody else, or that is not in a private conversation
with somebody whom the tables describe. -/
structure AddressesGiver (tables : Tables) (message : Wire.ServiceMessage) (gift : StarGift) :
    Prop where
  received : ∀ user, message.out = false → tables.IsPrivate message.peer user →
    gift.Addresses (if user.isSelf then .self else .user user.id (user.accessHash.getD 0))
      message.id
  given : ∀ user, message.out = true → tables.IsPrivate message.peer user → user.isSelf = false →
    gift.Refused
  elsewhere : (∀ user, ¬ tables.IsPrivate message.peer user) → gift.Refused

/-- The account gave something to somebody else, whom the tables describe. -/
def IsGiven (tables : Tables) (message : Wire.ServiceMessage) : Prop :=
  message.out = true ∧ ∃ user, tables.IsPrivate message.peer user ∧ user.isSelf = false

namespace StarGift

variable (tables : Tables) (message : Wire.ServiceMessage) (action : Wire.StarGiftAction)

theorem fromUser_ofAction_of_isPrivate {user : Wire.User}
    (hprivate : tables.IsPrivate message.peer user) :
    (ofAction action message tables.directory).value.fromUser = some user := by
  rw [ofAction, Warned.value_bind, Warned.value_pure, hprivate.1]
  exact (tables.user?_directory user.id).trans hprivate.2

theorem fromUser_ofAction_of_forall_not
    (helsewhere : ∀ user, ¬ tables.IsPrivate message.peer user) :
    (ofAction action message tables.directory).value.fromUser = none := by
  rw [ofAction, Warned.value_bind, Warned.value_pure]
  cases hpeer : message.peer with
  | user id =>
    rw [← Option.not_isSome_iff_eq_none, Option.isSome_iff_exists]
    rintro ⟨user, huser⟩
    have huser' : tables.user? id = some user := (tables.user?_directory id).symm.trans huser
    obtain rfl := Tables.id_of_user? huser'
    exact helsewhere user ⟨hpeer, huser'⟩
  | chat id => rfl
  | channel id => rfl

/-- A gift of a private conversation names the user, whoever gave it. -/
theorem addresses_ofAction {user : Wire.User} (hprivate : tables.IsPrivate message.peer user) :
    (ofAction action message tables.directory).value.Addresses
      (if user.isSelf then .self else .user user.id (user.accessHash.getD 0)) message.id := by
  refine addresses_of_origin ?_
  rw [origin?, fromUser_ofAction_of_isPrivate tables message action hprivate]
  rfl

theorem refused_ofAction (helsewhere : ∀ user, ¬ tables.IsPrivate message.peer user) :
    (ofAction action message tables.directory).value.Refused := by
  refine refused_of_origin ?_
  rw [origin?, fromUser_ofAction_of_forall_not tables message action helsewhere]
  rfl

end StarGift

/-! ## Main statement -/

/-- Nothing can be done with a gift of the catalogue, or with a gift of a message that is not in a
private conversation with somebody whom the tables describe. Any other gift of a message names that
user and the message in whatever is done with it. So it names the giver as it should, unless it is one
that the account gave to somebody else. -/
theorem gifts_address_their_givers_iff (raw : Wire.StarGift) (tables : Tables)
    (service : Wire.ServiceMessage) (action : Wire.StarGiftAction) (connectionId : Option String) :
    (StarGift.ofCatalogue raw).value.Refused ∧
      let message : Message :=
        ⟨.service { service with action := .starGift action }, tables.directory, connectionId⟩
      ∃ gift, message.starGift?.value = some gift ∧
        (∀ user, tables.IsPrivate service.peer user →
          gift.Addresses (if user.isSelf then .self else .user user.id (user.accessHash.getD 0))
            service.id) ∧
        (AddressesGiver tables service gift ↔ ¬ IsGiven tables service) := by
  refine ⟨StarGift.refused_ofCatalogue raw, ?_⟩
  let reported : Wire.ServiceMessage := { service with action := .starGift action }
  have haddresses := fun user (hprivate : tables.IsPrivate service.peer user) =>
    StarGift.addresses_ofAction tables reported action hprivate
  refine ⟨(StarGift.ofAction action reported tables.directory).value, rfl, haddresses, ?_, ?_⟩
  · rintro hgiver ⟨hout, user, hprivate, hother⟩
    exact (haddresses user hprivate).not_refused (hgiver.given user hout hprivate hother)
  · intro hreceived
    refine ⟨fun user _ => haddresses user, fun user hout hprivate hother => ?_,
      StarGift.refused_ofAction tables reported action⟩
    exact absurd ⟨hout, user, hprivate, hother⟩ hreceived

/-- A gift that the account gave to somebody names the receiver as the giver. -/
theorem given_gift_is_addressed :
    ¬ ∀ (tables : Tables) (service : Wire.ServiceMessage) (action : Wire.StarGiftAction)
      (gift : StarGift),
      (Message.starGift? ⟨.service { service with action := .starGift action }, tables.directory,
          none⟩).value = some gift →
        AddressesGiver tables service gift := by
  intro halways
  let receiver : Wire.User := { (default : Wire.User) with id := 777, accessHash := some 7770 }
  let tables : Tables := ⟨[.user receiver], []⟩
  let service : Wire.ServiceMessage :=
    { (default : Wire.ServiceMessage) with out := true, id := 9, peer := .user 777 }
  have hprivate : tables.IsPrivate service.peer receiver := ⟨rfl, rfl⟩
  have hgiver := halways tables service default _ rfl
  exact (StarGift.addresses_ofAction tables _ default hprivate).not_refused
    (hgiver.given receiver rfl hprivate rfl)

end Messenger
