import Messenger.Client.Dialogs
import Messenger.Client.GiftCodes
import Messenger.Client.Gifts
import Messenger.Client.Posts
import Messenger.Client.Search
import Messenger.Client.Settings
import Messenger.Client.Shipping

/-!
# The methods of a client

`Method α` lists all that a client can be asked for and that takes it to the server or the resolver,
with the arguments and the type of what it brings:

1. the methods of the client itself;
2. what an iterator over dialogs or gifts is asked for;
3. what a gift or a shipping query that was received can be asked for.

`Method.run` does what was asked for. A failed request is one of the failures of every method, also
of those that can fail for no other reason.
-/

namespace Messenger

/-- Takes the next item, as a run of the client. -/
def Pages.take {ρ α : Type} [Paged ρ α] (pages : Pages ρ α) : Client CallError (Option α) :=
  fun services world =>
    let taken := pages.next services world
    (taken.result, taken.world)

/-- How many items there are in all, as a run of the client. -/
def Pages.countAll {ρ α : Type} [Paged ρ α] (pages : Pages ρ α) : Client CallError UInt64 := do
  let (total, _) ← pages.askTotal
  pure total

/-- Something that a client can be asked for. -/
inductive Method : Type → Type where
  /-- Any request, also one on behalf of business connections. -/
  | invoke (request : Wire.Request) : Method request.returns.Value
  | peerOf (chat : ChatRef) : Method Wire.InputPeer
  | privacy (key : Wire.PrivacyKey) : Method (List PrivacyRule)
  | replacePrivacy (key : Wire.PrivacyKey) (rules : List PrivacyRequest) :
      Method (List PrivacyRule)
  | accountLifetime : Method Int32
  | setAccountLifetime (days : Int32) : Method Bool
  | setProfileChannel (chat : Option ChatRef) : Method Bool
  | search (query : String) (limit : Int32) : Method SearchResults
  | answerShipping (id : String) (ok : Bool) (options : List ShippingOption)
      (error : Option String) : Method Bool
  | dialogsCount (pinnedOnly : Bool) (fromArchive : Option Bool) : Method UInt64
  | inspectGiftCode (link : String) : Method GiftCodeStatus
  | claimGiftCode (link : String) : Method Bool
  | paymentForm (chat : ChatRef) (invoice : InvoiceRef) : Method PaymentForm
  | payInvoice (chat : ChatRef) (invoice : InvoiceRef) : Method Bool
  | giftCatalogue : Method (List StarGift)
  | buyGift (chat : ChatRef) (giftId : Int64) (text : Option DraftText) (hideName : Bool) :
      Method Bool
  | giftsOf (chat : ChatRef) : Method (Pages GiftPosition StarGift)
  | giftsCount (chat : ChatRef) : Method UInt64
  | showGift (chat : ChatRef) (messageId : Int32) : Method Bool
  | hideGift (chat : ChatRef) (messageId : Int32) : Method Bool
  | convertGift (chat : ChatRef) (messageId : Int32) : Method Bool
  | sendPost (chat : ChatRef) (post : PaidPost) : Method (List Message)
  | payReaction (chat : ChatRef) (messageId count : Int32) (isPrivate : Option Bool) : Method Bool
  /-- The next item of an iterator over dialogs. -/
  | nextDialog (pages : Pages DialogPosition Dialog) : Method (Option Dialog)
  /-- How many dialogs an iterator has. -/
  | countDialogs (pages : Pages DialogPosition Dialog) : Method UInt64
  /-- The next item of an iterator over gifts. -/
  | nextGift (pages : Pages GiftPosition StarGift) : Method (Option StarGift)
  /-- How many gifts an iterator has. -/
  | countGifts (pages : Pages GiftPosition StarGift) : Method UInt64
  /-- Shows a gift that was received. -/
  | displayReceived (gift : StarGift) : Method Bool
  /-- Hides a gift that was received. -/
  | hideReceived (gift : StarGift) : Method Bool
  /-- Converts a gift that was received. -/
  | convertReceived (gift : StarGift) : Method Bool
  /-- Answers a shipping query that was received. -/
  | answerReceived (query : ShippingQuery) (ok : Bool) (options : List ShippingOption)
      (error : Option String) : Method Bool

namespace Method

/-- Does what was asked for. -/
def run {α : Type} : Method α → Client MethodError α
  | .invoke request => liftM (Client.invoke request)
  | .peerOf chat => Client.peerOf chat
  | .privacy key => liftM (Client.privacy key)
  | .replacePrivacy key rules => Client.replacePrivacy key rules
  | .accountLifetime => liftM Client.accountLifetime
  | .setAccountLifetime days => liftM (Client.setAccountLifetime days)
  | .setProfileChannel chat => Client.setProfileChannel chat
  | .search query limit => liftM (Client.search query limit)
  | .answerShipping id ok options error => Client.answerShipping id ok options error
  | .dialogsCount pinnedOnly fromArchive => liftM (Client.dialogsCount pinnedOnly fromArchive)
  | .inspectGiftCode link => liftM (Client.inspectGiftCode link)
  | .claimGiftCode link => liftM (Client.claimGiftCode link)
  | .paymentForm chat invoice => Client.paymentForm chat invoice
  | .payInvoice chat invoice => Client.payInvoice chat invoice
  | .giftCatalogue => liftM Client.giftCatalogue
  | .buyGift chat giftId text hideName => Client.buyGift chat giftId text hideName
  | .giftsOf chat => Client.giftsOf chat
  | .giftsCount chat => Client.giftsCount chat
  | .showGift chat messageId => Client.showGift chat messageId
  | .hideGift chat messageId => Client.hideGift chat messageId
  | .convertGift chat messageId => Client.convertGift chat messageId
  | .sendPost chat post => Client.sendPost chat post
  | .payReaction chat messageId count isPrivate =>
    Client.payReaction chat messageId count isPrivate
  | .nextDialog pages => liftM pages.take
  | .countDialogs pages => liftM pages.countAll
  | .nextGift pages => liftM pages.take
  | .countGifts pages => liftM pages.countAll
  | .displayReceived gift => gift.display
  | .hideReceived gift => gift.hide
  | .convertReceived gift => gift.convert
  | .answerReceived query ok options error => query.answer ok options error

end Method

end Messenger
