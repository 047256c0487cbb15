import Messenger.Wire.Peer
import Messenger.Wire.Entity

/-!
# Invoices and shipping

What is asked for in a payment, what shipping costs and where to, and how a request names what it
wants to pay (`InputInvoice`).
-/

namespace Messenger.Wire

open Schema (tagged)

/-- A part of a price, with what it is for. -/
structure LabeledPrice where
  label : String
  amount : Int64
deriving DecidableEq, Inhabited

/-- A way to have something shipped. -/
structure ShippingOption where
  id : String
  title : String
  prices : List LabeledPrice
deriving DecidableEq, Inhabited

/-- An address to ship to. -/
structure PostAddress where
  streetLine1 : String
  streetLine2 : String
  city : String
  state : String
  countryIso2 : String
  postCode : String
deriving DecidableEq, Inhabited

/-- What is to be paid, and what the payer has to tell. -/
structure Invoice where
  test : Bool
  nameRequested : Bool
  phoneRequested : Bool
  emailRequested : Bool
  shippingAddressRequested : Bool
  flexible : Bool
  phoneToProvider : Bool
  emailToProvider : Bool
  recurring : Bool
  currency : String
  prices : List LabeledPrice
  maxTipAmount : Option Int64
  suggestedTipAmounts : Option (List Int64)
  termsUrl : Option String
deriving DecidableEq, Inhabited

/-- A star gift to buy. -/
structure GiftOrder where
  hideName : Bool
  user : InputUser
  giftId : Int64
  message : Option FormattedText
deriving DecidableEq, Inhabited

/-- What a payment is for, as a request names it. -/
inductive InputInvoice where
  | message (peer : InputPeer) (messageId : Int32)
  | slug (slug : String)
  | starGift (order : GiftOrder)
deriving DecidableEq, Inhabited

/-! ## Schemas -/

instance : Schema LabeledPrice :=
  .single "Price" <| .record "LabeledPrice" LabeledPrice.mk <|
  .field "label" (·.label) <|
  .field "amount" (·.amount)
  .done

instance : Schema ShippingOption :=
  .single "Option" <| .record "ShippingOption" ShippingOption.mk <|
  .field "id" (·.id) <|
  .field "title" (·.title) <|
  .field "prices" (·.prices)
  .done

instance : Schema PostAddress :=
  .single "Address" <| .record "PostAddress" PostAddress.mk <|
  .field "street_line1" (·.streetLine1) <|
  .field "street_line2" (·.streetLine2) <|
  .field "city" (·.city) <|
  .field "state" (·.state) <|
  .field "country_iso2" (·.countryIso2) <|
  .field "post_code" (·.postCode)
  .done

instance : Schema Invoice :=
  .single "Invoice" <| .record "Invoice" Invoice.mk <|
  .field "test" (·.test) <|
  .field "name_requested" (·.nameRequested) <|
  .field "phone_requested" (·.phoneRequested) <|
  .field "email_requested" (·.emailRequested) <|
  .field "shipping_address_requested" (·.shippingAddressRequested) <|
  .field "flexible" (·.flexible) <|
  .field "phone_to_provider" (·.phoneToProvider) <|
  .field "email_to_provider" (·.emailToProvider) <|
  .field "recurring" (·.recurring) <|
  .field "currency" (·.currency) <|
  .field "prices" (·.prices) <|
  .field "max_tip_amount" (·.maxTipAmount) <|
  .field "suggested_tip_amounts" (·.suggestedTipAmounts) <|
  .field "terms_url" (·.termsUrl)
  .done

instance : Schema GiftOrder := .record "InputInvoiceStarGift" GiftOrder.mk <|
  .field "hide_name" (·.hideName) <|
  .field "user_id" (·.user) <|
  .field "gift_id" (·.giftId) <|
  .field "message" (·.message)
  .done

/-- The record of an invoice that a message shows. -/
@[reducible]
def InputInvoice.messageRecord : Schema (InputPeer × Int32) :=
  .record "InputInvoiceMessage" Prod.mk <|
  .field "peer" (·.1) <|
  .field "msg_id" (·.2)
  .done

/-- The record of an invoice that a link leads to. -/
@[reducible]
def InputInvoice.slugRecord : Schema String :=
  .record "InputInvoiceSlug" (fun slug => slug) <|
  .field "slug" (fun slug => slug)
  .done

instance : Schema InputInvoice := .ofForms
  (fun
    | .message peer id => tagged "Message" InputInvoice.messageRecord (peer, id)
    | .slug slug => tagged "Slug" InputInvoice.slugRecord slug
    | .starGift order => tagged "StarGift" inferInstance order)
  [("Message", .of InputInvoice.messageRecord fun (peer, id) => .message peer id),
    ("Slug", .of InputInvoice.slugRecord .slug),
    ("StarGift", .of inferInstance .starGift)]

end Messenger.Wire
