import Messenger.Directory
import Messenger.Text.Utf8
import Messenger.Wire.Update

/-!
# Shipping queries

Somebody who wants to buy something asks a bot what shipping to an address costs.
-/

namespace Messenger

/-- An address to ship to. -/
structure ShippingAddress where
  countryCode : String
  state : String
  city : String
  streetLine1 : String
  streetLine2 : String
  postCode : String
deriving DecidableEq, Inhabited

namespace ShippingAddress

/-- The address that the server sent. -/
def ofRaw (raw : Wire.PostAddress) : ShippingAddress where
  countryCode := raw.countryIso2
  state := raw.state
  city := raw.city
  streetLine1 := raw.streetLine1
  streetLine2 := raw.streetLine2
  postCode := raw.postCode

/-- The outline of the address, for descriptions. -/
def outline (address : ShippingAddress) : Term :=
  .record "ShippingAddress" [
    ("country_code", Schema.view address.countryCode),
    ("state", Schema.view address.state),
    ("city", Schema.view address.city),
    ("street_line1", Schema.view address.streetLine1),
    ("street_line2", Schema.view address.streetLine2),
    ("post_code", Schema.view address.postCode)]

end ShippingAddress

/-- A question about shipping. -/
structure ShippingQuery where
  /-- The number of the query, in decimal. -/
  id : String
  fromUser : Option Wire.User
  /-- What the bot put into the invoice for itself. -/
  invoicePayload : String
  shippingAddress : ShippingAddress
deriving DecidableEq, Inhabited

namespace ShippingQuery

/-- The query that the server sent. -/
def ofRaw (raw : Wire.ShippingQueryUpdate) (directory : Directory) : ShippingQuery where
  id := toString raw.queryId.toInt
  fromUser := directory.user? raw.userId
  invoicePayload := Text.decodeUtf8 raw.payload
  shippingAddress := .ofRaw raw.shippingAddress

/-- The outline of the query, for descriptions. -/
def outline (query : ShippingQuery) : Term :=
  .record "ShippingQuery" [
    ("id", Schema.view query.id),
    ("from_user", Term.ofOption Chat.outlineUser query.fromUser),
    ("invoice_payload", Schema.view query.invoicePayload),
    ("shipping_address", query.shippingAddress.outline)]

end ShippingQuery

end Messenger
