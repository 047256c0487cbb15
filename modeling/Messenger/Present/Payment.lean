import Messenger.GiftCode
import Messenger.Payment
import Messenger.Present.Media
import Messenger.ShippingQuery
import Messenger.StarGift

/-!
# Payments as documents

How invoices, payment forms, gift codes, star gifts and shipping queries are presented to programs
that do not know the library.
-/

namespace Messenger

open Json (orNull each)
open Schema (write)

/-- The document of an invoice. -/
def Invoice.present (invoice : Invoice) : Json :=
  .obj [("title", .str invoice.title),
    ("description", .str invoice.description),
    ("currency", .str invoice.currency),
    ("total_amount", write invoice.totalAmount),
    ("start_parameter", write invoice.startParameter),
    ("is_shipping_address_requested", .bool invoice.isShippingAddressRequested),
    ("is_test", .bool invoice.isTest)]

/-- The document of a part of a price. -/
def LabeledPrice.present (price : LabeledPrice) : Json :=
  .obj [("label", .str price.label), ("amount", write price.amount)]

/-- The document of a payment form. -/
def PaymentForm.present (form : PaymentForm) : Json :=
  .obj [("id", write form.id),
    ("bot", orNull Wire.User.present form.bot),
    ("title", write form.title),
    ("description", write form.description),
    ("currency", .str form.currency),
    ("prices", each LabeledPrice.present form.prices),
    ("is_test", .bool form.isTest),
    ("url", write form.url),
    ("can_save_credentials", .bool form.canSaveCredentials),
    ("is_password_missing", .bool form.isPasswordMissing),
    ("total_amount", write form.totalAmount),
    ("raw", write form.raw)]

/-- The document of a gift code. -/
def GiftCode.present (code : GiftCode) : Json :=
  .obj [("months", write code.months),
    ("slug", .str code.slug),
    ("text", write code.text),
    ("entities", write code.entities),
    ("via_giveaway", .bool code.viaGiveaway),
    ("is_unclaimed", .bool code.isUnclaimed),
    ("boosted_chat", orNull Chat.present code.boostedChat),
    ("link", .str code.link)]

/-- The document of what the server knows about a gift code. -/
def GiftCodeStatus.present (code : GiftCodeStatus) : Json :=
  .obj [("date", code.date.present),
    ("months", write code.months),
    ("via_giveaway", .bool code.viaGiveaway),
    ("from_chat", orNull Chat.present code.fromChat),
    ("giveaway_message_id", write code.giveawayMessageId),
    ("winner", orNull Wire.User.present code.winner),
    ("used_date", orNull Date.present code.usedDate),
    ("is_used", .bool code.isUsed)]

/-- The document of a star gift. -/
def StarGift.present (gift : StarGift) : Json :=
  .obj [("id", write gift.id),
    ("sticker", orNull Sticker.present gift.sticker),
    ("text", write gift.text),
    ("entities", write gift.entities),
    ("message_id", write gift.messageId),
    ("date", orNull Date.present gift.date),
    ("from_user", orNull Wire.User.present gift.fromUser),
    ("price", write gift.price),
    ("convert_price", write gift.convertPrice),
    ("available_amount", write gift.availableAmount),
    ("total_amount", write gift.totalAmount),
    ("is_limited", .bool gift.isLimited),
    ("is_name_hidden", write gift.isNameHidden),
    ("is_saved", write gift.isSaved)]

/-- The document of an address. -/
def ShippingAddress.present (address : ShippingAddress) : Json :=
  .obj [("country_code", .str address.countryCode),
    ("state", .str address.state),
    ("city", .str address.city),
    ("street_line1", .str address.streetLine1),
    ("street_line2", .str address.streetLine2),
    ("post_code", .str address.postCode)]

/-- The document of a shipping query. -/
def ShippingQuery.present (query : ShippingQuery) : Json :=
  .obj [("id", .str query.id),
    ("from_user", orNull Wire.User.present query.fromUser),
    ("invoice_payload", .str query.invoicePayload),
    ("shipping_address", query.shippingAddress.present)]

end Messenger
