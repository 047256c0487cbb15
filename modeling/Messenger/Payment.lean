import Messenger.Directory
import Messenger.ShippingOption
import Messenger.Wire.Payment

/-!
# Invoices and payment forms

The invoice that a message shows (`Invoice`), how a client names one that it wants to pay
(`InvoiceRef`), and the form that has to be confirmed to pay it (`PaymentForm`).
-/

namespace Messenger

/-- The invoice that a message shows. -/
structure Invoice where
  title : String
  description : String
  currency : String
  /-- The whole price, in the smallest units of the currency. -/
  totalAmount : Int64
  /-- With what the invoice can be asked for again. -/
  startParameter : Option String
  isShippingAddressRequested : Bool
  isTest : Bool
deriving DecidableEq, Inhabited

namespace Invoice

/-- The invoice that the server sent. -/
def ofRaw {ε : Type} (raw : Wire.InvoiceMedia ε) : Invoice where
  title := raw.title
  description := raw.description
  currency := raw.currency
  totalAmount := raw.totalAmount
  startParameter := if raw.startParam.isEmpty then none else some raw.startParam
  isShippingAddressRequested := raw.shippingAddressRequested
  isTest := raw.test

/-- The outline of the invoice, for descriptions. -/
def outline (invoice : Invoice) : Term :=
  .record "Invoice" [
    ("title", Schema.view invoice.title),
    ("description", Schema.view invoice.description),
    ("currency", Schema.view invoice.currency),
    ("total_amount", Schema.view invoice.totalAmount),
    ("start_parameter", Schema.view invoice.startParameter),
    ("is_shipping_address_requested", Schema.view invoice.isShippingAddressRequested),
    ("is_test", Schema.view invoice.isTest)]

end Invoice

/-- An invoice to pay. -/
inductive InvoiceRef where
  /-- The invoice that a message of the chat shows. -/
  | message (id : Int32)
  /-- The invoice that a link leads to, or its slug alone. -/
  | link (link : String)
deriving DecidableEq, Inhabited

/-- A form that has to be confirmed to pay. -/
structure PaymentForm where
  id : Int64
  /-- The bot that wants to be paid. -/
  bot : Option Wire.User
  title : Option String
  description : Option String
  currency : String
  prices : List LabeledPrice
  isTest : Bool
  /-- The address of the payment provider, if there is one. -/
  url : Option String
  canSaveCredentials : Bool
  isPasswordMissing : Bool
  raw : Wire.PaymentForm
deriving DecidableEq, Inhabited

namespace PaymentForm

/-- The form that the server sent. -/
def ofRaw : Wire.PaymentForm → PaymentForm
  | .provider form =>
    { id := form.formId
      bot := (Directory.ofTables form.users []).user? form.botId
      title := some form.title
      description := some form.description
      currency := form.invoice.currency
      prices := form.invoice.prices.map .ofRaw
      isTest := form.invoice.test
      url := some form.url
      canSaveCredentials := form.canSaveCredentials
      isPasswordMissing := form.passwordMissing
      raw := .provider form }
  | .stars form =>
    { id := form.formId
      bot := (Directory.ofTables form.users []).user? form.botId
      title := some form.title
      description := some form.description
      currency := form.invoice.currency
      prices := form.invoice.prices.map .ofRaw
      isTest := form.invoice.test
      url := none
      canSaveCredentials := false
      isPasswordMissing := false
      raw := .stars form }
  | .starGift formId invoice =>
    { id := formId
      bot := none
      title := none
      description := none
      currency := invoice.currency
      prices := invoice.prices.map .ofRaw
      isTest := invoice.test
      url := none
      canSaveCredentials := false
      isPasswordMissing := false
      raw := .starGift formId invoice }

/-- The sum of all prices. -/
def totalAmount (form : PaymentForm) : Int64 :=
  (form.prices.map (·.amount)).sum

end PaymentForm

end Messenger
