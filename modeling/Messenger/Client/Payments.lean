import Messenger.Client
import Messenger.Link
import Messenger.Payment

/-!
# Payments

Paying an invoice takes two requests: the first asks for the form, the second confirms it.
-/

namespace Messenger.Client

/-- The invoice as a request names it. Only an invoice in a message needs the chat. -/
def inputInvoice (chat : ChatRef) : InvoiceRef → Client MethodError Wire.InputInvoice
  | .message id => do
    let peer ← peerOf chat
    pure (.message peer id)
  | .link link => pure (.slug (Link.invoiceSlug link))

/-- The form for an invoice. -/
def paymentForm (chat : ChatRef) (invoice : InvoiceRef) : Client MethodError PaymentForm := do
  let invoice ← inputInvoice chat invoice
  let form ← run (.getPaymentForm invoice none)
  pure (.ofRaw form)

/-- Asks for the form of an invoice and pays it with stars. -/
def payWithStars (invoice : Wire.InputInvoice) : Client MethodError Bool := do
  let form : Wire.PaymentForm ← run (.getPaymentForm invoice none)
  let result : Wire.PaymentResult ← run (.sendStarsForm form.formId invoice)
  match result with
  | .paid _ => pure true
  | .verificationNeeded url => throw (.invalidArgument (.verification url))

/-- Pays an invoice with stars. -/
def payInvoice (chat : ChatRef) (invoice : InvoiceRef) : Client MethodError Bool := do
  let invoice ← inputInvoice chat invoice
  payWithStars invoice

end Messenger.Client
