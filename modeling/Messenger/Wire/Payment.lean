import Messenger.Wire.Update

/-!
# Payments

What the server answers about payments: forms, results, gifts and gift codes.
-/

namespace Messenger.Wire

open Schema (tagged)

/-- A form that is paid through a payment provider. -/
structure ProviderForm where
  canSaveCredentials : Bool
  passwordMissing : Bool
  formId : Int64
  botId : Int64
  title : String
  description : String
  invoice : Invoice
  providerId : Int64
  url : String
  nativeProvider : Option String
  users : List UserEntry
deriving DecidableEq, Inhabited

/-- A form that is paid in stars. -/
structure StarsForm where
  formId : Int64
  botId : Int64
  title : String
  description : String
  invoice : Invoice
  users : List UserEntry
deriving DecidableEq, Inhabited

/-- A form that has to be confirmed to pay. -/
inductive PaymentForm where
  | provider (form : ProviderForm)
  | stars (form : StarsForm)
  | starGift (formId : Int64) (invoice : Invoice)
deriving DecidableEq, Inhabited

/-- The number that names a form. -/
def PaymentForm.formId : PaymentForm → Int64
  | .provider form => form.formId
  | .stars form => form.formId
  | .starGift formId _ => formId

/-- What became of a payment. -/
inductive PaymentResult where
  | paid (updates : Updates)
  /-- The payer has to confirm at the address first. -/
  | verificationNeeded (url : String)
deriving Inhabited

/-- The catalogue of star gifts. -/
inductive StarGifts where
  | notModified
  | gifts (hash : Int32) (gifts : List StarGift)
deriving DecidableEq, Inhabited

/-- A page of the gifts that a user was given. -/
structure UserStarGifts where
  count : Int32
  gifts : List UserStarGift
  nextOffset : Option String
  users : List UserEntry
deriving DecidableEq, Inhabited

/-- What the server knows about a gift code. -/
structure CheckedGiftCode where
  viaGiveaway : Bool
  fromId : Option Peer
  giveawayMessageId : Option Int32
  toId : Option Int64
  date : Int32
  months : Int32
  usedDate : Option Int32
  chats : List ChatEntry
  users : List UserEntry
deriving DecidableEq, Inhabited

/-! ## Schemas -/

instance : Schema ProviderForm := .record "PaymentForm" ProviderForm.mk <|
  .field "can_save_credentials" (·.canSaveCredentials) <|
  .field "password_missing" (·.passwordMissing) <|
  .field "form_id" (·.formId) <|
  .field "bot_id" (·.botId) <|
  .field "title" (·.title) <|
  .field "description" (·.description) <|
  .field "invoice" (·.invoice) <|
  .field "provider_id" (·.providerId) <|
  .field "url" (·.url) <|
  .field "native_provider" (·.nativeProvider) <|
  .field "users" (·.users)
  .done

instance : Schema StarsForm := .record "PaymentFormStars" StarsForm.mk <|
  .field "form_id" (·.formId) <|
  .field "bot_id" (·.botId) <|
  .field "title" (·.title) <|
  .field "description" (·.description) <|
  .field "invoice" (·.invoice) <|
  .field "users" (·.users)
  .done

/-- The record of a form for a star gift. -/
@[reducible]
def PaymentForm.giftRecord : Schema (Int64 × Invoice) :=
  .record "PaymentFormStarGift" Prod.mk <|
  .field "form_id" (·.1) <|
  .field "invoice" (·.2)
  .done

instance : Schema PaymentForm := .ofForms
  (fun
    | .provider form => tagged "Form" inferInstance form
    | .stars form => tagged "Stars" inferInstance form
    | .starGift formId invoice => tagged "StarGift" PaymentForm.giftRecord (formId, invoice))
  [("Form", .of inferInstance .provider),
    ("Stars", .of inferInstance .stars),
    ("StarGift", .of PaymentForm.giftRecord fun (formId, invoice) => .starGift formId invoice)]

/-- The record of a payment that went through. -/
@[reducible]
def PaymentResult.paidRecord : Schema Updates :=
  .record "PaymentResult" (fun updates => updates) <|
  .field "updates" (fun updates => updates)
  .done

/-- The record of a payment that has to be confirmed. -/
@[reducible]
def PaymentResult.verificationRecord : Schema String :=
  .record "PaymentVerificationNeeded" (fun url => url) <|
  .field "url" (fun url => url)
  .done

instance : Schema PaymentResult := .ofForms
  (fun
    | .paid updates => tagged "Result" PaymentResult.paidRecord updates
    | .verificationNeeded url =>
      tagged "VerificationNeeded" PaymentResult.verificationRecord url)
  [("Result", .of PaymentResult.paidRecord .paid),
    ("VerificationNeeded", .of PaymentResult.verificationRecord .verificationNeeded)]

/-- The record of a catalogue. -/
@[reducible]
def StarGifts.giftsRecord : Schema (Int32 × List StarGift) :=
  .record "StarGifts" Prod.mk <|
  .field "hash" (·.1) <|
  .field "gifts" (·.2)
  .done

instance : Schema StarGifts := .ofForms
  (fun
    | .notModified => .bare "NotModified"
    | .gifts hash gifts => tagged "Gifts" StarGifts.giftsRecord (hash, gifts))
  [("NotModified", .bare .notModified),
    ("Gifts", .of StarGifts.giftsRecord fun (hash, gifts) => .gifts hash gifts)]

instance : Schema UserStarGifts :=
  .single "Gifts" <| .record "UserStarGifts" UserStarGifts.mk <|
  .field "count" (·.count) <|
  .field "gifts" (·.gifts) <|
  .field "next_offset" (·.nextOffset) <|
  .field "users" (·.users)
  .done

instance : Schema CheckedGiftCode :=
  .single "Code" <| .record "CheckedGiftCode" CheckedGiftCode.mk <|
  .field "via_giveaway" (·.viaGiveaway) <|
  .field "from_id" (·.fromId) <|
  .field "giveaway_msg_id" (·.giveawayMessageId) <|
  .field "to_id" (·.toId) <|
  .field "date" (·.date) <|
  .field "months" (·.months) <|
  .field "used_date" (·.usedDate) <|
  .field "chats" (·.chats) <|
  .field "users" (·.users)
  .done

end Messenger.Wire
