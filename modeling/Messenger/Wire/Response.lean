import Messenger.Wire.Dialog
import Messenger.Wire.Payment
import Messenger.Wire.Privacy

/-!
# Responses

Whatever the server answers is a `Response`: a value together with its kind. A call knows which kind
it returns, and `Response.as` gives the value if the answer is of that kind.
-/

namespace Messenger.Wire

open Schema (tagged)

/-- After how many days without use the account is deleted. -/
structure AccountDaysTtl where
  days : Int32
deriving DecidableEq, Inhabited

/-- What a search found among the contacts (`myResults`) and elsewhere, with the tables for it. -/
structure Found where
  myResults : List Peer
  results : List Peer
  chats : List ChatEntry
  users : List UserEntry
deriving DecidableEq, Inhabited

instance : Schema AccountDaysTtl :=
  .single "Ttl" <| .record "AccountDaysTtl" AccountDaysTtl.mk <|
  .field "days" (·.days)
  .done

instance : Schema Found :=
  .single "Found" <| .record "Found" Found.mk <|
  .field "my_results" (·.myResults) <|
  .field "results" (·.results) <|
  .field "chats" (·.chats) <|
  .field "users" (·.users)
  .done

/-! ## Kinds -/

/-- The kinds of values that the server answers. -/
inductive ResponseKind where
  | bool
  | privacyRules
  | accountDaysTtl
  | found
  | dialogs
  | peerDialogs
  | messageMedia
  | updates
  | paymentForm
  | paymentResult
  | starGifts
  | userStarGifts
  | checkedGiftCode
deriving DecidableEq, Inhabited

namespace ResponseKind

/-- The type of the values of a kind. -/
abbrev Value : ResponseKind → Type
  | .bool => Bool
  | .privacyRules => PrivacyRules
  | .accountDaysTtl => AccountDaysTtl
  | .found => Found
  | .dialogs => Dialogs
  | .peerDialogs => PeerDialogs
  | .messageMedia => MessageMedia
  | .updates => Updates
  | .paymentForm => PaymentForm
  | .paymentResult => PaymentResult
  | .starGifts => StarGifts
  | .userStarGifts => UserStarGifts
  | .checkedGiftCode => CheckedGiftCode

/-- The name of the kind in the schema. -/
def name : ResponseKind → String
  | .bool => "Bool"
  | .privacyRules => "account.PrivacyRules"
  | .accountDaysTtl => "AccountDaysTTL"
  | .found => "contacts.Found"
  | .dialogs => "messages.Dialogs"
  | .peerDialogs => "messages.PeerDialogs"
  | .messageMedia => "MessageMedia"
  | .updates => "Updates"
  | .paymentForm => "payments.PaymentForm"
  | .paymentResult => "payments.PaymentResult"
  | .starGifts => "payments.StarGifts"
  | .userStarGifts => "payments.UserStarGifts"
  | .checkedGiftCode => "payments.CheckedGiftCode"

/-- The tag of the responses of a kind. -/
def tag : ResponseKind → String
  | .bool => "Bool"
  | .privacyRules => "PrivacyRules"
  | .accountDaysTtl => "AccountDaysTtl"
  | .found => "Found"
  | .dialogs => "Dialogs"
  | .peerDialogs => "PeerDialogs"
  | .messageMedia => "MessageMedia"
  | .updates => "Updates"
  | .paymentForm => "PaymentForm"
  | .paymentResult => "PaymentResult"
  | .starGifts => "StarGifts"
  | .userStarGifts => "UserStarGifts"
  | .checkedGiftCode => "CheckedGiftCode"

/-- All kinds. -/
def all : List ResponseKind :=
  [.bool, .privacyRules, .accountDaysTtl, .found, .dialogs, .peerDialogs, .messageMedia, .updates,
    .paymentForm, .paymentResult, .starGifts, .userStarGifts, .checkedGiftCode]

/-- The kind with the tag. -/
def ofTag? (tag : String) : Option ResponseKind :=
  all.find? (·.tag == tag)

/-- The schema of the values of a kind. -/
@[reducible]
def schema : (kind : ResponseKind) → Schema kind.Value
  | .bool => inferInstanceAs (Schema Bool)
  | .privacyRules => inferInstanceAs (Schema PrivacyRules)
  | .accountDaysTtl => inferInstanceAs (Schema AccountDaysTtl)
  | .found => inferInstanceAs (Schema Found)
  | .dialogs => inferInstanceAs (Schema Dialogs)
  | .peerDialogs => inferInstanceAs (Schema PeerDialogs)
  | .messageMedia => inferInstanceAs (Schema MessageMedia)
  | .updates => inferInstanceAs (Schema Updates)
  | .paymentForm => inferInstanceAs (Schema PaymentForm)
  | .paymentResult => inferInstanceAs (Schema PaymentResult)
  | .starGifts => inferInstanceAs (Schema StarGifts)
  | .userStarGifts => inferInstanceAs (Schema UserStarGifts)
  | .checkedGiftCode => inferInstanceAs (Schema CheckedGiftCode)

end ResponseKind

/-! ## Responses -/

/-- A value that the server answers. -/
structure Response where
  kind : ResponseKind
  value : kind.Value

instance : Inhabited Response := ⟨.bool, false⟩

/-- The server answered with a value of another kind than the call returns. -/
structure UnexpectedResponse where
  expected : ResponseKind
  got : ResponseKind
deriving DecidableEq, Inhabited

namespace UnexpectedResponse

/-- The wording of the mistake. -/
def message (mistake : UnexpectedResponse) : String :=
  s!"expected {mistake.expected.name} response, got {mistake.got.name}"

end UnexpectedResponse

namespace Response

/-- The name of the kind of the response. -/
def name (response : Response) : String :=
  response.kind.name

/-- The value of a response that should be of the given kind. -/
def as (kind : ResponseKind) (response : Response) : Except UnexpectedResponse kind.Value :=
  if h : response.kind = kind then .ok (h ▸ response.value)
  else .error ⟨kind, response.kind⟩

/-- The form of the responses of a kind. -/
def form (kind : ResponseKind) : String × Schema.Form Response :=
  (kind.tag, .of kind.schema (⟨kind, ·⟩))

instance : Schema Response := .ofForms
  (fun response => tagged response.kind.tag response.kind.schema response.value)
  (ResponseKind.all.map form)

end Response

end Messenger.Wire
