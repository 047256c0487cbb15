import Messenger.ChatRef
import Messenger.Wire.Call

/-!
# Errors

Three layers of errors, each with its cause and its wording:

1. `RpcError`: the server refused a call. Its message carries a name and perhaps a number.
2. `CallError`: a request failed, for that reason or on the way.
3. `MethodError`: a method failed that resolves chats, uploads files or checks its arguments before
   it sends anything.
-/

namespace Messenger

/-! ## Errors of the server -/

/-- The server refused a call. -/
structure RpcError where
  /-- A number like the status of an HTTP response. -/
  code : Int32
  name : String
  /-- The number that the message carried. -/
  value : Option UInt32
  /-- The name of the call that was refused, where it is known. -/
  causedBy : Option String
deriving DecidableEq, Inhabited

namespace RpcError

/-- The first run of digits in a text. -/
def firstDigits (text : List Char) : List Char :=
  (text.dropWhile fun c => !c.isDigit).takeWhile (·.isDigit)

/-- The text without the first place where the part stands in it. -/
def removeFirst (part : List Char) : List Char → List Char
  | [] => []
  | c :: rest =>
    if part.isPrefixOf (c :: rest) then (c :: rest).drop part.length
    else c :: removeFirst part rest

/-- The number that the first digits of a text make, unless there are none or they make too large a
number. -/
def firstNumber? (text : List Char) : Option UInt32 :=
  (Text.readNat? (firstDigits text)).bind uint32?

/-- The error with the code and the message of the server. If the message carries a number, the
number is the value, and the name is the message without the first underscore that is followed by
its digits, and without these. -/
def ofMessage (code : Int32) (message : String) : RpcError :=
  let text := message.toList
  match firstNumber? text with
  | some value => ⟨code, .ofList (removeFirst ('_' :: firstDigits text) text), some value, none⟩
  | none => ⟨code, message, none, none⟩

/-- The pattern matches the name: it is the name, its start before an asterisk, or its end behind
one. -/
def nameMatches (name pattern : List Char) : Bool :=
  if pattern.getLast? = some '*' then pattern.dropLast.isPrefixOf name
  else if pattern.head? = some '*' then pattern.tail.isSuffixOf name
  else name == pattern

/-- The pattern matches the name of the error. -/
def «is» (error : RpcError) (pattern : String) : Bool :=
  nameMatches error.name.toList pattern.toList

/-- The error, as caused by the call that the request runs in the end. -/
def withCause (error : RpcError) (request : Wire.Request) : RpcError :=
  { error with causedBy := some request.innermost.name }

/-- The wording of the error. -/
def message (error : RpcError) : String :=
  let cause := error.causedBy.elim "" (" caused by " ++ ·)
  let value := error.value.elim "" fun value => s!" (value: {value.toNat})"
  s!"rpc error {error.code.toInt}: {error.name}" ++ cause ++ value

end RpcError

/-! ## Errors of input and output -/

/-- What went wrong with a connection or a file. -/
inductive IoErrorKind where
  | notFound
  | permissionDenied
  | timedOut
  | connectionReset
  | unexpectedEof
  | unsupported
  | invalidData
  | other
deriving DecidableEq, Inhabited

/-- A connection or a file failed. -/
structure IoError where
  kind : IoErrorKind
  message : String
deriving DecidableEq, Inhabited

/-! ## Errors of requests -/

/-- A request failed. -/
inductive CallError where
  /-- The server refused the call. -/
  | rpc (error : RpcError)
  /-- The request was dropped, and there will be no answer. -/
  | dropped
  /-- The connection failed. -/
  | io (error : IoError)
  /-- The answer is not of the kind that the call returns. -/
  | deserialize (error : Wire.UnexpectedResponse)
deriving DecidableEq, Inhabited

namespace CallError

/-- The error is one of the server, and the pattern matches its name. -/
def «is» (error : CallError) (pattern : String) : Bool :=
  match error with
  | .rpc error => error.is pattern
  | _ => false

/-- The wording of the error. -/
def message : CallError → String
  | .rpc error => "request error: " ++ error.message
  | .dropped => "request error: dropped (cancelled)"
  | .io error => "request error, IO failed: " ++ error.message
  | .deserialize error => "request error, bad response: " ++ error.message

end CallError

/-- Why the arguments of a method were refused. -/
inductive InvalidArgument where
  /-- A privacy rule about users names something else. -/
  | notUser (chat : ChatRef)
  /-- A privacy rule about groups names something else. -/
  | notGroup (chat : ChatRef)
  /-- Shipping was accepted without a way to ship. -/
  | noShippingOptions
  /-- The identifier of a shipping query is no number. -/
  | shippingQueryId (id : String)
  /-- A gift is sent to something that is no user. -/
  | chatNotUser
  /-- The payer has to confirm the payment at the address. -/
  | verification (url : String)
  /-- There are too few or too many items of paid media. -/
  | paidMediaCount (count : Nat)
  /-- The gift was not received by the account. -/
  | giftNotReceived
deriving DecidableEq, Inhabited

namespace InvalidArgument

/-- The wording of the refusal. -/
def message : InvalidArgument → String
  | .notUser chat => s!"{chat.text} does not belong to a user"
  | .notGroup chat => s!"{chat.text} does not belong to a group"
  | .noShippingOptions => "Shipping options required."
  | .shippingQueryId id => s!"invalid shipping query id: {id}"
  | .chatNotUser => "chat must belong to a user."
  | .verification url => s!"payment needs verification at {url}"
  | .paidMediaCount count => s!"paid media must contain between 1 and 10 items, got {count}"
  | .giftNotReceived => "The gift was not received by the current account."

end InvalidArgument

/-- A method failed. -/
inductive MethodError where
  /-- A request of the method failed. -/
  | invocation (error : CallError)
  /-- The chat could not be resolved. -/
  | peerNotFound (chat : ChatRef)
  /-- A file could not be uploaded. -/
  | upload (error : IoError)
  /-- The arguments were refused. -/
  | invalidArgument (reason : InvalidArgument)
deriving DecidableEq, Inhabited

namespace MethodError

/-- The error is one of the server, and the pattern matches its name. -/
def «is» (error : MethodError) (pattern : String) : Bool :=
  match error with
  | .invocation error => error.is pattern
  | _ => false

/-- The wording of the error. -/
def message : MethodError → String
  | .invocation error => error.message
  | .peerNotFound chat => "request error, peer not found: " ++ chat.text
  | .upload error => "request error, upload failed: " ++ error.message
  | .invalidArgument reason => "request error, invalid argument: " ++ reason.message

/-- The wording of the error behind the error, if there is one. -/
def source? : MethodError → Option String
  | .invocation error => some error.message
  | .upload error => some error.message
  | _ => none

end MethodError

end Messenger
