import Messenger.Error
import Messenger.Present.Chat

/-!
# Errors as documents

How errors are presented to programs that do not know the library: with their kind, their wording and
what they carry.
-/

namespace Messenger

open Json (orNull)
open Schema (write)

namespace IoErrorKind

/-- The name of what went wrong. -/
def name : IoErrorKind → String
  | .notFound => "NotFound"
  | .permissionDenied => "PermissionDenied"
  | .timedOut => "TimedOut"
  | .connectionReset => "ConnectionReset"
  | .unexpectedEof => "UnexpectedEof"
  | .unsupported => "Unsupported"
  | .invalidData => "InvalidData"
  | .other => "Other"

end IoErrorKind

namespace RpcError

/-- What the document of an error of the server holds. -/
def members (error : RpcError) : List (String × Json) :=
  [("code", write error.code),
    ("name", .str error.name),
    ("value", orNull (fun value => .integer value.toNat) error.value),
    ("caused_by", write error.causedBy)]

end RpcError

namespace CallError

/-- The kind of the error and what it carries. -/
def parts : CallError → String × Json
  | .rpc error => ("Rpc", .obj error.members)
  | .dropped => ("Dropped", .null)
  | .io error => ("Io", .str error.kind.name)
  | .deserialize error =>
    ("Deserialize", .obj [("expected", .str error.expected.name), ("got", .str error.got.name)])

/-- What the document of a failed request holds. -/
def members (error : CallError) : List (String × Json) :=
  [("error", .str error.parts.1), ("message", .str error.message), ("details", error.parts.2)]

end CallError

namespace MethodError

/-- The kind of the error and what it carries. -/
def parts : MethodError → String × Json
  | .invocation error => ("Invocation", .obj error.members)
  | .peerNotFound chat => ("PeerNotFound", chat.present)
  | .upload error => ("Upload", .str error.kind.name)
  | .invalidArgument reason => ("InvalidArgument", .str reason.message)

/-- What the document of a failed method holds. -/
def members (error : MethodError) : List (String × Json) :=
  [("error", .str error.parts.1),
    ("message", .str error.message),
    ("details", error.parts.2),
    ("source", write error.source?)]

end MethodError

end Messenger
