import Messenger.Error
import Messenger.File
import Messenger.FormattedText
import Messenger.MarkedId
import Messenger.Warning

/-!
# Clients

`Client ε α` is a run of a client that ends in an `α` or fails with an `ε`. What a client needs from
outside comes in two parts:

1. `Services` answer by themselves: they resolve chats, parse formatted texts and tell the types of
   files.
2. The `World` changes as the client runs: it holds the answers of the transport and of the
   uploader that are still to come, the next number to tag a message with, and the trace of what
   has happened.

Whatever a client does to its surroundings is an `Event` of the trace, so what a method sends, and
in which order, is read off the trace.
-/

namespace Messenger

/-! ## Texts -/

/-- How a text is to be formatted. -/
inductive ParseMode where
  /-- All markup is understood. -/
  | default
  | markdown
  | html
  /-- The text stays as it is. -/
  | disabled
deriving DecidableEq, Inhabited

namespace ParseMode

/-- The name of the mode. -/
def name : ParseMode → String
  | .default => "Default"
  | .markdown => "Markdown"
  | .html => "Html"
  | .disabled => "Disabled"

end ParseMode

/-- A text to send, with what is said about its formatting. -/
structure DraftText where
  text : String
  parseMode : Option ParseMode
  /-- The formatting, if it is given and not to be parsed. -/
  entities : Option (List Wire.MessageEntity)
deriving DecidableEq, Inhabited

/-! ## Surroundings -/

/-- What a client asks others for. Each service is a function: while a client runs, the same question
has the same answer. -/
structure Services where
  /-- The peer that a reference leads to, if there is one. -/
  resolve : ChatRef → Except CallError (Option Wire.InputPeer)
  /-- The plain text and the formatting of a text. -/
  parse : ParseMode → String → Wire.FormattedText
  /-- How a text is to be formatted when nothing is said. -/
  parseMode : ParseMode
  /-- The type of the contents of a file, if its name tells one. Nothing is assumed about it. -/
  mimeType : String → Option String

namespace Services

/-- What can be told of a reference without knowing any chat: the account itself, and the peer with
a marked identifier. -/
def resolveAmbient : ChatRef → Option Wire.InputPeer
  | .me => some .self
  | .id id => some (Wire.Peer.ofMarkedId id).ambient
  | .username _ => none
  | .phone _ => none

/-- Services that know nothing: no chat is found, texts stay as they are, and no type is told. -/
def blank : Services where
  resolve _ := .ok none
  parse _ text := .plain text
  parseMode := .disabled
  mimeType _ := none

/-- The text as it will be sent: formatting that is given goes before what is parsed. -/
def formatted (services : Services) (text : DraftText) : Wire.FormattedText :=
  match text.entities with
  | some entities => ⟨text.text, entities⟩
  | none =>
    match text.parseMode.getD services.parseMode with
    | .disabled => .plain text.text
    | mode => services.parse mode text.text

/-- The outline of the client, which shows only how it parses texts. -/
def description (services : Services) : String :=
  s!"Client \x7b params: InitParams \x7b parse_mode: {services.parseMode.name} \x7d, .. \x7d"

end Services

/-- What messages are numbered with. -/
structure RandomIdCounter where
  /-- The number for the next message, or zero as long as none is set. -/
  counter : Int64
  /-- What the clock shows, in nanoseconds since the epoch. -/
  clock : Int := 0
deriving Inhabited

namespace RandomIdCounter

/-- A number stands for a counter that is set to it. -/
instance (n : Nat) : OfNat RandomIdCounter n := ⟨{ counter := .ofNat n }⟩

/-- The number that the clock gives; before the epoch, that is one. -/
def seed (ids : RandomIdCounter) : Int64 :=
  if 0 ≤ ids.clock then .ofInt ids.clock else 1

/-- The number that the next message gets. As long as none is set, the clock gives it. -/
def value (ids : RandomIdCounter) : Int64 :=
  if ids.counter = 0 then ids.seed else ids.counter

/-- The counter once the next message has its number. -/
def advance (ids : RandomIdCounter) : RandomIdCounter :=
  { ids with counter := ids.value + 1 }

end RandomIdCounter

/-- Something that a client did. -/
inductive Event where
  /-- It noted which function it was about to invoke. -/
  | invoking (name : String)
  /-- It warned. -/
  | warned (warning : Warning)
  /-- It handed a request to the transport. -/
  | sent (request : Wire.Request)
  /-- It asked which peer a reference leads to. -/
  | resolved (chat : ChatRef)
  /-- It handed a file to the uploader. -/
  | saved (file : LocalFile)
deriving Inhabited

/-- What the transport answers to a request. -/
abbrev Answer := Except CallError Wire.Response

/-- What the uploader answers to a file. -/
abbrev UploadAnswer := Except IoError Wire.InputFile

/-- What is still to come from outside, and what has happened. -/
structure World where
  /-- The answers of the transport; once there are none, requests are dropped. -/
  answers : List Answer
  /-- The answers of the uploader; once there are none, files are refused. -/
  uploads : List UploadAnswer
  /-- Where the number for the next message comes from. -/
  nextRandomId : RandomIdCounter
  /-- What has happened, in order. -/
  trace : List Event
deriving Inhabited

/-- A run of a client. -/
abbrev Client (ε : Type) := ReaderT Services (ExceptT ε (StateM World))

/-- Where a method may fail for other reasons too, a failed request is one of them. -/
instance : MonadLift (Client CallError) (Client MethodError) where
  monadLift run := fun services world =>
    let outcome := run services world
    (outcome.1.mapError .invocation, outcome.2)

namespace Client

variable {ε α : Type}

/-! ## Steps -/

/-- Notes that something has happened. -/
def record (event : Event) : Client ε Unit :=
  modify fun world => { world with trace := world.trace ++ [event] }

/-- The value, once its warnings are noted. -/
def warned (value : Warned α) : Client ε α := do
  modify fun world => { world with trace := world.trace ++ value.warnings.map .warned }
  pure value.value

/-- The value of an attempt, or its failure. -/
def ofExcept : Except ε α → Client ε α
  | .ok value => pure value
  | .error error => throw error

/-- The next answer of the transport. -/
def nextAnswer : Client ε Answer :=
  modifyGet fun world =>
    match world.answers with
    | [] => (.error .dropped, world)
    | answer :: rest => (answer, { world with answers := rest })

/-- The refusal of a file with the given name when there is no uploader. -/
def noUploader (name : String) : IoError :=
  ⟨.unsupported, s!"no uploader configured to send {name}"⟩

/-- The next answer of the uploader to a file with the given name. -/
def nextUpload (name : String) : Client ε UploadAnswer :=
  modifyGet fun world =>
    match world.uploads with
    | [] => (.error (noUploader name), world)
    | answer :: rest => (answer, { world with uploads := rest })

/-- A number that no message had before. -/
def newRandomId : Client ε Int64 :=
  modifyGet fun world =>
    (world.nextRandomId.value, { world with nextRandomId := world.nextRandomId.advance })

/-! ## Requests -/

/-- What an answer means for the request: its value if it is of the kind that the request returns.
An error of the server that does not say which call caused it is put down to the innermost one. -/
def receive (request : Wire.Request) : Answer → Except CallError request.returns.Value
  | .ok response =>
    match response.as request.returns with
    | .ok value => .ok value
    | .error mistake => .error (.deserialize mistake)
  | .error (.rpc error) =>
    .error (.rpc (if error.causedBy.isNone then error.withCause request else error))
  | .error error => .error error

/-- Sends a request, and waits for the value that it returns. -/
def invoke (request : Wire.Request) : Client CallError request.returns.Value := do
  record (.invoking request.name)
  record (.sent request)
  let answer ← nextAnswer
  ofExcept (receive request answer)

/-! ## What a run does -/

theorem pure_apply (value : α) (services : Services) (world : World) :
    (pure value : Client ε α) services world = (.ok value, world) := rfl

/-- The second part runs in the world that the first one leaves, unless the first one fails. -/
theorem bind_apply {β : Type} (first : Client ε α) (next : α → Client ε β) (services : Services)
    (world : World) :
    (first >>= next) services world =
      match first services world with
      | (.ok value, world') => next value services world'
      | (.error error, world') => (.error error, world') := by
  simp only [bind, ReaderT.bind, ExceptT.bind, ExceptT.mk, StateT.bind]
  rcases first services world with ⟨_ | _, _⟩ <;> rfl

/-- A run that may only fail with a request does the same where methods fail for other reasons. -/
theorem lift_apply (run : Client CallError α) (services : Services) (world : World) :
    (liftM run : Client MethodError α) services world =
      ((run services world).1.mapError .invocation, (run services world).2) := rfl

theorem read_apply (services : Services) (world : World) :
    (read : Client ε Services) services world = (.ok services, world) := rfl

theorem record_apply (event : Event) (services : Services) (world : World) :
    (record event : Client ε Unit) services world =
      (.ok (), { world with trace := world.trace ++ [event] }) := rfl

theorem warned_apply (value : Warned α) (services : Services) (world : World) :
    (warned value : Client ε α) services world =
      (.ok value.value, { world with trace := world.trace ++ value.warnings.map .warned }) := rfl

theorem ofExcept_apply (attempt : Except ε α) (services : Services) (world : World) :
    (ofExcept attempt : Client ε α) services world = (attempt, world) := by
  cases attempt <;> rfl

theorem nextAnswer_apply (services : Services) (world : World) :
    (nextAnswer : Client ε Answer) services world =
      (.ok (world.answers.head?.getD (.error .dropped)),
        { world with answers := world.answers.tail }) := by
  rcases world with ⟨_ | ⟨answer, rest⟩, uploads, number, trace⟩ <;> rfl

theorem nextUpload_apply (name : String) (services : Services) (world : World) :
    (nextUpload name : Client ε UploadAnswer) services world =
      (.ok (world.uploads.head?.getD (.error (noUploader name))),
        { world with uploads := world.uploads.tail }) := by
  rcases world with ⟨answers, _ | ⟨answer, rest⟩, number, trace⟩ <;> rfl

theorem newRandomId_apply (services : Services) (world : World) :
    (newRandomId : Client ε Int64) services world =
      (.ok world.nextRandomId.value,
        { world with nextRandomId := world.nextRandomId.advance }) := rfl

/-- A request is noted and sent, and uses up the next answer; without one it is dropped. -/
theorem invoke_apply (request : Wire.Request) (services : Services) (world : World) :
    invoke request services world =
      (receive request (world.answers.head?.getD (.error .dropped)),
        { world with
          answers := world.answers.tail
          trace := world.trace ++ [.invoking request.name, .sent request] }) := by
  simp [invoke, bind_apply, record_apply, nextAnswer_apply, ofExcept_apply]

/-- A request succeeds only if it is answered. -/
theorem answers_ne_nil_of_invoke {request : Wire.Request} {services : Services}
    {world world' : World} {value : request.returns.Value}
    (h : invoke request services world = (.ok value, world')) : world.answers ≠ [] := by
  intro none
  rw [invoke_apply, none] at h
  cases congrArg Prod.fst h

/-! ## Calls -/

/-- Runs a call. -/
def run (call : Wire.Call) : Client CallError call.returns.Value :=
  invoke (.call call)

/-- Runs a call, on behalf of the business connection if there is one. -/
def runOnBehalf (call : Wire.Call) (connectionId : Option String) :
    Client CallError call.returns.Value :=
  match connectionId with
  | some id => invoke (.onBehalf id (.call call))
  | none => invoke (.call call)

/-! ## Services -/

/-- The peer that a reference leads to. -/
def peerOf (chat : ChatRef) : Client MethodError Wire.InputPeer := do
  record (.resolved chat)
  match (← read).resolve chat with
  | .ok (some peer) => pure peer
  | .ok none => throw (.peerNotFound chat)
  | .error error => throw (.invocation error)

/-- The uploaded file. -/
def upload (file : LocalFile) : Client MethodError Wire.InputFile := do
  record (.saved file)
  match ← nextUpload file.name with
  | .ok saved => pure saved
  | .error error => throw (.upload error)

end Client

end Messenger
