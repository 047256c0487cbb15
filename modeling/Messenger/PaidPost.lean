import Messenger.Client
import Messenger.Date
import Messenger.Wire.Media

/-!
# Posts with paid media

A post whose photos and videos are seen for stars. Each item is a file to upload, or one that the
server has already.
-/

namespace Messenger

/-- Where the contents of an item come from. -/
inductive MediaSource where
  /-- A file that has yet to be uploaded. -/
  | upload (file : LocalFile)
  /-- A photo or document that the server has. -/
  | stored (file : RemoteFile)
deriving DecidableEq, Inhabited

/-- What is said about a video when it is uploaded. -/
structure VideoDetails where
  thumb : Option LocalFile
  width : Int32
  height : Int32
  /-- In seconds. -/
  duration : Float
  /-- The video can be watched before it is downloaded. -/
  supportsStreaming : Bool
deriving DecidableEq, Inhabited

/-- What an item shows. -/
inductive MediaKind where
  | photo
  | video (details : VideoDetails)
deriving DecidableEq, Inhabited

/-- A photo or video to send. -/
structure MediaItem where
  kind : MediaKind
  source : MediaSource
  /-- The item is covered until it is clicked. -/
  spoiler : Bool
deriving DecidableEq, Inhabited

/-- A part of the message that a post replies to. -/
structure Quote where
  text : DraftText
  /-- Where the part starts. -/
  offset : Option Int32
deriving DecidableEq, Inhabited

/-- A post with paid media. -/
structure PaidPost where
  starsAmount : Int64
  media : List MediaItem
  caption : Option DraftText
  /-- What a bot puts into the post for itself. -/
  payload : Option String
  silent : Bool
  /-- The message that the post replies to. -/
  replyTo : Option Int32
  quote : Option Quote
  scheduleDate : Option Date
  /-- The post cannot be forwarded or saved. -/
  protectContent : Bool
  /-- The caption stands above the media. -/
  invertMedia : Bool
  businessConnectionId : Option String
deriving DecidableEq, Inhabited

namespace VideoDetails

/-- The details of a video of which nothing is known. -/
def unknown : VideoDetails where
  thumb := none
  width := 0
  height := 0
  duration := 0
  supportsStreaming := false

end VideoDetails

/-! ## What the server makes of uploads -/

namespace Wire

/-- A document of the server as a request names it. -/
def InputMedia.ofDocument (spoiler : Bool) (id accessHash : Int64) (fileReference : List UInt8) :
    InputMedia :=
  .document {
    spoiler := spoiler
    id := .document ⟨id, accessHash, fileReference⟩
    ttlSeconds := none
    query := none }

namespace MessageMedia

/-- The photo, if the media is one that the server kept. -/
def keptPhoto? : MessageMedia → Option Photo
  | .photo media =>
    match media.photo with
    | some (.photo returned) => some returned
    | _ => none
  | _ => none

/-- The document, if the media is one that the server kept. -/
def keptDocument? : MessageMedia → Option Document
  | .document media =>
    match media.document with
    | some (.document returned) => some returned
    | _ => none
  | _ => none

end MessageMedia

end Wire

/-- The server answered to an upload with something else. -/
def IoError.missingUpload (kind : String) : IoError :=
  ⟨.invalidData, s!"server did not return the uploaded {kind}"⟩

/-! ## Texts -/

namespace PaidPost

/-- The most items that a post may have. -/
def maxItems : Nat := 10

/-- The type that a video has if its name does not tell. -/
def defaultVideoType : String := "video/mp4"

/-- The post has neither too few nor too many items. -/
def sizeFits (post : PaidPost) : Bool :=
  0 < post.media.length ∧ post.media.length ≤ maxItems

/-- The caption as it will be sent. -/
def formattedCaption (services : Services) (post : PaidPost) : Wire.FormattedText :=
  post.caption.elim (.plain "") services.formatted

/-- The reply as a request says it. Without a message to reply to, a quote is of no use. -/
def reply? (services : Services) (post : PaidPost) : Option Wire.InputReplyTo :=
  post.replyTo.map fun messageId =>
    let quoted := post.quote.map fun quote => services.formatted quote.text
    .message {
      messageId := messageId
      topMessageId := none
      peer := none
      quoteText := quoted.map (·.text)
      quoteEntities := quoted.bind fun text => Listing.nonempty? text.entities
      quoteOffset := post.quote.bind (·.offset) }

/-- The request that sends the post, once its items are known to the server. -/
def request (services : Services) (post : PaidPost) (peer : Wire.InputPeer)
    (items : List Wire.InputMedia) (randomId : Int64) : Wire.SendMedia :=
  let caption := post.formattedCaption services
  { silent := post.silent
    background := false
    clearDraft := false
    noforwards := post.protectContent
    updateStickersetsOrder := false
    invertMedia := post.invertMedia
    peer := peer
    replyTo := post.reply? services
    media := .paidMedia ⟨post.starsAmount, items, post.payload⟩
    message := caption.text
    randomId := randomId
    entities := Listing.nonempty? caption.entities
    scheduleDate := post.scheduleDate.map (·.timestamp)
    sendAs := none
    effect := none }

end PaidPost

end Messenger
