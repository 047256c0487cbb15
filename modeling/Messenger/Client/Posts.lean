import Messenger.PaidPost
import Messenger.Update

/-!
# Sending paid media

The items of a post are made known to the server one after the other, in their order. An item that
has to be uploaded takes three steps:

1. its file is saved, after the thumbnail if a video has one;
2. the saved file is handed to the server as media;
3. the server says as which photo or document it keeps the file.

Only when all items are known is the post sent.
-/

namespace Messenger.Client

/-! ## Items -/

/-- Hands media to the server, which keeps it for a peer. -/
def uploadMedia (peer : Wire.InputPeer) (connectionId : Option String) (media : Wire.InputMedia) :
    Client MethodError Wire.MessageMedia :=
  run (.uploadMedia ⟨connectionId, peer, media⟩)

/-- The photo that the server made of an upload, as a post names it. -/
def namePhoto (spoiler : Bool) (kept : Wire.MessageMedia) : Client MethodError Wire.InputMedia :=
  match kept.keptPhoto? with
  | some photo =>
    pure <| .photo {
      spoiler := spoiler
      id := .photo ⟨photo.id, photo.accessHash, photo.fileReference⟩
      ttlSeconds := none }
  | none => throw (.upload (.missingUpload "photo"))

/-- The document that the server made of an upload, as a post names it. -/
def nameVideo (spoiler : Bool) (kept : Wire.MessageMedia) : Client MethodError Wire.InputMedia :=
  match kept.keptDocument? with
  | some document =>
    pure (.ofDocument spoiler document.id document.accessHash document.fileReference)
  | none => throw (.upload (.missingUpload "video"))

/-- Uploads a photo for a peer, and names what the server made of it. -/
def uploadPhoto (peer : Wire.InputPeer) (connectionId : Option String) (spoiler : Bool)
    (file : LocalFile) : Client MethodError Wire.InputMedia := do
  let saved ← upload file
  let kept ← uploadMedia peer connectionId <| .uploadedPhoto {
    spoiler := spoiler
    file := saved
    stickers := none
    ttlSeconds := none }
  namePhoto spoiler kept

/-- Uploads a video for a peer, after its thumbnail if it has one, and names what the server made of
it. -/
def uploadVideo (peer : Wire.InputPeer) (connectionId : Option String) (spoiler : Bool)
    (details : VideoDetails) (file : LocalFile) : Client MethodError Wire.InputMedia := do
  let services ← read
  let thumb ← details.thumb.mapM upload
  let saved ← upload file
  let kept ← uploadMedia peer connectionId <| .uploadedDocument {
    nosoundVideo := true
    forceFile := false
    spoiler := spoiler
    file := saved
    thumb := thumb
    mimeType := (services.mimeType file.name).getD PaidPost.defaultVideoType
    attributes := [
      .video {
        roundMessage := false
        supportsStreaming := details.supportsStreaming
        nosound := false
        duration := details.duration
        width := details.width
        height := details.height
        preloadPrefixSize := none },
      .filename file.name]
    stickers := none
    ttlSeconds := none }
  nameVideo spoiler kept

/-- An item as the request for a post names it. -/
def sendableItem (peer : Wire.InputPeer) (connectionId : Option String) (item : MediaItem) :
    Client MethodError Wire.InputMedia :=
  match item.kind, item.source with
  | .photo, .stored file =>
    pure <| .photo {
      spoiler := item.spoiler
      id := .photo ⟨file.id, file.accessHash, file.fileReference⟩
      ttlSeconds := none }
  | .photo, .upload file => uploadPhoto peer connectionId item.spoiler file
  | .video _, .stored file =>
    pure (.ofDocument item.spoiler file.id file.accessHash file.fileReference)
  | .video details, .upload file => uploadVideo peer connectionId item.spoiler details file

/-! ## Posts -/

/-- Sends a post whose items the server knows to a peer. -/
def sendPrepared (post : PaidPost) (peer : Wire.InputPeer) (items : List Wire.InputMedia) :
    Client MethodError (List Message) := do
  let services ← read
  let randomId ← newRandomId
  let updates : Wire.Updates ← runOnBehalf (.sendMedia (post.request services peer items randomId))
    post.businessConnectionId
  pure ((Update.ofContainer updates).filterMap Update.message?)

/-- Sends a post with paid media to a chat; the result is the messages that were sent. -/
def sendPost (chat : ChatRef) (post : PaidPost) : Client MethodError (List Message) := do
  if !post.sizeFits then
    throw (.invalidArgument (.paidMediaCount post.media.length))
  let peer ← peerOf chat
  let items ← post.media.mapM (sendableItem peer post.businessConnectionId)
  sendPrepared post peer items

/-! ## Reactions -/

/-- Pays stars for a reaction to a message. If nothing is said about whether others see who paid, it
is as it was for the last such reaction. -/
def payReaction (chat : ChatRef) (messageId count : Int32) (isPrivate : Option Bool) :
    Client MethodError Bool := do
  let peer ← peerOf chat
  let randomId ← newRandomId
  let _ ← run (.sendPaidReaction ⟨peer, messageId, count, randomId, isPrivate⟩)
  pure true

end Messenger.Client
