import Messenger.Date
import Messenger.Warning
import Messenger.Wire.Media

/-!
# Media of messages

What a client reads off a photo or a document: its size, its dates, whether it is a video or a
sticker. Paid media (`PaidMedia`) is a list of photos, videos and previews; a document that is
no video is left out with a warning, and anything else without one.
-/

namespace Messenger

/-! ## Photos -/

namespace Wire

namespace PhotoMedia

/-- The photo as media of its own. -/
def ofPhoto (photo : PhotoEntry) : PhotoMedia :=
  { spoiler := false, photo := some photo, ttlSeconds := none }

/-- The photo, unless only its identifier is known. -/
def known? (media : PhotoMedia) : Option Photo :=
  match media.photo with
  | some (.photo photo) => some photo
  | _ => none

/-- The identifier of the photo. -/
def id? (media : PhotoMedia) : Option Int64 :=
  media.photo.map fun
    | .empty id => id
    | .photo photo => photo.id

/-- The number of points in a picture, in 32 bits. -/
def area (size : Int32 × Int32) : Int32 :=
  size.1 * size.2

/-- The largest of the sizes, and of several equally large ones the last. -/
def largest? : List (Int32 × Int32) → Option (Int32 × Int32)
  | [] => none
  | size :: rest =>
    match largest? rest with
    | some other => if area other < area size then some size else some other
    | none => some size

/-- Width and height of a size that can be downloaded. -/
def dimensions? : PhotoSize → Option (Int32 × Int32)
  | .size _ width height _ => some (width, height)
  | _ => none

/-- Width and height of the largest size. -/
def resolution? (media : PhotoMedia) : Option (Int32 × Int32) :=
  media.known?.bind fun photo => largest? (photo.sizes.filterMap dimensions?)

/-- When the photo was taken in. -/
def date? (media : PhotoMedia) : Option Date :=
  media.known?.map (Date.ofTimestamp ·.date)

/-- The outline of the media, for descriptions. -/
def outline (media : PhotoMedia) : Term :=
  .record "Photo" [("raw", Schema.view media)]

end PhotoMedia

/-! ## Documents -/

namespace DocumentMedia

/-- The document as media of its own. -/
def ofDocument (document : DocumentEntry) : DocumentMedia :=
  { nopremium := false, spoiler := false, video := false, round := false, voice := false,
    document := some document, ttlSeconds := none }

/-- The document, unless only its identifier is known. -/
def known? (media : DocumentMedia) : Option Document :=
  match media.document with
  | some (.document document) => some document
  | _ => none

/-- The identifier of the document. -/
def id? (media : DocumentMedia) : Option Int64 :=
  media.document.map fun
    | .empty id => id
    | .document document => document.id

/-- What is said about the document. -/
def attributes (media : DocumentMedia) : List DocumentAttribute :=
  media.known?.elim [] (·.attributes)

/-- The name of the file, which is empty if it was uploaded without one. -/
def name (media : DocumentMedia) : String :=
  (media.attributes.findSome? fun
    | .filename name => some name
    | _ => none).getD ""

/-- The type of the contents. -/
def mimeType? (media : DocumentMedia) : Option String :=
  media.known?.map (·.mimeType)

/-- When the document was taken in. -/
def creationDate? (media : DocumentMedia) : Option Date :=
  media.known?.map (Date.ofTimestamp ·.date)

/-- How many bytes the document has. -/
def size (media : DocumentMedia) : Int64 :=
  media.known?.elim 0 (·.size)

/-- The outline of the media, for descriptions. -/
def outline (media : DocumentMedia) : Term :=
  .record "Document" [("raw", Schema.view media)]

end DocumentMedia

end Wire

/-! ## Videos and stickers -/

/-- A document that is a video. -/
structure Video where
  document : Wire.DocumentMedia
  attributes : Wire.VideoAttributes
deriving DecidableEq, Inhabited

namespace Video

/-- The document as the video that its first video attribute makes it. -/
def ofDocument? (document : Wire.DocumentMedia) : Option Video :=
  (document.attributes.findSome? fun
    | .video attributes => some attributes
    | _ => none).map (⟨document, ·⟩)

/-- The name of the file, if it has one. -/
def fileName? (video : Video) : Option String :=
  if video.document.name.isEmpty then none else some video.document.name

/-- The outline of the video, for descriptions. -/
def outline (video : Video) : Term :=
  .record "Video" [("document", video.document.outline),
    ("raw_attrs", Schema.view video.attributes)]

end Video

/-- A document that is a sticker. -/
structure Sticker where
  document : Wire.DocumentMedia
  attributes : Wire.StickerAttributes
  animated : Bool
deriving DecidableEq, Inhabited

namespace Sticker

/-- The sticker attributes among what is said about a document, if there are any. -/
def attributes? : Wire.DocumentAttribute → Option Wire.StickerAttributes
  | .sticker attributes => some attributes
  | _ => none

/-- The document as the sticker that its last sticker attribute makes it. -/
def ofDocument? (document : Wire.DocumentMedia) : Option Sticker :=
  (document.attributes.filterMap attributes?).getLast?.map
    (⟨document, ·, document.attributes.contains .animated⟩)

/-- The outline of the sticker, for descriptions. -/
def outline (sticker : Sticker) : Term :=
  .record "Sticker" [("document", sticker.document.outline),
    ("raw_attrs", Schema.view sticker.attributes), ("animated", .bool sticker.animated)]

end Sticker

/-! ## Paid media -/

/-- What is shown of media that has not been paid for. -/
structure PaidPreview where
  width : Option Int32
  height : Option Int32
  duration : Option Int32
  /-- The bytes of a tiny picture. -/
  thumbnail : Option (List UInt8)
deriving DecidableEq, Inhabited

/-- An item of paid media. -/
inductive PaidItem where
  | photo (photo : Wire.PhotoMedia)
  | video (video : Video)
  | preview (preview : PaidPreview)
deriving DecidableEq, Inhabited

/-- The paid media of a message. -/
structure PaidMedia where
  /-- How many stars it costs to see the media. -/
  starsAmount : Int64
  media : List PaidItem
deriving DecidableEq, Inhabited

namespace PaidPreview

/-- The preview that the server sent. -/
def ofRaw (raw : Wire.MediaPreview) : PaidPreview where
  width := raw.width
  height := raw.height
  duration := raw.videoDuration
  thumbnail :=
    match raw.thumb with
    | some (.stripped _ bytes) => some bytes
    | _ => none

/-- The outline of the preview, for descriptions. -/
def outline (preview : PaidPreview) : Term :=
  .record "PaidMediaPreview" [("width", Schema.view preview.width),
    ("height", Schema.view preview.height), ("duration", Schema.view preview.duration),
    ("thumbnail", preview.thumbnail |> Term.ofOption fun bytes =>
      .record "StrippedThumbnail" [("data", Schema.view bytes)])]

end PaidPreview

namespace PaidItem

/-- The item that an entry of paid media makes, if it is one that is understood. -/
def ofRaw? : Wire.ExtendedMedia Wire.MessageMedia → Warned (Option PaidItem)
  | .preview raw => pure (some (.preview (.ofRaw raw)))
  | .media (.photo raw) => pure (some (.photo raw))
  | .media (.document raw) =>
    match Video.ofDocument? raw with
    | some found => pure (some (.video found))
    | none => do
      Warned.warn .paidDocumentWithoutVideo
      pure none
  | .media _ => pure none

/-- The outline of the item, for descriptions. -/
def outline : PaidItem → Term
  | .photo raw => .tagged "Photo" raw.outline
  | .video raw => .tagged "Video" raw.outline
  | .preview raw => .tagged "Preview" raw.outline

end PaidItem

namespace PaidMedia

/-- The items that the entries make, in order. -/
def itemsOf : List (Wire.ExtendedMedia Wire.MessageMedia) → Warned (List PaidItem)
  | [] => pure []
  | entry :: rest => do
    let item ← PaidItem.ofRaw? entry
    let items ← itemsOf rest
    pure (item.toList ++ items)

/-- The paid media that the server sent. -/
def ofRaw (raw : Wire.PaidMedia (Wire.ExtendedMedia Wire.MessageMedia)) : Warned PaidMedia := do
  let items ← itemsOf raw.extendedMedia
  pure ⟨raw.starsAmount, items⟩

/-- The outline of the paid media, for descriptions. -/
def outline (info : PaidMedia) : Term :=
  .record "PaidMediaInfo" [("stars_amount", Schema.view info.starsAmount),
    ("media", .list (info.media.map PaidItem.outline))]

end PaidMedia

end Messenger
