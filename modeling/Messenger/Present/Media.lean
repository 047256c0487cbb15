import Messenger.Media
import Messenger.Present.Chat

/-!
# Media as documents

How photos, documents, videos, stickers and paid media are presented to programs that do not know
the library.
-/

namespace Messenger

open Json (orNull each)
open Schema (write)

/-- The document of a photo. -/
def Wire.PhotoMedia.present (photo : Wire.PhotoMedia) : Json :=
  .obj [("id", write photo.id?),
    ("resolution", orNull (fun size => .arr [write size.1, write size.2]) photo.resolution?),
    ("date", orNull Date.present photo.date?),
    ("is_spoiler", .bool photo.spoiler),
    ("ttl_seconds", write photo.ttlSeconds)]

/-- The document of a document. -/
def Wire.DocumentMedia.present (document : Wire.DocumentMedia) : Json :=
  .obj [("id", write document.id?),
    ("name", .str document.name),
    ("mime_type", write document.mimeType?),
    ("creation_date", orNull Date.present document.creationDate?),
    ("size", write document.size),
    ("is_spoiler", .bool document.spoiler)]

/-- The document of a video. -/
def Video.present (video : Video) : Json :=
  .obj [("file_name", write video.fileName?),
    ("width", write video.attributes.width),
    ("height", write video.attributes.height),
    ("duration", write video.attributes.duration),
    ("supports_streaming", .bool video.attributes.supportsStreaming),
    ("ttl_seconds", write video.document.ttlSeconds),
    ("raw_attrs", write video.attributes),
    ("document", video.document.present)]

/-- The document of a sticker. -/
def Sticker.present (sticker : Sticker) : Json :=
  .obj [("emoji", .str sticker.attributes.alt),
    ("is_animated", .bool sticker.animated),
    ("raw_attrs", write sticker.attributes),
    ("document", sticker.document.present)]

/-- The document of a preview. -/
def PaidPreview.present (preview : PaidPreview) : Json :=
  .obj [("width", write preview.width),
    ("height", write preview.height),
    ("duration", write preview.duration),
    ("thumbnail", write preview.thumbnail)]

/-- The document of an item of paid media. -/
def PaidItem.present : PaidItem → Json
  | .photo media => .obj [("Photo", media.present)]
  | .video media => .obj [("Video", media.present)]
  | .preview media => .obj [("Preview", media.present)]

/-- The document of paid media. -/
def PaidMedia.present (info : PaidMedia) : Json :=
  .obj [("stars_amount", write info.starsAmount),
    ("media", each PaidItem.present info.media)]

end Messenger
