import Messenger.Schema

/-!
# Photos, documents and uploaded files

What the server keeps (`Photo`, `Document`), and what a request refers to: a file just uploaded
(`InputFile`), or a photo or document that the server has already (`InputPhoto`, `InputDocument`).
-/

namespace Messenger.Wire

open Schema (tagged)

/-- A size in which a photo or a thumbnail is kept. -/
inductive PhotoSize where
  | empty (type : String)
  | size (type : String) (width height size : Int32)
  /-- A tiny preview whose bytes are sent along. -/
  | stripped (type : String) (bytes : List UInt8)
deriving DecidableEq, Inhabited

/-- A photo that the server keeps. -/
structure Photo where
  hasStickers : Bool
  id : Int64
  accessHash : Int64
  fileReference : List UInt8
  date : Int32
  sizes : List PhotoSize
  dcId : Int32
deriving DecidableEq, Inhabited

/-- A photo, or only the identifier of one. -/
inductive PhotoEntry where
  | empty (id : Int64)
  | photo (photo : Photo)
deriving DecidableEq, Inhabited

/-- The sticker set that a sticker belongs to. -/
inductive StickerSet where
  | empty
  | id (id accessHash : Int64)
  | shortName (name : String)
deriving DecidableEq, Inhabited

/-- What makes a document a sticker. -/
structure StickerAttributes where
  mask : Bool
  alt : String
  stickerSet : StickerSet
deriving DecidableEq, Inhabited

/-- What makes a document a video. -/
structure VideoAttributes where
  roundMessage : Bool
  supportsStreaming : Bool
  nosound : Bool
  duration : Float
  width : Int32
  height : Int32
  preloadPrefixSize : Option Int32
deriving DecidableEq, Inhabited

/-- Something said about a document. -/
inductive DocumentAttribute where
  | imageSize (width height : Int32)
  | animated
  | sticker (attributes : StickerAttributes)
  | video (attributes : VideoAttributes)
  | filename (name : String)
deriving DecidableEq, Inhabited

/-- A document that the server keeps. -/
structure Document where
  id : Int64
  accessHash : Int64
  fileReference : List UInt8
  date : Int32
  mimeType : String
  size : Int64
  thumbs : Option (List PhotoSize)
  dcId : Int32
  attributes : List DocumentAttribute
deriving DecidableEq, Inhabited

/-- A document, or only the identifier of one. -/
inductive DocumentEntry where
  | empty (id : Int64)
  | document (document : Document)
deriving DecidableEq, Inhabited

/-- A file that was uploaded in parts. -/
inductive InputFile where
  | file (id : Int64) (parts : Int32) (name md5Checksum : String)
  | big (id : Int64) (parts : Int32) (name : String)
deriving DecidableEq, Inhabited

/-- The three things that name a photo or document of the server. -/
structure FileKey where
  id : Int64
  accessHash : Int64
  fileReference : List UInt8
deriving DecidableEq, Inhabited

/-- A photo, as a request names one. -/
inductive InputPhoto where
  | empty
  | photo (key : FileKey)
deriving DecidableEq, Inhabited

/-- A document, as a request names one. -/
inductive InputDocument where
  | empty
  | document (key : FileKey)
deriving DecidableEq, Inhabited

/-! ## Schemas -/

/-- The record of a size that has to be downloaded. -/
@[reducible]
def PhotoSize.sizeRecord : Schema (String × Int32 × Int32 × Int32) :=
  .record "PhotoSize" (fun type width height size => (type, width, height, size)) <|
  .field "type" (·.1) <|
  .field "w" (·.2.1) <|
  .field "h" (·.2.2.1) <|
  .field "size" (·.2.2.2)
  .done

/-- The record of a tiny preview. -/
@[reducible]
def PhotoSize.strippedRecord : Schema (String × List UInt8) :=
  .record "PhotoStrippedSize" Prod.mk <|
  .field "type" (·.1) <|
  .field "bytes" (·.2)
  .done

/-- The record of a size that is not there. -/
@[reducible]
def PhotoSize.emptyRecord : Schema String :=
  .record "PhotoSizeEmpty" id <| .field "type" id .done

instance : Schema PhotoSize := .ofForms
  (fun
    | .empty type => tagged "Empty" PhotoSize.emptyRecord type
    | .size type width height size => tagged "Size" PhotoSize.sizeRecord (type, width, height, size)
    | .stripped type bytes => tagged "PhotoStrippedSize" PhotoSize.strippedRecord (type, bytes))
  [("Empty", .of PhotoSize.emptyRecord .empty),
    ("Size", .of PhotoSize.sizeRecord fun (type, width, height, size) => .size type width height size),
    ("PhotoStrippedSize", .of PhotoSize.strippedRecord fun (type, bytes) => .stripped type bytes)]

instance : Schema Photo := .record "Photo" Photo.mk <|
  .field "has_stickers" (·.hasStickers) <|
  .field "id" (·.id) <|
  .field "access_hash" (·.accessHash) <|
  .field "file_reference" (·.fileReference) <|
  .field "date" (·.date) <|
  .field "sizes" (·.sizes) <|
  .field "dc_id" (·.dcId)
  .done

/-- The record of a file of which only the identifier is known. -/
@[reducible]
def emptyFileRecord (name : String) : Schema Int64 :=
  .record name id <| .field "id" id .done

instance : Schema PhotoEntry := .ofForms
  (fun
    | .empty id => tagged "Empty" (emptyFileRecord "PhotoEmpty") id
    | .photo photo => tagged "Photo" inferInstance photo)
  [("Empty", .of (emptyFileRecord "PhotoEmpty") .empty),
    ("Photo", .of inferInstance .photo)]

/-- The record of a set named by its identifier. -/
@[reducible]
def StickerSet.idRecord : Schema (Int64 × Int64) :=
  .record "InputStickerSetId" Prod.mk <|
  .field "id" (·.1) <|
  .field "access_hash" (·.2)
  .done

/-- The record of a set named by its short name. -/
@[reducible]
def StickerSet.nameRecord : Schema String :=
  .record "InputStickerSetShortName" (fun name => name) <|
  .field "short_name" (fun name => name)
  .done

instance : Schema StickerSet := .ofForms
  (fun
    | .empty => .bare "Empty"
    | .id id accessHash => tagged "Id" StickerSet.idRecord (id, accessHash)
    | .shortName name => tagged "ShortName" StickerSet.nameRecord name)
  [("Empty", .bare .empty),
    ("Id", .of StickerSet.idRecord fun (id, accessHash) => .id id accessHash),
    ("ShortName", .of StickerSet.nameRecord .shortName)]

instance : Schema StickerAttributes := .record "DocumentAttributeSticker" StickerAttributes.mk <|
  .field "mask" (·.mask) <|
  .field "alt" (·.alt) <|
  .field "stickerset" (·.stickerSet)
  .done

instance : Schema VideoAttributes := .record "DocumentAttributeVideo" VideoAttributes.mk <|
  .field "round_message" (·.roundMessage) <|
  .field "supports_streaming" (·.supportsStreaming) <|
  .field "nosound" (·.nosound) <|
  .field "duration" (·.duration) <|
  .field "w" (·.width) <|
  .field "h" (·.height) <|
  .field "preload_prefix_size" (·.preloadPrefixSize)
  .done

/-- The record of the size of an image. -/
@[reducible]
def DocumentAttribute.imageSizeRecord : Schema (Int32 × Int32) :=
  .record "DocumentAttributeImageSize" Prod.mk <|
  .field "w" (·.1) <|
  .field "h" (·.2)
  .done

/-- The record of a file name. -/
@[reducible]
def DocumentAttribute.filenameRecord : Schema String :=
  .record "DocumentAttributeFilename" id <| .field "file_name" id .done

instance : Schema DocumentAttribute := .ofForms
  (fun
    | .imageSize width height => tagged "ImageSize" DocumentAttribute.imageSizeRecord (width, height)
    | .animated => .bare "Animated"
    | .sticker attributes => tagged "Sticker" inferInstance attributes
    | .video attributes => tagged "Video" inferInstance attributes
    | .filename name => tagged "Filename" DocumentAttribute.filenameRecord name)
  [("ImageSize", .of DocumentAttribute.imageSizeRecord fun (width, height) => .imageSize width height),
    ("Animated", .bare .animated),
    ("Sticker", .of inferInstance .sticker),
    ("Video", .of inferInstance .video),
    ("Filename", .of DocumentAttribute.filenameRecord .filename)]

instance : Schema Document := .record "Document" Document.mk <|
  .field "id" (·.id) <|
  .field "access_hash" (·.accessHash) <|
  .field "file_reference" (·.fileReference) <|
  .field "date" (·.date) <|
  .field "mime_type" (·.mimeType) <|
  .field "size" (·.size) <|
  .field "thumbs" (·.thumbs) <|
  .field "dc_id" (·.dcId) <|
  .field "attributes" (·.attributes)
  .done

instance : Schema DocumentEntry := .ofForms
  (fun
    | .empty id => tagged "Empty" (emptyFileRecord "DocumentEmpty") id
    | .document document => tagged "Document" inferInstance document)
  [("Empty", .of (emptyFileRecord "DocumentEmpty") .empty),
    ("Document", .of inferInstance .document)]

/-- The record of a file of ordinary size. -/
@[reducible]
def InputFile.fileRecord : Schema (Int64 × Int32 × String × String) :=
  .record "InputFile" (fun id parts name checksum => (id, parts, name, checksum)) <|
  .field "id" (·.1) <|
  .field "parts" (·.2.1) <|
  .field "name" (·.2.2.1) <|
  .field "md5_checksum" (·.2.2.2)
  .done

/-- The record of a big file, which has no checksum. -/
@[reducible]
def InputFile.bigRecord : Schema (Int64 × Int32 × String) :=
  .record "InputFileBig" (fun id parts name => (id, parts, name)) <|
  .field "id" (·.1) <|
  .field "parts" (·.2.1) <|
  .field "name" (·.2.2)
  .done

instance : Schema InputFile := .ofForms
  (fun
    | .file id parts name checksum => tagged "File" InputFile.fileRecord (id, parts, name, checksum)
    | .big id parts name => tagged "Big" InputFile.bigRecord (id, parts, name))
  [("File", .of InputFile.fileRecord fun (id, parts, name, checksum) => .file id parts name checksum),
    ("Big", .of InputFile.bigRecord fun (id, parts, name) => .big id parts name)]

/-- The record of a file key. -/
@[reducible]
def fileKeyRecord (name : String) : Schema FileKey :=
  .record name FileKey.mk <|
  .field "id" (·.id) <|
  .field "access_hash" (·.accessHash) <|
  .field "file_reference" (·.fileReference)
  .done

instance : Schema InputPhoto := .ofForms
  (fun
    | .empty => .bare "Empty"
    | .photo key => tagged "Photo" (fileKeyRecord "InputPhoto") key)
  [("Empty", .bare .empty),
    ("Photo", .of (fileKeyRecord "InputPhoto") .photo)]

instance : Schema InputDocument := .ofForms
  (fun
    | .empty => .bare "Empty"
    | .document key => tagged "Document" (fileKeyRecord "InputDocument") key)
  [("Empty", .bare .empty),
    ("Document", .of (fileKeyRecord "InputDocument") .document)]

end Messenger.Wire
