import Messenger.Wire.File

/-!
# Media

What a request attaches to a message (`InputMedia`) and what a message then shows
(`MessageMedia`). Both contain themselves: paid media is a list of further media, and an invoice
may hold the media that is seen once it is paid.
-/

namespace Messenger.Wire

open Schema (tagged)

/-! ## Media of requests -/

/-- A photo that was just uploaded. -/
structure UploadedPhoto where
  spoiler : Bool
  file : InputFile
  stickers : Option (List InputDocument)
  ttlSeconds : Option Int32
deriving DecidableEq, Inhabited

/-- A photo that the server has. -/
structure KnownPhoto where
  spoiler : Bool
  id : InputPhoto
  ttlSeconds : Option Int32
deriving DecidableEq, Inhabited

/-- A document that was just uploaded. -/
structure UploadedDocument where
  nosoundVideo : Bool
  forceFile : Bool
  spoiler : Bool
  file : InputFile
  thumb : Option InputFile
  mimeType : String
  attributes : List DocumentAttribute
  stickers : Option (List InputDocument)
  ttlSeconds : Option Int32
deriving DecidableEq, Inhabited

/-- A document that the server has. -/
structure KnownDocument where
  spoiler : Bool
  id : InputDocument
  ttlSeconds : Option Int32
  query : Option String
deriving DecidableEq, Inhabited

/-- Media that is seen for stars, with items of `ε`. -/
structure PaidBundle (ε : Type) where
  starsAmount : Int64
  items : List ε
  payload : Option String
deriving DecidableEq, Inhabited

/-- What a request attaches to a message. -/
inductive InputMedia where
  | empty
  | uploadedPhoto (photo : UploadedPhoto)
  | photo (photo : KnownPhoto)
  | uploadedDocument (document : UploadedDocument)
  | document (document : KnownDocument)
  | paidMedia (bundle : PaidBundle InputMedia)
deriving Inhabited

/-! ## Media of messages -/

/-- A photo that a message shows. -/
structure PhotoMedia where
  spoiler : Bool
  photo : Option PhotoEntry
  ttlSeconds : Option Int32
deriving DecidableEq, Inhabited

/-- A document that a message shows. -/
structure DocumentMedia where
  nopremium : Bool
  spoiler : Bool
  video : Bool
  round : Bool
  voice : Bool
  document : Option DocumentEntry
  ttlSeconds : Option Int32
deriving DecidableEq, Inhabited

/-- An invoice that a message shows, with media of `ε` behind it. -/
structure InvoiceMedia (ε : Type) where
  shippingAddressRequested : Bool
  test : Bool
  title : String
  description : String
  receiptMessageId : Option Int32
  currency : String
  totalAmount : Int64
  startParam : String
  extendedMedia : Option ε
deriving DecidableEq, Inhabited

/-- Paid media that a message shows, with items of `ε`. -/
structure PaidMedia (ε : Type) where
  starsAmount : Int64
  extendedMedia : List ε
deriving DecidableEq, Inhabited

/-- What is shown of media that has not been paid for. -/
structure MediaPreview where
  width : Option Int32
  height : Option Int32
  thumb : Option PhotoSize
  videoDuration : Option Int32
deriving DecidableEq, Inhabited

/-- Media that is to be paid for, before and after it is; the media itself is a `μ`. -/
inductive ExtendedMedia (μ : Type) where
  | preview (preview : MediaPreview)
  | media (media : μ)
deriving DecidableEq, Inhabited

/-- What a message shows beside its text. -/
inductive MessageMedia where
  | empty
  | unsupported
  | photo (photo : PhotoMedia)
  | document (document : DocumentMedia)
  | invoice (invoice : InvoiceMedia (ExtendedMedia MessageMedia))
  | paidMedia (media : PaidMedia (ExtendedMedia MessageMedia))
deriving Inhabited

/-! ## Schemas of requests -/

instance : Schema UploadedPhoto := .record "InputMediaUploadedPhoto" UploadedPhoto.mk <|
  .field "spoiler" (·.spoiler) <|
  .field "file" (·.file) <|
  .field "stickers" (·.stickers) <|
  .field "ttl_seconds" (·.ttlSeconds)
  .done

instance : Schema KnownPhoto := .record "InputMediaPhoto" KnownPhoto.mk <|
  .field "spoiler" (·.spoiler) <|
  .field "id" (·.id) <|
  .field "ttl_seconds" (·.ttlSeconds)
  .done

instance : Schema UploadedDocument := .record "InputMediaUploadedDocument" UploadedDocument.mk <|
  .field "nosound_video" (·.nosoundVideo) <|
  .field "force_file" (·.forceFile) <|
  .field "spoiler" (·.spoiler) <|
  .field "file" (·.file) <|
  .field "thumb" (·.thumb) <|
  .field "mime_type" (·.mimeType) <|
  .field "attributes" (·.attributes) <|
  .field "stickers" (·.stickers) <|
  .field "ttl_seconds" (·.ttlSeconds)
  .done

instance : Schema KnownDocument := .record "InputMediaDocument" KnownDocument.mk <|
  .field "spoiler" (·.spoiler) <|
  .field "id" (·.id) <|
  .field "ttl_seconds" (·.ttlSeconds) <|
  .field "query" (·.query)
  .done

/-- The record of a bundle, given the schema of its items. -/
@[reducible]
def PaidBundle.schema {ε : Type} (item : Schema ε) : Schema (PaidBundle ε) :=
  .record "InputMediaPaidMedia" PaidBundle.mk <|
  .field "stars_amount" (·.starsAmount) <|
  .field "extended_media" (·.items) <|
  .field "payload" (·.payload)
  .done

namespace InputMedia

mutual

/-- The structure of media. -/
def view : InputMedia → Term
  | .empty => .bare "Empty"
  | .uploadedPhoto item => tagged "UploadedPhoto" inferInstance item
  | .photo item => tagged "Photo" inferInstance item
  | .uploadedDocument item => tagged "UploadedDocument" inferInstance item
  | .document item => tagged "Document" inferInstance item
  | .paidMedia ⟨stars, items, payload⟩ =>
    tagged "PaidMedia" (PaidBundle.schema Schema.viewed) ⟨stars, viewItems items, payload⟩

/-- The structures of the items of paid media. -/
def viewItems : List InputMedia → List Term
  | [] => []
  | item :: rest => item.view :: viewItems rest

end

/-- The forms of media, given how the media inside is read. -/
def forms (inner : Schema InputMedia) : List (String × Schema.Form InputMedia) :=
  [("Empty", .bare .empty),
    ("UploadedPhoto", .of inferInstance .uploadedPhoto),
    ("Photo", .of inferInstance .photo),
    ("UploadedDocument", .of inferInstance .uploadedDocument),
    ("Document", .of inferInstance .document),
    ("PaidMedia", .of (PaidBundle.schema inner) .paidMedia)]

instance : Schema InputMedia := .nested view forms

end InputMedia

/-! ## Schemas of messages -/

instance : Schema PhotoMedia := .record "MessageMediaPhoto" PhotoMedia.mk <|
  .field "spoiler" (·.spoiler) <|
  .field "photo" (·.photo) <|
  .field "ttl_seconds" (·.ttlSeconds)
  .done

instance : Schema DocumentMedia := .record "MessageMediaDocument" DocumentMedia.mk <|
  .field "nopremium" (·.nopremium) <|
  .field "spoiler" (·.spoiler) <|
  .field "video" (·.video) <|
  .field "round" (·.round) <|
  .field "voice" (·.voice) <|
  .field "document" (·.document) <|
  .field "ttl_seconds" (·.ttlSeconds)
  .done

/-- The record of an invoice, given the schema of the media behind it. -/
@[reducible]
def InvoiceMedia.schema {ε : Type} (extended : Schema ε) : Schema (InvoiceMedia ε) :=
  .record "MessageMediaInvoice" InvoiceMedia.mk <|
  .field "shipping_address_requested" (·.shippingAddressRequested) <|
  .field "test" (·.test) <|
  .field "title" (·.title) <|
  .field "description" (·.description) <|
  .field "receipt_msg_id" (·.receiptMessageId) <|
  .field "currency" (·.currency) <|
  .field "total_amount" (·.totalAmount) <|
  .field "start_param" (·.startParam) <|
  .field "extended_media" (·.extendedMedia)
  .done

/-- The record of paid media, given the schema of its items. -/
@[reducible]
def PaidMedia.schema {ε : Type} (item : Schema ε) : Schema (PaidMedia ε) :=
  .record "MessageMediaPaidMedia" PaidMedia.mk <|
  .field "stars_amount" (·.starsAmount) <|
  .field "extended_media" (·.extendedMedia)
  .done

instance : Schema MediaPreview := .record "MessageExtendedMediaPreview" MediaPreview.mk <|
  .field "w" (·.width) <|
  .field "h" (·.height) <|
  .field "thumb" (·.thumb) <|
  .field "video_duration" (·.videoDuration)
  .done

/-- The record of media that has been paid for. -/
@[reducible]
def ExtendedMedia.mediaRecord {μ : Type} (inner : Schema μ) : Schema μ :=
  .record "MessageExtendedMedia" (fun media => media) <|
  .field "media" (fun media => media)
  .done

/-- The forms of media that is to be paid for, given the schema of the media. -/
@[reducible]
def ExtendedMedia.schema {μ : Type} (inner : Schema μ) : Schema (ExtendedMedia μ) := .ofForms
  (fun
    | .preview item => tagged "Preview" inferInstance item
    | .media item => tagged "Media" (ExtendedMedia.mediaRecord inner) item)
  [("Preview", .of inferInstance .preview),
    ("Media", .of (ExtendedMedia.mediaRecord inner) .media)]

namespace MessageMedia

mutual

/-- The structure of media. -/
def view : MessageMedia → Term
  | .empty => .bare "Empty"
  | .unsupported => .bare "Unsupported"
  | .photo item => tagged "Photo" inferInstance item
  | .document item => tagged "Document" inferInstance item
  | .invoice ⟨shipping, test, title, description, receipt, currency, total, start, extended⟩ =>
    tagged "Invoice" (InvoiceMedia.schema Schema.viewed)
      ⟨shipping, test, title, description, receipt, currency, total, start, viewExtended? extended⟩
  | .paidMedia ⟨stars, items⟩ =>
    tagged "PaidMedia" (PaidMedia.schema Schema.viewed) ⟨stars, viewItems items⟩

/-- The structure of the media behind an invoice. -/
def viewExtended? : Option (ExtendedMedia MessageMedia) → Option Term
  | none => none
  | some extended => some (viewExtended extended)

/-- The structures of the items of paid media. -/
def viewItems : List (ExtendedMedia MessageMedia) → List Term
  | [] => []
  | item :: rest => viewExtended item :: viewItems rest

/-- The structure of media that is to be paid for. -/
def viewExtended : ExtendedMedia MessageMedia → Term
  | .preview item => tagged "Preview" inferInstance item
  | .media item => tagged "Media" (ExtendedMedia.mediaRecord Schema.viewed) item.view

end

/-- The forms of media, given how the media inside is read. -/
def forms (inner : Schema MessageMedia) : List (String × Schema.Form MessageMedia) :=
  [("Empty", .bare .empty),
    ("Unsupported", .bare .unsupported),
    ("Photo", .of inferInstance .photo),
    ("Document", .of inferInstance .document),
    ("Invoice", .of (InvoiceMedia.schema (ExtendedMedia.schema inner)) .invoice),
    ("PaidMedia", .of (PaidMedia.schema (ExtendedMedia.schema inner)) .paidMedia)]

instance : Schema MessageMedia := .nested view forms

end MessageMedia

instance : Schema (PaidMedia (ExtendedMedia MessageMedia)) :=
  PaidMedia.schema (ExtendedMedia.schema inferInstance)

end Messenger.Wire
