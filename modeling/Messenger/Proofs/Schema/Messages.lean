import Messenger.Proofs.Schema.Values
import Messenger.Wire.Dialog
import Messenger.Wire.Payment

/-!
# Messages and what carries them are faithful

Media contains itself: paid media is a list of further media, and an invoice may hold the media
behind it. There the view of the media inside is the one that the forms are given
(`InputMedia.view_paidMedia`, `MessageMedia.view_invoice`, `MessageMedia.view_paidMedia`), so that
reading level by level gives it back. Messages, dialogs, updates and payments are then built up from
media like all other types.
-/

namespace Messenger.Wire

open Schema Schema.Faithful

variable {depth : Nat}

/-! ## Media of requests -/

instance : Faithful UploadedPhoto depth := .record (by decide) fun _ => rfl

instance : Faithful KnownPhoto depth := .record (by decide) fun _ => rfl

instance : Faithful UploadedDocument depth := .record (by decide) fun _ => rfl

instance : Faithful KnownDocument depth := .record (by decide) fun _ => rfl

namespace InputMedia

theorem viewItems_eq_map (items : List InputMedia) : viewItems items = items.map view := by
  induction items with
  | nil => rfl
  | cons item rest ih => rw [viewItems, ih, List.map_cons]

theorem view_paidMedia {inner : Schema InputMedia} (hview : inner.view = view)
    (bundle : PaidBundle InputMedia) :
    (InputMedia.paidMedia bundle).view = tagged "PaidMedia" (PaidBundle.schema inner) bundle := by
  obtain ⟨stars, items, payload⟩ := bundle
  rw [view, viewItems_eq_map, ← hview]
  simp only [tagged, Fields.field, Fields.done, Schema.view, List.map_id]

instance : Faithful InputMedia depth := .nested fun inner level hview hinner =>
  .ofForms_succ (by simp [forms]) fun
    | .empty => .bare
    | .uploadedPhoto _ => .tagged inferInstance
    | .photo _ => .tagged inferInstance
    | .uploadedDocument _ => .tagged inferInstance
    | .document _ => .tagged inferInstance
    | .paidMedia bundle => by
      rw [view_paidMedia hview]
      exact .tagged (.record (by decide) fun _ => rfl)

end InputMedia

/-! ## Media of messages -/

instance : Faithful PhotoMedia depth := .record (by decide) fun _ => rfl

instance : Faithful DocumentMedia depth := .record (by decide) fun _ => rfl

instance : Faithful MediaPreview depth := .record (by decide) fun _ => rfl

theorem ExtendedMedia.faithful {μ : Type} {inner : Schema μ} (hinner : @Faithful μ inner depth) :
    @Faithful (ExtendedMedia μ) (ExtendedMedia.schema inner) depth :=
  .ofForms (by simp) fun
    | .preview _ => .tagged inferInstance
    | .media _ => .tagged (.record (by decide) fun _ => rfl)

namespace MessageMedia

section

variable {inner : Schema MessageMedia} (hview : inner.view = view)

include hview

theorem viewExtended_eq (extended : ExtendedMedia MessageMedia) :
    viewExtended extended = (ExtendedMedia.schema inner).view extended := by
  cases extended with
  | preview preview =>
    rw [viewExtended]
    rfl
  | media media =>
    rw [viewExtended, ← hview]
    rfl

theorem viewItems_eq_map (items : List (ExtendedMedia MessageMedia)) :
    viewItems items = items.map (ExtendedMedia.schema inner).view := by
  induction items with
  | nil => rfl
  | cons item rest ih => rw [viewItems, ih, List.map_cons, viewExtended_eq hview]

theorem viewExtended?_eq_map (extended : Option (ExtendedMedia MessageMedia)) :
    viewExtended? extended = extended.map (ExtendedMedia.schema inner).view := by
  cases extended with
  | none => rfl
  | some extended => rw [viewExtended?, viewExtended_eq hview, Option.map_some]

theorem view_invoice (invoice : InvoiceMedia (ExtendedMedia MessageMedia)) :
    (MessageMedia.invoice invoice).view =
      tagged "Invoice" (InvoiceMedia.schema (ExtendedMedia.schema inner)) invoice := by
  obtain ⟨shipping, test, title, description, receipt, currency, total, start, extended⟩ := invoice
  rw [view, viewExtended?_eq_map hview]
  cases extended <;> rfl

theorem view_paidMedia (media : PaidMedia (ExtendedMedia MessageMedia)) :
    (MessageMedia.paidMedia media).view =
      tagged "PaidMedia" (PaidMedia.schema (ExtendedMedia.schema inner)) media := by
  obtain ⟨stars, items⟩ := media
  rw [view, viewItems_eq_map hview]
  simp only [tagged, Fields.field, Fields.done, Schema.view, List.map_id]

end

instance : Faithful MessageMedia depth := .nested fun inner level hview hinner => by
  have hextended := ExtendedMedia.faithful hinner
  exact .ofForms_succ (by simp [forms]) fun
    | .empty => .bare
    | .unsupported => .bare
    | .photo _ => .tagged inferInstance
    | .document _ => .tagged inferInstance
    | .invoice shown => by
      rw [view_invoice hview]
      exact .tagged (.record (by decide) fun _ => rfl)
    | .paidMedia shown => by
      rw [view_paidMedia hview]
      exact .tagged (.record (by decide) fun _ => rfl)

end MessageMedia

/-! ## Messages -/

instance : Faithful ReplyToMessage depth := .record (by decide) fun _ => rfl

instance : Faithful InputReplyTo depth := .ofForms (by decide) fun
  | .message _ => .tagged inferInstance
  | .story _ _ => .tagged (.record (by decide) fun _ => rfl)

instance : Faithful ReplyHeader depth := .single (.record (by decide) fun _ => rfl)

instance : Faithful GiftCodeAction depth := .record (by decide) fun _ => rfl

instance : Faithful StarGiftAction depth := .record (by decide) fun _ => rfl

instance : Faithful MessageAction depth := .ofForms (by decide) fun
  | .empty => .bare
  | .chatEditTitle _ => .tagged (.record (by decide) fun _ => rfl)
  | .pinMessage => .bare
  | .giftCode _ => .tagged inferInstance
  | .starGift _ => .tagged inferInstance

instance : Faithful EmptyMessage depth := .record (by decide) fun _ => rfl

instance : Faithful ContentMessage depth := .record (by decide) fun _ => rfl

instance : Faithful ServiceMessage depth := .record (by decide) fun _ => rfl

instance : Faithful Message depth := .ofForms (by decide) fun
  | .empty _ => .tagged inferInstance
  | .content _ => .tagged inferInstance
  | .service _ => .tagged inferInstance

/-! ## Dialogs -/

instance : Faithful Folder depth := .single (.record (by decide) fun _ => rfl)

instance : Faithful Dialog depth := .record (by decide) fun _ => rfl

instance : Faithful DialogFolder depth := .record (by decide) fun _ => rfl

instance : Faithful DialogEntry depth := .ofForms (by decide) fun
  | .dialog _ => .tagged inferInstance
  | .folder _ => .tagged inferInstance

instance : Faithful AllDialogs depth := .record (by decide) fun _ => rfl

instance : Faithful DialogsSlice depth := .record (by decide) fun _ => rfl

instance : Faithful Dialogs depth := .ofForms (by decide) fun
  | .all _ => .tagged inferInstance
  | .slice _ => .tagged inferInstance
  | .notModified _ => .tagged (.record (by decide) fun _ => rfl)

instance : Faithful UpdateState depth := .single (.record (by decide) fun _ => rfl)

instance : Faithful PeerDialogs depth := .single (.record (by decide) fun _ => rfl)

/-! ## Updates -/

instance : Faithful Boost depth := .single (.record (by decide) fun _ => rfl)

theorem NumberedMessage.faithful_schema {name : String} :
    @Faithful NumberedMessage (NumberedMessage.schema name) depth :=
  .record (by decide) fun _ => rfl

instance : Faithful BusinessMessage depth := .record (by decide) fun _ => rfl

instance : Faithful ChatBoostUpdate depth := .record (by decide) fun _ => rfl

instance : Faithful ShippingQueryUpdate depth := .record (by decide) fun _ => rfl

instance : Faithful Update depth := .ofForms (by decide) fun
  | .newMessage _ => .tagged NumberedMessage.faithful_schema
  | .newChannelMessage _ => .tagged NumberedMessage.faithful_schema
  | .newScheduledMessage _ => .tagged (.record (by decide) fun _ => rfl)
  | .newBusinessMessage _ => .tagged inferInstance
  | .messageId _ _ => .tagged (.record (by decide) fun _ => rfl)
  | .chatBoost _ => .tagged inferInstance
  | .shippingQuery _ => .tagged inferInstance

instance : Faithful CombinedUpdates depth := .record (by decide) fun _ => rfl

instance : Faithful UpdateBatch depth := .record (by decide) fun _ => rfl

instance : Faithful SentMessage depth := .record (by decide) fun _ => rfl

instance : Faithful Updates depth := .ofForms (by decide) fun
  | .tooLong => .bare
  | .short _ _ => .tagged (.record (by decide) fun _ => rfl)
  | .combined _ => .tagged inferInstance
  | .updates _ => .tagged inferInstance
  | .shortSentMessage _ => .tagged inferInstance

/-! ## Payments -/

instance : Faithful ProviderForm depth := .record (by decide) fun _ => rfl

instance : Faithful StarsForm depth := .record (by decide) fun _ => rfl

instance : Faithful PaymentForm depth := .ofForms (by decide) fun
  | .provider _ => .tagged inferInstance
  | .stars _ => .tagged inferInstance
  | .starGift _ _ => .tagged (.record (by decide) fun _ => rfl)

instance : Faithful PaymentResult depth := .ofForms (by decide) fun
  | .paid _ => .tagged (.record (by decide) fun _ => rfl)
  | .verificationNeeded _ => .tagged (.record (by decide) fun _ => rfl)

instance : Faithful StarGifts depth := .ofForms (by decide) fun
  | .notModified => .bare
  | .gifts _ _ => .tagged (.record (by decide) fun _ => rfl)

instance : Faithful UserStarGifts depth := .single (.record (by decide) fun _ => rfl)

instance : Faithful CheckedGiftCode depth := .single (.record (by decide) fun _ => rfl)

end Messenger.Wire
