import Messenger.Proofs.Schema.Faithful
import Messenger.Wire.Gift
import Messenger.Wire.Invoice
import Messenger.Wire.Privacy

/-!
# The plain types of the schema are faithful

Peers, users and chats, formatted text, files, gifts, invoices and privacy rules do not contain
themselves, so each is faithful because its parts are: a record because its keys differ and its
constructor gets its fields in order, a type with several forms because each value is covered by the
form of its tag. The types stand in the order in which they are built up.
-/

namespace Messenger.Wire

open Schema Schema.Faithful

variable {depth : Nat}

/-! ## Peers -/

theorem faithful_idRecord {name key : String} : @Faithful Int64 (idRecord name key) depth :=
  .record (List.pairwise_singleton _ key) fun _ => rfl

theorem faithful_keyRecord {name key : String} (hkey : key ≠ "access_hash") :
    @Faithful (Int64 × Int64) (keyRecord name key) depth :=
  .record (by simpa using hkey) fun _ => rfl

instance : Faithful Peer depth := .ofForms (by decide) fun
  | .user _ => .tagged faithful_idRecord
  | .chat _ => .tagged faithful_idRecord
  | .channel _ => .tagged faithful_idRecord

instance : Faithful InputPeer depth := .ofForms (by decide) fun
  | .empty => .bare
  | .self => .bare
  | .chat _ => .tagged faithful_idRecord
  | .user _ _ => .tagged (faithful_keyRecord (by decide))
  | .channel _ _ => .tagged (faithful_keyRecord (by decide))

instance : Faithful InputUser depth := .ofForms (by decide) fun
  | .empty => .bare
  | .self => .bare
  | .user _ _ => .tagged (faithful_keyRecord (by decide))

instance : Faithful InputChannel depth := .ofForms (by decide) fun
  | .empty => .bare
  | .channel _ _ => .tagged (faithful_keyRecord (by decide))

/-! ## Users and chats -/

instance : Faithful User depth := .record (by decide) fun _ => rfl

instance : Faithful UserEntry depth := .ofForms (by decide) fun
  | .empty _ => .tagged faithful_idRecord
  | .user _ => .tagged inferInstance

instance : Faithful Group depth := .record (by decide) fun _ => rfl

instance : Faithful ForbiddenGroup depth := .record (by decide) fun _ => rfl

instance : Faithful Channel depth := .record (by decide) fun _ => rfl

instance : Faithful ForbiddenChannel depth := .record (by decide) fun _ => rfl

instance : Faithful ChatEntry depth := .ofForms (by decide) fun
  | .empty _ => .tagged faithful_idRecord
  | .group _ => .tagged inferInstance
  | .forbiddenGroup _ => .tagged inferInstance
  | .channel _ => .tagged inferInstance
  | .forbiddenChannel _ => .tagged inferInstance

/-! ## Formatted text -/

namespace MessageEntity

theorem faithful_rangeRecord {name : String} :
    @Faithful (Int32 × Int32) (rangeRecord name) depth :=
  .record (by decide) fun _ => rfl

theorem faithful_rangeAndRecord {β : Type} [Schema β] [Faithful β depth] {name key : String}
    (hoffset : key ≠ "offset") (hlength : key ≠ "length") :
    @Faithful (Int32 × Int32 × β) (rangeAndRecord name key) depth :=
  .record (by simp [hoffset.symm, hlength.symm]) fun _ => rfl

instance : Faithful MessageEntity depth := .ofForms (by decide) fun
  | ⟨.unknown, _, _⟩ => .tagged faithful_rangeRecord
  | ⟨.mention, _, _⟩ => .tagged faithful_rangeRecord
  | ⟨.hashtag, _, _⟩ => .tagged faithful_rangeRecord
  | ⟨.botCommand, _, _⟩ => .tagged faithful_rangeRecord
  | ⟨.url, _, _⟩ => .tagged faithful_rangeRecord
  | ⟨.email, _, _⟩ => .tagged faithful_rangeRecord
  | ⟨.bold, _, _⟩ => .tagged faithful_rangeRecord
  | ⟨.italic, _, _⟩ => .tagged faithful_rangeRecord
  | ⟨.code, _, _⟩ => .tagged faithful_rangeRecord
  | ⟨.pre _, _, _⟩ => .tagged (faithful_rangeAndRecord (by decide) (by decide))
  | ⟨.textUrl _, _, _⟩ => .tagged (faithful_rangeAndRecord (by decide) (by decide))
  | ⟨.mentionName _, _, _⟩ => .tagged (faithful_rangeAndRecord (by decide) (by decide))
  | ⟨.underline, _, _⟩ => .tagged faithful_rangeRecord
  | ⟨.strike, _, _⟩ => .tagged faithful_rangeRecord
  | ⟨.spoiler, _, _⟩ => .tagged faithful_rangeRecord
  | ⟨.customEmoji _, _, _⟩ => .tagged (faithful_rangeAndRecord (by decide) (by decide))
  | ⟨.blockquote _, _, _⟩ => .tagged (.record (by decide) fun _ => rfl)

end MessageEntity

instance : Faithful FormattedText depth := .single (.record (by decide) fun _ => rfl)

/-! ## Photos, documents and uploaded files -/

instance : Faithful PhotoSize depth := .ofForms (by decide) fun
  | .empty _ => .tagged (.record (by decide) fun _ => rfl)
  | .size _ _ _ _ => .tagged (.record (by decide) fun _ => rfl)
  | .stripped _ _ => .tagged (.record (by decide) fun _ => rfl)

instance : Faithful Photo depth := .record (by decide) fun _ => rfl

instance : Faithful PhotoEntry depth := .ofForms (by decide) fun
  | .empty _ => .tagged (.record (by decide) fun _ => rfl)
  | .photo _ => .tagged inferInstance

instance : Faithful StickerSet depth := .ofForms (by decide) fun
  | .empty => .bare
  | .id _ _ => .tagged (.record (by decide) fun _ => rfl)
  | .shortName _ => .tagged (.record (by decide) fun _ => rfl)

instance : Faithful StickerAttributes depth := .record (by decide) fun _ => rfl

instance : Faithful VideoAttributes depth := .record (by decide) fun _ => rfl

instance : Faithful DocumentAttribute depth := .ofForms (by decide) fun
  | .imageSize _ _ => .tagged (.record (by decide) fun _ => rfl)
  | .animated => .bare
  | .sticker _ => .tagged inferInstance
  | .video _ => .tagged inferInstance
  | .filename _ => .tagged (.record (by decide) fun _ => rfl)

instance : Faithful Document depth := .record (by decide) fun _ => rfl

instance : Faithful DocumentEntry depth := .ofForms (by decide) fun
  | .empty _ => .tagged (.record (by decide) fun _ => rfl)
  | .document _ => .tagged inferInstance

instance : Faithful InputFile depth := .ofForms (by decide) fun
  | .file _ _ _ _ => .tagged (.record (by decide) fun _ => rfl)
  | .big _ _ _ => .tagged (.record (by decide) fun _ => rfl)

theorem faithful_fileKeyRecord {name : String} : @Faithful FileKey (fileKeyRecord name) depth :=
  .record (by decide) fun _ => rfl

instance : Faithful InputPhoto depth := .ofForms (by decide) fun
  | .empty => .bare
  | .photo _ => .tagged faithful_fileKeyRecord

instance : Faithful InputDocument depth := .ofForms (by decide) fun
  | .empty => .bare
  | .document _ => .tagged faithful_fileKeyRecord

/-! ## Star gifts -/

instance : Faithful StarGift depth := .single (.record (by decide) fun _ => rfl)

instance : Faithful UserStarGift depth := .single (.record (by decide) fun _ => rfl)

/-! ## Invoices -/

instance : Faithful LabeledPrice depth := .single (.record (by decide) fun _ => rfl)

instance : Faithful ShippingOption depth := .single (.record (by decide) fun _ => rfl)

instance : Faithful PostAddress depth := .single (.record (by decide) fun _ => rfl)

instance : Faithful Invoice depth := .single (.record (by decide) fun _ => rfl)

instance : Faithful GiftOrder depth := .record (by decide) fun _ => rfl

instance : Faithful InputInvoice depth := .ofForms (by decide) fun
  | .message _ _ => .tagged (.record (by decide) fun _ => rfl)
  | .slug _ => .tagged (.record (by decide) fun _ => rfl)
  | .starGift _ => .tagged inferInstance

/-! ## Privacy rules -/

instance : Faithful PrivacyKey depth := .ofForms (by decide) fun
  | .statusTimestamp => .bare
  | .chatInvite => .bare
  | .phoneCall => .bare
  | .phoneP2P => .bare
  | .forwards => .bare
  | .profilePhoto => .bare
  | .phoneNumber => .bare
  | .addedByPhone => .bare
  | .voiceMessages => .bare
  | .about => .bare
  | .birthday => .bare

namespace PrivacyRule

variable {υ : Type} [Schema υ] [Faithful υ depth]

theorem faithful_listRecord {name key : String} :
    @Faithful (List υ) (listRecord υ name key) depth :=
  .record (List.pairwise_singleton _ key) fun _ => rfl

theorem faithful_schema {start : String} :
    @Faithful (PrivacyRule υ) (PrivacyRule.schema start) depth := .ofForms (by simp) fun
  | .allowContacts => .bare
  | .allowAll => .bare
  | .allowUsers _ => .tagged faithful_listRecord
  | .disallowContacts => .bare
  | .disallowAll => .bare
  | .disallowUsers _ => .tagged faithful_listRecord
  | .allowChats _ => .tagged faithful_listRecord
  | .disallowChats _ => .tagged faithful_listRecord
  | .allowCloseFriends => .bare
  | .allowPremium => .bare

end PrivacyRule

instance : Faithful (PrivacyRule InputUser) depth := PrivacyRule.faithful_schema

instance : Faithful (PrivacyRule Int64) depth := PrivacyRule.faithful_schema

instance : Faithful PrivacyRules depth := .single (.record (by decide) fun _ => rfl)

end Messenger.Wire
