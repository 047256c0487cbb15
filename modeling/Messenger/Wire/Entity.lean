import Messenger.Schema

/-!
# Formatted text

A formatting entity marks a range of a text. The kinds differ in what they carry beside the range.
-/

namespace Messenger.Wire

open Schema (tagged)

/-- What an entity says about its range. -/
inductive EntityKind where
  | unknown
  | mention
  | hashtag
  | botCommand
  | url
  | email
  | bold
  | italic
  | code
  | pre (language : String)
  | textUrl (url : String)
  | mentionName (userId : Int64)
  | underline
  | strike
  | spoiler
  | customEmoji (documentId : Int64)
  | blockquote (collapsed : Bool)
deriving DecidableEq, Inhabited

/-- A formatted range of a text. -/
structure MessageEntity where
  kind : EntityKind
  offset : Int32
  length : Int32
deriving DecidableEq, Inhabited

/-- A text and its formatting. -/
structure FormattedText where
  text : String
  entities : List MessageEntity
deriving DecidableEq, Inhabited

/-! ## Schemas -/

namespace MessageEntity

/-- The record of a kind that carries only its range. -/
@[reducible]
def rangeRecord (name : String) : Schema (Int32 × Int32) :=
  .record name Prod.mk (.field "offset" (·.1) (.field "length" (·.2) .done))

/-- The record of a kind that carries one more field after its range. -/
@[reducible]
def rangeAndRecord {β : Type} [Schema β] (name key : String) : Schema (Int32 × Int32 × β) :=
  .record name (fun offset length extra => (offset, length, extra)) <|
    .field "offset" (·.1) (.field "length" (·.2.1) (.field key (·.2.2) .done))

/-- The record of a quotation, which says first whether it is collapsed. -/
@[reducible]
def quoteRecord : Schema (Bool × Int32 × Int32) :=
  .record "MessageEntityBlockquote" (fun collapsed offset length => (collapsed, offset, length)) <|
    .field "collapsed" (·.1) (.field "offset" (·.2.1) (.field "length" (·.2.2) .done))

/-- The term of a kind that carries only its range. -/
def viewRange (tag name : String) (entity : MessageEntity) : Term :=
  tagged tag (rangeRecord name) (entity.offset, entity.length)

/-- The form of a kind that carries only its range. -/
def rangeForm (name : String) (kind : EntityKind) : Schema.Form MessageEntity :=
  .of (rangeRecord name) fun (offset, length) => ⟨kind, offset, length⟩

/-- The form of a kind that carries one more field after its range. -/
def rangeAndForm {β : Type} [Schema β] (name key : String) (kind : β → EntityKind) :
    Schema.Form MessageEntity :=
  .of (rangeAndRecord name key) fun (offset, length, extra) => ⟨kind extra, offset, length⟩

/-- The structure of an entity. -/
def view (entity : MessageEntity) : Term :=
  match entity.kind with
  | .unknown => viewRange "Unknown" "MessageEntityUnknown" entity
  | .mention => viewRange "Mention" "MessageEntityMention" entity
  | .hashtag => viewRange "Hashtag" "MessageEntityHashtag" entity
  | .botCommand => viewRange "BotCommand" "MessageEntityBotCommand" entity
  | .url => viewRange "Url" "MessageEntityUrl" entity
  | .email => viewRange "Email" "MessageEntityEmail" entity
  | .bold => viewRange "Bold" "MessageEntityBold" entity
  | .italic => viewRange "Italic" "MessageEntityItalic" entity
  | .code => viewRange "Code" "MessageEntityCode" entity
  | .pre language =>
    tagged "Pre" (rangeAndRecord "MessageEntityPre" "language")
      (entity.offset, entity.length, language)
  | .textUrl url =>
    tagged "TextUrl" (rangeAndRecord "MessageEntityTextUrl" "url")
      (entity.offset, entity.length, url)
  | .mentionName userId =>
    tagged "MentionName" (rangeAndRecord "MessageEntityMentionName" "user_id")
      (entity.offset, entity.length, userId)
  | .underline => viewRange "Underline" "MessageEntityUnderline" entity
  | .strike => viewRange "Strike" "MessageEntityStrike" entity
  | .spoiler => viewRange "Spoiler" "MessageEntitySpoiler" entity
  | .customEmoji documentId =>
    tagged "CustomEmoji" (rangeAndRecord "MessageEntityCustomEmoji" "document_id")
      (entity.offset, entity.length, documentId)
  | .blockquote collapsed =>
    tagged "Blockquote" quoteRecord (collapsed, entity.offset, entity.length)

instance : Schema MessageEntity := .ofForms view
  [("Unknown", rangeForm "MessageEntityUnknown" .unknown),
    ("Mention", rangeForm "MessageEntityMention" .mention),
    ("Hashtag", rangeForm "MessageEntityHashtag" .hashtag),
    ("BotCommand", rangeForm "MessageEntityBotCommand" .botCommand),
    ("Url", rangeForm "MessageEntityUrl" .url),
    ("Email", rangeForm "MessageEntityEmail" .email),
    ("Bold", rangeForm "MessageEntityBold" .bold),
    ("Italic", rangeForm "MessageEntityItalic" .italic),
    ("Code", rangeForm "MessageEntityCode" .code),
    ("Pre", rangeAndForm "MessageEntityPre" "language" .pre),
    ("TextUrl", rangeAndForm "MessageEntityTextUrl" "url" .textUrl),
    ("MentionName", rangeAndForm "MessageEntityMentionName" "user_id" .mentionName),
    ("Underline", rangeForm "MessageEntityUnderline" .underline),
    ("Strike", rangeForm "MessageEntityStrike" .strike),
    ("Spoiler", rangeForm "MessageEntitySpoiler" .spoiler),
    ("CustomEmoji", rangeAndForm "MessageEntityCustomEmoji" "document_id" .customEmoji),
    ("Blockquote",
      .of quoteRecord fun (collapsed, offset, length) => ⟨.blockquote collapsed, offset, length⟩)]

end MessageEntity

instance : Schema FormattedText :=
  .single "Text" <| .record "TextWithEntities" FormattedText.mk <|
  .field "text" (·.text) <|
  .field "entities" (·.entities)
  .done

end Messenger.Wire
