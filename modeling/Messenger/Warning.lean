import Messenger.Schema.Description
import Messenger.Wire.Peer

/-!
# Warnings

What the library logs about data that it leaves out or cannot use. A value that comes with warnings
is a `Warned` value; in a sequence of steps the warnings come in the order of the steps.
-/

namespace Messenger

/-- Something that was left out or could not be used. -/
inductive Warning where
  /-- A dialog is in a chat that the tables do not describe. -/
  | dialogOfUnknown (peer : Wire.Peer)
  /-- A privacy rule names a user whom the tables do not describe. -/
  | ruleOfUnknownUser (id : Int64)
  /-- A privacy rule names a chat that the tables do not describe. -/
  | ruleOfUnknownChat (id : Int64)
  /-- A search found a chat that the tables do not describe. -/
  | resultOfUnknown (peer : Wire.Peer)
  /-- The personal channel was to be something else than a channel. -/
  | notChannel (peer : Wire.InputPeer)
  /-- The sticker of a gift is none. -/
  | giftWithoutSticker (id : Int64)
  /-- A document of paid media is no video. -/
  | paidDocumentWithoutVideo
  /-- The server says that the gifts are as before, although it was asked for all of them. -/
  | giftsNotModified
deriving DecidableEq, Inhabited

namespace Warning

/-- The wording of the warning. -/
def message : Warning → String
  | .dialogOfUnknown peer => s!"dialog refers to unknown peer {(Schema.view peer).describe}"
  | .ruleOfUnknownUser id => s!"privacy rule refers to unknown user {id.toInt}"
  | .ruleOfUnknownChat id => s!"privacy rule refers to unknown chat {id.toInt}"
  | .resultOfUnknown peer =>
    s!"search result refers to unknown peer {(Schema.view peer).describe}"
  | .notChannel peer =>
    s!"personal channel must be a channel, got {(Schema.view peer).describe}"
  | .giftWithoutSticker id => s!"star gift {id.toInt} has no sticker attributes"
  | .paidDocumentWithoutVideo => "paid media document without video attributes skipped"
  | .giftsNotModified => "star gifts were not modified despite asking for all of them"

end Warning

/-- A value, and the warnings that arose on the way to it. -/
structure Warned (α : Type) where
  value : α
  warnings : List Warning
deriving Inhabited

namespace Warned

instance : Monad Warned where
  pure value := ⟨value, []⟩
  bind first next :=
    let second := next first.value
    ⟨second.value, first.warnings ++ second.warnings⟩

/-- A warning, and nothing else. -/
def warn (warning : Warning) : Warned Unit := ⟨(), [warning]⟩

/-! ## Values and warnings of a sequence -/

variable {α β : Type}

@[simp]
theorem value_pure (value : α) : (pure value : Warned α).value = value := rfl

@[simp]
theorem warnings_pure (value : α) : (pure value : Warned α).warnings = [] := rfl

@[simp]
theorem value_bind (first : Warned α) (next : α → Warned β) :
    (first >>= next).value = (next first.value).value := rfl

@[simp]
theorem warnings_bind (first : Warned α) (next : α → Warned β) :
    (first >>= next).warnings = first.warnings ++ (next first.value).warnings := rfl

@[simp]
theorem value_map (change : α → β) (first : Warned α) :
    (change <$> first).value = change first.value := rfl

@[simp]
theorem warnings_map (change : α → β) (first : Warned α) :
    (change <$> first).warnings = first.warnings :=
  List.append_nil first.warnings

instance : LawfulMonad Warned :=
  LawfulMonad.mk' Warned
    (fun first => congrArg (Warned.mk first.value) (List.append_nil first.warnings))
    (fun _ _ => rfl)
    (fun first next last => congrArg (Warned.mk _)
      (List.append_assoc first.warnings (next first.value).warnings
        (last (next first.value).value).warnings))

/-- Taken one after the other, values come in the order of their list. -/
@[simp]
theorem value_mapM (step : α → Warned β) (items : List α) :
    (items.mapM step).value = items.map fun item => (step item).value := by
  induction items with
  | nil => rfl
  | cons item rest ih => simp [ih]

/-- Taken one after the other, the warnings about the items come in the order of the items. -/
@[simp]
theorem warnings_mapM (step : α → Warned β) (items : List α) :
    (items.mapM step).warnings = items.flatMap fun item => (step item).warnings := by
  induction items with
  | nil => rfl
  | cons item rest ih => simp [ih]

end Warned

end Messenger
