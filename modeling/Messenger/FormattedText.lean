import Messenger.Listing
import Messenger.Wire.Entity

/-!
# Formatted texts

A formatted text is a plain text with entities. Where a text is optional, an empty text is as good
as none, and so is an empty list of entities.
-/

namespace Messenger.Wire.FormattedText

open Listing (nonempty?)

/-- A text without formatting. -/
def plain (text : String) : FormattedText := ⟨text, []⟩

/-- The text, unless there is none or it is empty. -/
def text? : Option FormattedText → Option String
  | some formatted => if formatted.text.isEmpty then none else some formatted.text
  | none => none

/-- The formatting of the text, unless there is no text or no formatting. -/
def entities? : Option FormattedText → Option (List MessageEntity)
  | some formatted => if formatted.text.isEmpty then none else nonempty? formatted.entities
  | none => none

end Messenger.Wire.FormattedText
