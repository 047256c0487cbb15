import Messenger.Schema.Term
import Messenger.Decimal.Layout
import Messenger.Text.Quoted

/-!
# Descriptions of terms

The text in which a value is shown to the people who work on a client: names of records and fields,
tags of forms, and texts between quotation marks.
-/

namespace Messenger.Term

mutual

/-- The description of a term. -/
def describe : Term → String
  | .bool value => if value then "true" else "false"
  | .integer value => toString value
  | .real value => Decimal.textOfFloat value
  | .text value => Text.quoted value
  | .absent => "None"
  | .present value => "Some(" ++ value.describe ++ ")"
  | .list items => "[" ++ describeItems items ++ "]"
  | .record name [] => name
  | .record name fields => name ++ " \x7b " ++ describeFields fields ++ " \x7d"
  | .bare tag => tag
  | .tagged tag payload => tag ++ "(" ++ payload.describe ++ ")"

/-- The descriptions of the items of a list, with commas between them. -/
def describeItems : List Term → String
  | [] => ""
  | [item] => item.describe
  | item :: rest => item.describe ++ ", " ++ describeItems rest

/-- The descriptions of the fields of a record, with commas between them. -/
def describeFields : List (String × Term) → String
  | [] => ""
  | [(key, value)] => key ++ ": " ++ value.describe
  | (key, value) :: rest => key ++ ": " ++ value.describe ++ ", " ++ describeFields rest

end

end Messenger.Term
