import Messenger.Client
import Messenger.Listing
import Messenger.ShippingOption
import Messenger.ShippingQuery
import Messenger.Text.Numeral

/-!
# Answers to shipping queries
-/

namespace Messenger

namespace Client

/-- Answers a shipping query with the ways to ship, or with the reason why nothing is shipped. Who
accepts a query has to offer a way. -/
def answerShipping (id : String) (ok : Bool) (options : List ShippingOption)
    (error : Option String) : Client MethodError Bool := do
  if ok && options.isEmpty then
    throw (.invalidArgument .noShippingOptions)
  match Text.readInt64? id.toList with
  | none => throw (.invalidArgument (.shippingQueryId id))
  | some queryId =>
    run (.setBotShippingResults {
      queryId := queryId
      error := error
      options := Listing.nonempty? (options.map ShippingOption.raw) })

end Client

/-- Answers the query. -/
def ShippingQuery.answer (query : ShippingQuery) (ok : Bool) (options : List ShippingOption)
    (error : Option String) : Client MethodError Bool :=
  Client.answerShipping query.id ok options error

end Messenger
