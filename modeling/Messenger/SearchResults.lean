import Messenger.Directory
import Messenger.Listing
import Messenger.Wire.Response

/-!
# Search results

What a search for chats found: among those that the account knows, and among all that are public.
-/

namespace Messenger

/-- What a search for chats found. -/
structure SearchResults where
  /-- What was found among the chats that the account knows. -/
  known : Option (List Chat)
  /-- What was found among all public chats. -/
  everywhere : Option (List Chat)
deriving DecidableEq, Inhabited

namespace SearchResults

/-- What the server answered to a search. -/
def ofRaw (raw : Wire.Found) : Warned SearchResults := do
  let directory := Directory.ofTables raw.users raw.chats
  let known ← Listing.collect directory.chat? .resultOfUnknown raw.myResults
  let everywhere ← Listing.collect directory.chat? .resultOfUnknown raw.results
  pure {
    known := Listing.nonempty? known
    everywhere := Listing.nonempty? everywhere }

end SearchResults

end Messenger
