import Messenger.Client
import Messenger.SearchResults

/-!
# Searching for chats
-/

namespace Messenger.Client

/-- The most results that a search may ask for. -/
def maxSearchResults : Int32 := 100

/-- How many results to ask for, where no positive number means as many as possible. -/
def searchLimit (limit : Int32) : Int32 :=
  if limit ≤ 0 ∨ maxSearchResults ≤ limit then maxSearchResults else limit

/-- Searches for chats by their names and usernames. -/
def search (query : String) (limit : Int32) : Client CallError SearchResults := do
  let found ← run (.searchContacts query (searchLimit limit))
  warned (SearchResults.ofRaw found)

end Messenger.Client
