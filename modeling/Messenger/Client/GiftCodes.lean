import Messenger.Client
import Messenger.GiftCode
import Messenger.Link

/-!
# Checking and applying gift codes
-/

namespace Messenger.Client

/-- What the server knows about a gift code, given a link to it or its slug. -/
def inspectGiftCode (link : String) : Client CallError GiftCodeStatus := do
  let answer ← run (.checkGiftCode (Link.giftCodeSlug link))
  pure (.ofRaw answer)

/-- Claims the subscription of a gift code, given a link to it or its slug. -/
def claimGiftCode (link : String) : Client CallError Bool := do
  let _ ← run (.applyGiftCode (Link.giftCodeSlug link))
  pure true

end Messenger.Client
