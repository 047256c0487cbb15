import Messenger.Dialog

/-!
# The list of dialogs
-/

namespace Messenger.Client

/-- The dialogs of the archive, of the main folder or of all folders, the most recent first, for
somebody who takes them one by one. -/
def dialogs (fromArchive : Option Bool) : Pages DialogPosition Dialog :=
  .ofPosition (.start fromArchive)

/-- How many pinned dialogs a folder has; the main one counts if no folder is named. -/
def pinnedDialogsCount (fromArchive : Option Bool) : Client CallError UInt64 := do
  let answer : Wire.PeerDialogs ← run
    (.getPinnedDialogs (DialogPosition.folder (fromArchive.getD false)))
  pure (.ofNat answer.dialogs.length)

/-- How many dialogs there are, or how many pinned ones. -/
def dialogsCount (pinnedOnly : Bool) (fromArchive : Option Bool) :
    Client CallError UInt64 :=
  if pinnedOnly then pinnedDialogsCount fromArchive
  else do
    let answer : Wire.Dialogs ← run ((DialogPosition.start fromArchive).call 1)
    pure answer.count

end Messenger.Client
