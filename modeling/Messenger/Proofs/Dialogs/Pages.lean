import Messenger.Client.Dialogs
import Messenger.Proofs.Paging.Flat

/-!
# The list of dialogs, page by page

Of each page the dialogs are given out whose chat the page describes (`Wire.Dialogs.kept`), and the
pages follow one another up to the first final one. Main statement: `dialogs_refine_pages`.
-/

namespace Messenger

namespace Wire.Dialogs

/-- The page as an answer of the transport. -/
def answer (page : Dialogs) : Answer :=
  .ok ⟨.dialogs, page⟩

/-- The dialogs of the page whose chat the page describes, each with that chat. Folders are none. -/
def kept (page : Dialogs) : List (Dialog × Chat) :=
  (page.entries.filterMap (·.dialog?)).filterMap fun raw =>
    (page.directory.chat? raw.peer).map fun chat => (raw, chat)

/-- No page comes after this one: it is the whole list or none at all, or a part of it without
entries or with fewer than the request asked for. -/
def isFinal (request : Option GetDialogs) : Dialogs → Bool
  | .all _ => true
  | .notModified _ => true
  | .slice part =>
    decide (part.dialogs = [] ∨ ∃ asked ∈ request, (part.dialogs.length : Int) < asked.limit.toInt)

/-- Each page with the request that it answers, if one was sent. -/
def withRequests (requests : List GetDialogs) (pages : List Dialogs) :
    List (Option GetDialogs × Dialogs) :=
  pages.mapIdx fun index page => (requests[index]?, page)

theorem take_withRequests (requests later : List GetDialogs) (pages : List Dialogs) :
    (withRequests (requests ++ later) pages).take requests.length =
      (requests.zip pages).map fun pair => (some pair.1, pair.2) := by
  apply List.ext_getElem?
  intro index
  simp only [withRequests, List.zip, List.getElem?_take, List.getElem?_mapIdx, List.getElem?_map,
    List.getElem?_zipWith]
  split
  · next hindex =>
    rw [List.getElem?_append_left hindex, List.getElem?_eq_getElem hindex]
    cases pages[index]? <;> rfl
  · next hindex =>
    rw [List.getElem?_eq_none (Nat.le_of_not_lt hindex)]
    rfl

/-- A page is the last of all exactly if it is final. -/
theorem isLast_eq (request : GetDialogs) (page : Dialogs) :
    page.isLast request.limit = page.isFinal (some request) := by
  cases page with
  | all whole => rfl
  | notModified count => rfl
  | slice part =>
    have hlength : part.dialogs.length < request.limit.toNatClampNeg ↔
        (part.dialogs.length : Int) < request.limit.toInt := by
      unfold Int32.toNatClampNeg
      omega
    rw [Bool.eq_iff_iff]
    simp [isLast, isFinal, hlength]

end Wire.Dialogs

namespace Dialog

/-- What the server sent of the dialog, and its chat. -/
def view (dialog : Dialog) : Wire.Dialog × Chat :=
  (dialog.raw, dialog.chat)

theorem view_ofEntries (directory : Directory) (raws : List Wire.Dialog) (messages : TopMessages) :
    (ofEntries directory raws messages).value.map view =
      raws.filterMap fun raw => (directory.chat? raw.peer).map fun chat => (raw, chat) := by
  induction raws generalizing messages with
  | nil => rfl
  | cons raw rest ih =>
    unfold ofEntries
    cases hchat : directory.chat? raw.peer with
    | none => simp [hchat, ih]
    | some chat => simp [hchat, ih, view, ofRaw]

end Dialog

namespace DialogPosition

/-- The request for the page at the position. -/
def request (position : DialogPosition) (limit : Int32) : Wire.GetDialogs where
  excludePinned := position.excludePinned
  folderId := position.folderId
  offsetDate := position.offsetDate
  offsetId := position.offsetId
  offsetPeer := position.offsetPeer
  limit := limit
  hash := 0

/-- The requests of some exchanges. -/
def requests (history : List (Exchange DialogPosition Dialog)) : List Wire.GetDialogs :=
  history.map fun exchange => exchange.position.request exchange.size

@[simp]
theorem length_requests (history : List (Exchange DialogPosition Dialog)) :
    (requests history).length = history.length :=
  List.length_map _

theorem map_request (history : List (Exchange DialogPosition Dialog)) :
    history.map Exchange.request = (requests history).map (.call <| .getDialogs ·) := by
  rw [requests, List.map_map]
  rfl

theorem outcome_answer (position : DialogPosition) (size : Int32) (page : Wire.Dialogs) :
    Paged.outcome position size page.answer =
      .ok ((position.page size page).value, page.count) := rfl

/-- A page brings the dialogs that are kept. -/
theorem view_items (position : DialogPosition) (size : Int32) (page : Wire.Dialogs) :
    (position.page size page).value.items.map Dialog.view = page.kept :=
  Dialog.view_ofEntries ..

theorem isLast_page (position : DialogPosition) (size : Int32) (page : Wire.Dialogs) :
    (position.page size page).value.isLast = page.isFinal (some (position.request size)) :=
  page.isLast_eq (position.request size)

/-- A request for dialogs is due after some pages, each with the request that it answers: none of
them was final, all dialogs that are kept of them were given out, and more are wanted. -/
structure DueAfter (request : Wire.GetDialogs) (limit : Option Nat)
    (pages : List (Option Wire.GetDialogs × Wire.Dialogs)) (given : List Dialog) : Prop where
  going : ∀ page ∈ pages, page.2.isFinal page.1 = false
  given_eq : given.map Dialog.view = pages.flatMap (·.2.kept)
  wanted : ∀ most ∈ limit, given.length < most
  limit_eq : request.limit = Pages.pageSizeAfter limit given.length

variable {world world' : World} {history : List (Exchange DialogPosition Dialog)}
  {pages : List Wire.Dialogs}

theorem firstOf_pages (hheard : Heard world history world')
    (hanswers : world.answers = pages.map (·.answer)) (later : List Wire.GetDialogs) :
    FirstOf history (Wire.Dialogs.withRequests (requests history ++ later) pages) (·.2.kept)
      (fun page => page.2.isFinal page.1) Dialog.view := by
  unfold FirstOf
  rw [hheard.received_eq outcome_answer hanswers, ← length_requests history,
    Wire.Dialogs.take_withRequests, requests, List.zip_map_left, List.map_map, List.map_map,
    List.map_map]
  apply List.map_congr_left
  intro pair hpair
  simp [view_items, isLast_page]

/-- What is due, is due after the pages so far. -/
theorem dueAfter_of_due (hheard : Heard world history world')
    (hanswers : world.answers = pages.map (·.answer)) (later : List Wire.GetDialogs)
    {limit : Option Nat} {start : DialogPosition} {exchange : Exchange DialogPosition Dialog}
    (hdue : Due limit start (Exchange.received history) exchange) {given : List Dialog}
    (hgiven : given = Exchange.items history) :
    DueAfter (exchange.position.request exchange.size) limit
      ((Wire.Dialogs.withRequests (requests history ++ later) pages).take history.length)
      given := by
  have hfirst := firstOf_pages hheard hanswers later
  refine ⟨hfirst.going hdue.going, ?_, ?_, ?_⟩
  · rw [hgiven]
    exact hfirst.items_eq
  · rw [hgiven]
    exact hdue.wanted
  · rw [hgiven]
    exact hdue.size_eq

end DialogPosition

/-! ## Calls -/

end Messenger
