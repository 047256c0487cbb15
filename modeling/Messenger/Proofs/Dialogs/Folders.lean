import Messenger.Proofs.Dialogs.Served

/-!
# Folders in the list of dialogs

Only a dialog moves the iterator on. A page of nothing but folders, with as many entries as were
asked for, leaves it where it was, and the same request is sent for ever; without such a page each
page moves the iterator on, so that a call returns.

1. **Calls** (`DialogServer.Returns`, `DialogServer.Asks`): what a call does while a server answers.
2. **Standstill** (`drives_replicate`): a page of nothing but folders is asked for again and again.
3. **Progress** (`returns_of_moving`): otherwise less of the list is left after each page.

Main statement: `returns_iff_moves`.
-/

namespace Messenger

namespace DialogServer

variable (server : DialogServer) (pages : Pages DialogPosition Dialog) (services : Services)
  (world : World) (requests : List Wire.GetDialogs)

/-! ## Calls -/

/-- A call, while the server answers these requests and no more. -/
def call : Pages.Taken DialogPosition Dialog :=
  pages.next services { world with answers := requests.map server.respond }

/-- The call returns once the server has answered these requests. -/
def Returns : Prop :=
  (∃ item, (server.call pages services world requests).result = .ok item) ∧
    (server.call pages services world requests).world.sent =
      world.sent ++ requests.map (.call <| .getDialogs ·)

/-- Once the server has answered these requests, the call sends one more. -/
def Asks (request : Wire.GetDialogs) : Prop :=
  (server.call pages services world requests).world.sent =
    world.sent ++ (requests ++ [request]).map (.call <| .getDialogs ·)

/-- The page that answers the request is nothing but folders, and not final. -/
structure FoldersOnly (request : Wire.GetDialogs) : Prop where
  going : (Wire.Dialogs.slice (server.part request)).isFinal (some request) = false
  folders : ∀ entry ∈ (server.part request).dialogs, entry.dialog? = none

variable {server pages services world requests}

/-- A call goes the way of the requests that it sends and the server answers. -/
theorem drives_of_call (others : List Wire.Request)
    (hsent : (server.call pages services world requests).world.sent =
      world.sent ++ (requests.map (.call <| .getDialogs ·) ++ others)) :
    ∃ pages', server.Drives pages requests pages' :=
  drives_of_sent { world with answers := requests.map server.respond } rfl others hsent

theorem call_of_drives {pages' : Pages DialogPosition Dialog}
    (hdrives : server.Drives pages requests pages') (services : Services) (world : World) :
    ∃ world', server.call pages services world requests = pages'.next services world' ∧
      world'.sent = world.sent ++ requests.map (.call <| .getDialogs ·) ∧ world'.answers = [] :=
  next_of_drives hdrives (List.append_nil _).symm services

/-- A call returns when the requests lead to something that can be given out. -/
theorem returns_iff :
    server.Returns pages services world requests ↔
      ∃ pages', server.Drives pages requests pages' ∧ pages'.ready? ≠ none := by
  constructor
  · rintro ⟨⟨item, hresult⟩, hsent⟩
    obtain ⟨pages', hdrives⟩ := drives_of_call [] (hsent.trans (by rw [List.append_nil]))
    refine ⟨pages', hdrives, ?_⟩
    intro hempty
    obtain ⟨world', hcall, -, hanswers⟩ := call_of_drives hdrives services world
    rw [hcall, (Pages.next_of_dropped hempty hanswers services).1] at hresult
    cases hresult
  · rintro ⟨pages', hdrives, hready⟩
    obtain ⟨world', hcall, hsent, -⟩ := call_of_drives hdrives services world
    obtain ⟨⟨item, pages''⟩, hsome⟩ := Option.ne_none_iff_exists'.1 hready
    rw [Returns, hcall, Pages.next_of_ready hsome]
    exact ⟨⟨item, rfl⟩, hsent⟩

/-- A call asks for a page when the requests before lead to nothing that can be given out. -/
theorem asks_iff {request : Wire.GetDialogs} :
    server.Asks pages services world requests request ↔
      ∃ pages', server.Drives pages requests pages' ∧ pages'.ready? = none ∧
        pages'.dialogsRequest = request := by
  constructor
  · intro hasks
    rw [Asks, List.map_append] at hasks
    obtain ⟨pages', hdrives⟩ := drives_of_call _ hasks
    obtain ⟨world', hcall, hsent, hanswers⟩ := call_of_drives hdrives services world
    rw [hcall, ← List.append_assoc, ← hsent] at hasks
    cases hready : pages'.ready? with
    | some ready =>
      rw [Pages.next_of_ready hready] at hasks
      simp at hasks
    | none =>
      rw [(Pages.next_of_dropped hready hanswers services).2] at hasks
      have hsame := (List.cons.inj (List.append_cancel_left hasks)).1
      exact ⟨pages', hdrives, hready, Wire.Call.getDialogs.inj (Wire.Request.call.inj hsame)⟩
  · rintro ⟨pages', hdrives, hempty, rfl⟩
    obtain ⟨world', hcall, hsent, hanswers⟩ := call_of_drives hdrives services world
    rw [Asks, hcall, (Pages.next_of_dropped hempty hanswers services).2, hsent, List.map_append,
      List.append_assoc]
    rfl

/-! ## Standstill -/

section Standstill

variable {pages' : Pages DialogPosition Dialog}

/-- After a page of nothing but folders there is nothing to give out, and the same page is asked
for. -/
theorem advance_of_foldersOnly (hempty : pages.ready? = none)
    (hfolders : server.FoldersOnly pages.dialogsRequest) :
    (server.advance pages).ready? = none ∧
      (server.advance pages).dialogsRequest = pages.dialogsRequest := by
  obtain ⟨hreached, hbuffer, -⟩ := Pages.ready?_eq_none_iff.1 hempty
  have hposition : (server.advance pages).position = pages.position :=
    advance_of_folders hfolders.folders
  have hitems : (server.nextPage pages).items = [] := by
    have hnone : (server.page pages.position pages.pageSize).entries.filterMap (·.dialog?) = [] :=
      List.filterMap_eq_nil_iff.2 hfolders.folders
    have hkept : (server.page pages.position pages.pageSize).kept = [] := by
      rw [Wire.Dialogs.kept, hnone, List.filterMap_nil]
    rw [← DialogPosition.view_items] at hkept
    exact List.map_eq_nil_iff.1 hkept
  have hlast : (server.advance pages).lastChunk = false :=
    (DialogPosition.isLast_page ..).trans hfolders.going
  constructor
  · refine Pages.ready?_eq_none_iff.2 ⟨hreached, ?_, hlast⟩
    change pages.buffer ++ (server.nextPage pages).items = []
    rw [hbuffer, hitems, List.append_nil]
  · change (server.advance pages).position.request pages.pageSize = _
    rw [hposition]
    rfl

/-- The request for nothing but folders is sent any number of times. -/
theorem drives_replicate (hempty : pages.ready? = none)
    (hfolders : server.FoldersOnly pages.dialogsRequest) (times : Nat) :
    ∃ pages', server.Drives pages (List.replicate times pages.dialogsRequest) pages' ∧
      pages'.ready? = none ∧ pages'.dialogsRequest = pages.dialogsRequest := by
  induction times generalizing pages with
  | zero => exact ⟨pages, .nothing pages, hempty, rfl⟩
  | succ times ih =>
    obtain ⟨hempty', hsame⟩ := advance_of_foldersOnly hempty hfolders
    obtain ⟨pages', hdrives, hready, hrequest⟩ := ih hempty' (hsame ▸ hfolders)
    rw [hsame] at hdrives hrequest
    exact ⟨pages', .more hempty hdrives, hready, hrequest⟩

/-- After the request for nothing but folders, there is never anything to give out. -/
theorem empty_of_foldersOnly (hdrives : server.Drives pages requests pages')
    (hempty : pages.ready? = none) (hfolders : server.FoldersOnly pages.dialogsRequest) :
    pages'.ready? = none := by
  induction hdrives with
  | nothing pages => exact hempty
  | more _ _ ih =>
    obtain ⟨hempty', hsame⟩ := advance_of_foldersOnly hempty hfolders
    exact ih hempty' (hsame ▸ hfolders)

end Standstill

/-! ## Progress -/

/-- A page with a dialog leaves less of the list, unless it is final. -/
theorem left_advance_lt (hgoing : (server.advance pages).lastChunk = false)
    (hmoving : ¬ server.FoldersOnly pages.dialogsRequest) :
    (server.left (server.advance pages).position).length <
      (server.left pages.position).length := by
  have hpage := server.entries_page pages.position pages.pageSize
  rcases folders_or_last (server.page pages.position pages.pageSize).entries with
    hfolders | ⟨front, last, back, hsplit, hback⟩
  · exact absurd ⟨(DialogPosition.isLast_page ..).symm.trans hgoing, hfolders⟩ hmoving
  · have hleft : server.left (server.advance pages).position =
        back ++ (server.left pages.position).drop pages.pageSize.toNatClampNeg :=
      left_advance hgoing hsplit hback
    have hlength := congrArg List.length (hpage.symm.trans hsplit)
    -- the folders behind the dialog come again, but the dialog does not
    rw [hleft]
    simp only [List.length_append, List.length_cons, List.length_take, List.length_drop]
      at hlength ⊢
    omega

/-- If every page that is asked for moves the iterator on, something can be given out after finitely
many of them. -/
theorem returns_of_moving (server : DialogServer) (pages : Pages DialogPosition Dialog)
    (hmoving : ∀ requests pages', server.Drives pages requests pages' →
      pages'.ready? = none → ¬ server.FoldersOnly pages'.dialogsRequest) :
    ∃ requests pages', server.Drives pages requests pages' ∧ pages'.ready? ≠ none := by
  induction hrank : (server.left pages.position).length using Nat.strongRecOn
    generalizing pages with
  | ind rank ih =>
    by_cases hempty : pages.ready? = none
    · by_cases hnext : (server.advance pages).ready? = none
      · -- the next page brings nothing, but leaves less of the list
        have hgoing := (Pages.ready?_eq_none_iff.1 hnext).2.2
        have hless := left_advance_lt hgoing (hmoving [] pages (.nothing pages) hempty)
        obtain ⟨requests, pages', hdrives, hready⟩ := ih _ (hrank ▸ hless) (server.advance pages)
          (fun requests pages' hdrives => hmoving _ pages' (.more hempty hdrives)) rfl
        exact ⟨_, pages', .more hempty hdrives, hready⟩
      · exact ⟨_, _, .more hempty (.nothing _), hnext⟩
    · exact ⟨[], pages, .nothing pages, hempty⟩

/-! ## Main statement -/

/-- A call returns after finitely many requests exactly if none of the pages that it asks for is
nothing but folders; such a page is asked for again for ever. -/
theorem returns_iff_moves (server : DialogServer) (pages : Pages DialogPosition Dialog)
    (services : Services) (world : World) :
    ((∃ requests, server.Returns pages services world requests) ↔
        ∀ requests request, server.Asks pages services world requests request →
          ¬ server.FoldersOnly request) ∧
      ∀ requests request, server.Asks pages services world requests request →
        server.FoldersOnly request →
        ∀ times, server.Asks pages services world (requests ++ List.replicate times request)
          request := by
  refine ⟨⟨?_, ?_⟩, ?_⟩
  · rintro ⟨requests, hreturns⟩ later request hasks hfolders
    obtain ⟨returned, hreturned, hready⟩ := returns_iff.1 hreturns
    obtain ⟨asking, hasking, hempty, rfl⟩ := asks_iff.1 hasks
    rcases hreturned.linear hasking with ⟨rest, hrest⟩ | ⟨rest, hrest⟩
    · -- nothing is asked for where the call returns
      rw [hrest.eq_of_ready hready] at hempty
      exact hready hempty
    · exact hready (empty_of_foldersOnly hrest hempty hfolders)
  · intro hmoves
    obtain ⟨requests, pages', hdrives, hready⟩ := returns_of_moving server pages
      fun requests pages' hdrives hempty =>
        hmoves requests _ (asks_iff.2 ⟨pages', hdrives, hempty, rfl⟩)
    exact ⟨requests, returns_iff.2 ⟨pages', hdrives, hready⟩⟩
  · intro requests request hasks hfolders times
    obtain ⟨asking, hasking, hempty, rfl⟩ := asks_iff.1 hasks
    obtain ⟨pages', hdrives, hready, hsame⟩ := drives_replicate hempty hfolders times
    exact asks_iff.2 ⟨pages', hasking.append hdrives, hready, hsame⟩

/-- A server that holds the folder of the archive, and no dialog. -/
def archiveOnly : DialogServer :=
  .ofTables
    [.folder {
      pinned := false
      folder := ⟨1, "Archive"⟩
      peer := .user 777
      topMessage := 1
      unreadMutedPeersCount := 0
      unreadUnmutedPeersCount := 0
      unreadMutedMessagesCount := 0
      unreadUnmutedMessagesCount := 0 }]
    777 [] [] (by decide) (by decide)

/-- A call does not always return: somebody who wants a single dialog asks for a single entry, and
gets the folder of the archive again and again. -/
theorem not_always_returns :
    ¬ ∀ (server : DialogServer) (fromArchive : Option Bool) (limit : Option Nat)
      (services : Services) (world : World), limit ≠ some 0 →
        ∃ requests, server.Returns ((Client.dialogs fromArchive).limitedTo limit) services world
          requests := by
  intro hreturns
  let services : Services := .blank
  obtain ⟨requests, hrequests⟩ := hreturns archiveOnly none (some 1) services default (by simp)
  obtain ⟨pages', hdrives, hready⟩ := returns_iff.1 hrequests
  have hempty : ((Client.dialogs none).limitedTo (some 1)).ready? = none := rfl
  have hfolders : archiveOnly.FoldersOnly
      ((Client.dialogs none).limitedTo (some 1)).dialogsRequest := by
    constructor
    · decide
    · decide
  exact hready (empty_of_foldersOnly hdrives hempty hfolders)

end DialogServer

end Messenger
