import Messenger.Proofs.Dialogs.Folders

/-!
# Completeness of the list of dialogs

A server that holds nothing but dialogs, and describes the chats of some of them (`Discloses`), is
paged through to the end: all dialogs whose chat it describes are given out, in order.

1. **Progress** (`progress_of_orderly`): the pages that came are the beginning of the list, and what
   they brought are the disclosed dialogs of it.
2. **Calls** (`next_complete`): every call returns, and nothing only once all is given out.
3. **Runs** (`run_complete`): the calls give out one wanted dialog after the other.

Main statement: `dialogs_complete`.
-/

namespace Messenger

namespace DialogServer

/-- Of the dialogs on a page, the server describes the chats of the known peers. -/
def Discloses (server : DialogServer) (known : Wire.Peer → Bool) : Prop :=
  ∀ position size raw, .dialog raw ∈ (server.page position size).entries →
    ((server.page position size).directory.chat? raw.peer).isSome = known raw.peer

variable {server : DialogServer} {dialogs : List Wire.Dialog} {known : Wire.Peer → Bool}

/-- Tables that describe the chats of some peers still do when the others are left out. -/
theorem chat?_filter (users : List Wire.UserEntry) (chats : List Wire.ChatEntry)
    {peers : List Wire.Peer} {peer : Wire.Peer} (hpeer : peer ∈ peers) :
    (Directory.ofTables (users.filter fun entry => (Chat.ofUser entry).peer ∈ peers)
        (chats.filter fun entry => (Chat.ofEntry entry).peer ∈ peers)).chat? peer =
      (Directory.ofTables users chats).chat? peer := by
  have hchats : (Directory.ofTables (users.filter fun entry => (Chat.ofUser entry).peer ∈ peers)
      (chats.filter fun entry => (Chat.ofEntry entry).peer ∈ peers)).chats =
        (Directory.ofTables users chats).chats.filter (·.peer ∈ peers) := by
    simp only [Directory.ofTables, List.filter_append, List.filter_map]
    rfl
  rw [Directory.chat?, hchats, ← List.filter_reverse, List.find?_filter]
  congr 1
  funext chat
  by_cases hchat : chat.peer = peer
  · simp [hchat, hpeer]
  · simp [hchat]

theorem discloses_ofTables {entries : List Wire.DialogEntry} {self : Int64}
    {users : List Wire.UserEntry} {chats : List Wire.ChatEntry}
    (hdistinct : (entries.filterMap (·.peer?)).Nodup) (hown : OwnFlagged self users) :
    (ofTables entries self users chats hdistinct hown).Discloses fun peer =>
      ((Directory.ofTables users chats).chat? peer).isSome := by
  intro position size raw hraw
  exact congrArg Option.isSome (chat?_filter users chats (List.mem_filterMap.2 ⟨_, hraw, rfl⟩))

/-! ## Pages -/

/-- Of dialogs whose chats are described if their peers are known, the known ones are kept. -/
theorem filter_known {directory : Directory} {raws : List Wire.Dialog}
    (hknown : ∀ raw ∈ raws, (directory.chat? raw.peer).isSome = known raw.peer) :
    (raws.filterMap fun raw =>
        (directory.chat? raw.peer).map fun chat => (raw, chat)).map Prod.fst =
      raws.filter (known ·.peer) := by
  induction raws with
  | nil => rfl
  | cons raw raws ih =>
    have hraw := hknown raw List.mem_cons_self
    have hraws := ih fun other hother => hknown other (List.mem_cons_of_mem raw hother)
    cases hchat : directory.chat? raw.peer with
    | none =>
      rw [hchat, Option.isSome_none] at hraw
      simp [hchat, ← hraw, hraws]
    | some chat =>
      rw [hchat, Option.isSome_some] at hraw
      simp [hchat, ← hraw, hraws]

/-- A page of dialogs brings those with known peers. -/
theorem kept_eq (hdiscloses : server.Discloses known) {position : DialogPosition} {size : Int32}
    {raws : List Wire.Dialog} (hpage : (server.page position size).entries = raws.map .dialog) :
    (server.page position size).kept.map Prod.fst = raws.filter (known ·.peer) := by
  have hraws : (server.page position size).entries.filterMap (·.dialog?) = raws := by
    rw [hpage, List.filterMap_map]
    exact List.filterMap_some
  rw [Wire.Dialogs.kept, hraws]
  apply filter_known
  intro raw hraw
  exact hdiscloses position size raw (hpage ▸ List.mem_map_of_mem hraw)

/-- At least one entry is asked for as long as more are wanted. -/
theorem pageSizeAfter_pos {limit : Option Nat} {given : Nat}
    (hwanted : ∀ most ∈ limit, given < most) :
    0 < (Pages.pageSizeAfter limit given).toNatClampNeg := by
  cases limit with
  | none => exact Nat.succ_pos 99
  | some most =>
    have hless : given < most := hwanted most rfl
    have hsize : min (most - given) Pages.maxPageSize < 2 ^ 31 := by
      unfold Pages.maxPageSize
      omega
    rw [Pages.pageSizeAfter, Option.elim_some, Int32.toNatClampNeg_ofNat_of_lt hsize]
    unfold Pages.maxPageSize
    omega

/-- Nothing is left behind a page that is final. -/
theorem drop_of_isLast {position : DialogPosition} {size : Int32} {raws : List Wire.Dialog}
    (hpage : (server.page position size).entries = (raws.take size.toNatClampNeg).map .dialog)
    (hsize : 0 < size.toNatClampNeg) (hlast : (server.page position size).isLast size = true) :
    raws.drop size.toNatClampNeg = [] := by
  have hlength := congrArg List.length hpage
  rw [List.length_map, List.length_take] at hlength
  have hshort : (server.page position size).entries.length < size.toNatClampNeg := by
    rcases Bool.or_eq_true_iff.1 hlast with hempty | hless
    · rw [show (server.page position size).entries = [] from List.isEmpty_iff.1 hempty]
      exact hsize
    · exact of_decide_eq_true hless
  apply List.drop_eq_nil_of_le
  omega

/-- What is left behind a page of dialogs is left at the next position. -/
theorem left_next {position : DialogPosition} {size : Int32} {raws : List Wire.Dialog}
    (hleft : server.left position = raws.map .dialog)
    (hgoing : (server.page position size).isLast size = false) :
    server.left (position.advance size (server.page position size)) =
      (raws.drop size.toNatClampNeg).map .dialog := by
  have hpage := server.entries_page position size
  rw [hleft, ← List.map_take] at hpage
  rcases List.eq_nil_or_concat (raws.take size.toNatClampNeg) with hnil | ⟨front, last, hconcat⟩
  -- a page without entries is final
  · rw [hnil] at hpage
    have hlast : (server.page position size).isLast size = true :=
      Bool.or_eq_true_iff.2 (Or.inl (List.isEmpty_iff.2 hpage))
    rw [hlast] at hgoing
    cases hgoing
  · have hsplit : (server.page position size).entries =
        front.map .dialog ++ .dialog last :: [] := by
      rw [hpage, hconcat, List.concat_eq_append, List.map_append, List.map_singleton]
    rw [left_advance hgoing hsplit (by simp), hleft, List.nil_append, List.map_drop]

/-! ## Progress -/

open Exchange (received items)

/-- The pages of the server so far are the beginning of its dialogs: what they brought are the known
ones of it, the next page starts where they end, and nothing is left behind the last of all. -/
structure Progress (server : DialogServer) (dialogs : List Wire.Dialog) (known : Wire.Peer → Bool)
    (start : DialogPosition) (history : List (Exchange DialogPosition Dialog))
    (seen left : List Wire.Dialog) : Prop where
  dialogs_eq : dialogs = seen ++ left
  items_eq : (items history).map (·.raw) = seen.filter (known ·.peer)
  left_eq : (∀ page ∈ received history, page.isLast = false) →
    server.left (Page.nextPosition start (received history)) = left.map .dialog
  done : ∀ page, (received history).getLast? = some page → page.isLast = true → left = []

/-- Every page of the server makes progress. -/
theorem progress_of_orderly (hdiscloses : server.Discloses known) {limit : Option Nat}
    {fromArchive : Option Bool} {history : List (Exchange DialogPosition Dialog)}
    (hplain : server.entries = dialogs.map .dialog)
    (horderly : Orderly limit (.start fromArchive) history)
    (hserved : ∀ exchange ∈ history, exchange.Served server) :
    ∃ seen left, Progress server dialogs known (.start fromArchive) history seen left := by
  induction horderly with
  | nil => exact ⟨[], dialogs, rfl, rfl, fun _ => hplain, by simp [received]⟩
  | @snoc history exchange _ hdue ih =>
    obtain ⟨seen, left, hprogress⟩ :=
      ih fun earlier hearlier => hserved earlier (List.mem_append_left _ hearlier)
    have hleft := hprogress.left_eq hdue.going
    rw [← hdue.position_eq] at hleft
    have hsize : 0 < exchange.size.toNatClampNeg := by
      rw [hdue.size_eq]
      exact pageSizeAfter_pos hdue.wanted
    have hpage := server.entries_page exchange.position exchange.size
    rw [hleft, ← List.map_take] at hpage
    have houtcome := hserved exchange (by simp)
    rw [Exchange.Served, DialogPosition.outcome_answer] at houtcome
    have hreceived := Exchange.received_of_brought houtcome
    refine ⟨seen ++ left.take exchange.size.toNatClampNeg, left.drop exchange.size.toNatClampNeg,
      ?_, ?_, ?_, ?_⟩
    -- the page moves as many dialogs from what is left to what is seen as were asked for
    · rw [List.append_assoc, List.take_append_drop]
      exact hprogress.dialogs_eq
    · have hkept := kept_eq hdiscloses hpage
      rw [← DialogPosition.view_items, List.map_map] at hkept
      rw [items, Exchange.received_append, hreceived, List.flatMap_append, List.flatMap_singleton,
        List.map_append, List.filter_append, ← hprogress.items_eq, ← hkept]
      rfl
    -- the next page starts where this one ends, or this one was the last of all
    · intro hgoing
      rw [Exchange.received_append, hreceived] at hgoing ⊢
      rw [Page.nextPosition, List.getLast?_concat]
      exact left_next hleft (hgoing _ (List.mem_append_right _ List.mem_cons_self))
    · intro page hlast hfinal
      rw [Exchange.received_append, hreceived, List.getLast?_concat] at hlast
      cases hlast
      exact drop_of_isLast hpage hsize hfinal

/-- The dialogs that are to be given out. -/
def wanted (limit : Option Nat) (dialogs : List Wire.Dialog) (known : Wire.Peer → Bool) :
    List Wire.Dialog :=
  atMost limit (dialogs.filter (known ·.peer))

namespace Progress

variable {limit : Option Nat} {start : DialogPosition} {given : List Dialog}
  {history : List (Exchange DialogPosition Dialog)} {pages : Pages DialogPosition Dialog}
  {seen left : List Wire.Dialog}

theorem prefix_filter (hprogress : Progress server dialogs known start history seen left)
    (ledger : Ledger limit start given history pages) :
    given.map (·.raw) <+: dialogs.filter (known ·.peer) := by
  rw [hprogress.dialogs_eq, List.filter_append, ← hprogress.items_eq]
  exact ledger.prefix_items.trans (List.prefix_append _ _)

/-- Nothing is given out but what is wanted. -/
theorem prefix_wanted (hprogress : Progress server dialogs known start history seen left)
    (ledger : Ledger limit start given history pages) :
    given.map (·.raw) <+: wanted limit dialogs known :=
  ledger.prefix_atMost (hprogress.prefix_filter ledger)

/-- When nothing more comes, all that is wanted was given out. -/
theorem eq_wanted (hprogress : Progress server dialogs known start history seen left)
    (ledger : Ledger limit start given history pages) (hexhausted : Exhausted limit given history) :
    given.map (·.raw) = wanted limit dialogs known := by
  apply ledger.eq_atMost (hprogress.prefix_filter ledger)
  rcases hexhausted with hfull | ⟨hitems, page, hlast, hfinal⟩
  · exact Or.inl hfull
  · right
    rw [hitems, hprogress.items_eq, hprogress.dialogs_eq, hprogress.done page hlast hfinal,
      List.append_nil]

end Progress

/-! ## Calls -/

/-- No page is nothing but folders if there are none. -/
theorem not_foldersOnly (hplain : server.entries = dialogs.map .dialog)
    (request : Wire.GetDialogs) : ¬ server.FoldersOnly request := by
  rintro ⟨hgoing, hfolders⟩
  have hparts : ∀ entry ∈ (server.part request).dialogs, entry ∈ server.entries := by
    intro entry hentry
    rw [server.dialogs_eq] at hentry
    exact (remaining_suffix ..).subset (List.mem_of_mem_take hentry)
  cases hdialogs : (server.part request).dialogs with
  | nil => simp [Wire.Dialogs.isFinal, hdialogs] at hgoing
  | cons entry rest =>
    have hmem : entry ∈ (server.part request).dialogs := hdialogs ▸ List.mem_cons_self
    have hentry := hparts entry hmem
    rw [hplain] at hentry
    obtain ⟨raw, -, rfl⟩ := List.mem_map.1 hentry
    exact Option.some_ne_none raw (hfolders _ hmem)

/-- What somebody holds who was given some dialogs, and heard only the pages of the server. -/
def Stands (server : DialogServer) (limit : Option Nat) (fromArchive : Option Bool)
    (given : List Dialog) (pages : Pages DialogPosition Dialog) : Prop :=
  ∃ history, Ledger limit (.start fromArchive) given history pages ∧
    ∀ exchange ∈ history, exchange.Served server

/-- Wherever the server answers these requests first, a run has some results, leads to a state and
sends no other requests. -/
def Leads (server : DialogServer) (requests : List Wire.GetDialogs)
    (pages : Pages DialogPosition Dialog) (calls : Nat)
    (results : List (Except CallError (Option Dialog))) (pages' : Pages DialogPosition Dialog) :
    Prop :=
  ∀ services world answers, world.answers = requests.map server.respond ++ answers →
    ∃ world', pages.run services world calls = ⟨results, pages', world'⟩ ∧
      world'.sent = world.sent ++ requests.map (.call <| .getDialogs ·) ∧ world'.answers = answers

variable {limit : Option Nat} {fromArchive : Option Bool} {given : List Dialog}
  {pages : Pages DialogPosition Dialog}

/-- What was given out so far is the beginning of what is wanted. -/
theorem prefix_of_stands (hplain : server.entries = dialogs.map .dialog)
    (hdiscloses : server.Discloses known) (hstands : server.Stands limit fromArchive given pages) :
    given.map (·.raw) <+: wanted limit dialogs known := by
  obtain ⟨history, ledger, hserved⟩ := hstands
  obtain ⟨seen, left, hprogress⟩ := progress_of_orderly hdiscloses hplain ledger.orderly hserved
  exact hprogress.prefix_wanted ledger

/-- Every call returns: it gives out one more of the wanted dialogs, or nothing once all of them are
given out. -/
theorem next_complete (hplain : server.entries = dialogs.map .dialog)
    (hdiscloses : server.Discloses known) (hstands : server.Stands limit fromArchive given pages) :
    ∃ requests item pages', server.Stands limit fromArchive (given ++ item.toList) pages' ∧
      (item = none → given.map (·.raw) = wanted limit dialogs known) ∧
      ∀ start calls before results, server.Leads before start calls results pages →
        server.Leads (before ++ requests) start (calls + 1) (results ++ [.ok item]) pages' := by
  obtain ⟨history, ledger, hserved⟩ := hstands
  obtain ⟨requests, between, hdrives, hready⟩ :=
    returns_of_moving server pages fun _ _ _ _ => not_foldersOnly hplain _
  obtain ⟨⟨item, pages'⟩, hsome⟩ := Option.ne_none_iff_exists'.1 hready
  obtain ⟨asked, hledger, hasked⟩ := ledger_of_drives ledger hdrives
  have hall : ∀ exchange ∈ history ++ asked, exchange.Served server := by
    intro exchange hexchange
    rcases List.mem_append.1 hexchange with hearlier | hlater
    · exact hserved exchange hearlier
    · exact hasked exchange hlater
  refine ⟨requests, item, pages', ⟨history ++ asked, ?_, hall⟩, ?_, ?_⟩
  · rcases Pages.ready?_cases hsome with ⟨first, rest, hreached, hbuffer, rfl, rfl⟩ | ⟨rfl, rfl, -⟩
    · exact hledger.give hreached hbuffer
    · simpa using hledger
  · rintro rfl
    obtain ⟨seen, left, hprogress⟩ :=
      progress_of_orderly hdiscloses hplain hledger.orderly hall
    exact hprogress.eq_wanted hledger (hledger.exhausted hsome)
  · intro start calls before results hleads services world answers hanswers
    rw [List.map_append, List.append_assoc] at hanswers
    obtain ⟨world', hrun, hsent, hrest⟩ := hleads services world _ hanswers
    obtain ⟨world'', hnext, hsent', hrest'⟩ := next_of_drives hdrives hrest services
    refine ⟨world'', ?_, ?_, hrest'⟩
    · rw [Pages.run, hrun, hnext, Pages.next_of_ready hsome]
    · rw [hsent', hsent, List.map_append, List.append_assoc]

/-! ## Runs -/

/-- As many calls as dialogs are wanted, or fewer, give out one after the other. -/
theorem run_complete (hplain : server.entries = dialogs.map .dialog)
    (hdiscloses : server.Discloses known) (limit : Option Nat) (fromArchive : Option Bool)
    {calls : Nat} (hcalls : calls ≤ (wanted limit dialogs known).length) :
    ∃ requests given pages', given.length = calls ∧
      server.Stands limit fromArchive given pages' ∧
      server.Leads requests ((Client.dialogs fromArchive).limitedTo limit) calls
        (given.map fun dialog => .ok (some dialog)) pages' := by
  induction calls with
  | zero =>
    refine ⟨[], [], _, rfl, ⟨[], Ledger.init limit (DialogPosition.start fromArchive), by simp⟩, ?_⟩
    intro services world answers hanswers
    exact ⟨world, rfl, by simp, hanswers⟩
  | succ calls ih =>
    obtain ⟨requests, given, pages, hlength, hstands, hleads⟩ := ih (Nat.le_of_succ_le hcalls)
    obtain ⟨more, item, pages', hstands', hnone, hnext⟩ :=
      next_complete hplain hdiscloses hstands
    cases item with
    | none =>
      -- all that is wanted was given out before
      have hall := congrArg List.length (hnone rfl)
      rw [List.length_map] at hall
      omega
    | some dialog =>
      refine ⟨requests ++ more, given ++ [dialog], pages', by simp [hlength], hstands', ?_⟩
      rw [List.map_append]
      exact hnext _ _ _ _ hleads

end DialogServer

/-! ## Main statement -/

/-- Whoever takes dialogs from a server that holds nothing but dialogs, until nothing is given out,
gets all dialogs whose chats the server describes, or the first ones if not all are wanted, in their
order and each once, after finitely many requests. -/
theorem dialogs_complete (server : DialogServer) (dialogs : List Wire.Dialog)
    (known : Wire.Peer → Bool) (hplain : server.entries = dialogs.map .dialog)
    (hdiscloses : server.Discloses known) (fromArchive : Option Bool) (limit : Option Nat)
    (services : Services) (world : World) :
    let wanted := DialogServer.wanted limit dialogs known
    ∃ (requests : List Wire.GetDialogs) (given : List Dialog), given.map (·.raw) = wanted ∧
      let run := ((Client.dialogs fromArchive).limitedTo limit).run services
        { world with answers := requests.map server.respond ++ world.answers } (wanted.length + 1)
      run.results = (given.map fun dialog => .ok (some dialog)) ++ [.ok none] ∧
        run.world.sent = world.sent ++ requests.map (.call <| .getDialogs ·) ∧
        run.world.answers = world.answers := by
  intro wanted
  obtain ⟨before, given, pages, hlength, hstands, hleads⟩ :=
    server.run_complete hplain hdiscloses limit fromArchive (Nat.le_refl wanted.length)
  have hbegins := server.prefix_of_stands hplain hdiscloses hstands
  have hgiven : given.map (·.raw) = wanted :=
    hbegins.eq_of_length (by rw [List.length_map, hlength])
  obtain ⟨more, item, pages', hstands', -, hnext⟩ :=
    server.next_complete hplain hdiscloses hstands
  cases item with
  | some dialog =>
    -- one more dialog would be more than all that are wanted
    have hmore := (server.prefix_of_stands hplain hdiscloses hstands').length_le
    rw [List.length_map, List.length_append, hlength] at hmore
    exact absurd hmore (Nat.not_succ_le_self _)
  | none =>
    obtain ⟨world', hrun, hsent, hanswers⟩ := hnext _ _ _ _ hleads services
      { world with answers := (before ++ more).map server.respond ++ world.answers } _ rfl
    refine ⟨before ++ more, given, hgiven, ?_⟩
    rw [hrun]
    exact ⟨rfl, hsent, hanswers⟩

namespace DialogServer

/-- The conversation of an account with itself, and one with a group that it has never met. -/
def ownAndForeign : List Wire.Dialog :=
  let own : Wire.Dialog := {
    pinned := false
    unreadMark := false
    viewForumAsMessages := false
    peer := .user 7
    topMessage := 12
    readInboxMaxId := 0
    readOutboxMaxId := 0
    unreadCount := 0
    unreadMentionsCount := 0
    unreadReactionsCount := 0
    pts := none
    folderId := none
    ttlPeriod := none }
  [own, { own with peer := .chat 5, topMessage := 3 }]

/-- The user who owns the account. -/
def ownUser : Wire.User :=
  { (Wire.UserEntry.empty 7).toUser with isSelf := true }

/-- A server that describes the user who owns the account, and nobody else. -/
def ownOnly : DialogServer :=
  .ofTables (ownAndForeign.map .dialog) 7 [.user ownUser] [] (by decide) (by decide)

end DialogServer

/-- Of the two conversations, the one of the account with itself is given out. -/
theorem ownOnly_complete :
    ∃ (requests : List Wire.GetDialogs) (given : List Dialog),
      given.map (·.raw) = DialogServer.ownAndForeign.take 1 ∧
      let run := ((Client.dialogs none).limitedTo (some 3)).run .blank
        ⟨requests.map DialogServer.ownOnly.respond ++ [.error .dropped], [], 0, []⟩ 2
      run.results = (given.map fun dialog => .ok (some dialog)) ++ [.ok none] ∧
        run.world.sent = requests.map (.call <| .getDialogs ·) ∧
        run.world.answers = [.error .dropped] :=
  dialogs_complete DialogServer.ownOnly DialogServer.ownAndForeign
    (fun peer => ((Directory.ofTables [.user DialogServer.ownUser] []).chat? peer).isSome) rfl
    (DialogServer.discloses_ofTables _ _) none (some 3)
    .blank ⟨[.error .dropped], [], 0, []⟩

end Messenger
