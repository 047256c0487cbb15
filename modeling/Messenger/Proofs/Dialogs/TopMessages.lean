import Messenger.Proofs.Dialogs.Pages
import Messenger.Proofs.Paging.Positions

/-!
# The messages on top of dialogs

A dialog names the message on top of it by its number, and the page lists these messages. They are
looked up by their conversations alone.

1. **Messages** (`Wire.Dialogs.lastIn`): of the messages that a page lists in a conversation, the last
   one counts, whatever its number is.
2. **Dialogs** (`Wire.Dialogs.ShowsNamed`): a dialog is to show the message that it names.
3. **Dates** (`Wire.Dialogs.Dates`): the next page is to be asked for with the date of the message that
   the last dialog names.

Main statement: `dialogs_show_last_messages`. A message with another number may be shown
(`other_message_is_shown`).
-/

namespace Messenger

/-! ## Messages -/

namespace TopMessages

theorem message?_erase_self (table : TopMessages) (peer : Wire.Peer) :
    (table.erase peer).message? peer = none := by
  rw [erase, message?, List.find?_eq_none]
  intro message hmem
  simpa using (List.mem_filter.1 (List.mem_reverse.1 hmem)).2

theorem message?_erase_of_ne (table : TopMessages) {peer other : Wire.Peer} (hne : other ≠ peer) :
    (table.erase peer).message? other = table.message? other := by
  rw [erase, message?, message?, ← List.filter_reverse, List.find?_filter]
  congr 1
  funext message
  by_cases hpeer : message.raw.peer? = some other
  · simp [hpeer, hne]
  · simp [hpeer]

end TopMessages

/-- A dialog shows the message of its conversation, unless that was shown before. -/
theorem Dialog.topMessage_of_mem_ofEntries {directory : Directory} {raws : List Wire.Dialog}
    {messages : TopMessages} {dialog : Dialog}
    (hmem : dialog ∈ (ofEntries directory raws messages).value) :
    dialog.topMessage = none ∨ dialog.topMessage = messages.message? dialog.raw.peer := by
  induction raws generalizing messages with
  | nil => cases hmem
  | cons raw rest ih =>
    unfold ofEntries at hmem
    cases hchat : directory.chat? raw.peer with
    | none =>
      rw [hchat] at hmem
      exact ih hmem
    | some chat =>
      rw [hchat] at hmem
      rcases List.mem_cons.1 hmem with rfl | hrest
      · exact Or.inr rfl
      · rcases ih hrest with hnone | hshown
        · exact Or.inl hnone
        · by_cases hpeer : dialog.raw.peer = raw.peer
          · rw [hpeer, TopMessages.message?_erase_self] at hshown
            exact Or.inl hshown
          · rw [TopMessages.message?_erase_of_ne messages hpeer] at hshown
            exact Or.inr hshown

namespace Wire.Dialogs

/-- The last message with content that the page lists in the conversation with a peer. -/
def lastIn (page : Dialogs) (peer : Peer) : Option Message :=
  (page.messages.filter TopMessages.isShown).reverse.find? (·.peer? = some peer)

/-- The page lists the message, and it is the one on top of the dialog by its conversation and its
number. -/
structure Names (page : Dialogs) (dialog : Dialog) (message : Message) : Prop where
  listed : message ∈ page.messages
  peer : message.peer? = some dialog.peer
  id : message.id = dialog.topMessage

variable {page : Dialogs} {peer : Peer} {message : Message}

theorem message?_ofPage (page : Dialogs) (peer : Peer) :
    (TopMessages.ofPage page.messages page.directory).message? peer =
      (page.lastIn peer).map (Message.ofRaw · page.directory) := by
  rw [TopMessages.ofPage, TopMessages.message?, ← List.map_reverse, List.find?_map]
  rfl

theorem names_iff {dialog : Dialog} (hlast : page.lastIn dialog.peer = some message) :
    page.Names dialog message ↔ message.id = dialog.topMessage := by
  refine ⟨Names.id, fun hid => ⟨?_, by simpa using List.find?_some hlast, hid⟩⟩
  exact (List.mem_filter.1 (List.mem_reverse.1 (List.mem_of_find?_eq_some hlast))).1

/-- Where no message with content is listed, no message has a date. -/
theorem timestamp_of_lastIn (hnone : page.lastIn peer = none) (hlisted : message ∈ page.messages)
    (hpeer : message.peer? = some peer) : message.timestamp = 0 := by
  have hhidden : ¬ TopMessages.isShown message := by
    intro hshown
    have hmem := List.mem_reverse.2 (List.mem_filter.2 ⟨hlisted, hshown⟩)
    exact List.find?_eq_none.1 hnone message hmem (decide_eq_true hpeer)
  cases message with
  | empty message => rfl
  | content message => exact absurd rfl hhidden
  | service message => exact absurd rfl hhidden

/-! ## Dialogs -/

/-- The dialogs that the page brings. -/
def dialogs (page : Dialogs) : List Messenger.Dialog :=
  (Dialog.ofEntries page.directory (page.entries.filterMap (·.dialog?))
    (.ofPage page.messages page.directory)).value

/-- The dialog shows the message that it names, or none. -/
def ShowsNamed (page : Dialogs) (dialog : Messenger.Dialog) : Prop :=
  ∀ message, dialog.topMessage = some message → page.Names dialog.raw message.raw

/-- A dialog of a page shows the message that it names exactly if it shows none, or the last message
that the page lists in its conversation has the number. -/
theorem showsNamed_iff {dialog : Messenger.Dialog} (hmem : dialog ∈ page.dialogs) :
    page.ShowsNamed dialog ↔
      dialog.topMessage = none ∨
        (page.lastIn dialog.raw.peer).map Message.id = some dialog.raw.topMessage := by
  rcases Dialog.topMessage_of_mem_ofEntries hmem with hnone | hshown
  · exact ⟨fun _ => Or.inl hnone, fun _ message hmessage => by cases hnone.symm.trans hmessage⟩
  · rw [message?_ofPage] at hshown
    rw [ShowsNamed, hshown]
    cases hlast : page.lastIn dialog.raw.peer with
    | none => simp
    | some message => simpa [Message.ofRaw] using names_iff hlast

/-! ## Dates -/

/-- The last dialog of the page. Folders are none. -/
def lastDialog? (page : Dialogs) : Option Dialog :=
  (page.entries.filterMap (·.dialog?)).getLast?

/-- The date is that of a message that the dialog names, or zero if the page lists none. -/
def Dates (page : Dialogs) (dialog : Dialog) (date : Int32) : Prop :=
  (∃ message, page.Names dialog message ∧ message.timestamp = date) ∨
    (∀ message, ¬ page.Names dialog message) ∧ date = 0

theorem dates_of_names {dialog : Dialog} (hnames : page.Names dialog message) :
    page.Dates dialog message.timestamp :=
  Or.inl ⟨message, hnames, rfl⟩

/-- Where no message with content is listed, the date is to be zero. -/
theorem dates_iff_of_lastIn {dialog : Dialog} (hnone : page.lastIn dialog.peer = none)
    {date : Int32} : page.Dates dialog date ↔ date = 0 := by
  constructor
  · rintro (⟨message, hnames, rfl⟩ | ⟨-, hzero⟩)
    · exact timestamp_of_lastIn hnone hnames.listed hnames.peer
    · exact hzero
  · rintro rfl
    by_cases hnamed : ∃ message, page.Names dialog message
    · obtain ⟨message, hnames⟩ := hnamed
      exact Or.inl ⟨message, hnames, timestamp_of_lastIn hnone hnames.listed hnames.peer⟩
    · exact Or.inr ⟨not_exists.1 hnamed, rfl⟩

/-- How the page after a page that is not final is asked for: with the number that the last dialog
names, and with the date of the last message that is listed in its conversation, or else with the date
that was asked with before. So the date is as it is to be if the listed message has the number, and, if
none is listed, exactly if the date before was zero. -/
structure GoesOn (page : Dialogs) (request following : GetDialogs) (last : Dialog) : Prop where
  id_eq : following.offsetId = last.topMessage
  date_eq : following.offsetDate =
    (page.lastIn last.peer).elim request.offsetDate Message.timestamp
  dates_iff : page.Dates last following.offsetDate ↔
    (page.lastIn last.peer).elim (request.offsetDate = 0) fun message =>
      page.Dates last message.timestamp
  listed : (page.lastIn last.peer).map Message.id = some last.topMessage →
    page.Dates last following.offsetDate

theorem goesOn {request following : GetDialogs} {last : Dialog}
    (hid : following.offsetId = last.topMessage)
    (hdate : following.offsetDate =
      (page.lastIn last.peer).elim request.offsetDate Message.timestamp) :
    page.GoesOn request following last := by
  refine ⟨hid, hdate, ?_, ?_⟩
  · rw [hdate]
    cases hlast : page.lastIn last.peer with
    | none => exact dates_iff_of_lastIn hlast
    | some message => exact Iff.rfl
  · intro hlisted
    obtain ⟨message, hlast, hnamed⟩ := Option.map_eq_some_iff.1 hlisted
    rw [hdate, hlast]
    exact dates_of_names ((names_iff hlast).2 hnamed)

end Wire.Dialogs

/-! ## Pages -/

namespace DialogPosition

variable {position position' : DialogPosition} {request : Wire.GetDialogs} {page : Wire.Dialogs}
  {later : List Step}

/-- A page that comes is asked for at the position, and moves it on. -/
theorem line_of_page
    (hline : Line position (.sent (.call (.getDialogs request)) page.answer :: later) position') :
    request = position.request request.limit ∧
      Line (position.advance request.limit page) later position' := by
  rcases hline.cons_cases with ⟨size, value, hstep, hrest⟩ |
    ⟨size, answer, error, hstep, hfailed, -⟩
  · obtain ⟨hrequest, hanswer⟩ := Step.sent.inj hstep
    obtain rfl : request = position.request size :=
      Wire.Call.getDialogs.inj (Wire.Request.call.inj hrequest)
    change Wire.Dialogs at value
    obtain rfl : page = value := by
      change (Except.ok ⟨.dialogs, page⟩ : Answer) = .ok ⟨.dialogs, value⟩ at hanswer
      simpa using hanswer
    exact ⟨rfl, hrest⟩
  · obtain ⟨hrequest, rfl⟩ := Step.sent.inj hstep
    rw [← Wire.Request.call.inj hrequest] at hfailed
    cases (Client.receive_eq_ok_iff.2 rfl).symm.trans hfailed

/-- Behind a page that is not final, the position is behind its last dialog. -/
theorem advance_eq {last : Wire.Dialog}
    (hgoing : page.isFinal (some (position.request request.limit)) = false)
    (hlast : page.lastDialog? = some last) :
    position.advance request.limit page =
      position.after last (.ofPage page.messages page.directory) page.directory := by
  have hgoing' : page.isLast request.limit = false :=
    (page.isLast_eq (position.request request.limit)).trans hgoing
  rw [Wire.Dialogs.lastDialog?] at hlast
  rw [advance, hgoing', hlast]
  rfl

/-- After a page that is not final, and requests that fail, the next page is asked for behind the last
dialog. -/
theorem goesOn_of_line {last : Wire.Dialog} {between : List Step} {next : Wire.Request}
    {answer : Answer}
    (hline : Line position (.sent (.call (.getDialogs request)) page.answer ::
      (between ++ .sent next answer :: later)) position')
    (hfailed : ∀ step ∈ between, step.succeeds = false)
    (hgoing : page.isFinal (some request) = false) (hlast : page.lastDialog? = some last) :
    ∃ following, next = .call (.getDialogs following) ∧ page.GoesOn request following last := by
  obtain ⟨hrequest, hrest⟩ := line_of_page hline
  obtain ⟨middle, hbetween, hnext⟩ := hrest.split
  obtain rfl := hbetween.eq_of_failed hfailed
  obtain ⟨size, answer', hstep⟩ := hnext.request_eq
  rw [hrequest] at hgoing
  rw [advance_eq hgoing hlast] at hstep
  refine ⟨_, (Step.sent.inj hstep).1, Wire.Dialogs.goesOn rfl ?_⟩
  rw [hrequest]
  simp only [DialogPosition.request, after, Wire.Dialogs.message?_ofPage]
  cases page.lastIn last.peer <;> rfl

end DialogPosition

/-! ## Main statement -/

/-- However an iterator is used, whatever pages come and whatever requests fail between them:

1. Every dialog that is given out or kept comes from a page that was received, and shows the message
   that it names exactly if it shows none or if the last message that the page lists in its
   conversation has the number.
2. After a page that is not final, the next request for a page goes on behind its last dialog. -/
theorem dialogs_show_last_messages (fromArchive : Option Bool) (services : Services) (world : World)
    (commands : List Command) :
    ∃ uses pages' world', uses.map Pages.Use.command = commands ∧
      Pages.Uses services (Client.dialogs fromArchive) world uses pages' world' ∧
      let asked := uses.flatMap Pages.Use.pageSteps
      (∀ dialog ∈ uses.flatMap Pages.Use.given ++ pages'.buffer, ∃ (request : Wire.GetDialogs)
          (page : Wire.Dialogs),
        .sent (.call (.getDialogs request)) page.answer ∈ asked ∧ dialog ∈ page.dialogs ∧
          (page.ShowsNamed dialog ↔ dialog.topMessage = none ∨
            (page.lastIn dialog.raw.peer).map Wire.Message.id = some dialog.raw.topMessage)) ∧
      ∀ (request : Wire.GetDialogs) (page : Wire.Dialogs) (last : Wire.Dialog)
        (earlier between later : List Step) (next : Wire.Request) (answer : Answer),
        asked = earlier ++ .sent (.call (.getDialogs request)) page.answer ::
            (between ++ .sent next answer :: later) →
          (∀ step ∈ between, step.succeeds = false) → page.isFinal (some request) = false →
          page.lastDialog? = some last →
          ∃ following, next = .call (.getDialogs following) ∧
            page.GoesOn request following last := by
  obtain ⟨uses, pages', world', hcommands, huses, hinLine⟩ :=
    (Client.dialogs fromArchive).exists_uses services world commands
  refine ⟨uses, pages', world', hcommands, huses, fun dialog hdialog => ?_, ?_⟩
  · rcases hinLine.brought dialog hdialog with hbuffer | ⟨position, size, page, hmem, hitem⟩
    · -- an iterator starts with nothing that was kept
      cases hbuffer
    · have hpage : dialog ∈ Wire.Dialogs.dialogs page := hitem
      exact ⟨position.request size, page, hmem, hpage, Wire.Dialogs.showsNamed_iff hpage⟩
  · intro request page last earlier between later next answer hasked hfailed hgoing hlast
    have hline := hinLine.line
    rw [hasked] at hline
    obtain ⟨middle, -, hrest⟩ := hline.split
    exact DialogPosition.goesOn_of_line hrest hfailed hgoing hlast

/-- A dialog shows another message than the one that it names, if the page lists both of them and that
one last. -/
theorem other_message_is_shown :
    ¬ ∀ (page : Wire.Dialogs) (services : Services) (dialog : Dialog),
      ((Client.dialogs none).next services ⟨[page.answer], [], 0, []⟩).result = .ok (some dialog) →
        page.ShowsNamed dialog := by
  intro halways
  let services : Services := .blank
  let message : Wire.ContentMessage := { (default : Wire.ContentMessage) with peer := .user 777 }
  let named : Wire.Message := .content { message with id := 10 }
  let other : Wire.Message := .content { message with id := 9 }
  let raw : Wire.Dialog := { (default : Wire.Dialog) with peer := .user 777, topMessage := 10 }
  let user : Wire.User := { (default : Wire.User) with id := 777 }
  let page : Wire.Dialogs := .all ⟨[.dialog raw], [named, other], [], [.user user]⟩
  let dialog : Dialog := .ofRaw raw (.user user) (some (.ofRaw other page.directory))
  have hnext : ((Client.dialogs none).next services ⟨[page.answer], [], 0, []⟩).result =
      .ok (some dialog) := by
    rw [Pages.next_of_fetched rfl rfl, Pages.next_of_ready rfl]
    rfl
  have hid := (halways page services dialog hnext _ rfl).id
  exact absurd hid (by decide)

end Messenger
