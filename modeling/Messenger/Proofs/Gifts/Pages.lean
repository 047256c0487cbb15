import Mathlib.Data.List.Forall2
import Messenger.Client.Gifts
import Messenger.Proofs.Paging.Flat
import Messenger.Proofs.Tables

/-!
# The gifts of a profile, page by page

Each page says where the next one starts (`DueAfter`), and the gifts of the pages are given out one
after the other, up to the first final page. What is given out of a gift is what the server sent of
it, and whom its own page describes (`ShowsGift`). Main statement: `gifts_follow_offsets`.
-/

namespace Messenger

/-! ## Gifts -/

/-- The gift shows what the server sent of it, and whom the tables describe for the user that it
names. An empty text is shown as none; what a gift says of its conversion goes before what the
catalogue says. -/
structure ShowsGift (tables : Tables) (raw : Wire.UserStarGift) (gift : StarGift) : Prop where
  id : gift.id = raw.gift.id
  sticker : gift.sticker = Sticker.ofDocument? (.ofDocument raw.gift.sticker)
  text : ∀ text, gift.text = some text ↔ text ≠ "" ∧ ∃ entities, raw.message = some ⟨text, entities⟩
  entities : ∀ entities, gift.entities = some entities ↔
    entities ≠ [] ∧ ∃ text, text ≠ "" ∧ raw.message = some ⟨text, entities⟩
  messageId : gift.messageId = raw.messageId
  date : ∃ date, gift.date = some date ∧ date.seconds = raw.date.toInt64
  fromUser : gift.fromUser = raw.fromId.bind tables.user?
  price : gift.price = raw.gift.stars
  converted : ∀ stars, raw.convertStars = some stars → gift.convertPrice = stars
  unconverted : raw.convertStars = none → gift.convertPrice = raw.gift.convertStars
  availableAmount : gift.availableAmount = raw.gift.availabilityRemains
  totalAmount : gift.totalAmount = raw.gift.availabilityTotal
  isLimited : gift.isLimited = raw.gift.limited
  isNameHidden : gift.isNameHidden = some raw.nameHidden
  isSaved : gift.isSaved = some !raw.unsaved

namespace Wire.FormattedText

variable {formatted : Option FormattedText}

theorem text?_eq_some_iff {text : String} :
    text? formatted = some text ↔ text ≠ "" ∧ ∃ entities, formatted = some ⟨text, entities⟩ := by
  constructor
  · intro htext
    cases formatted with
    | none => cases htext
    | some formatted =>
      simp only [text?, String.isEmpty_iff, Option.ite_none_left_eq_some] at htext
      obtain ⟨hne, hsome⟩ := htext
      cases hsome
      exact ⟨hne, formatted.entities, rfl⟩
  · rintro ⟨hne, entities, rfl⟩
    simp [text?, hne]

theorem entities?_eq_some_iff {entities : List MessageEntity} :
    entities? formatted = some entities ↔
      entities ≠ [] ∧ ∃ text, text ≠ "" ∧ formatted = some ⟨text, entities⟩ := by
  constructor
  · intro hentities
    cases formatted with
    | none => cases hentities
    | some formatted =>
      simp only [entities?, String.isEmpty_iff, Option.ite_none_left_eq_some,
        Listing.nonempty?_eq_some_iff] at hentities
      obtain ⟨htext, rfl, hne⟩ := hentities
      exact ⟨hne, formatted.text, htext, rfl⟩
  · rintro ⟨hne, text, htext, rfl⟩
    simp [entities?, htext, Listing.nonempty?_of_ne_nil hne]

end Wire.FormattedText

theorem showsGift_ofProfile (tables : Tables) (raw : Wire.UserStarGift) :
    ShowsGift tables raw (StarGift.ofProfile raw tables.directory).value := by
  rw [StarGift.ofProfile, StarGift.ofCatalogue, funext tables.user?_directory]
  -- the gift is the same with and without the warning about its sticker
  split <;> exact {
    id := rfl
    sticker := rfl
    text := fun _ => Wire.FormattedText.text?_eq_some_iff
    entities := fun _ => Wire.FormattedText.entities?_eq_some_iff
    messageId := rfl
    date := ⟨_, rfl, rfl⟩
    fromUser := rfl
    price := rfl
    converted := fun _ hstars => congrArg (·.getD raw.gift.convertStars) hstars
    unconverted := congrArg fun stars : Option Int64 => stars.getD raw.gift.convertStars
    availableAmount := rfl
    totalAmount := rfl
    isLimited := rfl
    isNameHidden := rfl
    isSaved := rfl }

namespace Wire.UserStarGifts

/-- The page as an answer of the transport. -/
def answer (page : UserStarGifts) : Answer :=
  .ok ⟨.userStarGifts, page⟩

/-- The gifts of the page, each read with the users of the page. -/
def listed (page : UserStarGifts) : List Messenger.StarGift :=
  page.gifts.map fun gift => (StarGift.ofProfile gift (.ofTables page.users [])).value

/-- The listed gifts show what the page says of its gifts, in their order. -/
theorem showsGift_listed (page : UserStarGifts) :
    List.Forall₂ (ShowsGift ⟨page.users, []⟩) page.gifts page.listed := by
  rw [listed, List.forall₂_map_right_iff, List.forall₂_same]
  intro gift hgift
  exact showsGift_ofProfile ⟨page.users, []⟩ gift

/-- No page comes after this one: it has no gifts, or does not say where the next one starts. -/
def isFinal (page : UserStarGifts) : Bool :=
  decide (page.gifts = [] ∨ page.nextOffset = none ∨ page.nextOffset = some "")

end Wire.UserStarGifts

namespace GiftPosition

/-- The request for the page at the position. -/
def request (position : GiftPosition) (size : Int32) : Wire.GetUserStarGifts :=
  ⟨position.user, position.offset, size⟩

/-- The offset of the next page counts unless the page is final. -/
theorem nextOffset?_eq (page : Wire.UserStarGifts) :
    nextOffset? page = if page.isFinal then none else page.nextOffset := by
  unfold nextOffset? Wire.UserStarGifts.isFinal
  cases hgifts : page.gifts with
  | nil => simp
  | cons gift rest =>
    cases hoffset : page.nextOffset with
    | none => simp
    | some offset =>
      by_cases hempty : offset = ""
      · simp [hempty]
      · simp [hempty, Option.filter]

theorem isNone_nextOffset? (page : Wire.UserStarGifts) :
    (nextOffset? page).isNone = page.isFinal := by
  rw [nextOffset?_eq]
  cases hfinal : page.isFinal with
  | true => rfl
  | false =>
    have hsome : page.nextOffset ≠ none := by
      intro hnone
      simp [Wire.UserStarGifts.isFinal, hnone] at hfinal
    simpa [Option.isSome_iff_ne_none] using hsome

/-- What a page brings is read off it. -/
theorem page_eq (position : GiftPosition) (page : Wire.UserStarGifts) :
    (position.page page).value =
      { items := page.listed
        next := ⟨position.user, (nextOffset? page).getD position.offset⟩
        isLast := page.isFinal } := by
  rw [← isNone_nextOffset?]
  simp [GiftPosition.page, Wire.UserStarGifts.listed]

theorem outcome_answer (position : GiftPosition) (size : Int32) (page : Wire.UserStarGifts) :
    Paged.outcome position size page.answer =
      .ok ((position.page page).value, page.count.toInt64.toUInt64) := rfl

variable {world world' : World} {history : List (Exchange GiftPosition StarGift)}
  {answers : List Wire.UserStarGifts}

/-- The pages that come are those of the answers. -/
theorem received_eq (hheard : Heard world history world')
    (hanswers : world.answers = answers.map (·.answer)) :
    Exchange.received history =
      (history.zip answers).map fun pair => (pair.1.position.page pair.2).value :=
  hheard.received_eq outcome_answer hanswers

theorem firstOf_answers (hheard : Heard world history world')
    (hanswers : world.answers = answers.map (·.answer)) :
    FirstOf history answers (·.listed) (·.isFinal) id := by
  unfold FirstOf
  rw [received_eq hheard hanswers, ← Exchange.map_snd_zip, List.map_map, List.map_map]
  apply List.map_congr_left
  intro pair hpair
  simp [page_eq]

/-- A request for gifts is due after some pages: it is for the same user, starts where the last of
the pages says, none of them was final, their gifts were all given out, and more are wanted. -/
structure DueAfter (request : Wire.GetUserStarGifts) (user : Wire.InputUser) (limit : Option Nat)
    (pages : List Wire.UserStarGifts) (given : List StarGift) : Prop where
  user_eq : request.user = user
  first : pages = [] → request.offset = ""
  follows : ∀ page, pages.getLast? = some page → page.nextOffset = some request.offset
  going : ∀ page ∈ pages, page.isFinal = false
  given_eq : given = pages.flatMap (·.listed)
  wanted : ∀ most ∈ limit, given.length < most

variable {user : Wire.InputUser} {limit : Option Nat}

section Outcome

variable {position : GiftPosition} {size : Int32} {answer : Answer}
  {page : Page GiftPosition StarGift} {count : UInt64}

/-- A page that comes is read off an answer with gifts. -/
theorem exists_page_eq (houtcome : Paged.outcome position size answer = .ok (page, count)) :
    ∃ gifts : Wire.UserStarGifts, page = (position.page gifts).value := by
  unfold Paged.outcome at houtcome
  cases hreceive : Client.receive (.call (Paged.call position size)) answer with
  | error error =>
    rw [hreceive] at houtcome
    cases houtcome
  | ok value =>
    rw [hreceive] at houtcome
    obtain ⟨hpage, -⟩ := Prod.mk.inj (Except.ok.inj houtcome)
    exact ⟨value, hpage.symm⟩

/-- Whatever the answer, the next page is one of the same user. -/
theorem user_of_outcome (houtcome : Paged.outcome position size answer = .ok (page, count)) :
    page.next.user = position.user := by
  obtain ⟨gifts, rfl⟩ := exists_page_eq houtcome
  rw [page_eq]

/-- Whatever the answer, a page without gifts is the last one. -/
theorem isLast_of_outcome (houtcome : Paged.outcome position size answer = .ok (page, count))
    (hitems : page.items = []) : page.isLast = true := by
  obtain ⟨gifts, rfl⟩ := exists_page_eq houtcome
  rw [page_eq] at hitems ⊢
  have hgifts : gifts.gifts = [] := List.map_eq_nil_iff.1 hitems
  simp [Wire.UserStarGifts.isFinal, hgifts]

end Outcome

/-- One page is enough for the next gift: either the page that comes has gifts, or it is the last
one. So a call never fetches twice. -/
theorem next_eq_of_empty {pages : Pages GiftPosition StarGift} (hready : pages.ready? = none)
    (services : Services) (world : World) :
    pages.next services world =
      match pages.fetch services world with
      | (.error error, world') => ⟨.error error, pages, world'⟩
      | (.ok pages', world') => ⟨.ok pages'.pop.1, pages'.pop.2, world'⟩ := by
  rcases hfetch : pages.fetch services world with ⟨error | pages', world'⟩
  · exact Pages.next_of_failed hready hfetch
  · obtain ⟨page, count, houtcome, rfl⟩ := Pages.brought_of_fetch hfetch
    obtain ⟨hwanted, hbuffer, -⟩ := Pages.ready?_eq_none_iff.1 hready
    have hstill : (pages.absorb page count).limitReached = false := hwanted
    have hgiven : (pages.absorb page count).ready? = some (pages.absorb page count).pop := by
      have hlast := isLast_of_outcome houtcome
      rw [Pages.ready?, hstill, if_neg Bool.false_ne_true, if_pos]
      cases hitems : page.items with
      | nil => simp [Pages.absorb, hbuffer, hitems, hlast hitems]
      | cons gift rest => simp [Pages.absorb, hitems]
    exact (Pages.next_of_fetched hready hfetch).trans (Pages.next_of_ready hgiven)

/-- All requests are for the same user. -/
theorem user_nextPosition (horderly : Orderly limit (start user) history)
    (houtcome : ∀ exchange ∈ history, ∃ answer,
      exchange.outcome = Paged.outcome exchange.position exchange.size answer) :
    (Page.nextPosition (start user) (Exchange.received history)).user = user := by
  induction horderly with
  | nil => rfl
  | @snoc history exchange _ hdue ih =>
    have hhistory := ih fun earlier hearlier => houtcome earlier (List.mem_append_left _ hearlier)
    obtain ⟨answer, hanswer⟩ := houtcome exchange (by simp)
    -- a request that fails does not move the position, and a page keeps the user
    cases hbrought : exchange.outcome with
    | error error =>
      rwa [Exchange.received_append, Exchange.received_of_failed hbrought, List.append_nil]
    | ok brought =>
      rw [Exchange.received_append, Exchange.received_of_brought hbrought, Page.nextPosition,
        List.getLast?_concat]
      rw [hanswer] at hbrought
      rw [← hdue.position_eq] at hhistory
      exact (user_of_outcome hbrought).trans hhistory

/-- What is due, is due after the answers so far. -/
theorem dueAfter_of_due (hheard : Heard world history world')
    (hanswers : world.answers = answers.map (·.answer))
    (horderly : Orderly limit (start user) history) {exchange : Exchange GiftPosition StarGift}
    (hdue : Due limit (start user) (Exchange.received history) exchange) {given : List StarGift}
    (hgiven : given = Exchange.items history) :
    DueAfter (exchange.position.request exchange.size) user limit (answers.take history.length)
      given := by
  have hfirst := firstOf_answers hheard hanswers
  have hgoing := hfirst.going hdue.going
  -- the page before is that of the last exchange for which there is an answer
  have hposition : exchange.position =
      ((history.zip answers).getLast?.map fun pair =>
        (pair.1.position.page pair.2).value.next).getD (start user) := by
    rw [hdue.position_eq, Page.nextPosition, received_eq hheard hanswers, List.getLast?_map,
      Option.map_map]
    rfl
  have hpages : (answers.take history.length).getLast? =
      (history.zip answers).getLast?.map Prod.snd := by
    rw [← Exchange.map_snd_zip, List.getLast?_map]
  refine ⟨?_, ?_, ?_, hgoing, ?_, ?_⟩
  · rw [request, hdue.position_eq]
    exact user_nextPosition horderly fun _ hmem => hheard.outcome_of_mem hmem
  · intro hnone
    rw [hnone, List.getLast?_nil, eq_comm, Option.map_eq_none_iff] at hpages
    rw [hposition, hpages]
    rfl
  · intro page hpage
    rw [hpages] at hpage
    obtain ⟨pair, hpair, rfl⟩ := Option.map_eq_some_iff.1 hpage
    have hpageGoing : pair.2.isFinal = false := by
      apply hgoing
      rw [← Exchange.map_snd_zip]
      exact List.mem_map_of_mem (List.mem_of_getLast? hpair)
    have hoffset : pair.2.nextOffset ≠ none := by
      intro hnone
      simp [Wire.UserStarGifts.isFinal, hnone] at hpageGoing
    obtain ⟨offset, hsome⟩ := Option.ne_none_iff_exists'.1 hoffset
    rw [request, hposition, hpair, Option.map_some, Option.getD_some, page_eq, nextOffset?_eq,
      hpageGoing, hsome]
    rfl
  · rw [hgiven, ← hfirst.items_eq, List.map_id]
  · rw [hgiven]
    exact hdue.wanted

/-- The requests of some exchanges. -/
def requests (history : List (Exchange GiftPosition StarGift)) : List Wire.GetUserStarGifts :=
  history.map fun exchange => exchange.position.request exchange.size

theorem map_request (history : List (Exchange GiftPosition StarGift)) :
    history.map Exchange.request = (requests history).map (.call <| .getUserStarGifts ·) := by
  rw [requests, List.map_map]
  rfl

end GiftPosition

/-! ## Calls -/

/-- Whatever pages the server answers with, and however often the next gift was asked for before:
what was given out is the beginning of the gifts of all pages up to the first final one, cut to the
limit, and nothing is given out only once that list is used up. Each request is due after the pages
so far; a call fails only because a request is not answered. The gifts of a page show what the page
says of them. -/
theorem gifts_follow_offsets (user : Wire.InputUser) (limit : Option Nat)
    (pages : List Wire.UserStarGifts) (services : Services) (world : World) (calls : Nat) :
    let start := (Pages.ofPosition (GiftPosition.start user)).limitedTo limit
    let before := start.run services { world with answers := pages.map (·.answer) } calls
    let after := before.pages.next services before.world
    let flat := atMost limit ((throughFirst (·.isFinal) pages).flatMap (·.listed))
    before.items <+: flat ∧
      (after.result = .ok none → before.items = flat) ∧
      ∃ asked asking : List Wire.GetUserStarGifts,
        before.world.sent = world.sent ++ asked.map (.call <| .getUserStarGifts ·) ∧
        after.world.sent = before.world.sent ++ asking.map (.call <| .getUserStarGifts ·) ∧
        (∀ earlier request later, asking = earlier ++ request :: later →
          GiftPosition.DueAfter request user limit (pages.take (asked ++ earlier).length)
            before.items) ∧
        (∀ error, after.result = .error error →
          error = .dropped ∧ pages.length < (asked ++ asking).length) ∧
        ∀ page ∈ pages, List.Forall₂ (ShowsGift ⟨page.users, []⟩) page.gifts page.listed := by
  intro start before after flat
  obtain ⟨asked, asking, hasked, hledger, hentry⟩ : ∃ asked asking,
      Heard { world with answers := pages.map (·.answer) } asked before.world ∧
        Ledger limit (.start user) before.items asked before.pages ∧
        Ledger.Entry limit (.start user) before.items asked before.world after asking :=
    Ledger.calls ..
  have hheard := hasked.append hentry.heard
  refine ⟨?_, ?_, GiftPosition.requests asked, GiftPosition.requests asking, ?_, ?_, ?_, ?_, ?_⟩
  · rw [← List.map_id before.items]
    exact (GiftPosition.firstOf_answers hasked rfl).prefix_flat hledger
  · intro hnone
    rw [← List.map_id before.items]
    exact (GiftPosition.firstOf_answers hheard rfl).eq_flat (hentry.ledger_of_none hnone)
      (hentry.exhausted hnone)
  · exact hasked.sent_eq.trans (congrArg (world.sent ++ ·) (GiftPosition.map_request asked))
  · exact hentry.heard.sent_eq.trans
      (congrArg (before.world.sent ++ ·) (GiftPosition.map_request asking))
  · intro earlier request later hsplit
    obtain ⟨front, exchange, behind, rfl, rfl, rfl⟩ := Exchange.split_of_map hsplit
    obtain ⟨⟨between, hbefore⟩, horderly, hgiven, hdue⟩ := hentry.before hasked rfl
    have hdueAfter := GiftPosition.dueAfter_of_due hbefore rfl horderly hdue hgiven
    simpa [GiftPosition.requests] using hdueAfter
  · intro error herror
    simpa [GiftPosition.requests] using hentry.dropped hasked GiftPosition.outcome_answer rfl herror
  · intro page hpage
    exact page.showsGift_listed

end Messenger
