import Messenger.Client.Dialogs
import Messenger.Client.Gifts
import Messenger.Proofs.Paging.Queries
import Messenger.Proofs.Paging.Resume

/-!
# Totals of an iterator

How many items there are in all is told by every page, and by the answer to the question for it.

1. **Telling** (`Step.told?`): what a step tells of the number, by one rule for all steps.
2. **Turns** (`Pages.Turns`): the queries to an iterator, each with the steps that it takes.
3. **Knowing** (`Pages.Told`): an iterator knows the number that was told last.
4. **Ignoring** (`Pages.Alone`): the next items do not depend on what is known of the number, so the
   questions for it may be left out.

Main statement: `totals_disturb_nothing`.
-/

namespace Messenger

/-! ## Telling -/

/-- The number of all items that a response tells: as many as came if the whole list came, and else
what the response says. -/
def Wire.Response.told? : Response → Option UInt64
  | ⟨.dialogs, .all answer⟩ => some (.ofNat answer.dialogs.length)
  | ⟨.dialogs, .slice answer⟩ => some answer.count.toInt64.toUInt64
  | ⟨.dialogs, .notModified count⟩ => some count.toInt64.toUInt64
  | ⟨.userStarGifts, answer⟩ => some answer.count.toInt64.toUInt64
  | _ => none

/-- The number of all items that is told by a step, unless it fails. -/
def Step.told? (step : Step) : Option UInt64 :=
  if step.succeeds then step.answer?.bind fun answer => answer.toOption.bind Wire.Response.told?
  else none

theorem Step.told?_of_error {request : Wire.Request} {answer : Answer} {error : CallError}
    (hfailed : Client.receive request answer = .error error) : (sent request answer).told? = none := by
  rw [told?, if_neg (by simp [succeeds_sent_of_error hfailed])]

/-- The number that was told last in some steps. -/
def lastTold (steps : List Step) : Option UInt64 :=
  (steps.filterMap Step.told?).getLast?

theorem lastTold_append (steps later : List Step) :
    lastTold (steps ++ later) = (lastTold later).or (lastTold steps) := by
  rw [lastTold, List.filterMap_append, List.getLast?_append]
  rfl

theorem lastTold_cons (step : Step) (later : List Step) :
    lastTold (step :: later) = (lastTold later).or step.told? := by
  rw [← List.singleton_append, lastTold_append]
  cases htold : step.told? <;> simp [lastTold, htold]

theorem lastTold_singleton (step : Step) : lastTold [step] = step.told? := by
  rw [lastTold_cons]
  rfl

/-- What a page says of the number of all items is what its answer tells. -/
class Tells (ρ : Type) {α : Type} [Paged ρ α] : Prop where
  told?_eq : ∀ (position : ρ) (size : Int32) (value : (Paged.call position size).returns.Value),
    (Step.sent (.call (Paged.call position size)) (.ok ⟨_, value⟩)).told? =
      some (Paged.count position size value)

theorem Step.told?_sent_ok (request : Wire.Request) (value : request.returns.Value) :
    (sent request (.ok ⟨request.returns, value⟩)).told? =
      Wire.Response.told? ⟨request.returns, value⟩ := by
  rw [told?, if_pos (succeeds_sent_ok request value)]
  rfl

instance : Tells DialogPosition where
  told?_eq position size value := by
    refine (Step.told?_sent_ok (.call (Paged.call position size)) value).trans ?_
    change Wire.Dialogs at value
    cases value <;> rfl

instance : Tells GiftPosition where
  told?_eq position size value := Step.told?_sent_ok (.call (Paged.call position size)) value

variable {ρ α : Type}

namespace Pages

/-! ## Turns -/

/-- A query to an iterator, with the steps that it takes and what comes of it. -/
structure Turn (α : Type) where
  query : Query
  steps : List Step
  reply : Reply α

/-- The turn asks for the next item. -/
def Turn.isNext (turn : Turn α) : Bool :=
  turn.query = .next

variable [Paged ρ α]

/-- From one state and world to another, the iterator takes the turns. -/
inductive Turns (services : Services) :
    Pages ρ α → World → List (Turn α) → Pages ρ α → World → Prop
  | nil (pages : Pages ρ α) (world : World) : Turns services pages world [] pages world
  | cons {pages pages' : Pages ρ α} {world world' : World} {turn : Turn α}
      {later : List (Turn α)}
      (reply : (pages.ask services world turn.query).reply = turn.reply)
      (performs : Performs services world turn.steps (pages.ask services world turn.query).world)
      (rest : Turns services (pages.ask services world turn.query).pages
        (pages.ask services world turn.query).world later pages' world') :
      Turns services pages world (turn :: later) pages' world'

variable {pages pages' : Pages ρ α} {services : Services} {world world' : World}

namespace Turns

variable {turns : List (Turn α)}

/-- The turns are what comes of their queries. -/
theorem visit_eq (hturns : Turns services pages world turns pages' world') :
    pages.visit services world (turns.map Turn.query) =
      ⟨turns.map Turn.reply, pages', world'⟩ := by
  induction hturns with
  | nil pages world => rfl
  | cons hreply _ _ ih =>
    rw [List.map_cons, Pages.visit, ih, hreply]
    rfl

theorem performs (hturns : Turns services pages world turns pages' world') :
    Performs services world (turns.flatMap Turn.steps) world' := by
  induction hturns with
  | nil pages world => exact .refl services world
  | cons _ hperforms _ ih => exact hperforms.append ih

end Turns

/-! ## Knowing -/

/-- The request for the number of all items, which asks for the next page with a single item. -/
def totalRequest (pages : Pages ρ α) : Wire.Request :=
  .call (Paged.call pages.position 1)

/-- Pages that come tell the number anew. -/
theorem Fetches.total_eq [Tells ρ] {steps : List Step} (hfetches : Fetches pages steps pages') :
    pages'.total = (lastTold steps).or pages.total := by
  induction hfetches with
  | nothing pages => rfl
  | @more pages pages' value later _ _ ih =>
    have htold : (Step.sent pages.request (.ok ⟨pages.request.returns, value⟩)).told? =
        (pages.turn value).total := Tells.told?_eq pages.position pages.pageSize value
    rw [lastTold_cons, ih, htold, Option.or_assoc]
    rfl

/-- If the number is not known, the server is asked for it. -/
theorem askTotal_cases (hunknown : pages.total = none) (services : Services) (world : World) :
    (∃ value, Client.Takes pages.askTotal services world
        [.sent pages.totalRequest (.ok ⟨pages.totalRequest.returns, value⟩)]
        (.ok (Paged.count pages.position 1 value,
          { pages with total := some (Paged.count pages.position 1 value) }))) ∨
      ∃ answer error, Client.receive pages.totalRequest answer = .error error ∧
        Client.Takes pages.askTotal services world [.sent pages.totalRequest answer]
          (.error error) := by
  have hask : pages.askTotal = Client.invoke pages.totalRequest >>= fun answer =>
      pure (Paged.count pages.position 1 answer,
        { pages with total := some (Paged.count pages.position 1 answer) }) := by
    rw [askTotal, hunknown]
    rfl
  rw [hask]
  rcases Client.invoke_cases pages.totalRequest services world with
    ⟨value, hinvoke⟩ | ⟨answer, error, hfailed, hinvoke⟩
  · exact Or.inl ⟨value, hinvoke.bind_nil (Client.takes_pure _ _ _)⟩
  · exact Or.inr ⟨answer, error, hfailed, hinvoke.bind_error⟩

/-- What comes of asking for the number: what was told last, without a request, or else what the
answer to a single request says. If that fails, nothing changes. -/
structure Told (last : Option UInt64) (pages : Pages ρ α) (services : Services) (world : World)
    (asked : Asked ρ α) : Prop where
  known : ∀ total, last = some total → asked = ⟨.total (.ok total), pages, world⟩
  unknown : last = none → ∃ answer,
    Performs services world [.sent pages.totalRequest answer] asked.world ∧
      ((∃ total, (Step.sent pages.totalRequest answer).told? = some total ∧
          asked.reply = .total (.ok total) ∧ asked.pages = { pages with total := some total }) ∨
        ∃ error, Client.receive pages.totalRequest answer = .error error ∧
          asked.reply = .total (.error error) ∧ asked.pages = pages)

theorem told_ask [Tells ρ] (pages : Pages ρ α) (services : Services) (world : World) :
    Told pages.total pages services world (pages.ask services world .total) where
  known total hknown := by simp only [ask, askTotal, hknown, Client.pure_apply]
  unknown hunknown := by
    rcases hasked : pages.askTotal services world with ⟨result, world'⟩
    rw [ask, hasked]
    rcases askTotal_cases hunknown services world with
      ⟨value, hresult, hperforms⟩ | ⟨answer, error, hfailed, hresult, hperforms⟩
    · rw [hasked] at hresult hperforms
      obtain rfl : result = _ := hresult
      exact ⟨_, hperforms, Or.inl ⟨_, Tells.told?_eq pages.position 1 value, rfl, rfl⟩⟩
    · rw [hasked] at hresult hperforms
      obtain rfl : result = _ := hresult
      exact ⟨answer, hperforms, Or.inr ⟨error, hfailed, rfl, rfl⟩⟩

/-! ## Ignoring -/

omit [Paged ρ α] in
theorem pop_withTotal (pages : Pages ρ α) (total : Option UInt64) :
    Pages.pop { pages with total := total } = (pages.pop.1, { pages.pop.2 with total := total }) := by
  obtain ⟨position, limit, fetched, buffer, lastChunk, known⟩ := pages
  cases buffer <;> rfl

omit [Paged ρ α] in
/-- What is ready does not depend on what is known of the number. -/
theorem ready?_withTotal (pages : Pages ρ α) (total : Option UInt64) :
    Pages.ready? { pages with total := total } =
      pages.ready?.map fun taken => (taken.1, { taken.2 with total := total }) := by
  have hready : Pages.ready? { pages with total := total } =
      if pages.limitReached then some (none, { pages with total := total })
      else if !pages.buffer.isEmpty || pages.lastChunk then some (pop { pages with total := total })
      else none := rfl
  rw [hready, ready?]
  cases pages.limitReached with
  | true => rfl
  | false =>
    cases !pages.buffer.isEmpty || pages.lastChunk with
    | false => rfl
    | true => exact congrArg some (pop_withTotal pages total)

omit [Paged ρ α] in
/-- What is known of the number is not changed by giving something out. -/
theorem total_of_ready {item : Option α} (hready : pages.ready? = some (item, pages')) :
    pages'.total = pages.total := by
  rcases ready?_cases hready with ⟨_, _, _, _, _, rfl⟩ | ⟨_, rfl, _⟩ <;> rfl

/-- Neither do the pages that come. -/
theorem Fetches.withTotal {steps : List Step} (hfetches : Fetches pages steps pages')
    (total : Option UInt64) :
    ∃ total', Fetches { pages with total := total } steps { pages' with total := total' } := by
  induction hfetches generalizing total with
  | nothing pages => exact ⟨total, .nothing _⟩
  | @more pages pages' value later hempty _ ih =>
    have hempty' : Pages.ready? { pages with total := total } = none := by
      rw [ready?_withTotal, hempty, Option.map_none]
    obtain ⟨total', hrest⟩ := ih (pages.turn value).total
    exact ⟨total', .more hempty' hrest⟩

/-- An answer that is a failure is what comes of the request. -/
theorem fetch_of_failed {answer : Answer} {error : CallError} {answers : List Answer}
    (hfailed : Client.receive pages.request answer = .error error)
    (hanswers : world.answers = answer :: answers) (services : Services) :
    ∃ world', pages.fetch services world = (.error error, world') ∧
      Performs services world [.sent pages.request answer] world' ∧ world'.answers = answers := by
  rcases fetch_cases pages services world with ⟨value, htakes⟩ | ⟨got, failure, hgot, htakes⟩
  · obtain ⟨hanswer, -⟩ := htakes.performs.of_sent
    rw [hanswers] at hanswer
    obtain rfl : answer = _ := hanswer.symm
    cases (Client.receive_eq_ok_iff.2 rfl).symm.trans hfailed
  · obtain ⟨hanswer, hrest⟩ := htakes.performs.of_sent
    rw [hanswers] at hanswer hrest
    obtain rfl : got = answer := hanswer
    obtain rfl := Except.error.inj (hgot.symm.trans hfailed)
    exact ⟨_, Prod.ext htakes.result_eq rfl, htakes.performs, hrest⟩

/-- The next item is the same, by the same steps, wherever their answers come first and whatever is
known of the number. -/
structure Repeats (pages : Pages ρ α) (steps : List Step) (taken : Taken ρ α) : Prop where
  repeats : ∀ (total : Option UInt64) (services : Services) (world : World) (rest : List Answer),
    world.answers = steps.filterMap Step.answer? ++ rest →
      ∃ total' world', Pages.next { pages with total := total } services world =
          ⟨taken.result, { taken.pages with total := total' }, world'⟩ ∧
        Performs services world steps world' ∧ world'.answers = rest

theorem exists_next [Tells ρ] (pages : Pages ρ α) (services : Services) (world : World) :
    ∃ steps, Performs services world steps (pages.next services world).world ∧
      (pages.next services world).pages.total = (lastTold steps).or pages.total ∧
      Repeats pages steps (pages.next services world) := by
  obtain ⟨steps, before, hfetches, hcall⟩ := next_cases pages services world
  rcases hcall with ⟨item, after, world', hready, hperforms, hnext⟩ |
    ⟨answer, error, world', hready, hfailed, hperforms, hnext⟩
  · -- the pages that came made an item ready, or nothing more is to come
    rw [hnext]
    refine ⟨steps, hperforms, ?_, ⟨fun total services world rest hanswers => ?_⟩⟩
    · exact (total_of_ready hready).trans hfetches.total_eq
    · obtain ⟨total', hfetches'⟩ := hfetches.withTotal total
      obtain ⟨world', hperforms', hrest, hnext'⟩ := next_of_fetches hfetches' hanswers services
      have hready' : Pages.ready? { before with total := total' } =
          some (item, { after with total := total' }) := by
        rw [ready?_withTotal, hready, Option.map_some]
      exact ⟨total', world', hnext'.trans (next_of_ready hready'), hperforms', hrest⟩
  · -- a page failed after those that came, and tells nothing
    rw [hnext]
    refine ⟨steps ++ [.sent before.request answer], hperforms, ?_,
      ⟨fun total services world rest hanswers => ?_⟩⟩
    · have hsilent : lastTold [.sent before.request answer] = none := by
        simp [lastTold, Step.told?_of_error hfailed]
      rw [lastTold_append, hsilent, Option.none_or]
      exact hfetches.total_eq
    · rw [List.filterMap_append, List.append_assoc] at hanswers
      obtain ⟨total', hfetches'⟩ := hfetches.withTotal total
      obtain ⟨between, hfirst, hbetween, hnext'⟩ := next_of_fetches hfetches' hanswers services
      have hready' : Pages.ready? { before with total := total' } = none := by
        rw [ready?_withTotal, hready, Option.map_none]
      have hfailed' : Client.receive (Pages.request { before with total := total' }) answer =
        .error error := hfailed
      obtain ⟨world', hfetch, hlast, hrest⟩ := fetch_of_failed hfailed' hbetween services
      exact ⟨total', world', hnext'.trans (next_of_failed hready' hfetch), hfirst.append hlast, hrest⟩

/-- Asking for the number changes nothing but what is known of it. -/
theorem exists_total [Tells ρ] (pages : Pages ρ α) (services : Services) (world : World) :
    ∃ steps, Performs services world steps (pages.ask services world .total).world ∧
      (pages.ask services world .total).pages.total = (lastTold steps).or pages.total ∧
      ∃ total, (pages.ask services world .total).pages = { pages with total := total } := by
  have htold := told_ask pages services world
  cases hlast : pages.total with
  | some total =>
    rw [htold.known total hlast]
    exact ⟨[], .refl services world, hlast, pages.total, rfl⟩
  | none =>
    obtain ⟨answer, hperforms, hanswer⟩ := htold.unknown hlast
    refine ⟨_, hperforms, ?_⟩
    rw [lastTold_singleton]
    rcases hanswer with ⟨total, htotal, -, hpages⟩ | ⟨error, hfailed, -, hpages⟩
    · rw [hpages, htotal]
      exact ⟨rfl, some total, rfl⟩
    · rw [hpages, Step.told?_of_error hfailed]
      exact ⟨hlast, pages.total, rfl⟩

/-- The turns for the next item are the same, wherever the answers of their steps come first and
whatever is known of the number. -/
structure Alone (pages : Pages ρ α) (turns : List (Turn α)) (pages' : Pages ρ α) : Prop where
  again : ∀ (total : Option UInt64) (services : Services) (world : World) (rest : List Answer),
    world.answers = (turns.flatMap Turn.steps).filterMap Step.answer? ++ rest →
      ∃ total' world', Turns services { pages with total := total } world turns
          { pages' with total := total' } world' ∧
        world'.answers = rest

theorem alone_nil (pages : Pages ρ α) : Alone pages [] pages where
  again total _ world _ hanswers := ⟨total, world, .nil _ world, hanswers⟩

/-- The question for the number may be left out. -/
theorem Alone.of_total {asked : Pages ρ α} {turns : List (Turn α)} {total : Option UInt64}
    (halone : Alone asked turns pages') (hasked : asked = { pages with total := total }) :
    Alone pages turns pages' where
  again := by
    subst hasked
    exact halone.again

theorem Repeats.alone {steps : List Step} {taken : Taken ρ α} {turns : List (Turn α)}
    (hrepeats : Repeats pages steps taken) (halone : Alone taken.pages turns pages') :
    Alone pages (⟨.next, steps, .item taken.result⟩ :: turns) pages' where
  again total services world rest hanswers := by
    rw [List.flatMap_cons, List.filterMap_append, List.append_assoc] at hanswers
    obtain ⟨known, between, hnext, hperforms, hbetween⟩ :=
      hrepeats.repeats total services world _ hanswers
    obtain ⟨total', world', hturns, hrest⟩ := halone.again known services between rest hbetween
    refine ⟨total', world', .cons ?_ ?_ ?_, hrest⟩
    · rw [ask, hnext]
    · rw [ask, hnext]
      exact hperforms
    · rw [ask, hnext]
      exact hturns

/-- Any queries are turns: with each of them the number that was told last is known, and those for
the next item do not need the others. -/
theorem exists_turns [Tells ρ] (pages : Pages ρ α) (services : Services) (world : World)
    (queries : List Query) :
    let visit := pages.visit services world queries
    ∃ turns, turns.map Turn.query = queries ∧
      Turns services pages world turns visit.pages visit.world ∧
      visit.pages.total = (lastTold (turns.flatMap Turn.steps)).or pages.total ∧
      Alone pages (turns.filter Turn.isNext) visit.pages := by
  induction queries generalizing pages world with
  | nil => exact ⟨[], rfl, .nil pages world, rfl, alone_nil pages⟩
  | cons query later ih =>
    obtain ⟨turns, hqueries, hturns, hknown, halone⟩ :=
      ih (pages.ask services world query).pages (pages.ask services world query).world
    cases query with
    | next =>
      obtain ⟨steps, hperforms, htotal, hrepeats⟩ := exists_next pages services world
      refine ⟨⟨.next, steps, .item (pages.next services world).result⟩ :: turns, ?_,
        .cons rfl hperforms hturns, ?_, ?_⟩
      · rw [List.map_cons, hqueries]
      · rw [List.flatMap_cons, lastTold_append, Option.or_assoc, ← htotal]
        exact hknown
      · exact hrepeats.alone halone
    | total =>
      -- the turn is left out later, so that nothing has to be repeated for it
      obtain ⟨steps, hperforms, htotal, total, hpages⟩ := exists_total pages services world
      refine ⟨⟨.total, steps, (pages.ask services world .total).reply⟩ :: turns, ?_,
        .cons rfl hperforms hturns, ?_, ?_⟩
      · rw [List.map_cons, hqueries]
      · rw [List.flatMap_cons, lastTold_append, Option.or_assoc, ← htotal]
        exact hknown
      · exact halone.of_total hpages

/-- Totals of the iterator do not disturb it. Any queries are turns (`Turns`), and after them:

1. asking for the number once more brings what was told last, and otherwise sends one request for a
   single item, with which nothing changes if it fails (`Told`);
2. the turns for the next item are the same, with the same steps, if all others are left out with
   their answers. -/
def QuietTotals (start : Pages ρ α) : Prop :=
  ∀ services world queries,
    let visit := start.visit services world queries
    ∃ turns, turns.map Turn.query = queries ∧
      Turns services start world turns visit.pages visit.world ∧
      Told (lastTold (turns.flatMap Turn.steps)) visit.pages services visit.world
        (visit.pages.ask services visit.world .total) ∧
      ∀ world' rest,
        world'.answers =
            ((turns.filter Turn.isNext).flatMap Turn.steps).filterMap Step.answer? ++ rest →
          let alone := start.visit services world' (queries.filter (· = .next))
          Turns services start world' (turns.filter Turn.isNext) alone.pages alone.world ∧
            alone.world.answers = rest

omit [Paged ρ α] in
theorem total_limitedTo (pages : Pages ρ α) (limit : Option Nat) :
    (pages.limitedTo limit).total = pages.total := by
  cases limit <;> rfl

theorem quietTotals [Tells ρ] {start : Pages ρ α} (hfresh : start.total = none) :
    QuietTotals start := by
  intro services world queries visit
  obtain ⟨turns, hqueries, hturns, hknown, halone⟩ := exists_turns start services world queries
  refine ⟨turns, hqueries, hturns, ?_, fun world' rest hanswers => ?_⟩
  · rw [hfresh, Option.or_none] at hknown
    rw [← hknown]
    exact told_ask visit.pages services visit.world
  · obtain ⟨total', world'', hkept, hrest⟩ := halone.again start.total services world' rest hanswers
    have hvisit := hkept.visit_eq
    have hnext : (turns.filter Turn.isNext).map Turn.query = queries.filter (· = .next) := by
      rw [← hqueries, List.filter_map]
      rfl
    rw [hnext] at hvisit
    rw [hvisit]
    exact ⟨hkept, hrest⟩

end Pages

/-- To count the dialogs is to ask a fresh iterator for the number. -/
theorem dialogsCount_eq_ask (fromArchive : Option Bool) (services : Services) (world : World) :
    let counted := Client.dialogsCount false fromArchive services world
    let asked := (Client.dialogs fromArchive).ask services world .total
    counted.2.sent = world.sent ++ [.call ((DialogPosition.start fromArchive).call 1)] ∧
      asked.reply = .total counted.1 ∧ asked.world = counted.2 := by
  have hcount : Client.dialogsCount false fromArchive =
      Client.invoke (.call ((DialogPosition.start fromArchive).call 1)) >>= fun answer =>
        pure (Wire.Dialogs.count answer) := rfl
  have hask : (Client.dialogs fromArchive).askTotal =
      Client.invoke (.call ((DialogPosition.start fromArchive).call 1)) >>= fun answer =>
        pure (Wire.Dialogs.count answer,
          { Client.dialogs fromArchive with total := some (Wire.Dialogs.count answer) }) := rfl
  have hsent := (Client.invoke_spec (.call ((DialogPosition.start fromArchive).call 1))
    services world).2.1
  dsimp only [Pages.ask]
  rw [hcount, hask, Client.bind_apply, Client.bind_apply]
  rcases hinvoke : Client.invoke (.call ((DialogPosition.start fromArchive).call 1))
    services world with ⟨error | answer, world'⟩
  · rw [hinvoke] at hsent
    exact ⟨hsent, rfl, rfl⟩
  · rw [hinvoke] at hsent
    exact ⟨hsent, rfl, rfl⟩

/-! ## Main statement -/

/-- For the dialogs of any folders and for the gifts of any user, whatever the limit, the totals are
quiet; the number is asked for by the request for the next page, with the limit of a single item; and
to count the dialogs is to ask a fresh iterator for the number. -/
theorem totals_disturb_nothing (fromArchive : Option Bool) (user : Wire.InputUser)
    (limit : Option Nat) :
    ((Client.dialogs fromArchive).limitedTo limit).QuietTotals ∧
      ((Pages.ofPosition (.start user) : Pages GiftPosition StarGift).limitedTo
        limit).QuietTotals ∧
      (∀ pages : Pages DialogPosition Dialog, ∃ arguments : Wire.GetDialogs,
        pages.request = .call (.getDialogs arguments) ∧
          pages.totalRequest = .call (.getDialogs { arguments with limit := 1 })) ∧
      (∀ pages : Pages GiftPosition StarGift, ∃ arguments : Wire.GetUserStarGifts,
        pages.request = .call (.getUserStarGifts arguments) ∧
          pages.totalRequest = .call (.getUserStarGifts { arguments with limit := 1 })) ∧
      ∀ services world,
        let counted := Client.dialogsCount false fromArchive services world
        let asked := (Client.dialogs fromArchive).ask services world .total
        counted.2.sent = world.sent ++ [.call (.getDialogs {
            excludePinned := false
            folderId := fromArchive.map fun archive => if archive then 1 else 0
            offsetDate := 0
            offsetId := 0
            offsetPeer := .empty
            limit := 1
            hash := 0 })] ∧
          asked.reply = .total counted.1 ∧ asked.world = counted.2 := by
  refine ⟨Pages.quietTotals (Pages.total_limitedTo _ limit),
    Pages.quietTotals (Pages.total_limitedTo _ limit), ?_, ?_, dialogsCount_eq_ask fromArchive⟩
  · intro pages
    exact ⟨_, rfl, rfl⟩
  · intro pages
    exact ⟨_, rfl, rfl⟩

end Messenger
