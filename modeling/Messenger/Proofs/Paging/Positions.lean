import Messenger.Proofs.Paging.Totals

/-!
# Positions of an iterator

The pages that come, and nothing else, move an iterator on.

1. **Lines** (`Line`): requests for pages, each at the position to which the pages before it led.
2. **Items** (`Brought`): what is given out or kept came with one of these pages.
3. **Uses** (`Pages.Uses`): however an iterator is used, its requests for pages are a line
   (`Pages.exists_uses`).
-/

namespace Messenger

variable {ρ α : Type} [Paged ρ α]

/-! ## Lines -/

/-- From one position to another, the steps ask for pages. One that comes says where the next page
starts; a request that fails leaves the position as it is. -/
inductive Line : ρ → List Step → ρ → Prop
  | nil (position : ρ) : Line position [] position
  | page {position position' : ρ} {size : Int32}
      {value : (Paged.call position size).returns.Value} {later : List Step}
      (rest : Line (Paged.page position size value).value.next later position') :
      Line position
        (.sent (.call (Paged.call position size))
          (.ok ⟨(Paged.call position size).returns, value⟩) :: later) position'
  | failed {position position' : ρ} {size : Int32} {answer : Answer} {error : CallError}
      {later : List Step}
      (failure : Client.receive (.call (Paged.call position size)) answer = .error error)
      (rest : Line position later position') :
      Line position (.sent (.call (Paged.call position size)) answer :: later) position'

namespace Line

variable {position position' position'' : ρ} {steps later : List Step}

theorem append (hfirst : Line position steps position') (hlater : Line position' later position'') :
    Line position (steps ++ later) position'' := by
  induction hfirst with
  | nil position => exact hlater
  | page _ ih => exact .page (ih hlater)
  | failed hfailed _ ih => exact .failed hfailed (ih hlater)

/-- The first step is a page that comes, or a request that fails. -/
theorem cons_cases {step : Step} (hline : Line position (step :: later) position') :
    (∃ size value,
        step = .sent (.call (Paged.call position size))
          (.ok ⟨(Paged.call position size).returns, value⟩) ∧
        Line (Paged.page position size value).value.next later position') ∨
      ∃ size answer error, step = .sent (.call (Paged.call position size)) answer ∧
        Client.receive (.call (Paged.call position size)) answer = .error error ∧
        Line position later position' := by
  cases hline with
  | page hrest => exact Or.inl ⟨_, _, rfl, hrest⟩
  | failed hfailed hrest => exact Or.inr ⟨_, _, _, rfl, hfailed, hrest⟩

/-- A line can be cut anywhere. -/
theorem split (hline : Line position (steps ++ later) position'') :
    ∃ position', Line position steps position' ∧ Line position' later position'' := by
  induction steps generalizing position with
  | nil => exact ⟨position, .nil position, hline⟩
  | cons step steps ih =>
    rcases hline.cons_cases with ⟨size, value, rfl, hrest⟩ |
      ⟨size, answer, error, rfl, hfailed, hrest⟩
    · obtain ⟨middle, hfirst, hlater⟩ := ih hrest
      exact ⟨middle, .page hfirst, hlater⟩
    · obtain ⟨middle, hfirst, hlater⟩ := ih hrest
      exact ⟨middle, .failed hfailed hfirst, hlater⟩

/-- Requests that fail do not move the position. -/
theorem eq_of_failed (hline : Line position steps position')
    (hfailed : ∀ step ∈ steps, step.succeeds = false) : position' = position := by
  induction hline with
  | nil position => rfl
  | @page position position' size value later hrest ih =>
    cases (Step.succeeds_sent_ok (.call (Paged.call position size)) value).symm.trans
      (hfailed _ List.mem_cons_self)
  | failed _ _ ih => exact ih fun step hmem => hfailed step (List.mem_cons_of_mem _ hmem)

/-- A request is sent at the position where it stands. -/
theorem request_eq {step : Step} (hline : Line position (step :: later) position') :
    ∃ size answer, step = .sent (.call (Paged.call position size)) answer := by
  rcases hline.cons_cases with ⟨size, value, rfl, -⟩ | ⟨size, answer, error, rfl, -, -⟩
  · exact ⟨size, _, rfl⟩
  · exact ⟨size, answer, rfl⟩

end Line

/-! ## Items -/

variable (ρ) in
/-- The item came with a page of the steps. -/
def Brought (steps : List Step) (item : α) : Prop :=
  ∃ (position : ρ) (size : Int32) (value : (Paged.call position size).returns.Value),
    .sent (.call (Paged.call position size)) (.ok ⟨(Paged.call position size).returns, value⟩) ∈
        steps ∧
      item ∈ (Paged.page position size value).value.items

theorem Brought.mono {steps later : List Step} {item : α} (hbrought : Brought ρ steps item)
    (hsubset : steps ⊆ later) : Brought ρ later item := by
  obtain ⟨position, size, value, hmem, hitem⟩ := hbrought
  exact ⟨position, size, value, hsubset hmem, hitem⟩

namespace Pages

variable {pages pages' : Pages ρ α} {steps : List Step}

/-- Pages that come are a line. -/
theorem Fetches.line (hfetches : Fetches pages steps pages') :
    Line pages.position steps pages'.position := by
  induction hfetches with
  | nothing pages => exact .nil pages.position
  | more _ _ ih => exact .page ih

/-- What is kept was there before, or came with one of the pages. -/
theorem Fetches.brought (hfetches : Fetches pages steps pages') {item : α}
    (hitem : item ∈ pages'.buffer) : item ∈ pages.buffer ∨ Brought ρ steps item := by
  induction hfetches with
  | nothing pages => exact Or.inl hitem
  | @more pages pages' value later _ _ ih =>
    rcases ih hitem with hbuffer | hbrought
    · rcases List.mem_append.1 hbuffer with hbefore | hpage
      · exact Or.inl hbefore
      · exact Or.inr ⟨pages.position, pages.pageSize, value, List.mem_cons_self, hpage⟩
    · exact Or.inr (hbrought.mono (List.subset_cons_self _ later))

omit [Paged ρ α] in
/-- Giving something out moves nothing but the item. -/
theorem position_of_ready {item : Option α} (hready : pages.ready? = some (item, pages')) :
    pages'.position = pages.position ∧
      ∀ other ∈ item.toList ++ pages'.buffer, other ∈ pages.buffer := by
  rcases ready?_cases hready with ⟨first, rest, -, hbuffer, rfl, rfl⟩ | ⟨rfl, rfl, -⟩
  · exact ⟨rfl, fun other hother => hbuffer ▸ hother⟩
  · exact ⟨rfl, fun other hother => hother⟩

/-- To take the next item is to ask for pages in a line. -/
theorem exists_line_next (pages : Pages ρ α) (services : Services) (world : World) :
    let taken := pages.next services world
    ∃ steps, Performs services world steps taken.world ∧
      Line pages.position steps taken.pages.position ∧
      ∀ item ∈ (Reply.item taken.result).item?.toList ++ taken.pages.buffer,
        item ∈ pages.buffer ∨ Brought ρ steps item := by
  intro taken
  obtain ⟨steps, before, hfetches, hcall⟩ := next_cases pages services world
  rcases hcall with ⟨item, after, world', hready, hperforms, hnext⟩ |
    ⟨answer, error, world', hready, hfailed, hperforms, hnext⟩
  · rw [show taken = ⟨.ok item, after, world'⟩ from hnext]
    obtain ⟨hposition, hsubset⟩ := position_of_ready hready
    exact ⟨steps, hperforms, hposition ▸ hfetches.line,
      fun other hother => hfetches.brought (hsubset other hother)⟩
  · rw [show taken = ⟨.error error, before, world'⟩ from hnext]
    refine ⟨steps ++ [.sent before.request answer], hperforms,
      hfetches.line.append (.failed hfailed (.nil before.position)), fun other hother => ?_⟩
    exact (hfetches.brought hother).imp_right fun hbrought =>
      hbrought.mono (List.subset_append_left _ _)

end Pages

/-! ## Uses -/

/-- Something that may be done with an iterator. -/
inductive Command where
  | setLimit (limit : Nat)
  | ask (query : Query)

namespace Pages

/-- A command to an iterator; if it is a query, with the turn that it takes. -/
inductive Use (α : Type) where
  | setLimit (limit : Nat)
  | ask (turn : Turn α)

namespace Use

/-- The command. -/
def command : Use α → Command
  | .setLimit limit => .setLimit limit
  | .ask turn => .ask turn.query

/-- The steps that ask for pages. -/
def pageSteps : Use α → List Step
  | .setLimit _ => []
  | .ask turn => if turn.isNext then turn.steps else []

/-- What is given out. -/
def given : Use α → List α
  | .setLimit _ => []
  | .ask turn => turn.reply.item?.toList

end Use

/-- From one state and world to another, the iterator is used. -/
inductive Uses (services : Services) :
    Pages ρ α → World → List (Use α) → Pages ρ α → World → Prop
  | nil (pages : Pages ρ α) (world : World) : Uses services pages world [] pages world
  | setLimit {pages pages' : Pages ρ α} {world world' : World} {limit : Nat} {later : List (Use α)}
      (rest : Uses services (pages.withLimit limit) world later pages' world') :
      Uses services pages world (.setLimit limit :: later) pages' world'
  | ask {pages pages' : Pages ρ α} {world world' : World} {turn : Turn α} {later : List (Use α)}
      (reply : (pages.ask services world turn.query).reply = turn.reply)
      (performs : Performs services world turn.steps (pages.ask services world turn.query).world)
      (rest : Uses services (pages.ask services world turn.query).pages
        (pages.ask services world turn.query).world later pages' world') :
      Uses services pages world (.ask turn :: later) pages' world'

theorem Uses.append {services : Services} {pages pages' pages'' : Pages ρ α}
    {world world' world'' : World} {uses later : List (Use α)}
    (hfirst : Uses services pages world uses pages' world')
    (hlater : Uses services pages' world' later pages'' world'') :
    Uses services pages world (uses ++ later) pages'' world'' := by
  induction hfirst with
  | nil pages world => exact hlater
  | setLimit _ ih => exact .setLimit (ih hlater)
  | ask hreply hperforms _ ih => exact .ask hreply hperforms (ih hlater)

/-- The uses ask for pages in a line, and what they give out or leave came with one of these pages, if
it was not there before. -/
structure InLine (pages : Pages ρ α) (uses : List (Use α)) (pages' : Pages ρ α) : Prop where
  line : Line pages.position (uses.flatMap Use.pageSteps) pages'.position
  brought : ∀ item ∈ uses.flatMap Use.given ++ pages'.buffer,
    item ∈ pages.buffer ∨ Brought ρ (uses.flatMap Use.pageSteps) item

namespace InLine

variable {pages pages' pages'' : Pages ρ α} {uses later : List (Use α)}

theorem nil (pages : Pages ρ α) : InLine pages [] pages :=
  ⟨.nil pages.position, fun _ hitem => Or.inl hitem⟩

theorem append (hfirst : InLine pages uses pages') (hlater : InLine pages' later pages'') :
    InLine pages (uses ++ later) pages'' := by
  have hline := hfirst.line.append hlater.line
  rw [← List.flatMap_append] at hline
  refine ⟨hline, fun item hitem => ?_⟩
  rw [List.flatMap_append, List.append_assoc, List.mem_append] at hitem
  rw [List.flatMap_append]
  have hsooner : item ∈ uses.flatMap Use.given ++ pages'.buffer → item ∈ pages.buffer ∨ _ :=
    fun hitem => (hfirst.brought item hitem).imp_right fun hbrought =>
      hbrought.mono (List.subset_append_left _ (later.flatMap Use.pageSteps))
  rcases hitem with hgiven | hothers
  · exact hsooner (List.mem_append_left _ hgiven)
  · rcases hlater.brought item hothers with hkept | hbrought
    · exact hsooner (List.mem_append_right _ hkept)
    · exact Or.inr (hbrought.mono (List.subset_append_right _ _))

end InLine

variable (pages : Pages ρ α) (services : Services) (world : World)

/-- A command is a use in line. -/
theorem exists_use [Tells ρ] (command : Command) :
    ∃ use pages' world', use.command = command ∧ Uses services pages world [use] pages' world' ∧
      InLine pages [use] pages' := by
  cases command with
  | setLimit limit =>
    exact ⟨.setLimit limit, pages.withLimit limit, world, rfl, .setLimit (.nil _ _),
      .nil pages.position, fun _ hitem => Or.inl hitem⟩
  | ask query =>
    cases query with
    | next =>
      obtain ⟨steps, hperforms, hline, hbrought⟩ := exists_line_next pages services world
      refine ⟨.ask ⟨.next, steps, .item (pages.next services world).result⟩, _, _, rfl,
        .ask rfl hperforms (.nil _ _), ?_, ?_⟩
      · simpa [Use.pageSteps, Turn.isNext, ask] using hline
      · simpa [Use.pageSteps, Use.given, Turn.isNext, ask] using hbrought
    | total =>
      -- the question for the number changes only what is known of it
      obtain ⟨steps, hperforms, -, total, hpages⟩ := exists_total pages services world
      refine ⟨.ask ⟨.total, steps, (pages.ask services world .total).reply⟩, _, _, rfl,
        .ask rfl hperforms (.nil _ _), ?_⟩
      rw [hpages]
      refine ⟨.nil pages.position, fun item hitem => Or.inl ?_⟩
      simpa [Use.given, (ask_total pages services world).1] using hitem

/-- However an iterator is used, the uses are in line. -/
theorem exists_uses [Tells ρ] (commands : List Command) :
    ∃ uses pages' world', uses.map Use.command = commands ∧
      Uses services pages world uses pages' world' ∧ InLine pages uses pages' := by
  induction commands generalizing pages world with
  | nil => exact ⟨[], pages, world, rfl, .nil pages world, .nil pages⟩
  | cons command commands ih =>
    obtain ⟨use, middle, between, rfl, hfirst, hinLine⟩ := exists_use pages services world command
    obtain ⟨uses, pages', world', rfl, hlater, hlaterInLine⟩ := ih middle between
    exact ⟨use :: uses, pages', world', rfl, hfirst.append hlater, hinLine.append hlaterInLine⟩

end Pages

end Messenger
