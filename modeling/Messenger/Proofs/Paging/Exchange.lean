import Messenger.Paging
import Messenger.Proofs.Sent

/-!
# Exchanges of an iterator

What somebody who takes items one by one says to the server, and hears from it:

1. **One step** (`ready?_cases`, `fetch_spec`): without a page, either the next item is given out or
   nothing is; a fetch sends one request and uses up one answer.
2. **One call** (`next_of_ready`, `next_of_failed`, `next_of_fetched`): a call repeats these steps.
3. **Many calls** (`Pages.run`): the results of the calls in order, and what is left after them.
4. **Exchanges** (`Heard`): the requests that were sent between two worlds, with what came of each.
-/

namespace Messenger

/-! ## Exchanges -/

namespace Paged

variable {ρ α : Type} [Paged ρ α]

/-- What comes of asking for the page at a position: the page and the number of all items, or a
failure. -/
def outcome (position : ρ) (size : Int32) (answer : Answer) :
    Except CallError (Page ρ α × UInt64) :=
  (Client.receive (.call (call position size)) answer).map fun value =>
    ((page position size value).value, count position size value)

end Paged

/-- A request for a page, and what came of it. -/
structure Exchange (ρ α : Type) where
  position : ρ
  size : Int32
  outcome : Except CallError (Page ρ α × UInt64)

namespace Exchange

variable {ρ α : Type}

/-- The request that was sent. -/
def request [Paged ρ α] (exchange : Exchange ρ α) : Wire.Request :=
  .call (Paged.call exchange.position exchange.size)

/-- The page, if one came. -/
def page? (exchange : Exchange ρ α) : Option (Page ρ α) :=
  exchange.outcome.toOption.map (·.1)

/-- The pages that came. -/
def received (history : List (Exchange ρ α)) : List (Page ρ α) :=
  history.filterMap page?

/-- The items of the pages that came. -/
def items (history : List (Exchange ρ α)) : List α :=
  (received history).flatMap (·.items)

@[simp]
theorem received_append (history later : List (Exchange ρ α)) :
    received (history ++ later) = received history ++ received later :=
  List.filterMap_append ..

/-- The answers that belong to exchanges are the first ones. -/
theorem map_snd_zip {β : Type} (history : List (Exchange ρ α)) (answers : List β) :
    (history.zip answers).map Prod.snd = answers.take history.length := by
  induction history generalizing answers with
  | nil => rfl
  | cons exchange history ih =>
    cases answers with
    | nil => rfl
    | cons answer answers => simp [ih]

/-- What is read off exchanges splits where the exchanges do. -/
theorem split_of_map {β : Type} {read : Exchange ρ α → β} {history : List (Exchange ρ α)}
    {earlier later : List β} {value : β} (hsplit : history.map read = earlier ++ value :: later) :
    ∃ before exchange behind, history = before ++ exchange :: behind ∧ before.map read = earlier ∧
      read exchange = value := by
  obtain ⟨before, rest, rfl, hbefore, hrest⟩ := List.map_eq_append_iff.1 hsplit
  obtain ⟨exchange, behind, rfl, hvalue, -⟩ := List.map_eq_cons_iff.1 hrest
  exact ⟨before, exchange, behind, rfl, hbefore, hvalue⟩

theorem received_of_failed {exchange : Exchange ρ α} {error : CallError}
    (hfailed : exchange.outcome = .error error) : received [exchange] = [] := by
  simp [received, page?, hfailed, Except.toOption]

theorem received_of_brought {exchange : Exchange ρ α} {page : Page ρ α} {count : UInt64}
    (hbrought : exchange.outcome = .ok (page, count)) : received [exchange] = [page] := by
  simp [received, page?, hbrought, Except.toOption]

end Exchange

/-- The requests sent from one world to another, each with what came of it: they use up the answers
of the transport one by one. -/
inductive Heard {ρ α : Type} [Paged ρ α] : World → List (Exchange ρ α) → World → Prop
  | nothing (world : World) : Heard world [] world
  | more {world world' world'' : World} {exchange : Exchange ρ α} {later : List (Exchange ρ α)}
      (sent : world'.sent = world.sent ++ [exchange.request])
      (answers : world'.answers = world.answers.tail)
      (outcome : exchange.outcome = Paged.outcome exchange.position exchange.size
        (world.answers.head?.getD (.error .dropped)))
      (rest : Heard world' later world'') : Heard world (exchange :: later) world''

namespace Heard

variable {ρ α : Type} [Paged ρ α] {world world' world'' : World}
  {history later : List (Exchange ρ α)}

theorem append (hfirst : Heard world history world') (hlater : Heard world' later world'') :
    Heard world (history ++ later) world'' := by
  induction hfirst with
  | nothing world => exact hlater
  | more hsent hanswers houtcome _ ih => exact more hsent hanswers houtcome (ih hlater)

theorem sent_eq (hheard : Heard world history world') :
    world'.sent = world.sent ++ history.map Exchange.request := by
  induction hheard with
  | nothing world => simp
  | more hsent _ _ _ ih => rw [ih, hsent, List.map_cons, List.append_assoc, List.singleton_append]

/-- What came of each request is what its answer says. -/
theorem outcome_eq (hheard : Heard world history world') {earlier : List (Exchange ρ α)}
    {exchange : Exchange ρ α} (hsplit : history = earlier ++ exchange :: later) :
    exchange.outcome = Paged.outcome exchange.position exchange.size
      (world.answers[earlier.length]?.getD (.error .dropped)) := by
  induction hheard generalizing earlier with
  | nothing world => simp at hsplit
  | more _ hanswers houtcome _ ih =>
    cases earlier with
    | nil =>
      obtain ⟨rfl, -⟩ := List.cons.inj hsplit
      rw [houtcome, List.head?_eq_getElem?, List.length_nil]
    | cons first earlier =>
      obtain ⟨-, hrest⟩ := List.cons.inj hsplit
      rw [ih hrest, hanswers, List.getElem?_tail, List.length_cons]

theorem outcome_of_mem (hheard : Heard world history world') {exchange : Exchange ρ α}
    (hmem : exchange ∈ history) :
    ∃ answer, exchange.outcome = Paged.outcome exchange.position exchange.size answer := by
  obtain ⟨earlier, later, hsplit⟩ := List.append_of_mem hmem
  exact ⟨_, hheard.outcome_eq hsplit⟩

/-- What was said splits where the exchanges do. -/
theorem split (hheard : Heard world (history ++ later) world'') :
    ∃ world', Heard world history world' ∧ Heard world' later world'' := by
  induction history generalizing world with
  | nil => exact ⟨world, .nothing world, hheard⟩
  | cons first history ih =>
    cases hheard with
    | more hsent hanswers houtcome hrest =>
      obtain ⟨world', hhistory, hlater⟩ := ih hrest
      exact ⟨world', .more hsent hanswers houtcome hhistory, hlater⟩

/-! ### Answers that all succeed -/

section Read

variable {β : Type} {toAnswer : β → Answer} {read : ρ → Int32 → β → Page ρ α × UInt64}
  {answers : List β}

/-- If all answers bring pages, so do all exchanges for which there is an answer. -/
theorem received_eq
    (hread : ∀ position size value,
      Paged.outcome position size (toAnswer value) = .ok (read position size value))
    (hheard : Heard world history world') (hanswers : world.answers = answers.map toAnswer) :
    Exchange.received history =
      (history.zip answers).map fun pair => (read pair.1.position pair.1.size pair.2).1 := by
  induction hheard generalizing answers with
  | nothing world => rfl
  | @more world world' world'' exchange later hsent htail houtcome hrest ih =>
    rw [hanswers] at houtcome htail
    rw [← List.map_tail] at htail
    rw [← List.singleton_append, Exchange.received_append, ih htail]
    cases answers with
    | nil =>
      -- the answers are used up, so the request is dropped
      rw [Exchange.received_of_failed houtcome]
      simp
    | cons value answers =>
      rw [List.map_cons, List.head?_cons, Option.getD_some, hread] at houtcome
      rw [Exchange.received_of_brought houtcome]
      rfl

/-- If all answers bring pages, a request fails only for want of an answer. -/
theorem failed_eq
    (hread : ∀ position size value,
      Paged.outcome position size (toAnswer value) = .ok (read position size value))
    (hheard : Heard world history world') (hanswers : world.answers = answers.map toAnswer)
    {exchange : Exchange ρ α} {error : CallError} (hlast : history.getLast? = some exchange)
    (hfailed : exchange.outcome = .error error) :
    error = .dropped ∧ answers.length < history.length := by
  obtain ⟨earlier, rfl⟩ := List.getLast?_eq_some_iff.1 hlast
  have houtcome := hheard.outcome_eq rfl
  rw [hfailed, hanswers, List.getElem?_map] at houtcome
  cases hvalue : answers[earlier.length]? with
  | some value =>
    rw [hvalue, Option.map_some, Option.getD_some, hread] at houtcome
    cases houtcome
  | none =>
    rw [hvalue] at houtcome
    have hbound : answers.length ≤ earlier.length := List.getElem?_eq_none_iff.1 hvalue
    refine ⟨Except.error.inj houtcome, ?_⟩
    rw [List.length_append, List.length_singleton]
    omega

end Read

end Heard

namespace Pages

variable {ρ α : Type}

/-! ## One step -/

section Step

variable {pages pages' : Pages ρ α}

/-- A page has to come first exactly if items are still wanted, none is left, and the last page has
not come. -/
theorem ready?_eq_none_iff :
    pages.ready? = none ↔
      pages.limitReached = false ∧ pages.buffer = [] ∧ pages.lastChunk = false := by
  unfold ready?
  cases hreached : pages.limitReached <;> cases hbuffer : pages.buffer <;>
    cases hlast : pages.lastChunk <;> simp

/-- Without a page, either the next item is given out or nothing is: because nothing is wanted, or
because nothing is left. -/
theorem ready?_cases {item : Option α} (hready : pages.ready? = some (item, pages')) :
    (∃ first rest, pages.limitReached = false ∧ pages.buffer = first :: rest ∧ item = some first ∧
        pages' = { pages with buffer := rest, fetched := pages.fetched + 1 }) ∨
      (item = none ∧ pages' = pages ∧
        (pages.limitReached = true ∨ pages.buffer = [] ∧ pages.lastChunk = true)) := by
  unfold ready? at hready
  cases hreached : pages.limitReached with
  | true =>
    right
    simp only [hreached, if_true, Option.some.injEq, Prod.mk.injEq] at hready
    exact ⟨hready.1.symm, hready.2.symm, Or.inl rfl⟩
  | false =>
    cases hbuffer : pages.buffer with
    | cons first rest =>
      left
      simp only [hreached, hbuffer, pop, List.isEmpty_cons, Bool.not_false, Bool.true_or, if_true,
        Bool.false_eq_true, if_false, Option.some.injEq, Prod.mk.injEq] at hready
      exact ⟨first, rest, rfl, rfl, hready.1.symm, hready.2.symm⟩
    | nil =>
      right
      cases hlast : pages.lastChunk with
      | false => simp [hreached, hbuffer, hlast] at hready
      | true =>
        simp only [hreached, hbuffer, hlast, pop, Bool.or_true, if_true, Bool.false_eq_true,
          if_false, Option.some.injEq, Prod.mk.injEq] at hready
        exact ⟨hready.1.symm, hready.2.symm, Or.inr ⟨rfl, rfl⟩⟩

end Step

variable [Paged ρ α] {pages pages' : Pages ρ α} {services : Services} {world world' : World}

/-- What comes of asking for the next page, given the answer. -/
def exchange (pages : Pages ρ α) (answer : Answer) : Exchange ρ α where
  position := pages.position
  size := pages.pageSize
  outcome := Paged.outcome pages.position pages.pageSize answer

/-- Fetching sends one request, uses up one answer, and gives what comes of that. -/
theorem fetch_spec (pages : Pages ρ α) (services : Services) (world : World) :
    let exchange := pages.exchange (world.answers.head?.getD (.error .dropped))
    (pages.fetch services world).1 =
        exchange.outcome.map (fun brought => pages.absorb brought.1 brought.2) ∧
      (pages.fetch services world).2.sent = world.sent ++ [exchange.request] ∧
      (pages.fetch services world).2.answers = world.answers.tail := by
  intro exchange
  have hinvoke :=
    Client.invoke_spec (.call (Paged.call pages.position pages.pageSize)) services world
  rw [fetch, Client.bind_apply, Client.run]
  rcases hrun : Client.invoke (.call (Paged.call pages.position pages.pageSize)) services world with
    ⟨error | value, world'⟩
  · rw [hrun] at hinvoke
    obtain ⟨hreceive, hsent, hanswers⟩ := hinvoke
    have houtcome : exchange.outcome = .error error := congrArg (Except.map _) hreceive.symm
    rw [houtcome]
    exact ⟨rfl, hsent, hanswers⟩
  · rw [hrun] at hinvoke
    obtain ⟨hreceive, hsent, hanswers⟩ := hinvoke
    have houtcome : exchange.outcome =
        .ok ((Paged.page pages.position pages.pageSize value).value,
          Paged.count pages.position pages.pageSize value) :=
      congrArg (Except.map _) hreceive.symm
    obtain ⟨-, hkept, hleft⟩ := @Client.warned_spec CallError _
      (Paged.page pages.position pages.pageSize value) services world'
    rw [houtcome]
    exact ⟨rfl, hkept.trans hsent, hleft.trans hanswers⟩

theorem heard_fetch (pages : Pages ρ α) (services : Services) (world : World) :
    Heard world [pages.exchange (world.answers.head?.getD (.error .dropped))]
      (pages.fetch services world).2 := by
  obtain ⟨-, hsent, hanswers⟩ := fetch_spec pages services world
  exact .more hsent hanswers rfl (.nothing _)

/-- A page that was fetched is what the exchange brought. -/
theorem brought_of_fetch (hfetch : pages.fetch services world = (.ok pages', world')) :
    ∃ page count,
      (pages.exchange (world.answers.head?.getD (.error .dropped))).outcome = .ok (page, count) ∧
        pages' = pages.absorb page count := by
  have hspec := (fetch_spec pages services world).1
  rw [hfetch] at hspec
  cases houtcome : (pages.exchange (world.answers.head?.getD (.error .dropped))).outcome with
  | error error =>
    rw [houtcome] at hspec
    cases hspec
  | ok brought =>
    rw [houtcome] at hspec
    exact ⟨brought.1, brought.2, rfl, Except.ok.inj hspec⟩

/-- A fetch fails only as the exchange does. -/
theorem failed_of_fetch {error : CallError}
    (hfetch : pages.fetch services world = (.error error, world')) :
    (pages.exchange (world.answers.head?.getD (.error .dropped))).outcome = .error error := by
  have hspec := (fetch_spec pages services world).1
  rw [hfetch] at hspec
  cases houtcome : (pages.exchange (world.answers.head?.getD (.error .dropped))).outcome with
  | error failure =>
    rw [houtcome] at hspec
    rw [Except.error.inj hspec]
  | ok brought =>
    rw [houtcome] at hspec
    cases hspec

/-! ## One call -/

theorem next_of_ready {item : Option α} (hready : pages.ready? = some (item, pages')) :
    pages.next services world = ⟨.ok item, pages', world⟩ := by
  rw [next, hready]

theorem next_of_failed {error : CallError} (hready : pages.ready? = none)
    (hfetch : pages.fetch services world = (.error error, world')) :
    pages.next services world = ⟨.error error, pages, world'⟩ := by
  rw [next, hready]
  dsimp only
  -- the match binds an equation about the fetch, so the fetch cannot be rewritten in it
  split
  · next hfetched =>
    rw [hfetch] at hfetched
    cases hfetched
    rfl
  · next hfetched =>
    rw [hfetch] at hfetched
    cases hfetched

theorem next_of_fetched (hready : pages.ready? = none)
    (hfetch : pages.fetch services world = (.ok pages', world')) :
    pages.next services world = pages'.next services world' := by
  rw [next, hready]
  dsimp only
  split
  · next hfetched =>
    rw [hfetch] at hfetched
    cases hfetched
  · next hfetched =>
    rw [hfetch] at hfetched
    cases hfetched
    rfl

/-- Whatever a call does, it only adds exchanges. -/
theorem heard_next (pages : Pages ρ α) (services : Services) (world : World) :
    ∃ asked : List (Exchange ρ α), Heard world asked (pages.next services world).world := by
  induction pages, world using @Pages.next.induct ρ α inferInstance services with
  | case1 pages world item pages' hready =>
    rw [next_of_ready hready]
    exact ⟨[], .nothing world⟩
  | case2 pages world hready error world' hfetch =>
    have hheard := heard_fetch pages services world
    rw [hfetch] at hheard
    rw [next_of_failed hready hfetch]
    exact ⟨_, hheard⟩
  | case3 pages world hready pages' world' hfetch ih =>
    have hheard := heard_fetch pages services world
    rw [hfetch] at hheard
    obtain ⟨asked, hasked⟩ := ih
    rw [next_of_fetched hready hfetch]
    exact ⟨_, hheard.append hasked⟩

/-- If a page has to come first, a call begins with the request for it. -/
theorem sent_next_of_empty (hready : pages.ready? = none) (services : Services) (world : World) :
    ∃ later, (pages.next services world).world.sent =
      world.sent ++ .call (Paged.call pages.position pages.pageSize) :: later := by
  obtain ⟨-, hsent, -⟩ := fetch_spec pages services world
  rcases hfetch : pages.fetch services world with ⟨error | pages', world'⟩
  · rw [hfetch] at hsent
    rw [next_of_failed hready hfetch]
    exact ⟨[], hsent⟩
  · rw [hfetch] at hsent
    obtain ⟨asked, hasked⟩ := heard_next pages' services world'
    rw [next_of_fetched hready hfetch]
    refine ⟨asked.map Exchange.request, ?_⟩
    rw [hasked.sent_eq, hsent, List.append_assoc, List.singleton_append]
    rfl

/-- Without an answer, the request for a page is dropped. -/
theorem next_of_dropped (hready : pages.ready? = none) (hanswers : world.answers = [])
    (services : Services) :
    (pages.next services world).result = .error .dropped ∧
      (pages.next services world).world.sent =
        world.sent ++ [.call (Paged.call pages.position pages.pageSize)] := by
  obtain ⟨hresult, hsent, -⟩ := fetch_spec pages services world
  rcases hfetch : pages.fetch services world with ⟨error | pages', world'⟩
  · rw [hfetch, hanswers] at hresult
    rw [hfetch] at hsent
    rw [next_of_failed hready hfetch]
    exact ⟨congrArg Except.error (Except.error.inj hresult), hsent⟩
  · rw [hfetch, hanswers] at hresult
    cases hresult

namespace Taken

/-- The item that was given out, if one was. -/
def item? (taken : Taken ρ α) : Option α :=
  taken.result.toOption.join

end Taken

/-! ## Many calls -/

/-- The same, with a limit if one is to be set. -/
def limitedTo (pages : Pages ρ α) : Option Nat → Pages ρ α
  | none => pages
  | some limit => pages.withLimit limit

/-- What came of some calls, one after the other. -/
structure Run (ρ α : Type) where
  results : List (Except CallError (Option α))
  pages : Pages ρ α
  world : World

/-- The items that were given out. -/
def Run.items (run : Run ρ α) : List α :=
  run.results.filterMap (·.toOption.join)

/-- Takes items so many times. -/
def run (pages : Pages ρ α) (services : Services) (world : World) : Nat → Run ρ α
  | 0 => ⟨[], pages, world⟩
  | calls + 1 =>
    let before := pages.run services world calls
    let taken := before.pages.next services before.world
    ⟨before.results ++ [taken.result], taken.pages, taken.world⟩

theorem items_run_succ (pages : Pages ρ α) (services : Services) (world : World) (calls : Nat) :
    (pages.run services world (calls + 1)).items =
      (pages.run services world calls).items ++
        ((pages.run services world calls).pages.next services
          (pages.run services world calls).world).item?.toList := by
  simp only [run, Run.items, List.filterMap_append, Taken.item?, List.filterMap_cons,
    List.filterMap_nil]
  split <;> simp_all

end Pages

end Messenger
