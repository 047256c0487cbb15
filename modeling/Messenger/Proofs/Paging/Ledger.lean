import Messenger.Proofs.Paging.Exchange

/-!
# The ledger of an iterator

Whatever the server answers, what an iterator holds is accounted for by the pages that came and the
items that it gave out. `Ledger` is the invariant, kept by each step:

1. **Items** (`items_eq`): those given out and those in the buffer are those of the pages, in order.
2. **Position** (`position_eq`): the next page starts where the last one that came says.
3. **End** (`going`, `lastChunk_eq`): only the last page that came may be the last of all.

`Ledger.next` is the step of a whole call, with what holds when a page is asked for (`Due`) and when
nothing is given out; `Ledger.run` is the invariant after any number of calls.
-/

namespace Messenger

variable {ρ α : Type}

/-! ## What the pages say -/

/-- Where the page after some pages starts. -/
def Page.nextPosition (start : ρ) (pages : List (Page ρ α)) : ρ :=
  (pages.getLast?.map (·.next)).getD start

/-- How many items to ask for once some are given out. -/
def Pages.pageSizeAfter (limit : Option Nat) (given : Nat) : Int32 :=
  .ofNat (limit.elim maxPageSize fun limit => min (limit - given) maxPageSize)

/-- The exchange is the next one after the pages: it starts where the last of them says, asks for as
many items as are wanted beyond theirs, and none of them was the last of all. -/
structure Due (limit : Option Nat) (start : ρ) (pages : List (Page ρ α))
    (exchange : Exchange ρ α) : Prop where
  position_eq : exchange.position = Page.nextPosition start pages
  size_eq : exchange.size = Pages.pageSizeAfter limit (pages.flatMap (·.items)).length
  wanted : ∀ most ∈ limit, (pages.flatMap (·.items)).length < most
  going : ∀ page ∈ pages, page.isLast = false

open Exchange (received items)

/-- Each exchange was due when it took place. -/
inductive Orderly (limit : Option Nat) (start : ρ) : List (Exchange ρ α) → Prop
  | nil : Orderly limit start []
  | snoc {history : List (Exchange ρ α)} {exchange : Exchange ρ α}
      (before : Orderly limit start history) (due : Due limit start (received history) exchange) :
      Orderly limit start (history ++ [exchange])

namespace Orderly

variable {limit : Option Nat} {start : ρ} {history later : List (Exchange ρ α)}

/-- The beginning of what was orderly was orderly. -/
theorem of_append (horderly : Orderly limit start (history ++ later)) :
    Orderly limit start history := by
  generalize hwhole : history ++ later = whole at horderly
  induction horderly generalizing later with
  | nil =>
    rw [(List.append_eq_nil_iff.1 hwhole).1]
    exact .nil
  | @snoc before exchange hbefore hdue ih =>
    rcases List.eq_nil_or_concat later with rfl | ⟨others, final, rfl⟩
    · rw [List.append_nil] at hwhole
      rw [hwhole]
      exact hbefore.snoc hdue
    · rw [List.concat_eq_append, ← List.append_assoc] at hwhole
      exact ih (List.append_inj_left' hwhole rfl)

end Orderly

/-- What an iterator holds, after the items that it gave out and the exchanges that it had. -/
structure Ledger (limit : Option Nat) (start : ρ) (given : List α) (history : List (Exchange ρ α))
    (pages : Pages ρ α) : Prop where
  limit_eq : pages.limit = limit
  fetched_eq : pages.fetched = given.length
  bounded : ∀ most ∈ limit, given.length ≤ most
  items_eq : given ++ pages.buffer = items history
  position_eq : pages.position = Page.nextPosition start (received history)
  going : ∀ page ∈ (received history).dropLast, page.isLast = false
  lastChunk_eq : pages.lastChunk = ((received history).getLast?.map (·.isLast)).getD false
  orderly : Orderly limit start history

/-- Nothing more comes: as many items were given out as are wanted, or those of all pages up to the
last of all. -/
def Exhausted (limit : Option Nat) (given : List α) (history : List (Exchange ρ α)) : Prop :=
  limit = some given.length ∨
    given = items history ∧ ∃ page, (received history).getLast? = some page ∧ page.isLast = true

namespace Ledger

variable {limit : Option Nat} {start : ρ} {given : List α} {history : List (Exchange ρ α)}
  {pages pages' : Pages ρ α}

theorem limitReached_eq_true_iff (ledger : Ledger limit start given history pages) :
    pages.limitReached = true ↔ limit = some given.length := by
  rw [Pages.limitReached, ledger.limit_eq, ledger.fetched_eq]
  cases hlimit : limit with
  | none => simp
  | some most =>
    have hbounded : given.length ≤ most := ledger.bounded most hlimit
    simp only [Option.elim_some, decide_eq_true_eq, Option.some.injEq]
    omega

theorem wanted (ledger : Ledger limit start given history pages)
    (hreached : pages.limitReached = false) : ∀ most ∈ limit, given.length < most := by
  intro most hmost
  have hbounded : given.length ≤ most := ledger.bounded most hmost
  have hne : given.length ≠ most := by
    intro heq
    have hfull : limit = some given.length := heq ▸ hmost
    rw [ledger.limitReached_eq_true_iff.2 hfull] at hreached
    cases hreached
  omega

theorem pageSize_eq (ledger : Ledger limit start given history pages)
    (hreached : pages.limitReached = false) :
    pages.pageSize = Pages.pageSizeAfter limit given.length := by
  rw [Pages.pageSize, Pages.pageSizeAfter, ledger.limit_eq, ledger.fetched_eq]
  cases hlimit : limit with
  | none => rfl
  | some most => simp [ledger.wanted hreached most hlimit]

/-- As long as the last of all pages has not come, none of those that came is it. -/
theorem going_of_lastChunk (ledger : Ledger limit start given history pages)
    (hlast : pages.lastChunk = false) : ∀ page ∈ received history, page.isLast = false := by
  have hgoing := ledger.going
  have hlastChunk := ledger.lastChunk_eq
  rcases List.eq_nil_or_concat (received history) with hnil | ⟨before, final, hconcat⟩
  · simp [hnil]
  · rw [hconcat, List.concat_eq_append] at hgoing hlastChunk ⊢
    intro page hpage
    rcases List.mem_append.1 hpage with hbefore | hfinal
    · exact hgoing page (by simpa using hbefore)
    · rw [List.mem_singleton.1 hfinal]
      simpa [hlast] using hlastChunk.symm

/-! ## Steps -/

theorem init (limit : Option Nat) (start : ρ) :
    Ledger limit start [] [] ((Pages.ofPosition start : Pages ρ α).limitedTo limit) := by
  have hgoing : ∀ page ∈ (received ([] : List (Exchange ρ α))).dropLast, page.isLast = false := by
    simp [received]
  cases limit with
  | none => exact ⟨rfl, rfl, fun _ _ => Nat.zero_le _, rfl, rfl, hgoing, rfl, .nil⟩
  | some limit => exact ⟨rfl, rfl, fun _ _ => Nat.zero_le _, rfl, rfl, hgoing, rfl, .nil⟩

/-- An item is given out from the buffer. -/
theorem give (ledger : Ledger limit start given history pages) {first : α} {rest : List α}
    (hreached : pages.limitReached = false) (hbuffer : pages.buffer = first :: rest) :
    Ledger limit start (given ++ [first]) history
      { pages with buffer := rest, fetched := pages.fetched + 1 } where
  limit_eq := ledger.limit_eq
  fetched_eq := by simp [ledger.fetched_eq]
  bounded := by
    intro most hmost
    rw [List.length_append, List.length_singleton]
    exact ledger.wanted hreached most hmost
  items_eq := by
    rw [List.append_assoc, List.singleton_append, ← hbuffer]
    exact ledger.items_eq
  position_eq := ledger.position_eq
  going := ledger.going
  lastChunk_eq := ledger.lastChunk_eq
  orderly := ledger.orderly

/-- A request that fails changes nothing. -/
theorem fail (ledger : Ledger limit start given history pages) {exchange : Exchange ρ α}
    {error : CallError} (hdue : Due limit start (received history) exchange)
    (hfailed : exchange.outcome = .error error) :
    Ledger limit start given (history ++ [exchange]) pages := by
  have hreceived : received (history ++ [exchange]) = received history := by
    rw [Exchange.received_append, Exchange.received_of_failed hfailed, List.append_nil]
  exact {
    limit_eq := ledger.limit_eq
    fetched_eq := ledger.fetched_eq
    bounded := ledger.bounded
    items_eq := by rw [items, hreceived]; exact ledger.items_eq
    position_eq := by rw [hreceived]; exact ledger.position_eq
    going := by rw [hreceived]; exact ledger.going
    lastChunk_eq := by rw [hreceived]; exact ledger.lastChunk_eq
    orderly := ledger.orderly.snoc hdue }

/-- A page comes, which may be the last of all. -/
theorem absorb (ledger : Ledger limit start given history pages) {exchange : Exchange ρ α}
    {page : Page ρ α} {count : UInt64} (hdue : Due limit start (received history) exchange)
    (hbrought : exchange.outcome = .ok (page, count)) :
    Ledger limit start given (history ++ [exchange]) (pages.absorb page count) := by
  have hreceived : received (history ++ [exchange]) = received history ++ [page] := by
    rw [Exchange.received_append, Exchange.received_of_brought hbrought]
  exact {
    limit_eq := ledger.limit_eq
    fetched_eq := ledger.fetched_eq
    bounded := ledger.bounded
    items_eq := by
      have hitems : given ++ pages.buffer = items history := ledger.items_eq
      rw [items, hreceived, List.flatMap_append, List.flatMap_singleton]
      change given ++ (pages.buffer ++ page.items) = items history ++ page.items
      rw [← List.append_assoc, hitems]
    position_eq := by
      rw [hreceived, Page.nextPosition, List.getLast?_concat]
      rfl
    going := by
      rw [hreceived, List.dropLast_concat]
      exact hdue.going
    lastChunk_eq := by
      rw [hreceived, List.getLast?_concat]
      rfl
    orderly := ledger.orderly.snoc hdue }

/-- When a page has to come first, all items of the pages so far were given out, more are wanted,
and none of the pages was the last of all. -/
theorem due [Paged ρ α] (ledger : Ledger limit start given history pages)
    (hready : pages.ready? = none) (answer : Answer) :
    given = items history ∧ Due limit start (received history) (pages.exchange answer) := by
  obtain ⟨hreached, hbuffer, hlast⟩ := Pages.ready?_eq_none_iff.1 hready
  have hgiven : given = items history := by
    rw [← ledger.items_eq, hbuffer, List.append_nil]
  refine ⟨hgiven, ledger.position_eq, ?_, ?_, ledger.going_of_lastChunk hlast⟩
  · rw [← items, ← hgiven]
    exact ledger.pageSize_eq hreached
  · rw [← items, ← hgiven]
    exact ledger.wanted hreached

/-- Nothing is given out only when nothing more comes. -/
theorem exhausted (ledger : Ledger limit start given history pages)
    (hready : pages.ready? = some (none, pages')) : Exhausted limit given history := by
  rcases Pages.ready?_cases hready with ⟨_, _, _, _, hnone, _⟩ | ⟨-, -, hreached | ⟨hbuffer, hlast⟩⟩
  · cases hnone
  · exact Or.inl (ledger.limitReached_eq_true_iff.1 hreached)
  · refine Or.inr ⟨by rw [← ledger.items_eq, hbuffer, List.append_nil], ?_⟩
    have hlastChunk := ledger.lastChunk_eq
    cases hfinal : (received history).getLast? with
    | none => simp [hfinal, hlast] at hlastChunk
    | some page => exact ⟨page, rfl, by simpa [hfinal, hlast] using hlastChunk.symm⟩

/-! ## Calls -/

variable [Paged ρ α]

/-- What a call does, in terms of the ledger before it: the exchanges that it has and the item that
it gives out are entered, each page that it asks for is due, and it ends or fails only for a
reason. -/
structure Entry (limit : Option Nat) (start : ρ) (given : List α) (history : List (Exchange ρ α))
    (world : World) (taken : Pages.Taken ρ α) (asked : List (Exchange ρ α)) : Prop where
  heard : Heard world asked taken.world
  ledger : Ledger limit start (given ++ taken.item?.toList) (history ++ asked) taken.pages
  due : ∀ earlier exchange later, asked = earlier ++ exchange :: later →
    given = items (history ++ earlier) ∧ Due limit start (received (history ++ earlier)) exchange
  exhausted : taken.result = .ok none → Exhausted limit given (history ++ asked)
  failed : ∀ error, taken.result = .error error →
    ∃ exchange, asked.getLast? = some exchange ∧ exchange.outcome = .error error

namespace Entry

variable {taken : Pages.Taken ρ α} {asked : List (Exchange ρ α)} {world world' : World}

/-- When nothing is given out, the ledger is that of the items given out before. -/
theorem ledger_of_none (hentry : Entry limit start given history world' taken asked)
    (hnone : taken.result = .ok none) :
    Ledger limit start given (history ++ asked) taken.pages := by
  have hledger := hentry.ledger
  rw [Pages.Taken.item?, hnone] at hledger
  simpa [Except.toOption] using hledger

/-- Before a request is sent, the exchanges so far were orderly, all of their items were given out,
and the request is due after them. -/
theorem before (hentry : Entry limit start given history world' taken asked)
    (hheard : Heard world history world') {earlier later : List (Exchange ρ α)}
    {exchange : Exchange ρ α} (hsplit : asked = earlier ++ exchange :: later) :
    (∃ between, Heard world (history ++ earlier) between) ∧
      Orderly limit start (history ++ earlier) ∧ given = items (history ++ earlier) ∧
      Due limit start (received (history ++ earlier)) exchange := by
  have hasked := hentry.heard
  have horderly := hentry.ledger.orderly
  rw [hsplit] at hasked
  rw [hsplit, ← List.append_assoc] at horderly
  obtain ⟨between, hearlier, -⟩ := hasked.split
  refine ⟨⟨between, hheard.append hearlier⟩, horderly.of_append, ?_⟩
  exact hentry.due earlier exchange later hsplit

/-- If all answers bring pages, a call fails only because they are used up. -/
theorem dropped {β : Type} {toAnswer : β → Answer} {read : ρ → Int32 → β → Page ρ α × UInt64}
    {answers : List β} (hentry : Entry limit start given history world' taken asked)
    (hheard : Heard world history world')
    (hread : ∀ position size value,
      Paged.outcome position size (toAnswer value) = .ok (read position size value))
    (hanswers : world.answers = answers.map toAnswer) {error : CallError}
    (herror : taken.result = .error error) :
    error = .dropped ∧ answers.length < (history ++ asked).length := by
  obtain ⟨exchange, hlast, hfailed⟩ := hentry.failed error herror
  have hwhole : (history ++ asked).getLast? = some exchange := by
    rw [List.getLast?_append, hlast, Option.some_or]
  exact (hheard.append hentry.heard).failed_eq hread hanswers hwhole hfailed

end Entry

/-- Every call keeps the ledger. -/
theorem next (ledger : Ledger limit start given history pages) (services : Services)
    (world : World) :
    ∃ asked, Entry limit start given history world (pages.next services world) asked := by
  induction pages, world using @Pages.next.induct ρ α inferInstance services
    generalizing history with
  | case1 pages world item pages' hready =>
    -- no page is asked for: an item is given out, or nothing is
    rw [Pages.next_of_ready hready]
    refine ⟨[], .nothing world, ?_, ?_, ?_, ?_⟩
    · rw [List.append_nil]
      rcases Pages.ready?_cases hready with
        ⟨first, rest, hreached, hbuffer, rfl, rfl⟩ | ⟨rfl, rfl, -⟩
      · exact ledger.give hreached hbuffer
      · simpa [Pages.Taken.item?, Except.toOption] using ledger
    · intro earlier exchange later hsplit
      simp at hsplit
    · intro hnone
      rw [Except.ok.inj hnone] at hready
      rw [List.append_nil]
      exact ledger.exhausted hready
    · intro error herror
      cases herror
  | case2 pages world hready error world' hfetch =>
    -- the page fails, and nothing but the exchange is entered
    rw [Pages.next_of_failed hready hfetch]
    have hheard := Pages.heard_fetch pages services world
    rw [hfetch] at hheard
    have hfailed := Pages.failed_of_fetch hfetch
    refine ⟨[_], hheard, ?_, ?_, ?_, ?_⟩
    · simpa [Pages.Taken.item?, Except.toOption] using ledger.fail (ledger.due hready _).2 hfailed
    · intro earlier exchange later hsplit
      cases earlier with
      | nil =>
        obtain ⟨rfl, -⟩ := List.cons.inj hsplit
        rw [List.append_nil]
        exact ledger.due hready _
      | cons first earlier => simp at hsplit
    · intro hnone
      cases hnone
    · intro failure herror
      cases herror
      exact ⟨_, rfl, hfailed⟩
  | case3 pages world hready pages' world' hfetch ih =>
    -- the page is entered first, and then what the rest of the call does
    rw [Pages.next_of_fetched hready hfetch]
    have hheard := Pages.heard_fetch pages services world
    rw [hfetch] at hheard
    obtain ⟨page, count, hbrought, rfl⟩ := Pages.brought_of_fetch hfetch
    obtain ⟨asked, hentry⟩ := ih (ledger.absorb (ledger.due hready _).2 hbrought)
    refine ⟨_ :: asked, hheard.append hentry.heard, ?_, ?_, ?_, ?_⟩
    · simpa using hentry.ledger
    · intro earlier exchange later hsplit
      cases earlier with
      | nil =>
        obtain ⟨rfl, -⟩ := List.cons.inj hsplit
        rw [List.append_nil]
        exact ledger.due hready _
      | cons first earlier =>
        obtain ⟨rfl, hrest⟩ := List.cons.inj hsplit
        simpa using hentry.due earlier exchange later hrest
    · simpa using hentry.exhausted
    · intro error herror
      obtain ⟨exchange, hexchange, houtcome⟩ := hentry.failed error herror
      refine ⟨exchange, ?_, houtcome⟩
      rw [List.getLast?_cons, hexchange, Option.getD_some]

/-- Any number of calls keeps the ledger. -/
theorem run (ledger : Ledger limit start given history pages) (services : Services)
    (world : World) (calls : Nat) :
    ∃ asked, Heard world asked (pages.run services world calls).world ∧
      Ledger limit start (given ++ (pages.run services world calls).items) (history ++ asked)
        (pages.run services world calls).pages := by
  induction calls with
  | zero =>
    refine ⟨[], .nothing world, ?_⟩
    simpa [Pages.run, Pages.Run.items] using ledger
  | succ calls ih =>
    obtain ⟨asked, hheard, hledger⟩ := ih
    obtain ⟨more, hentry⟩ := hledger.next services (pages.run services world calls).world
    refine ⟨asked ++ more, hheard.append hentry.heard, ?_⟩
    rw [Pages.items_run_succ, ← List.append_assoc, ← List.append_assoc]
    exact hentry.ledger

/-- After any number of calls from the start, one more call makes an entry in the ledger. -/
theorem calls (limit : Option Nat) (start : ρ) (services : Services) (world : World)
    (calls : Nat) :
    let before := ((Pages.ofPosition start : Pages ρ α).limitedTo limit).run services world calls
    ∃ asked asking, Heard world asked before.world ∧
      Ledger limit start before.items asked before.pages ∧
      Entry limit start before.items asked before.world (before.pages.next services before.world)
        asking := by
  intro before
  obtain ⟨asked, hheard, hledger⟩ := (init limit start).run services world calls
  rw [List.nil_append, List.nil_append] at hledger
  obtain ⟨asking, hentry⟩ := hledger.next services before.world
  exact ⟨asked, asking, hheard, hledger, hentry⟩

end Ledger

end Messenger
