import Messenger.Client

/-!
# Paging

Some lists come in pages. `Paged ρ α` says how the page at a position of `ρ` is asked for and which
items of `α` it brings; `Pages ρ α` is the state of somebody who takes the items one by one:

1. **Taking** (`Pages.ready?`): nothing is given out beyond the limit, and otherwise the next item of
   the buffer, or nothing once the last page is used up.
2. **Fetching** (`Pages.fetch`): a page is asked for with as many items as are still wanted, at most
   a hundred.
3. **Running** (`Pages.next`): pages are fetched until there is something to give out. A page may
   bring no items, so this can take several; if one fails, those before it are kept.
-/

namespace Messenger

/-- What a page brings. -/
structure Page (ρ α : Type) where
  items : List α
  /-- Where the next page starts. -/
  next : ρ
  /-- There is no further page. -/
  isLast : Bool

/-- How the pages of a list are asked for and read. -/
class Paged (ρ : Type) (α : outParam Type) where
  /-- Asks for the page at a position, with so many items. -/
  call : ρ → Int32 → Wire.Call
  /-- What the answer brings. -/
  page : (position : ρ) → (size : Int32) → (call position size).returns.Value → Warned (Page ρ α)
  /-- How many items there are in all, as the answer says. -/
  count : (position : ρ) → (size : Int32) → (call position size).returns.Value → UInt64

/-- The state of somebody who takes the items of a list one by one. -/
structure Pages (ρ α : Type) where
  /-- Where the next page starts. -/
  position : ρ
  /-- How many items are wanted, if not all. -/
  limit : Option Nat
  /-- How many items were given out. -/
  fetched : Nat
  /-- The items that were fetched and not given out. -/
  buffer : List α
  /-- There is no further page. -/
  lastChunk : Bool
  /-- How many items there are in all, as the server said last. -/
  total : Option UInt64
deriving DecidableEq, Inhabited

namespace Pages

variable {ρ α : Type}

/-- The state before anything was fetched. -/
def ofPosition (position : ρ) : Pages ρ α where
  position := position
  limit := none
  fetched := 0
  buffer := []
  lastChunk := false
  total := none

/-- The same, with another limit. -/
def withLimit (pages : Pages ρ α) (limit : Nat) : Pages ρ α :=
  { pages with limit := some limit }

/-! ## Taking -/

/-- As many items were given out as are wanted. -/
def limitReached (pages : Pages ρ α) : Bool :=
  pages.limit.elim false fun limit => limit ≤ pages.fetched

/-- Gives out the next item of the buffer, if there is one. -/
def pop (pages : Pages ρ α) : Option α × Pages ρ α :=
  match pages.buffer with
  | [] => (none, pages)
  | item :: rest => (some item, { pages with buffer := rest, fetched := pages.fetched + 1 })

/-- What can be given out without fetching a page. -/
def ready? (pages : Pages ρ α) : Option (Option α × Pages ρ α) :=
  if pages.limitReached then some (none, pages)
  else if !pages.buffer.isEmpty || pages.lastChunk then some pages.pop
  else none

/-! ## Fetching -/

/-- The most items that the server puts into a page. -/
def maxPageSize : Nat := 100

/-- How many items to ask for: those still wanted, but never none, which would mean as many as the
server likes. -/
def pageSize (pages : Pages ρ α) : Int32 :=
  match pages.limit with
  | some limit =>
    if pages.fetched < limit then .ofNat (min (limit - pages.fetched) maxPageSize) else 1
  | none => .ofNat maxPageSize

/-- The state once a page has come, with the number of all items. -/
def absorb (pages : Pages ρ α) (page : Page ρ α) (count : UInt64) : Pages ρ α :=
  { pages with
    position := page.next
    buffer := pages.buffer ++ page.items
    lastChunk := page.isLast
    total := some count }

variable [Paged ρ α]

/-- Fetches the next page. -/
def fetch (pages : Pages ρ α) : Client CallError (Pages ρ α) := do
  let answer ← Client.run (Paged.call pages.position pages.pageSize)
  let page ← Client.warned (Paged.page pages.position pages.pageSize answer)
  pure (pages.absorb page (Paged.count pages.position pages.pageSize answer))

/-- How many items there are in all: what was said last, or else what the server says to a request
for a single item. -/
def askTotal (pages : Pages ρ α) : Client CallError (UInt64 × Pages ρ α) :=
  match pages.total with
  | some total => pure (total, pages)
  | none => do
    let answer ← Client.run (Paged.call pages.position 1)
    let total := Paged.count pages.position 1 answer
    pure (total, { pages with total := some total })

/-- A page that comes uses up an answer of the transport. -/
theorem answers_lt_of_fetch {pages pages' : Pages ρ α} {services : Services} {world world' : World}
    (h : pages.fetch services world = (.ok pages', world')) :
    world'.answers.length < world.answers.length := by
  rw [fetch, Client.bind_apply] at h
  split at h
  · next answer after run =>
    have answered : world.answers ≠ [] := Client.answers_ne_nil_of_invoke run
    rw [Client.run, Client.invoke_apply] at run
    simp only [Client.bind_apply, Client.warned_apply, Client.pure_apply] at h
    obtain ⟨-, rfl⟩ := Prod.mk.inj h
    obtain ⟨-, rfl⟩ := Prod.mk.inj run
    have positive := List.length_pos_iff.2 answered
    simp only [List.length_tail]
    omega
  · cases h

/-! ## Running -/

/-- What came of taking an item: the item or a failure, and the state afterwards. -/
structure Taken (ρ α : Type) where
  result : Except CallError (Option α)
  pages : Pages ρ α
  world : World

/-- Takes the next item, and fetches pages as long as there is nothing to give out. -/
def next (pages : Pages ρ α) (services : Services) (world : World) : Taken ρ α :=
  match pages.ready? with
  | some (item, pages') => ⟨.ok item, pages', world⟩
  | none =>
    match _fetched : pages.fetch services world with
    | (.error error, world') => ⟨.error error, pages, world'⟩
    | (.ok pages', world') => pages'.next services world'
termination_by world.answers.length
decreasing_by exact answers_lt_of_fetch _fetched

end Pages

end Messenger
