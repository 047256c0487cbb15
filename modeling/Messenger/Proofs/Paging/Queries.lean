import Messenger.Proofs.Paging.Ledger

/-!
# Queries to an iterator

Somebody who takes items one by one may ask at any time how many there are in all.

1. **Queries** (`Pages.ask`, `Pages.visit`): the two kinds of calls, in any order.
2. **Totals** (`Pages.ask_total`): asking for the number changes nothing but what is known of it.
3. **Limits** (`Ledger.visit`): so every query keeps the ledger, and with it the limit.
4. **Ends** (`Pages.Ended`): an iterator that has ended stays so.
-/

namespace Messenger

/-! ## Queries -/

/-- What an iterator is asked for. -/
inductive Query where
  /-- The next item. -/
  | next
  /-- How many items there are in all. -/
  | total
deriving DecidableEq

/-- What comes of a query. -/
inductive Reply (α : Type) where
  | item (result : Except CallError (Option α))
  | total (result : Except CallError UInt64)

/-- The item that was given out, if one was. -/
def Reply.item? {α : Type} : Reply α → Option α
  | .item result => result.toOption.join
  | .total _ => none

variable {ρ α : Type}

namespace Pages

/-- What came of a query, and the state afterwards. -/
structure Asked (ρ α : Type) where
  reply : Reply α
  pages : Pages ρ α
  world : World

/-- What came of some queries, one after the other. -/
structure Visit (ρ α : Type) where
  replies : List (Reply α)
  pages : Pages ρ α
  world : World

/-- The items that were given out. -/
def Visit.items (visit : Visit ρ α) : List α :=
  visit.replies.filterMap Reply.item?

variable [Paged ρ α]

/-- Asks a query. If the number of all items cannot be told, the state stays as it is. -/
def ask (pages : Pages ρ α) (services : Services) (world : World) : Query → Asked ρ α
  | .next =>
    let taken := pages.next services world
    ⟨.item taken.result, taken.pages, taken.world⟩
  | .total =>
    match pages.askTotal services world with
    | (.ok (total, pages'), world') => ⟨.total (.ok total), pages', world'⟩
    | (.error error, world') => ⟨.total (.error error), pages, world'⟩

/-- Asks the queries one after the other. -/
def visit (pages : Pages ρ α) (services : Services) (world : World) : List Query → Visit ρ α
  | [] => ⟨[], pages, world⟩
  | query :: later =>
    let asked := pages.ask services world query
    let rest := asked.pages.visit services asked.world later
    ⟨asked.reply :: rest.replies, rest.pages, rest.world⟩

/-! ## Totals -/

variable {pages : Pages ρ α} {services : Services} {world : World}

/-- The number that is told is what is known of it afterwards. -/
theorem pages_of_askTotal {total : UInt64} {pages' : Pages ρ α} {world' : World}
    (hasked : pages.askTotal services world = (.ok (total, pages'), world')) :
    pages' = { pages with total := some total } := by
  cases hknown : pages.total with
  | some known =>
    simp only [askTotal, hknown, Client.pure_apply] at hasked
    cases hasked
    rw [← hknown]
  | none =>
    simp only [askTotal, hknown, Client.bind_apply] at hasked
    split at hasked
    · rw [Client.pure_apply] at hasked
      cases hasked
      rfl
    · cases hasked

/-- Asking how many items there are gives none out, and changes nothing but what is known of their
number. -/
theorem ask_total (pages : Pages ρ α) (services : Services) (world : World) :
    (pages.ask services world .total).reply.item? = none ∧
      ∃ total, (pages.ask services world .total).pages = { pages with total := total } := by
  rw [ask]
  rcases hasked : pages.askTotal services world with ⟨error | ⟨total, pages'⟩, world'⟩
  · exact ⟨rfl, pages.total, rfl⟩
  · exact ⟨rfl, some total, pages_of_askTotal hasked⟩

end Pages

/-! ## Limits -/

namespace Ledger

variable {limit : Option Nat} {start : ρ} {given : List α} {history : List (Exchange ρ α)}
  {pages : Pages ρ α}

/-- The ledger does not say how many items there are in all. -/
theorem with_total (ledger : Ledger limit start given history pages) (total : Option UInt64) :
    Ledger limit start given history { pages with total := total } where
  limit_eq := ledger.limit_eq
  fetched_eq := ledger.fetched_eq
  bounded := ledger.bounded
  items_eq := ledger.items_eq
  position_eq := ledger.position_eq
  going := ledger.going
  lastChunk_eq := ledger.lastChunk_eq
  orderly := ledger.orderly

variable [Paged ρ α]

/-- Every query keeps the ledger. -/
theorem ask (ledger : Ledger limit start given history pages) (services : Services)
    (world : World) (query : Query) :
    ∃ asked, Ledger limit start
      (given ++ (pages.ask services world query).reply.item?.toList) (history ++ asked)
      (pages.ask services world query).pages := by
  cases query with
  | next =>
    obtain ⟨asked, hentry⟩ := ledger.next services world
    exact ⟨asked, hentry.ledger⟩
  | total =>
    obtain ⟨hnone, total, hpages⟩ := Pages.ask_total pages services world
    refine ⟨[], ?_⟩
    rw [hnone, hpages, Option.toList_none, List.append_nil, List.append_nil]
    exact ledger.with_total total

/-- Any queries keep the ledger. -/
theorem visit (ledger : Ledger limit start given history pages) (services : Services)
    (world : World) (queries : List Query) :
    ∃ asked, Ledger limit start (given ++ (pages.visit services world queries).items)
      (history ++ asked) (pages.visit services world queries).pages := by
  induction queries generalizing given history pages world with
  | nil => exact ⟨[], by simpa [Pages.visit, Pages.Visit.items] using ledger⟩
  | cons query later ih =>
    obtain ⟨asked, hasked⟩ := ledger.ask services world query
    obtain ⟨more, hmore⟩ := ih hasked (pages.ask services world query).world
    refine ⟨asked ++ more, ?_⟩
    have hitems : (pages.visit services world (query :: later)).items =
        (pages.ask services world query).reply.item?.toList ++
          ((pages.ask services world query).pages.visit services
            (pages.ask services world query).world later).items := by
      rw [Pages.visit, Pages.Visit.items, List.filterMap_cons]
      cases (pages.ask services world query).reply.item? <;> rfl
    rw [hitems, ← List.append_assoc, ← List.append_assoc]
    exact hmore

namespace Entry

variable {world : World} {taken : Pages.Taken ρ α} {asked : List (Exchange ρ α)}

/-- Every page that a call asks for is due after the items given out before the call. -/
theorem due_of_mem (hentry : Entry limit start given history world taken asked)
    {exchange : Exchange ρ α} (hmem : exchange ∈ asked) :
    exchange.size = Pages.pageSizeAfter limit given.length ∧
      ∀ most ∈ limit, given.length < most := by
  obtain ⟨earlier, later, hsplit⟩ := List.append_of_mem hmem
  obtain ⟨hgiven, hdue⟩ := hentry.due earlier exchange later hsplit
  rw [hgiven]
  exact ⟨hdue.size_eq, hdue.wanted⟩

end Entry

end Ledger

namespace Pages

/-- So many items are asked for as are still wanted, at most a hundred. -/
theorem toInt_pageSizeAfter (limit : Option Nat) (given : Nat) :
    (pageSizeAfter limit given).toInt =
      (limit.elim 100 fun most => min 100 (most - given) : Nat) := by
  have hsmall {n : Nat} (hn : n ≤ 100) : (Int32.ofNat n).toInt = n :=
    Int32.toInt_ofNat_of_lt (by omega)
  cases limit with
  | none => exact hsmall (Nat.le_refl 100)
  | some most =>
    simp only [pageSizeAfter, maxPageSize, Option.elim_some]
    rw [Nat.min_comm]
    exact hsmall (Nat.min_le_left _ _)

/-! ## Ends -/

/-- Nothing is wanted, or nothing is left. -/
def Ended (pages : Pages ρ α) : Prop :=
  pages.limitReached = true ∨ pages.buffer = [] ∧ pages.lastChunk = true

namespace Ended

variable {pages : Pages ρ α}

theorem ready?_eq (hended : Ended pages) : pages.ready? = some (none, pages) := by
  rcases hended with hreached | ⟨hbuffer, hlast⟩
  · rw [ready?, if_pos hreached]
  · simp [ready?, pop, hbuffer, hlast]

variable [Paged ρ α]

theorem next_eq (hended : Ended pages) (services : Services) (world : World) :
    pages.next services world = ⟨.ok none, pages, world⟩ :=
  next_of_ready hended.ready?_eq

theorem ask (hended : Ended pages) (services : Services) (world : World) (query : Query) :
    Ended (pages.ask services world query).pages := by
  cases query with
  | next =>
    rw [Pages.ask, hended.next_eq]
    exact hended
  | total =>
    obtain ⟨-, total, hpages⟩ := ask_total pages services world
    rw [hpages]
    exact hended

theorem visit (hended : Ended pages) (services : Services) (world : World) (queries : List Query) :
    Ended (pages.visit services world queries).pages := by
  induction queries generalizing pages world with
  | nil => exact hended
  | cons query later ih => exact ih (hended.ask services world query) _

end Ended

/-- An iterator that gives nothing out has ended. -/
theorem ended_of_next [Paged ρ α] {pages : Pages ρ α} {services : Services} {world : World}
    (hnone : (pages.next services world).result = .ok none) :
    Ended (pages.next services world).pages := by
  induction pages, world using @Pages.next.induct ρ α inferInstance services with
  | case1 pages world item pages' hready =>
    rw [next_of_ready hready] at hnone ⊢
    obtain rfl := Except.ok.inj hnone
    rcases ready?_cases hready with ⟨_, _, _, _, hsome, -⟩ | ⟨-, rfl, hended⟩
    · cases hsome
    · exact hended
  | case2 pages world hready error world' hfetch =>
    rw [next_of_failed hready hfetch] at hnone
    cases hnone
  | case3 pages world hready pages' world' hfetch ih =>
    rw [next_of_fetched hready hfetch] at hnone ⊢
    exact ih hnone

end Pages

end Messenger
