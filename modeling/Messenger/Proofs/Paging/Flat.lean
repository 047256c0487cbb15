import Messenger.Proofs.Paging.Ledger

/-!
# The flat list of an iterator

An iterator is to give out the items of its pages, up to the first final page (`throughFirst`) and
no more of them than are wanted (`atMost`). `FirstOf` says that the pages that came are the first
ones of a list; then the items that were given out are the first ones of the flat list, and all of
them when nothing more comes.
-/

namespace Messenger

/-! ## Cutting lists -/

variable {β γ : Type}

/-- The items, or the first ones if not all are wanted. -/
def atMost (limit : Option Nat) (items : List γ) : List γ :=
  limit.elim items items.take

/-- The list up to the first element with a property, which is kept. -/
def throughFirst (final : β → Bool) : List β → List β
  | [] => []
  | value :: rest => value :: if final value then [] else throughFirst final rest

/-- What comes up to an element is kept if no element before it has the property. -/
theorem prefix_throughFirst {final : β → Bool} {before : List β} (rest : List β)
    (hgoing : ∀ value ∈ before.dropLast, final value = false) :
    before <+: throughFirst final (before ++ rest) := by
  induction before with
  | nil => exact List.nil_prefix
  | cons first before ih =>
    -- the last one may have the property, so it is told apart from those before it
    cases before with
    | nil => exact List.prefix_append [first] _
    | cons second before =>
      have hfirst : final first = false := hgoing first (by simp)
      have hbefore := ih fun value hvalue => hgoing value (List.mem_cons_of_mem first hvalue)
      simpa [throughFirst, hfirst] using hbefore

/-- Nothing is kept behind the first element with the property. -/
theorem throughFirst_append {final : β → Bool} {before : List β} (rest : List β) {last : β}
    (hgoing : ∀ value ∈ before, final value = false) (hlast : final last = true) :
    throughFirst final (before ++ last :: rest) = before ++ [last] := by
  induction before with
  | nil => simp [throughFirst, hlast]
  | cons first before ih =>
    have hfirst : final first = false := hgoing first List.mem_cons_self
    have hbefore := ih fun value hvalue => hgoing value (List.mem_cons_of_mem first hvalue)
    simp [throughFirst, hfirst, hbefore]

/-! ## Cutting what is given out -/

open Exchange (received items)

variable {ρ α : Type}

namespace Ledger

variable {limit : Option Nat} {start : ρ} {given : List α} {history : List (Exchange ρ α)}
  {pages : Pages ρ α} {view : α → γ} {whole : List γ}

/-- What was given out is the beginning of what came. -/
theorem prefix_items (ledger : Ledger limit start given history pages) :
    given.map view <+: (items history).map view := by
  rw [← ledger.items_eq, List.map_append]
  exact List.prefix_append _ _

/-- No more items are given out than are wanted. -/
theorem prefix_atMost (ledger : Ledger limit start given history pages)
    (hbegins : given.map view <+: whole) : given.map view <+: atMost limit whole := by
  cases hlimit : limit with
  | none => exact hbegins
  | some most =>
    refine List.prefix_take_iff.2 ⟨hbegins, ?_⟩
    rw [List.length_map]
    exact ledger.bounded most hlimit

/-- If as many items were given out as are wanted, or all of them, none is missing. -/
theorem eq_atMost (ledger : Ledger limit start given history pages)
    (hbegins : given.map view <+: whole)
    (hfull : limit = some given.length ∨ given.map view = whole) :
    given.map view = atMost limit whole := by
  rcases hfull with hlimit | hall
  · rw [hlimit, ← List.length_map view]
    exact List.prefix_iff_eq_take.1 hbegins
  · rw [← hall]
    cases hlimit : limit with
    | none => rfl
    | some most =>
      refine (List.take_of_length_le ?_).symm
      rw [List.length_map]
      exact ledger.bounded most hlimit

end Ledger

/-! ## Pages of a list -/

/-- The pages that came are the first ones of a list: of each page, the list says which items it
brings, as they are seen through a view, and whether it is final. -/
def FirstOf (history : List (Exchange ρ α)) (pages : List β) (brings : β → List γ)
    (final : β → Bool) (view : α → γ) : Prop :=
  (received history).map (fun page => (page.items.map view, page.isLast)) =
    (pages.take history.length).map fun page => (brings page, final page)

namespace FirstOf

variable {history : List (Exchange ρ α)} {pages : List β} {brings : β → List γ} {final : β → Bool}
  {view : α → γ}

/-- The items that came, as they are seen. -/
theorem items_eq (hfirst : FirstOf history pages brings final view) :
    (items history).map view = (pages.take history.length).flatMap brings := by
  have hflat : (items history).map view =
      ((received history).map fun page => (page.items.map view, page.isLast)).flatMap Prod.fst := by
    simp [items, List.map_flatMap, List.flatMap_map]
  rw [hflat, hfirst, List.flatMap_map]

theorem isLast_eq (hfirst : FirstOf history pages brings final view) :
    (received history).map (·.isLast) = (pages.take history.length).map final := by
  have hsnd := congrArg (List.map Prod.snd) hfirst
  rwa [List.map_map, List.map_map] at hsnd

/-- If none of the pages that came was the last of all, none of those in the list was final. -/
theorem going (hfirst : FirstOf history pages brings final view)
    (hgoing : ∀ page ∈ received history, page.isLast = false) :
    ∀ page ∈ pages.take history.length, final page = false := by
  intro page hpage
  have hmem : final page ∈ (received history).map (·.isLast) := by
    rw [hfirst.isLast_eq]
    exact List.mem_map_of_mem hpage
  obtain ⟨came, hcame, heq⟩ := List.mem_map.1 hmem
  rw [← heq]
  exact hgoing came hcame

theorem going_dropLast (hfirst : FirstOf history pages brings final view)
    (hgoing : ∀ page ∈ (received history).dropLast, page.isLast = false) :
    ∀ page ∈ (pages.take history.length).dropLast, final page = false := by
  intro page hpage
  have hmem : final page ∈ ((received history).dropLast).map (·.isLast) := by
    rw [List.map_dropLast, hfirst.isLast_eq, ← List.map_dropLast]
    exact List.mem_map_of_mem hpage
  obtain ⟨came, hcame, heq⟩ := List.mem_map.1 hmem
  rw [← heq]
  exact hgoing came hcame

variable {limit : Option Nat} {start : ρ} {given : List α} {state : Pages ρ α}

/-- What was given out is the beginning of the items of all pages up to the first final one. -/
theorem prefix_flatMap (hfirst : FirstOf history pages brings final view)
    (ledger : Ledger limit start given history state) :
    given.map view <+: (throughFirst final pages).flatMap brings := by
  have hpages := prefix_throughFirst (pages.drop history.length)
    (hfirst.going_dropLast ledger.going)
  rw [List.take_append_drop] at hpages
  obtain ⟨others, hothers⟩ := hpages
  rw [← hothers, List.flatMap_append, ← hfirst.items_eq]
  exact ledger.prefix_items.trans (List.prefix_append _ _)

/-- If the last page that came was final, no page after it counts. -/
theorem throughFirst_eq (hfirst : FirstOf history pages brings final view)
    (ledger : Ledger limit start given history state) {page : Page ρ α}
    (hlast : (received history).getLast? = some page) (hfinal : page.isLast = true) :
    throughFirst final pages = pages.take history.length := by
  have hgoing := hfirst.going_dropLast ledger.going
  have hisLast : ((pages.take history.length).map final).getLast? = some true := by
    rw [← hfirst.isLast_eq, List.getLast?_map, hlast, Option.map_some, hfinal]
  rw [List.getLast?_map] at hisLast
  obtain ⟨last, hsome, hlastFinal⟩ := Option.map_eq_some_iff.1 hisLast
  obtain ⟨before, hbefore⟩ := List.getLast?_eq_some_iff.1 hsome
  rw [hbefore, List.dropLast_concat] at hgoing
  have hpages : pages = before ++ last :: pages.drop history.length := by
    rw [← List.singleton_append, ← List.append_assoc, ← hbefore, List.take_append_drop]
  rw [hbefore, hpages]
  exact throughFirst_append _ hgoing hlastFinal

/-- What was given out is the beginning of the flat list. -/
theorem prefix_flat (hfirst : FirstOf history pages brings final view)
    (ledger : Ledger limit start given history state) :
    given.map view <+: atMost limit ((throughFirst final pages).flatMap brings) :=
  ledger.prefix_atMost (hfirst.prefix_flatMap ledger)

/-- When nothing more comes, what was given out is the whole flat list. -/
theorem eq_flat (hfirst : FirstOf history pages brings final view)
    (ledger : Ledger limit start given history state) (hexhausted : Exhausted limit given history) :
    given.map view = atMost limit ((throughFirst final pages).flatMap brings) := by
  apply ledger.eq_atMost (hfirst.prefix_flatMap ledger)
  rcases hexhausted with hfull | ⟨hitems, page, hlast, hfinal⟩
  · exact Or.inl hfull
  · right
    rw [hfirst.throughFirst_eq ledger hlast hfinal, ← hfirst.items_eq, hitems]

end FirstOf

end Messenger
