import Messenger.Proofs.Dialogs.Pages
import Messenger.Proofs.Gifts.Pages
import Messenger.Proofs.Paging.Queries

/-!
# Limits and ends are final

The dialogs and the gifts of a user are taken one by one, up to a limit.

1. **Limits** (`Pages.Visit.Limited`): how many items are given out, with which limit the pages are
   asked for, and what the end means.
2. **Ledgers** (`Ledger.limited`): all of it is read off the ledger of the queries so far.

Main statement: `limits_and_ends_are_final`.
-/

namespace Messenger

variable {ρ α κ : Type} [Paged ρ α]

/-- The limit holds after some queries, where the pages are asked for by calls with arguments of `κ`,
one of which is the size of the page:

1. no more items were given out than are wanted;
2. each request for the next item asks for as many items as are still wanted, which is from one to a
   hundred, and none is sent if no items are wanted;
3. once there is no next item, there is none later, whatever is asked for in between, and no request
   is sent for it. -/
structure Pages.Visit.Limited (visit : Visit ρ α) (call : κ → Wire.Call) (size : κ → Int32)
    (limit : Option Nat) (services : Services) : Prop where
  given : ∀ most ∈ limit, visit.items.length ≤ most
  asked : ∃ requests : List κ,
    (visit.pages.next services visit.world).world.sent =
        visit.world.sent ++ requests.map (.call <| call ·) ∧
      (∀ request ∈ requests,
        (size request).toInt =
            (limit.elim 100 fun most => min 100 (most - visit.items.length) : Nat) ∧
          1 ≤ (size request).toInt ∧ (size request).toInt ≤ 100) ∧
      (limit = some 0 → requests = [])
  final : (visit.pages.next services visit.world).result = .ok none →
    ∀ services' world' later,
      let after := (visit.pages.next services visit.world).pages.visit services' world' later
      after.pages.next services' after.world = ⟨.ok none, after.pages, after.world⟩

/-- The ledger says that the limit holds. -/
theorem Ledger.limited {limit : Option Nat} {start : ρ} {history : List (Exchange ρ α)}
    {visit : Pages.Visit ρ α} (ledger : Ledger limit start visit.items history visit.pages)
    {call : κ → Wire.Call} {size : κ → Int32} (arguments : ρ → Int32 → κ)
    (hcall : ∀ position asked, Paged.call position asked = call (arguments position asked))
    (hsize : ∀ position asked, size (arguments position asked) = asked) (services : Services) :
    visit.Limited call size limit services where
  given := ledger.bounded
  asked := by
    obtain ⟨asked, hentry⟩ := ledger.next services visit.world
    refine ⟨asked.map fun exchange => arguments exchange.position exchange.size, ?_, ?_, ?_⟩
    · rw [hentry.heard.sent_eq, List.map_map]
      congr 1
      refine List.map_congr_left fun exchange _ => ?_
      exact congrArg Wire.Request.call (hcall exchange.position exchange.size)
    · intro request hrequest
      obtain ⟨exchange, hmem, rfl⟩ := List.mem_map.1 hrequest
      obtain ⟨hexchange, hwanted⟩ := hentry.due_of_mem hmem
      rw [hsize, hexchange, Pages.toInt_pageSizeAfter]
      refine ⟨rfl, ?_⟩
      cases limit with
      | none => simp
      | some most =>
        have hless := hwanted most rfl
        simp only [Option.elim_some]
        omega
    · rintro rfl
      -- nothing is wanted, so that no page is due
      rw [List.map_eq_nil_iff, List.eq_nil_iff_forall_not_mem]
      intro exchange hmem
      exact absurd ((hentry.due_of_mem hmem).2 0 rfl) (Nat.not_lt_zero _)
  final := fun hnone services' world' later =>
    ((Pages.ended_of_next hnone).visit services' world' later).next_eq _ _

/-! ## Main statement -/

/-- Whatever the server answers, and in whatever order the next item and the number of all items are
asked for: the limit holds of the dialogs of any folders, which are asked for by `getDialogs`, and of
the gifts of any user, which are asked for by `getUserStarGifts`. -/
theorem limits_and_ends_are_final (limit : Option Nat) (services : Services) (world : World)
    (queries : List Query) :
    (∀ fromArchive : Option Bool,
      (((Client.dialogs fromArchive).limitedTo limit).visit services world queries).Limited
        Wire.Call.getDialogs (·.limit) limit services) ∧
      ∀ user : Wire.InputUser,
        (((Pages.ofPosition (GiftPosition.start user)).limitedTo limit).visit services world
          queries).Limited Wire.Call.getUserStarGifts (·.limit) limit services := by
  constructor
  · intro fromArchive
    obtain ⟨history, hledger⟩ := (Ledger.init limit (DialogPosition.start fromArchive)).visit
      services world queries
    exact hledger.limited DialogPosition.request (fun _ _ => rfl) (fun _ _ => rfl) services
  · intro user
    obtain ⟨history, hledger⟩ := (Ledger.init limit (GiftPosition.start user)).visit services world
      queries
    exact hledger.limited GiftPosition.request (fun _ _ => rfl) (fun _ _ => rfl) services

end Messenger
