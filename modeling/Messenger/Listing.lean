import Messenger.Warning

/-!
# Listings

A response lists identifiers, and its tables say what they stand for. `Listing.collect` keeps what
is known, in the order of the list, and warns once about each identifier that is not; a listing of
which nothing is left is as good as none (`Listing.nonempty?`).
-/

namespace Messenger.Listing

variable {α β : Type}

/-- The list, unless it is empty. -/
def nonempty? : List α → Option (List α)
  | [] => none
  | items => some items

/-- A listing is missing exactly if it lists nothing. -/
theorem nonempty?_eq_none_iff {items : List α} : nonempty? items = none ↔ items = [] := by
  cases items with
  | nil => simp [nonempty?]
  | cons item others => simp [nonempty?]

theorem nonempty?_of_ne_nil {items : List α} (hitems : items ≠ []) :
    nonempty? items = some items := by
  cases items with
  | nil => exact absurd rfl hitems
  | cons item others => rfl

theorem nonempty?_eq_some_iff {items listed : List α} :
    nonempty? items = some listed ↔ items = listed ∧ listed ≠ [] := by
  cases items with
  | nil => simp [nonempty?, eq_comm]
  | cons item others =>
    simp only [nonempty?, Option.some.injEq, iff_self_and]
    rintro rfl
    exact List.cons_ne_nil item others

theorem getD_nonempty? (items : List α) : (nonempty? items).getD [] = items := by
  cases items <;> rfl

/-- What the listed identifiers stand for, with a warning for each that stands for nothing. -/
def collect (lookUp : α → Option β) (warning : α → Warning) : List α → Warned (List β)
  | [] => pure []
  | id :: rest => do
    match lookUp id with
    | some value => do
      let others ← collect lookUp warning rest
      pure (value :: others)
    | none => do
      Warned.warn (warning id)
      collect lookUp warning rest

/-- The warnings are about the identifiers that stand for nothing. -/
theorem collect_warnings (lookUp : α → Option β) (warning : α → Warning) (ids : List α) :
    (collect lookUp warning ids).warnings =
      (ids.filter fun id => (lookUp id).isNone).map warning := by
  induction ids with
  | nil => rfl
  | cons id rest ih =>
    rw [collect, List.filter_cons]
    cases lookUp id with
    | some value => simpa [bind, pure] using ih
    | none => simpa [bind, Warned.warn] using ih

end Messenger.Listing
