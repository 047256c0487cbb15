import Mathlib.Data.List.Nodup
import Messenger.Proofs.Schema.Rendering

/-!
# Faithful schemas

A schema is faithful (`Schema.Faithful`) if every document that stands for a value is read as that
value. Schemas are put together from parts, and each way to do so keeps them faithful:

1. **Leaves**: booleans, numbers, texts and lists.
2. **Members** (`Schema.Member`): a member of a record, which may be left out if it is optional.
3. **Records** (`Faithful.record`): fields with distinct keys, handed to the constructor in order.
4. **Forms** (`Faithful.ofForms`): every value is covered by the form of its tag.
5. **Nesting** (`Faithful.nested`): a type that contains itself.

The depth of the documents runs through all of this, as it is what a type that contains itself is
read down to.
-/

namespace Messenger

open Term (Renders RendersItems Stands)

namespace Json

theorem depth_pos (document : Json) : 0 < document.depth := by
  cases document <;> simp [depth]

/-- The parts of a document are less deep. -/
theorem depth_lt_of_member {members : List (String × Json)} {key : String} {document : Json}
    (hfound : members.lookup key = some document) : document.depth < (Json.obj members).depth := by
  rw [depth, Nat.lt_succ_iff]
  induction members with
  | nil => cases hfound
  | cons member rest ih =>
    rw [depthOfMembers]
    rw [List.lookup_cons] at hfound
    split at hfound
    · cases hfound
      exact Nat.le_max_left _ _
    · exact Nat.le_trans (ih hfound) (Nat.le_max_right _ _)

end Json

namespace Schema

variable {α β κ : Type} {depth : Nat}

/-- Every document of at most this depth that stands for a value is read as the value; and there is
always something to write. -/
class Faithful (α : Type) [Schema α] (depth : Nat) : Prop where
  read_of_renders : ∀ {value : α} {document : Json}, Renders (view value) document →
    document.depth ≤ depth → read document = some value
  read_null : (read .null : Option α) = none

namespace Faithful

theorem mono [Schema α] {less : Nat} (hfaithful : Faithful α depth) (hless : less ≤ depth) :
    Faithful α less where
  read_of_renders hrenders hdepth := hfaithful.read_of_renders hrenders (Nat.le_trans hdepth hless)
  read_null := hfaithful.read_null

/-! ## Leaves -/

instance : Faithful Bool depth where
  read_of_renders hrenders _ := by
    cases hrenders
    rfl
  read_null := rfl

instance : Faithful Int32 depth where
  read_of_renders {value _} hrenders _ := by
    cases hrenders
    exact int32?_toInt value
  read_null := rfl

instance : Faithful Int64 depth where
  read_of_renders {value _} hrenders _ := by
    cases hrenders
    exact int64?_toInt value
  read_null := rfl

instance : Faithful UInt8 depth where
  read_of_renders {value _} hrenders _ := by
    cases hrenders
    exact byte?_toNat value
  read_null := rfl

instance : Faithful Float depth where
  read_of_renders hrenders _ := by
    cases hrenders
    rfl
  read_null := rfl

instance : Faithful String depth where
  read_of_renders hrenders _ := by
    cases hrenders
    rfl
  read_null := rfl

/-- The items of a list are read one for one. -/
theorem mapM_read_of_renders [Schema α] [Faithful α depth] {items : List α}
    {documents : List Json} (hrenders : RendersItems (items.map view) documents)
    (hdepth : Json.depthOfItems documents ≤ depth) : documents.mapM read = some items := by
  induction items generalizing documents with
  | nil =>
    cases hrenders
    rfl
  | cons item rest ih =>
    cases hrenders with
    | cons hfirst hrest =>
      rw [Json.depthOfItems, Nat.max_le] at hdepth
      rw [List.mapM_cons, read_of_renders hfirst hdepth.1, ih hrest hdepth.2]
      rfl

instance [Schema α] [Faithful α depth] : Faithful (List α) depth where
  read_of_renders hrenders hdepth := by
    cases hrenders with
    | list hitems =>
      rw [Json.depth] at hdepth
      exact mapM_read_of_renders hitems (Nat.le_of_succ_le hdepth)
  read_null := rfl

end Faithful

/-! ## Members -/

/-- A member of a record is read as the value of its field. -/
class Member (β : Type) [Schema β] (depth : Nat) : Prop where
  readMember_of_stands : ∀ {value : β} {key : String} {members : List (String × Json)},
    Stands members (key, view value) → (Json.obj members).depth ≤ depth →
      readMember key members = some value

/-- A value that has to be there is read from its member. -/
instance [Schema β] [hfaithful : Faithful β depth] : Member β depth where
  readMember_of_stands {value key members} hstands hdepth := by
    rcases hstands with ⟨document, hfound, hrenders⟩ | ⟨-, habsent⟩
    · have hless : document.depth ≤ depth :=
        Nat.le_trans (Nat.le_of_lt (Json.depth_lt_of_member hfound)) hdepth
      rw [readMember, hfound]
      exact hfaithful.read_of_renders hrenders hless
    · -- a value that is written as nothing would be read from nothing
      have hpositive : Json.null.depth ≤ depth := Nat.le_trans (Json.depth_pos _) hdepth
      have hread := hfaithful.read_of_renders (habsent ▸ Renders.absent) hpositive
      rw [hfaithful.read_null] at hread
      cases hread

/-- An optional value may be left out if it is not there. -/
instance [Schema β] [hfaithful : Faithful β depth] : Member (Option β) depth where
  readMember_of_stands {value key members} hstands hdepth := by
    cases value with
    | none =>
      rcases hstands with ⟨document, hfound, hrenders⟩ | ⟨hmissing, -⟩
      · cases hrenders
        rw [readMember, hfound]
        rfl
      · rw [readMember, hmissing]
        rfl
    | some value =>
      rcases hstands with ⟨document, hfound, hrenders⟩ | ⟨-, habsent⟩
      · have hless : document.depth ≤ depth :=
        Nat.le_trans (Nat.le_of_lt (Json.depth_lt_of_member hfound)) hdepth
        cases hrenders with
        | present hinner =>
          -- null means that the value is not there, so what is there is never written so
          have hread := hfaithful.read_of_renders hinner hless
          have hnull : document ≠ .null := by
            rintro rfl
            rw [hfaithful.read_null] at hread
            cases hread
          rw [readMember, hfound]
          cases document with
          | null => exact absurd rfl hnull
          | _ => exact congrArg (Option.map some) hread
      · cases habsent

/-! ## Records -/

/-- The fields have the keys, and are read from members that say what they say. -/
class FaithfulFields (fields : Fields α κ) (keys : outParam (List String)) (depth : Nat) :
    Prop where
  keys_view : ∀ value, (fields.view value).map Prod.fst = keys
  read_of_stands : ∀ {value : α} {members : List (String × Json)} (make : κ),
    (∀ field ∈ fields.view value, Stands members field) → (Json.obj members).depth ≤ depth →
      fields.read members make = some (fields.rebuild value make)

instance : FaithfulFields (Fields.done : Fields α α) [] depth where
  keys_view _ := rfl
  read_of_stands _ _ _ := rfl

instance [Schema β] [Member β depth] {key : String} {get : α → β} {rest : Fields α κ}
    {keys : List String} [hrest : FaithfulFields rest keys depth] :
    FaithfulFields (Fields.field key get rest) (key :: keys) depth where
  keys_view value := congrArg (key :: ·) (hrest.keys_view value)
  read_of_stands {value members} make hstands hdepth := by
    rw [Fields.field] at hstands
    have hfirst := hstands _ List.mem_cons_self
    have hothers := fun field hfield => hstands field (List.mem_cons_of_mem _ hfield)
    have hmember := Member.readMember_of_stands hfirst hdepth
    have hread := hrest.read_of_stands (make (get value)) hothers hdepth
    simp only [Fields.field, hmember]
    exact hread

namespace Faithful

/-- A record is read as the value that its constructor makes of the fields of the value. -/
theorem record {name : String} {make : κ} {fields : Fields α κ} {keys : List String}
    [hfields : FaithfulFields fields keys depth] (hdistinct : keys.Nodup)
    (hrebuild : ∀ value, fields.rebuild value make = value) :
    @Faithful α (Schema.record name make fields) depth :=
  @Faithful.mk α (Schema.record name make fields) depth
    (fun {value document} hrenders hdepth => by
      rw [← hfields.keys_view value] at hdistinct
      obtain ⟨members, rfl, hstands⟩ := Term.stands_of_renders hdistinct hrenders
      have hread := hfields.read_of_stands make hstands hdepth
      rw [hrebuild] at hread
      exact hread)
    rfl

end Faithful

/-! ## Forms -/

/-- The term shows the value in one of the forms. -/
inductive Covered (forms : List (String × Form α)) (depth : Nat) (value : α) : Term → Prop
  | bare {tag : String} (form : (tag, .bare value) ∈ forms := by repeat constructor) :
      Covered forms depth value (.bare tag)
  | tagged {γ : Type} {tag : String} {schema : Schema γ} {make : γ → α} {payload : γ}
      (faithful : @Faithful γ schema depth)
      (form : (tag, .of schema make) ∈ forms := by repeat constructor)
      (made : make payload = value := by rfl) :
      Covered forms depth value (tagged tag schema payload)

/-- A form is found by its tag if no other one has it. -/
theorem lookup_of_form {forms : List (String × Form α)} (hdistinct : (forms.map Prod.fst).Nodup)
    {tag : String} {form : Form α} (hmem : (tag, form) ∈ forms) : forms.lookup tag = some form := by
  refine Term.lookup_of_unique hmem fun other hother => ?_
  have hsame := List.inj_on_of_nodup_map hdistinct hother hmem rfl
  exact (Prod.mk.inj hsame).2

namespace Faithful

/-- A type with several forms is read by the tags, one level further down. -/
theorem ofForms_succ {view : α → Term} {forms : List (String × Form α)}
    (hdistinct : (forms.map Prod.fst).Nodup)
    (hcovered : ∀ value, Covered forms depth value (view value)) :
    @Faithful α (Schema.ofForms view forms) (depth + 1) :=
  @Faithful.mk α (Schema.ofForms view forms) (depth + 1)
    (fun {value document} hrenders hdepth => by
      change Renders (view value) document at hrenders
      change readForms forms document = some value
      have hcover := hcovered value
      -- the form is read off the term, whichever value it shows
      generalize view value = term at hrenders hcover
      cases hcover with
      | bare hform =>
        cases hrenders
        rw [readForms, lookup_of_form hdistinct hform]
      | tagged hfaithful hform hmade =>
        cases hrenders with
        | @tagged _ _ inner hinner =>
          -- the payload is one level less deep than the document
          have hless : inner.depth ≤ depth := by
            simpa [Json.depth, Json.depthOfMembers] using hdepth
          have hread := hfaithful.read_of_renders hinner hless
          simp only [readForms, lookup_of_form hdistinct hform, Form.of, ← hmade]
          exact congrArg (Option.map _) hread)
    rfl

theorem ofForms {view : α → Term} {forms : List (String × Form α)}
    (hdistinct : (forms.map Prod.fst).Nodup)
    (hcovered : ∀ value, Covered forms depth value (view value)) :
    @Faithful α (Schema.ofForms view forms) depth :=
  @mono α depth.succ (Schema.ofForms view forms) depth (ofForms_succ hdistinct hcovered)
    (Nat.le_succ depth)

theorem single {tag : String} {schema : Schema α} (hfaithful : @Faithful α schema depth) :
    @Faithful α (Schema.single tag schema) depth :=
  ofForms (List.pairwise_singleton _ tag) fun _ => .tagged hfaithful

/-! ## Nesting -/

/-- A type that contains itself is read level by level, so it is enough that each level is read as
long as the one below is. -/
theorem nested {view : α → Term} {forms : Schema α → List (String × Form α)}
    (hforms : ∀ (inner : Schema α) (level : Nat), inner.view = view → @Faithful α inner level →
      @Faithful α (Schema.ofForms view (forms inner)) (level + 1)) :
    @Faithful α (Schema.nested view forms) depth := by
  -- the schema of each level reads the documents that are no deeper
  let schema (level : Nat) : Schema α :=
    ⟨view, readNested (fun read => forms ⟨view, read, none⟩) level, none⟩
  have hlevel (level : Nat) : @Faithful α (schema level) level := by
    induction level with
    | zero =>
      exact @Faithful.mk α (schema 0) 0
        (fun {_ document} _ hdepth => absurd hdepth (Nat.not_le_of_lt document.depth_pos)) rfl
    | succ level ih => exact hforms (schema level) level rfl ih
  exact @Faithful.mk α (Schema.nested view forms) depth
    (fun {_ document} hrenders _ => by
      obtain ⟨hread, -⟩ := hlevel document.depth
      exact hread hrenders (Nat.le_refl _))
    rfl

end Faithful

end Schema

end Messenger
