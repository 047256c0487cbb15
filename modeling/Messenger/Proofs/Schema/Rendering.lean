import Messenger.Schema

/-!
# Renderings of a term

A term is written as one JSON document, but others say the same. `Term.Renders` is the relation
between a term and the documents that stand for it:

1. the members of a record come in any order;
2. a record may have members of other names, which mean nothing;
3. a field that is not there may be left out.

What is written is one of the renderings (`Term.renders_toJson`), and in each of them the fields of a
record are found by their keys (`Term.stands_of_renders`).
-/

namespace Messenger.Term

/-! ## Finite numbers -/

mutual

/-- All real numbers in the term are finite. -/
def isFinite : Term → Bool
  | .real value => value.isFinite
  | .present value => value.isFinite
  | .list items => itemsAreFinite items
  | .record _ fields => fieldsAreFinite fields
  | .tagged _ payload => payload.isFinite
  | _ => true

/-- All real numbers in the items of a list are finite. -/
def itemsAreFinite : List Term → Bool
  | [] => true
  | item :: rest => item.isFinite && itemsAreFinite rest

/-- All real numbers in the fields of a record are finite. -/
def fieldsAreFinite : List (String × Term) → Bool
  | [] => true
  | (_, value) :: rest => value.isFinite && fieldsAreFinite rest

end

/-! ## Renderings -/

mutual

/-- The document stands for the term. -/
inductive Renders : Term → Json → Prop
  | bool (value : Bool) : Renders (.bool value) (.bool value)
  | integer (value : Int) : Renders (.integer value) (.integer value)
  | real {value : Float} (finite : value.isFinite = true) : Renders (.real value) (.real value)
  | text (value : String) : Renders (.text value) (.str value)
  | absent : Renders .absent .null
  | present {value : Term} {document : Json} (inner : Renders value document) :
      Renders (.present value) document
  | list {items : List Term} {documents : List Json} (inner : RendersItems items documents) :
      Renders (.list items) (.arr documents)
  /-- The members are those of the fields and others of unknown names, in any order. -/
  | record (name : String) {fields : List (String × Term)}
      {kept unknown members : List (String × Json)} (inner : RendersFields fields kept)
      (unknown_names : ∀ member ∈ unknown, member.1 ∉ fields.map Prod.fst)
      (reordered : members.Perm (kept ++ unknown)) : Renders (.record name fields) (.obj members)
  | bare (tag : String) : Renders (.bare tag) (.str tag)
  | tagged (tag : String) {payload : Term} {document : Json} (inner : Renders payload document) :
      Renders (.tagged tag payload) (.obj [(tag, document)])

/-- The documents stand for the items, one for one. -/
inductive RendersItems : List Term → List Json → Prop
  | nil : RendersItems [] []
  | cons {item : Term} {items : List Term} {document : Json} {documents : List Json}
      (first : Renders item document) (rest : RendersItems items documents) :
      RendersItems (item :: items) (document :: documents)

/-- The members stand for the fields, but for some that are not there and left out. -/
inductive RendersFields : List (String × Term) → List (String × Json) → Prop
  | nil : RendersFields [] []
  | keep (key : String) {value : Term} {fields : List (String × Term)} {document : Json}
      {members : List (String × Json)} (first : Renders value document)
      (rest : RendersFields fields members) :
      RendersFields ((key, value) :: fields) ((key, document) :: members)
  | leaveOut (key : String) {fields : List (String × Term)} {members : List (String × Json)}
      (rest : RendersFields fields members) : RendersFields ((key, .absent) :: fields) members

end

/-! ## What is written -/

mutual

/-- What is written of a term stands for it. -/
theorem renders_toJson : (term : Term) → term.isFinite = true → Renders term term.toJson
  | .bool value, _ => .bool value
  | .integer value, _ => .integer value
  | .real value, hfinite => by
    rw [isFinite] at hfinite
    rw [toJson, if_pos hfinite]
    exact .real hfinite
  | .text value, _ => .text value
  | .absent, _ => .absent
  | .present value, hfinite => by
    rw [toJson]
    exact .present (renders_toJson value (by simpa [isFinite] using hfinite))
  | .list items, hfinite => by
    rw [toJson]
    exact .list (renders_itemsToJson items (by simpa [isFinite] using hfinite))
  | .record name fields, hfinite => by
    rw [toJson]
    refine .record name (renders_fieldsToJson fields (by simpa [isFinite] using hfinite))
      (List.forall_mem_nil _) ?_
    rw [List.append_nil]
  | .bare tag, _ => .bare tag
  | .tagged tag payload, hfinite => by
    rw [toJson]
    exact .tagged tag (renders_toJson payload (by simpa [isFinite] using hfinite))

theorem renders_itemsToJson : (items : List Term) → itemsAreFinite items = true →
    RendersItems items (itemsToJson items)
  | [], _ => .nil
  | item :: rest, hfinite => by
    obtain ⟨hitem, hrest⟩ := Bool.and_eq_true_iff.1 hfinite
    exact .cons (renders_toJson item hitem) (renders_itemsToJson rest hrest)

theorem renders_fieldsToJson : (fields : List (String × Term)) → fieldsAreFinite fields = true →
    RendersFields fields (fieldsToJson fields)
  | [], _ => .nil
  | (key, value) :: rest, hfinite => by
    obtain ⟨hvalue, hrest⟩ := Bool.and_eq_true_iff.1 hfinite
    exact .keep key (renders_toJson value hvalue) (renders_fieldsToJson rest hrest)

end

/-! ## Members by key -/

/-- The members of an object say what a field says: there is one for it, or the field is not there
and neither is a member. -/
def Stands (members : List (String × Json)) (field : String × Term) : Prop :=
  (∃ document, members.lookup field.1 = some document ∧ Renders field.2 document) ∨
    members.lookup field.1 = none ∧ field.2 = .absent

variable {key : String} {fields : List (String × Term)} {kept members : List (String × Json)}

/-- An entry is found if no other one has its key. -/
theorem lookup_of_unique {β : Type} {entries : List (String × β)} {value : β}
    (hmem : (key, value) ∈ entries)
    (hunique : ∀ other, (key, other) ∈ entries → other = value) :
    entries.lookup key = some value := by
  cases hfound : entries.lookup key with
  | none =>
    have hother := List.lookup_eq_none_iff.1 hfound _ hmem
    simp at hother
  | some other =>
    obtain ⟨before, after, rfl, -⟩ := List.lookup_eq_some_iff.1 hfound
    rw [hunique other (by simp)]

theorem lookup_of_absent (habsent : ∀ document, (key, document) ∉ members) :
    members.lookup key = none := by
  refine List.lookup_eq_none_iff.2 fun member hmem => ?_
  by_cases hkey : key = member.1
  · subst hkey
    exact absurd hmem (habsent member.2)
  · simpa using hkey

/-- The keys of the members are those of fields. -/
theorem key_of_kept (hrenders : RendersFields fields kept) {document : Json}
    (hmem : (key, document) ∈ kept) : key ∈ fields.map Prod.fst := by
  induction fields generalizing kept with
  | nil =>
    cases hrenders
    cases hmem
  | cons field rest ih =>
    cases hrenders with
    | keep name _ hrest =>
      rcases List.mem_cons.1 hmem with heq | hmem
      · obtain ⟨rfl, -⟩ := Prod.mk.inj heq
        exact List.mem_cons_self
      · exact List.mem_cons_of_mem _ (ih hrest hmem)
    | leaveOut name hrest => exact List.mem_cons_of_mem _ (ih hrest hmem)

/-- As no two fields have the same key, there is at most one member for each. -/
theorem kept_of_field (hdistinct : (fields.map Prod.fst).Nodup)
    (hrenders : RendersFields fields kept) {value : Term} (hfield : (key, value) ∈ fields) :
    (∃ document, (key, document) ∈ kept ∧ Renders value document ∧
        ∀ other, (key, other) ∈ kept → other = document) ∨
      value = .absent ∧ ∀ document, (key, document) ∉ kept := by
  induction fields generalizing kept with
  | nil => cases hfield
  | cons field rest ih =>
    rw [List.map_cons, List.nodup_cons] at hdistinct
    obtain ⟨hnew, hdistinct⟩ := hdistinct
    cases hrenders with
    | @keep name first _ document others hfirst hrest =>
      rcases List.mem_cons.1 hfield with heq | hlater
      · obtain ⟨rfl, rfl⟩ := Prod.mk.inj heq
        refine Or.inl ⟨document, List.mem_cons_self, hfirst, fun other hother => ?_⟩
        rcases List.mem_cons.1 hother with heq | hother
        · exact (Prod.mk.inj heq).2
        · exact absurd (key_of_kept hrest hother) hnew
      · have hne : key ≠ name := by
          rintro rfl
          exact hnew (List.mem_map.2 ⟨_, hlater, rfl⟩)
        simpa [hne] using ih hdistinct hrest hlater
    | leaveOut name hrest =>
      -- the field is not there, and no later one has its key
      rcases List.mem_cons.1 hfield with heq | hlater
      · obtain ⟨rfl, rfl⟩ := Prod.mk.inj heq
        exact Or.inr ⟨rfl, fun document hmem => hnew (key_of_kept hrest hmem)⟩
      · exact ih hdistinct hrest hlater

/-- In each rendering of a record, the fields are found by their keys. -/
theorem stands_of_renders {name : String} {document : Json}
    (hdistinct : (fields.map Prod.fst).Nodup) (hrenders : Renders (.record name fields) document) :
    ∃ members, document = .obj members ∧ ∀ field ∈ fields, Stands members field := by
  cases hrenders with
  | @record _ _ kept unknown members hkept hunknown hreordered =>
    -- under a known name, the members are those kept for the fields, wherever they stand
    have hmem {key : String} {document : Json} (hknown : key ∈ fields.map Prod.fst) :
        (key, document) ∈ members ↔ (key, document) ∈ kept := by
      have hforeign : (key, document) ∉ unknown := fun hmem => hunknown _ hmem hknown
      rw [hreordered.mem_iff, List.mem_append, or_iff_left hforeign]
    refine ⟨members, rfl, fun field hfield => ?_⟩
    have hknown : field.1 ∈ fields.map Prod.fst := List.mem_map_of_mem hfield
    rcases kept_of_field hdistinct hkept hfield with
      ⟨document, hdocument, hvalue, hunique⟩ | ⟨habsent, hnone⟩
    · refine Or.inl ⟨document, lookup_of_unique ((hmem hknown).2 hdocument) ?_, hvalue⟩
      exact fun other hother => hunique other ((hmem hknown).1 hother)
    · refine Or.inr ⟨lookup_of_absent fun document hdocument => ?_, habsent⟩
      exact hnone document ((hmem hknown).1 hdocument)

end Messenger.Term
