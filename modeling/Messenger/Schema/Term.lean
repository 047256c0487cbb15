import Messenger.Json

/-!
# Terms

`Term` is the one view that every value of the schema has: which record or which form it is,
under which names, with which parts. A term can be written as JSON (`Term.toJson`); the names of
records do not appear there, those of fields and of forms do.
-/

namespace Messenger

/-- The structure of a value of the schema. -/
inductive Term where
  | bool (value : Bool)
  | integer (value : Int)
  | real (value : Float)
  | text (value : String)
  /-- An optional value that is not there. -/
  | absent
  /-- An optional value that is there. -/
  | present (value : Term)
  | list (items : List Term)
  /-- A record, with the name of its kind and its fields in order. -/
  | record (name : String) (fields : List (String × Term))
  /-- A form of a type that carries nothing but its tag. -/
  | bare (tag : String)
  /-- A form of a type, with what it carries. -/
  | tagged (tag : String) (payload : Term)
deriving Inhabited

namespace Term

/-- The term of an optional value, given the term of the value. -/
def ofOption {α : Type} (term : α → Term) : Option α → Term
  | some value => .present (term value)
  | none => .absent

mutual

/-- The JSON form: records are objects with every field, a form with a payload is an object with
its tag as the only key, a bare form is its tag, and a value that is not there is `null`. So is a
real number that is not finite, for which JSON has no text. -/
def toJson : Term → Json
  | .bool value => .bool value
  | .integer value => .integer value
  | .real value => if value.isFinite then .real value else .null
  | .text value => .str value
  | .absent => .null
  | .present value => value.toJson
  | .list items => .arr (itemsToJson items)
  | .record _ fields => .obj (fieldsToJson fields)
  | .bare tag => .str tag
  | .tagged tag payload => .obj [(tag, payload.toJson)]

/-- The JSON forms of the terms of a list. -/
def itemsToJson : List Term → List Json
  | [] => []
  | item :: rest => item.toJson :: itemsToJson rest

/-- The members that the fields of a record become. -/
def fieldsToJson : List (String × Term) → List (String × Json)
  | [] => []
  | (key, value) :: rest => (key, value.toJson) :: fieldsToJson rest

end

theorem itemsToJson_eq_map (items : List Term) : itemsToJson items = items.map toJson := by
  induction items with
  | nil => rfl
  | cons item rest ih => simp [itemsToJson, ih]

theorem fieldsToJson_eq_map (fields : List (String × Term)) :
    fieldsToJson fields = fields.map fun field => (field.1, field.2.toJson) := by
  induction fields with
  | nil => rfl
  | cons field rest ih => simp [fieldsToJson, ih]

end Term

end Messenger
