import Messenger.Schema.Term
import Messenger.Width

/-!
# Schema types

`Schema α` says how a value of `α` is seen as a term and how it is read from JSON. Schemas are put
together from three kinds of parts:

1. **Leaves**: booleans, numbers within their width, text, lists and optional values.
2. **Records** (`Schema.record`): a constructor and its fields, each with the key it stands under.
   A field that is left out reads as `missing` of its type, which only optional values have.
3. **Forms** (`Schema.ofForms`): a type with several forms is read by the tag, and each form is
   either bare or has a payload with a schema of its own. The forms of a type that contains itself
   are read with the same forms, one level further down (`Schema.nested`).
-/

namespace Messenger

/-- How the values of a type are viewed and read. -/
class Schema (α : Type) where
  /-- The structure of the value. -/
  view : α → Term
  /-- The value that a document stands for, if it stands for one. -/
  read : Json → Option α
  /-- The value of a field that is left out of its record. -/
  missing : Option α

namespace Schema

variable {α β κ : Type}

/-- The JSON form of a value. -/
def write [Schema α] (value : α) : Json :=
  (view value).toJson

/-! ## Leaves -/

instance : Schema Bool where
  view := .bool
  read
    | .bool value => some value
    | _ => none
  missing := none

instance : Schema Int32 where
  view value := .integer value.toInt
  read
    | .integer value => int32? value
    | _ => none
  missing := none

instance : Schema Int64 where
  view value := .integer value.toInt
  read
    | .integer value => int64? value
    | _ => none
  missing := none

instance : Schema UInt8 where
  view value := .integer value.toNat
  read
    | .integer value => byte? value
    | _ => none
  missing := none

/-- Where a real number is wanted, an integer will do. -/
instance : Schema Float where
  view := .real
  read
    | .real value => some value
    | .integer value => some (.ofInt value)
    | _ => none
  missing := none

instance : Schema String where
  view := .text
  read
    | .str value => some value
    | _ => none
  missing := none

instance [Schema α] : Schema (Option α) where
  view
    | none => .absent
    | some value => .present (view value)
  read
    | .null => some none
    | document => (read document).map some
  missing := some none

instance [Schema α] : Schema (List α) where
  view items := .list (items.map view)
  read
    | .arr items => items.mapM read
    | _ => none
  missing := none

/-! ## Records -/

/-- Reads the member under the key. -/
def readMember [Schema β] (key : String) (members : List (String × Json)) : Option β :=
  match members.lookup key with
  | some document => read document
  | none => missing

/-- The fields of a record that are still to come: what they show of an `α`, and how what they
read is handed to a constructor `κ` that still waits for them. -/
structure Fields (α κ : Type) where
  /-- The fields of a value, in order. -/
  view : α → List (String × Term)
  /-- What the constructor makes of the members of an object. -/
  read : List (String × Json) → κ → Option α
  /-- What the constructor makes of the fields of a value. -/
  rebuild : α → κ → α

/-- No field is left, and the record is complete. -/
def Fields.done : Fields α α where
  view _ := []
  read _ value := some value
  rebuild _ value := value

/-- A field, under its key, before the others. -/
def Fields.field [Schema β] (key : String) (get : α → β) (rest : Fields α κ) :
    Fields α (β → κ) where
  view value := (key, Schema.view (get value)) :: rest.view value
  read members make := do
    let value ← readMember key members
    rest.read members (make value)
  rebuild value make := rest.rebuild value (make (get value))

/-- The schema of a record with the given name, constructor and fields. -/
@[reducible]
def record (name : String) (make : κ) (fields : Fields α κ) : Schema α where
  view value := .record name (fields.view value)
  read document := do
    let members ← document.members?
    fields.read members make
  missing := none

/-! ## Forms -/

/-- One way to be an `α`. -/
inductive Form (α : Type) where
  /-- The tag says it all. -/
  | bare (value : α)
  /-- The tag comes with a payload, which is read like this. -/
  | payload (read : Json → Option α)

/-- The form whose payload has the given schema. -/
def Form.of (schema : Schema β) (make : β → α) : Form α :=
  .payload fun document => (schema.read document).map make

/-- Reads a value by its tag: a bare form is written as the tag or as the tag over `null`, a form
with a payload as an object with the tag as its only key. -/
def readForms (forms : List (String × Form α)) : Json → Option α
  | .str tag =>
    match forms.lookup tag with
    | some (.bare value) => some value
    | _ => none
  | .obj [(tag, document)] =>
    match forms.lookup tag, document with
    | some (.payload read), document => read document
    | some (.bare value), .null => some value
    | _, _ => none
  | _ => none

/-- The schema of a type with several forms, given what each value shows. -/
@[reducible]
def ofForms (view : α → Term) (forms : List (String × Form α)) : Schema α where
  view := view
  read := readForms forms
  missing := none

/-- The term of a form with a payload. -/
def tagged (tag : String) (schema : Schema β) (payload : β) : Term :=
  .tagged tag (schema.view payload)

/-- The schema of a type with a single form. -/
@[reducible]
def single (tag : String) (schema : Schema α) : Schema α :=
  ofForms (tagged tag schema) [(tag, .of schema id)]

/-! ## Types that contain themselves -/

/-- Reads a value whose parts are read in the same way, down to the given depth of nesting. -/
def readNested (forms : (Json → Option α) → List (String × Form α)) : Nat → Json → Option α
  | 0, _ => none
  | depth + 1, document => readForms (forms (readNested forms depth)) document

/-- The schema of a type whose forms contain values of the type again, given the forms for each way
to read the values inside. A document is read to its own depth, which is all there is to read. -/
@[reducible]
def nested (view : α → Term) (forms : Schema α → List (String × Form α)) : Schema α where
  view := view
  read document := readNested (fun read => forms ⟨view, read, none⟩) document.depth document
  missing := none

/-- A term is its own view. It stands for a part of a record that has been viewed already. -/
@[reducible]
def viewed : Schema Term where
  view := id
  read _ := none
  missing := none

end Schema

end Messenger
