/-!
# JSON values

The tree of a JSON document, as every value of the schema is written and read. Two decisions
matter to the rest of the library:

1. Numbers keep the distinction of their text: one without a fraction or an exponent is an
   `integer` as long as 64 bits hold it, any other is a `real`.
2. An object is the list of its members. What is read from it is found by key (`member?`), so
   neither the order of the members nor members that nobody asks for can matter.
-/

namespace Messenger

/-- A JSON document. -/
inductive Json where
  | null
  | bool (value : Bool)
  /-- A number written without a fraction and without an exponent, and held by 64 bits. -/
  | integer (value : Int)
  /-- Any other number. -/
  | real (value : Float)
  | str (text : String)
  | arr (items : List Json)
  | obj (members : List (String × Json))
deriving Inhabited

namespace Json

/-! ## Nesting -/

mutual

/-- How deeply the values of a document are nested: a value without parts has depth 1. -/
def depth : Json → Nat
  | .arr items => depthOfItems items + 1
  | .obj members => depthOfMembers members + 1
  | _ => 1

/-- The depth of the deepest item. -/
def depthOfItems : List Json → Nat
  | [] => 0
  | item :: rest => max item.depth (depthOfItems rest)

/-- The depth of the deepest member. -/
def depthOfMembers : List (String × Json) → Nat
  | [] => 0
  | (_, value) :: rest => max value.depth (depthOfMembers rest)

end

/-! ## Access -/

/-- The members of an object. -/
def members? : Json → Option (List (String × Json))
  | .obj members => some members
  | _ => none

/-- The items of an array. -/
def items? : Json → Option (List Json)
  | .arr items => some items
  | _ => none

/-- The member of an object that stands under the key. -/
def member? (document : Json) (key : String) : Option Json :=
  document.members?.bind (List.lookup key)

/-! ## Construction -/

/-- The document of a value, or null if there is none. -/
def orNull {α : Type} (present : α → Json) (value : Option α) : Json :=
  value.elim .null present

/-- The array of the documents of values. -/
def each {α : Type} (present : α → Json) (values : List α) : Json :=
  .arr (values.map present)

end Json

end Messenger
