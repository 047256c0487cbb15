import Messenger.Client.Shipping
import Messenger.Proofs.Numerals
import Messenger.Proofs.Updates

/-!
# Answers to shipping queries

A bot accepts an order by offering ways to ship, or turns it down with an error.

1. **Ways to ship** (`ShippingOption.SentAs`): a request tells a way to ship by the same texts and
   amounts, in the same order.
2. **Courses** (`Answering`): an answer is refused before anything is sent, or it is sent in one
   request, which is made of the ways to ship and the error alone.
3. **Decisions** (`Decides`): the flag that says whether the order is accepted decides the request
   only where the other arguments agree with it (`decides_iff`).
4. **Numbers** (`readInt64?_id`): a query that was received is answered under the number that came
   with it.

Main statements: `ok_decides_iff`, with a refused order that goes through
(`ok_does_not_always_decide`), and `queries_are_answered_under_their_number`.
-/

namespace Messenger

/-! ## Ways to ship -/

/-- A request tells the part of a price by its label and its amount. -/
structure LabeledPrice.SentAs (price : LabeledPrice) (sent : Wire.LabeledPrice) : Prop where
  label : sent.label = price.label
  amount : sent.amount = price.amount

/-- A request tells the way to ship by its identifier and its title, with the parts of the price in
their order. -/
structure ShippingOption.SentAs (option : ShippingOption) (sent : Wire.ShippingOption) : Prop where
  id : sent.id = option.id
  title : sent.title = option.title
  prices : List.Forall₂ LabeledPrice.SentAs option.prices sent.prices

/-- Where each element is told in one way, so is a list. -/
theorem forall₂_iff_eq_map {α β : Type} {Tells : α → β → Prop} {f : α → β}
    (htells : ∀ a b, Tells a b ↔ b = f a) {values : List α} {told : List β} :
    List.Forall₂ Tells values told ↔ told = values.map f := by
  constructor
  · intro htold
    induction htold with
    | nil => rfl
    | cons hhead _ ih => rw [List.map_cons, ← (htells _ _).1 hhead, ← ih]
  · rintro rfl
    rw [List.forall₂_map_right_iff, List.forall₂_same]
    exact fun value _ => (htells _ _).2 rfl

theorem LabeledPrice.sentAs_iff (price : LabeledPrice) (sent : Wire.LabeledPrice) :
    price.SentAs sent ↔ sent = price.raw := by
  constructor
  · rintro ⟨hlabel, hamount⟩
    rw [raw, ← hlabel, ← hamount]
  · rintro rfl
    exact ⟨rfl, rfl⟩

theorem ShippingOption.sentAs_iff (option : ShippingOption) (sent : Wire.ShippingOption) :
    option.SentAs sent ↔ sent = option.raw := by
  constructor
  · rintro ⟨hid, htitle, hprices⟩
    rw [raw, ← hid, ← htitle, ← (forall₂_iff_eq_map LabeledPrice.sentAs_iff).1 hprices]
  · rintro rfl
    exact ⟨rfl, rfl, (forall₂_iff_eq_map LabeledPrice.sentAs_iff).2 rfl⟩

/-- There is one way to tell the ways to ship. -/
theorem ShippingOption.forall₂_sentAs_iff {options : List ShippingOption}
    {sent : List Wire.ShippingOption} :
    List.Forall₂ SentAs options sent ↔ sent = options.map raw :=
  forall₂_iff_eq_map sentAs_iff

/-! ## Courses -/

/-- Answers the query with the number, with the ways to ship, if there are any, and the error. -/
def Wire.answering (queryId : Int64) (error : Option String) (options : List ShippingOption) :
    Request :=
  .call (.setBotShippingResults ⟨queryId, error, Listing.nonempty? options⟩)

/-- What an answer sends, and what comes of it. -/
inductive Answering (id : String) (ok : Bool) (options : List ShippingOption)
    (error : Option String) : List Step → Except MethodError Bool → Prop
  /-- Who accepts the order has to offer a way to ship. -/
  | unoffered (accepts : ok = true) (offers_none : options = []) :
      Answering id ok options error [] (.error (.invalidArgument .noShippingOptions))
  /-- The query is not named by a number. -/
  | unnamed (offers : ok = true → options ≠ []) (unread : Text.readInt64? id.toList = none) :
      Answering id ok options error [] (.error (.invalidArgument (.shippingQueryId id)))
  | sent (offers : ok = true → options ≠ []) (queryId : Int64)
      (read : Text.readInt64? id.toList = some queryId) {told : List Wire.ShippingOption}
      (sentAs : List.Forall₂ ShippingOption.SentAs options told) (answer : Answer) :
      Answering id ok options error [.sent (Wire.answering queryId error told) answer]
        ((Client.receive (Wire.answering queryId error told) answer).mapError .invocation)

namespace Client

/-- Answering takes one of the courses. -/
theorem takes_answerShipping (id : String) (ok : Bool) (options : List ShippingOption)
    (error : Option String) (services : Services) (world : World) :
    ∃ steps result, Answering id ok options error steps result ∧
      Takes (answerShipping id ok options error) services world steps result := by
  unfold answerShipping
  -- the ways to ship are looked at first, and only then the identifier
  by_cases hunoffered : ok = true ∧ options = []
  · obtain ⟨rfl, rfl⟩ := hunoffered
    exact ⟨_, _, .unoffered rfl rfl, takes_throw _ services world⟩
  · have hoffers : ok = true → options ≠ [] := fun hok hnone => hunoffered ⟨hok, hnone⟩
    have hpasses : (ok && options.isEmpty) = false := by
      cases ok with
      | true => simpa using hoffers rfl
      | false => rfl
    rw [hpasses]
    cases hread : Text.readInt64? id.toList with
    | none => exact ⟨_, _, .unnamed hoffers hread, takes_throw _ services world⟩
    | some queryId =>
      exact ⟨_, _, .sent hoffers queryId hread (ShippingOption.forall₂_sentAs_iff.2 rfl) _,
        (takes_invoke (Wire.answering queryId error (options.map ShippingOption.raw)) services
          world).lift⟩

end Client

/-! ## Decisions -/

/-- The order goes on: there are ways to ship, and no error. -/
def Wire.ShippingResults.Accepts (results : ShippingResults) : Prop :=
  results.options.isSome = true ∧ results.error = none

/-- The flag decides the answer: who accepts sends an acceptance without an error, and who does not
accept offers nothing. -/
structure Decides (ok : Bool) (results : Wire.ShippingResults) : Prop where
  accepts_iff : results.Accepts ↔ ok = true
  options_eq : ok = false → results.options = none
  error_eq : ok = true → results.error = none

section

variable {ok : Bool} {options : List ShippingOption} {told : List Wire.ShippingOption}
  {error : Option String}

/-- No way to ship is told exactly if none is offered. -/
theorem nonempty?_told_eq_none_iff (htold : List.Forall₂ ShippingOption.SentAs options told) :
    Listing.nonempty? told = none ↔ options = [] := by
  rw [Listing.nonempty?_eq_none_iff, ← List.length_eq_zero_iff, ← htold.length_eq,
    List.length_eq_zero_iff]

/-- An answer is an acceptance if it offers a way to ship and gives no error. -/
theorem accepts_answering_iff (htold : List.Forall₂ ShippingOption.SentAs options told)
    (queryId : Int64) :
    Wire.ShippingResults.Accepts ⟨queryId, error, Listing.nonempty? told⟩ ↔
      options ≠ [] ∧ error = none := by
  rw [Wire.ShippingResults.Accepts, Option.isSome_iff_ne_none, ne_eq,
    nonempty?_told_eq_none_iff htold]

/-- The answer is an acceptance for the flag exactly if there is no error with it, or no way to ship
without it. -/
theorem accepts_iff_ok_iff (hoffers : ok = true → options ≠ [])
    (htold : List.Forall₂ ShippingOption.SentAs options told) (queryId : Int64) :
    (Wire.ShippingResults.Accepts ⟨queryId, error, Listing.nonempty? told⟩ ↔ ok = true) ↔
      if ok = true then error = none else options = [] ∨ error ≠ none := by
  rw [accepts_answering_iff htold]
  cases ok with
  | true => simp [hoffers rfl]
  | false =>
    by_cases hnone : options = []
    · simp [hnone]
    · simp [hnone]

/-- The flag decides the answer exactly if who accepts gives no error, and who does not accept gives
no way to ship. -/
theorem decides_iff (hoffers : ok = true → options ≠ [])
    (htold : List.Forall₂ ShippingOption.SentAs options told) (queryId : Int64) :
    Decides ok ⟨queryId, error, Listing.nonempty? told⟩ ↔
      if ok = true then error = none else options = [] := by
  constructor
  · intro hdecides
    cases ok with
    | true => exact hdecides.error_eq rfl
    | false => exact (nonempty?_told_eq_none_iff htold).1 (hdecides.options_eq rfl)
  · intro hagrees
    -- without the flag, an answer that offers nothing is no acceptance, whatever its error
    refine ⟨(accepts_iff_ok_iff hoffers htold queryId).2 ?_, ?_, ?_⟩
    · cases ok with
      | true => exact hagrees
      | false => exact Or.inl hagrees
    · rintro rfl
      exact (nonempty?_told_eq_none_iff htold).2 hagrees
    · rintro rfl
      exact hagrees

end

/-- A query to answer. -/
inductive Queried where
  /-- One that is named by its identifier. -/
  | named (id : String)
  /-- One that was received. -/
  | received (query : ShippingQuery)

namespace Queried

/-- The identifier of the query. -/
def id : Queried → String
  | .named id => id
  | .received query => query.id

/-- Answers the query. -/
def answer (queried : Queried) (ok : Bool) (options : List ShippingOption)
    (error : Option String) : Client MethodError Bool :=
  match queried with
  | .named id => Client.answerShipping id ok options error
  | .received query => query.answer ok options error

theorem takes_answer (queried : Queried) (ok : Bool) (options : List ShippingOption)
    (error : Option String) (services : Services) (world : World) :
    ∃ steps result, Answering queried.id ok options error steps result ∧
      Client.Takes (queried.answer ok options error) services world steps result := by
  cases queried with
  | named id => exact Client.takes_answerShipping id ok options error services world
  | received query => exact Client.takes_answerShipping query.id ok options error services world

end Queried

/-- Whatever query is answered, by its identifier or as it was received, and whatever it is answered
with: nothing is sent, and the arguments are refused, or one request is sent, with the number of the
query, the error and the ways to ship.

1. The request is an acceptance for the flag exactly if there is no error with it, or, without it, if
   there is no way to ship or there is an error.
2. The flag decides all of the request exactly if there is no error with it, and no way to ship
   without it. -/
theorem ok_decides_iff (queried : Queried) (ok : Bool) (options : List ShippingOption)
    (error : Option String) (services : Services) (world : World) :
    let outcome := queried.answer ok options error services world
    ∃ steps, Performs services world steps outcome.2 ∧
      ((steps = [] ∧ ∃ reason, outcome.1 = .error (.invalidArgument reason)) ∨
        ∃ (results : Wire.ShippingResults) (answer : Answer),
          steps = [.sent (.call (.setBotShippingResults results)) answer] ∧
          Text.readInt64? queried.id.toList = some results.queryId ∧
          results.error = error ∧
          (∃ told, List.Forall₂ ShippingOption.SentAs options told ∧
            results.options = Listing.nonempty? told) ∧
          ((results.Accepts ↔ ok = true) ↔
            if ok = true then error = none else options = [] ∨ error ≠ none) ∧
          (Decides ok results ↔ if ok = true then error = none else options = [])) := by
  intro outcome
  obtain ⟨steps, result, hanswering, htakes⟩ :=
    queried.takes_answer ok options error services world
  have hresult : outcome.1 = result := htakes.result_eq
  refine ⟨steps, htakes.performs, ?_⟩
  rw [hresult]
  cases hanswering with
  | unoffered hok hnone => exact Or.inl ⟨rfl, _, rfl⟩
  | unnamed hoffers hunread => exact Or.inl ⟨rfl, _, rfl⟩
  | sent hoffers queryId hread htold answer =>
    exact Or.inr ⟨_, answer, rfl, hread, rfl, ⟨_, htold, rfl⟩,
      accepts_iff_ok_iff hoffers htold queryId, decides_iff hoffers htold queryId⟩

/-- An order that is not accepted goes through if a way to ship is left in the answer. -/
theorem ok_does_not_always_decide :
    ¬ ∀ (queried : Queried) (ok : Bool) (options : List ShippingOption)
      (error : Option String) (services : Services) (world : World)
      (results : Wire.ShippingResults),
      (queried.answer ok options error services world).2.sent =
          world.sent ++ [.call (.setBotShippingResults results)] →
        (results.Accepts ↔ ok = true) := by
  intro halways
  let post : ShippingOption := ⟨"post", "Regular mail", [⟨"Shipping", 500⟩]⟩
  have hdecides := halways (.named "1") false [post] none .blank ⟨[], [], 0, []⟩
    ⟨1, none, some [post.raw]⟩ rfl
  have haccepts : Wire.ShippingResults.Accepts ⟨1, none, some [post.raw]⟩ := ⟨rfl, rfl⟩
  cases hdecides.1 haccepts

/-! ## Numbers -/

/-- The identifier of a query that was received is read as the number that came with it. -/
theorem ShippingQuery.readInt64?_id (update : Wire.ShippingQueryUpdate) (directory : Directory) :
    Text.readInt64? (ofRaw update directory).id.toList = some update.queryId :=
  Text.readInt64?_toString update.queryId

/-- What becomes of an answer to the query with the number: unless the order is accepted without a
way to ship, one request is sent, with the number, the error and the ways to ship in their order, and
what comes of it is what the server says. The number is never refused. -/
structure AnsweredUnder (queryId : Int64) (ok : Bool) (options : List ShippingOption)
    (error : Option String) (steps : List Step) (result : Except MethodError Bool) : Prop where
  sent : ok = false ∨ options ≠ [] →
    ∃ (results : Wire.ShippingResults) (answer : Answer),
      steps = [.sent (.call (.setBotShippingResults results)) answer] ∧
        results.queryId = queryId ∧ results.error = error ∧
        (options ≠ [] → ∃ told, results.options = some told ∧
          List.Forall₂ ShippingOption.SentAs options told) ∧
        (options = [] → results.options = none) ∧
        ∀ accepted, result = .ok accepted ↔ answer = .ok ⟨.bool, accepted⟩
  refused : ok = true ∧ options = [] →
    steps = [] ∧ result = .error (.invalidArgument .noShippingOptions)
  named : ∀ id, result ≠ .error (.invalidArgument (.shippingQueryId id))

theorem Answering.answeredUnder {id : String} {ok : Bool} {options : List ShippingOption}
    {error : Option String} {steps : List Step} {result : Except MethodError Bool} {queryId : Int64}
    (hanswering : Answering id ok options error steps result)
    (hid : Text.readInt64? id.toList = some queryId) :
    AnsweredUnder queryId ok options error steps result := by
  cases hanswering with
  | unoffered hok hnone =>
    refine ⟨?_, fun _ => ⟨rfl, rfl⟩, by simp⟩
    rintro (hfalse | hsome)
    · cases hok.symm.trans hfalse
    · exact absurd hnone hsome
  | unnamed hoffers hunread =>
    cases hid.symm.trans hunread
  | @sent hoffers queryId' hread told htold answer =>
    obtain rfl : queryId' = queryId := Option.some.inj (hread.symm.trans hid)
    have hnone := nonempty?_told_eq_none_iff htold
    have hsome (hoffered : options ≠ []) : Listing.nonempty? told = some told :=
      Listing.nonempty?_of_ne_nil (mt Listing.nonempty?_eq_none_iff.2 (mt hnone.1 hoffered))
    refine ⟨fun _ => ⟨_, answer, rfl, rfl, rfl, fun hoffered => ⟨told, hsome hoffered, htold⟩,
      hnone.2, fun _ => Client.mapError_receive_eq_ok_iff⟩, ?_, fun _ => Client.mapError_receive_ne⟩
    rintro ⟨hok, hnone⟩
    exact absurd hnone (hoffers hok)

/-- Wherever in a container a shipping query stands, it is told at the same place, and it is answered
under its own number, whatever the answer is and whatever the server says to it. -/
theorem queries_are_answered_under_their_number (container : Wire.Updates) (place : Nat)
    (update : Wire.ShippingQueryUpdate)
    (hplace : container.contents[place]? = some (.shippingQuery update)) :
    ∃ query, (Update.ofContainer container)[place]? = some (.shippingQuery query) ∧
      ∀ (ok : Bool) (options : List ShippingOption) (error : Option String)
        (services : Services) (world : World),
        let outcome := query.answer ok options error services world
        ∃ steps, Performs services world steps outcome.2 ∧
          AnsweredUnder update.queryId ok options error steps outcome.1 := by
  let query := ShippingQuery.ofRaw update container.tables.directory
  have htold : (Update.ofContainer container)[place]? = some (.shippingQuery query) := by
    rw [Update.ofContainer_eq_map, List.getElem?_map, hplace]
    rfl
  refine ⟨query, htold, ?_⟩
  intro ok options error services world outcome
  obtain ⟨steps, result, hanswering, htakes⟩ :=
    Client.takes_answerShipping query.id ok options error services world
  have hresult : outcome.1 = result := htakes.result_eq
  refine ⟨steps, htakes.performs, ?_⟩
  rw [hresult]
  exact hanswering.answeredUnder (ShippingQuery.readInt64?_id update _)

/-- The query with the least number, behind another update, is answered under that number. -/
theorem least_query_is_answered :
    let update : Wire.ShippingQueryUpdate :=
      ⟨Int64.minValue, 777, [111, 107], ⟨"1 Main St", "", "Springfield", "IL", "US", "62701"⟩⟩
    let container : Wire.Updates := .updates ⟨[.messageId 3 4, .shippingQuery update], [], [], 0, 0⟩
    let post : ShippingOption := ⟨"post", "Regular mail", [⟨"Shipping", 500⟩, ⟨"Box", -50⟩]⟩
    let told : Wire.ShippingOption := ⟨"post", "Regular mail", [⟨"Shipping", 500⟩, ⟨"Box", -50⟩]⟩
    let services : Services := .blank
    container.contents[1]? = some (.shippingQuery update) ∧
      ∃ query, (Update.ofContainer container)[1]? = some (.shippingQuery query) ∧
        ∃ answer, Performs services ⟨[.ok ⟨.bool, true⟩], [], 0, []⟩
          [.sent (.call (.setBotShippingResults ⟨Int64.minValue, none, some [told]⟩)) answer]
          (query.answer true [post] none services ⟨[.ok ⟨.bool, true⟩], [], 0, []⟩).2 := by
  intro update container post told services
  have hplace : container.contents[1]? = some (.shippingQuery update) := rfl
  obtain ⟨query, htold, hanswered⟩ :=
    queries_are_answered_under_their_number container 1 update hplace
  obtain ⟨steps, hperforms, hanswers⟩ :=
    hanswered true [post] none services ⟨[.ok ⟨.bool, true⟩], [], 0, []⟩
  obtain ⟨⟨queryId, error, options⟩, answer, rfl, rfl, rfl, hoptions, -⟩ :=
    hanswers.sent (Or.inr (List.cons_ne_nil post []))
  obtain ⟨sent, rfl, hsent⟩ := hoptions (List.cons_ne_nil post [])
  obtain rfl : sent = [told] := ShippingOption.forall₂_sentAs_iff.1 hsent
  exact ⟨hplace, query, htold, answer, hperforms⟩

end Messenger
