import Mathlib.Data.List.Chain
import Messenger.Proofs.Methods.Numbering

/-!
# Numbers do not repeat

All clients of a process number their requests with one counter. The operations that they are asked
for run one after the other, each with services, answers and a clock of its own.

1. **Operations** (`Operation.step_cases`): an operation sends the next number and moves the counter
   on by one, or it sends no number and leaves the counter as it is.
2. **Processes** (`Process.isChain_randomIds`): of the numbers that a process sends, each one is by
   one greater than the one before, unless that makes the counter start anew.
3. **Counting** (`CountsTo`): as long as the counter does not wrap, the numbers are those from the
   first one on, without gaps.

Main statement: `random_ids_count_up`.
-/

namespace Messenger

/-! ## Operations -/

/-- Something that a client of a process is asked for, and what it meets with. -/
structure Operation where
  services : Services
  /-- The answers of the transport, if the operation gets so far. -/
  answers : List Answer
  /-- The answers of the uploader, if the operation gets so far. -/
  uploads : List UploadAnswer
  /-- What the clock shows. -/
  clock : Int
  {α : Type}
  method : Method α

namespace Operation

/-- The world that the operation starts in, if the process has come to the counter. -/
def start (operation : Operation) (counter : Int64) : World where
  answers := operation.answers
  uploads := operation.uploads
  nextRandomId := { counter := counter, clock := operation.clock }
  trace := []

/-- What comes of the operation. -/
def result (operation : Operation) (counter : Int64) : Except MethodError operation.α :=
  (operation.method.run operation.services (operation.start counter)).1

/-- The world that the operation ends in, whether or not it fails. -/
def after (operation : Operation) (counter : Int64) : World :=
  (operation.method.run operation.services (operation.start counter)).2

/-- The counter that the operation leaves. -/
def leaves (operation : Operation) (counter : Int64) : Int64 :=
  (operation.after counter).nextRandomId.counter

/-- The number that the operation finds for its request. -/
def number (operation : Operation) (counter : Int64) : Int64 :=
  (operation.start counter).nextRandomId.value

/-- The numbers of the requests that the operation builds and sends. A request that is handed in as
it is has been numbered by others. -/
def randomIds (operation : Operation) (counter : Int64) : List Int64 :=
  match operation.method.request? with
  | some _ => []
  | none => (operation.after counter).randomIds

/-- The operation needs no number: it builds no request that carries one, or it fails before. -/
def Unnumbered (operation : Operation) (counter : Int64) : Prop :=
  operation.method.isNumbered = true → ∃ error, operation.result counter = .error error

/-- An operation that sends no number takes none, and otherwise it takes and sends just one. -/
theorem step_cases (operation : Operation) (counter : Int64) :
    (operation.Unnumbered counter ∧ operation.randomIds counter = [] ∧
        operation.leaves counter = counter) ∨
      (operation.method.isNumbered = true ∧
        operation.randomIds counter = [operation.number counter] ∧
          operation.leaves counter = operation.number counter + 1) := by
  cases hrequest : operation.method.request? with
  | some request =>
    -- whatever number the request carries, it is not counted, and it was not taken here
    have hnumbered := Method.isNumbered_of_request hrequest
    refine Or.inl ⟨by simp [Unnumbered, hnumbered], by rw [randomIds, hrequest], ?_⟩
    exact congrArg RandomIdCounter.counter (Method.nextRandomId_of_request hrequest _ _)
  | none =>
    rw [randomIds, hrequest]
    cases hnumbered : operation.method.isNumbered with
    | false =>
      have hnumbering :=
        Method.untagged hrequest hnumbered operation.services (operation.start counter)
      obtain ⟨hnumber, hids⟩ := Prod.mk.inj hnumbering
      exact Or.inl ⟨by simp [Unnumbered, hnumbered], hids, congrArg RandomIdCounter.counter hnumber⟩
    | true =>
      rcases Method.numbered hnumbered operation.services (operation.start counter) with
        ⟨hfailed, hnumbering⟩ | hnumbering
      · obtain ⟨hnumber, hids⟩ := Prod.mk.inj hnumbering
        exact Or.inl ⟨fun _ => hfailed, hids, congrArg RandomIdCounter.counter hnumber⟩
      · obtain ⟨hnumber, hids⟩ := Prod.mk.inj hnumbering
        exact Or.inr ⟨rfl, hids, congrArg RandomIdCounter.counter hnumber⟩

/-- Once the counter is set, the clock does not matter. -/
theorem number_of_set (operation : Operation) {counter : Int64} (hset : counter ≠ 0) :
    operation.number counter = counter :=
  if_neg hset

end Operation

/-! ## Processes -/

namespace Process

/-- The counter that the operations leave, one after the other. -/
def leaves (counter : Int64) (operations : List Operation) : Int64 :=
  operations.foldl (fun counter operation => operation.leaves counter) counter

/-- The numbers of the requests that the operations build and send, in order. -/
def randomIds (counter : Int64) : List Operation → List Int64
  | [] => []
  | operation :: later =>
    operation.randomIds counter ++ randomIds (operation.leaves counter) later

theorem randomIds_append (counter : Int64) (earlier later : List Operation) :
    randomIds counter (earlier ++ later) =
      randomIds counter earlier ++ randomIds (leaves counter earlier) later := by
  induction earlier generalizing counter with
  | nil => rfl
  | cons operation earlier ih =>
    rw [List.cons_append, randomIds, ih, randomIds, List.append_assoc]
    rfl

/-- A counter that is set gives the first number. -/
theorem head?_randomIds {counter first : Int64} (hset : counter ≠ 0) {operations : List Operation}
    (hfirst : (randomIds counter operations).head? = some first) : first = counter := by
  induction operations with
  | nil => cases hfirst
  | cons operation later ih =>
    rw [randomIds] at hfirst
    rcases operation.step_cases counter with ⟨-, hids, hleaves⟩ | ⟨-, hids, -⟩
    · rw [hids, hleaves] at hfirst
      exact ih hfirst
    · rw [hids, operation.number_of_set hset] at hfirst
      cases hfirst
      rfl

/-- The next number is by one greater, unless that is zero, where the counter starts anew. -/
def Succeeds (id next : Int64) : Prop :=
  id + 1 ≠ 0 → next = id + 1

/-- Whatever the operations are and whatever they meet with, no number is skipped. -/
theorem isChain_randomIds (counter : Int64) (operations : List Operation) :
    (randomIds counter operations).IsChain Succeeds := by
  induction operations generalizing counter with
  | nil => exact .nil
  | cons operation later ih =>
    rw [randomIds]
    rcases operation.step_cases counter with ⟨-, hids, hleaves⟩ | ⟨-, hids, hleaves⟩
    · rw [hids, hleaves]
      exact ih counter
    · -- the counter that is left gives the head of what the other operations send
      rw [hids, hleaves, List.singleton_append, List.isChain_cons]
      refine ⟨?_, ih _⟩
      intro next hnext hset
      exact head?_randomIds hset hnext

end Process

/-! ## Counting -/

/-- Counting so many steps on from the number, the counter does not wrap: it does not go beyond the
greatest number, nor from a negative number to zero, where it would start anew. -/
def CountsTo (first : Int64) (steps : Nat) : Prop :=
  first.toInt + steps ≤ Int64.maxValue.toInt ∧ (first.toInt < 0 → first.toInt + steps < 0)

theorem CountsTo.mono {first : Int64} {steps steps' : Nat} (hcounts : CountsTo first steps')
    (hle : steps ≤ steps') : CountsTo first steps := by
  obtain ⟨hhigh, hlow⟩ := hcounts
  refine ⟨by omega, ?_⟩
  intro hneg
  have hfar := hlow hneg
  omega

/-- Below the greatest number, the next one is by one greater. -/
theorem RandomIdCounter.toInt_succ {id : Int64} (hhigh : id.toInt + 1 ≤ Int64.maxValue.toInt) :
    (id + 1).toInt = id.toInt + 1 := by
  have hone : (1 : Int64).toInt = 1 := rfl
  have hlow := id.le_toInt
  rw [Int64.toInt_maxValue] at hhigh
  rw [Int64.toInt_add, hone]
  exact Int.bmod_eq_of_le (by omega) (by omega)

/-- As long as the counter does not wrap, a number follows from its place. -/
theorem CountsTo.toInt_getElem {first : Int64} {k : Nat} (hcounts : CountsTo first k)
    {ids : List Int64} (hchain : ids.IsChain Process.Succeeds) (hfirst : ids[0]? = some first)
    {id : Int64} (hid : ids[k]? = some id) : id.toInt = first.toInt + k := by
  induction k generalizing id with
  | zero =>
    rw [hfirst] at hid
    cases hid
    simp
  | succ k ih =>
    -- the number before is not the last one before the counter wraps, so it has a successor
    obtain ⟨hk, hat⟩ := List.getElem?_eq_some_iff.1 hid
    have hbefore : ids[k]? = some ids[k] := List.getElem?_eq_getElem (by omega)
    have hprevious := ih (hcounts.mono (Nat.le_succ k)) hbefore
    obtain ⟨hhigh, hlow⟩ := hcounts
    push_cast at hhigh hlow ⊢
    have hbound : ids[k].toInt + 1 ≤ Int64.maxValue.toInt := by omega
    have hsucc := RandomIdCounter.toInt_succ hbound
    have hset : ids[k] + 1 ≠ 0 := by
      intro hzero
      have hnone : (ids[k] + 1).toInt = 0 := congrArg Int64.toInt hzero
      omega
    have hnext := List.isChain_iff_getElem.1 hchain k hk hset
    rw [← hat, hnext, hsucc, hprevious]
    omega

/-- As long as the counter does not wrap, the numbers grow. -/
theorem CountsTo.pairwise_lt {first : Int64} {ids : List Int64}
    (hcounts : CountsTo first (ids.length - 1)) (hchain : ids.IsChain Process.Succeeds)
    (hfirst : ids[0]? = some first) : ids.Pairwise (· < ·) := by
  rw [List.pairwise_iff_getElem]
  intro i j hi hj hij
  have hplace {k : Nat} (hk : k < ids.length) : ids[k].toInt = first.toInt + k :=
    (hcounts.mono (by omega)).toInt_getElem hchain hfirst (List.getElem?_eq_getElem hk)
  rw [Int64.lt_iff_toInt_lt, hplace hi, hplace hj]
  omega

/-! ## Main statement -/

/-- Whatever operations a process runs one after the other, and whatever they meet with:

1. As long as the counter does not wrap, the numbers of the requests are those from the first one
   on, so that they grow and do not repeat.
2. A post or a reaction that does not fail before sends one number, which is the next one. Any other
   operation sends none, and then all numbers are the same as if it had not been there. -/
theorem random_ids_count_up (counter : Int64) (operations : List Operation) :
    let ids := Process.randomIds counter operations
    (∀ first, ids.head? = some first →
      (∀ (k : Nat) id, ids[k]? = some id → CountsTo first k → id.toInt = first.toInt + k) ∧
        (CountsTo first (ids.length - 1) → ids.Pairwise (· < ·) ∧ ids.Nodup)) ∧
      ∀ earlier operation later, operations = earlier ++ operation :: later →
        let before := Process.leaves counter earlier
        let id := operation.number before
        (operation.Unnumbered before ∧ operation.randomIds before = [] ∧
            ids = Process.randomIds counter (earlier ++ later)) ∨
          (operation.method.isNumbered = true ∧ operation.randomIds before = [id] ∧
            ids = Process.randomIds counter earlier ++ id :: Process.randomIds (id + 1) later) := by
  intro ids
  have hchain := Process.isChain_randomIds counter operations
  constructor
  · intro first hhead
    have hfirst : ids[0]? = some first := by rw [← hhead, List.head?_eq_getElem?]
    constructor
    · intro k id hid hcounts
      exact hcounts.toInt_getElem hchain hfirst hid
    · intro hcounts
      have hgrow := hcounts.pairwise_lt hchain hfirst
      exact ⟨hgrow, hgrow.imp fun hlt => Int64.ne_of_lt hlt⟩
  · intro earlier operation later hsplit
    have hids : ids = Process.randomIds counter (earlier ++ operation :: later) := by
      rw [← hsplit]
    rw [hids]
    simp only [Process.randomIds_append, Process.randomIds]
    rcases operation.step_cases (Process.leaves counter earlier) with
      ⟨hunnumbered, hnone, hleaves⟩ | ⟨hnumbered, hone, hleaves⟩
    · exact Or.inl ⟨hunnumbered, hnone, by rw [hnone, hleaves, List.nil_append]⟩
    · exact Or.inr ⟨hnumbered, hone, by rw [hone, hleaves, List.singleton_append]⟩

/-- Of three reactions the second is not sent, as its chat is not found. The clock gives the first
number. -/
example :
    let reaction (clock : Int) (found : Option Wire.InputPeer) : Operation :=
      { services := { Services.blank with resolve := fun _ => .ok found }
        answers := []
        uploads := []
        clock := clock
        method := .payReaction .me 1 5 none }
    let operations := [reaction 1000 (some .self), reaction 1500 none, reaction 2000 (some .self)]
    Process.randomIds 0 operations = [1000, 1001] := rfl

end Messenger
