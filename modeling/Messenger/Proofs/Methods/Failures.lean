import Messenger.Proofs.Behalf
import Messenger.Proofs.Methods.References

/-!
# Failures end methods

What a method makes of the answers to its requests.

1. **Attribution** (`Attributed`): which failure an answer is for the request that it answers. A
   request fails exactly with the failures that are attributed to it (`Client.receive_eq_error_iff`).
2. **Methods** (`Method.accounts`): the steps of a method account for its result, so a failure is
   neither passed over nor made up.

Main statement: `failures_end_methods`.
-/

namespace Messenger

variable {α : Type}

/-! ## Attribution -/

namespace Wire.ResponseKind

theorem find?_name (kind : ResponseKind) : all.find? (·.name == kind.name) = some kind := by
  cases kind <;> rfl

/-- Kinds are told apart by their names. -/
theorem name_injective : Function.Injective name := by
  intro kind other hname
  have hfound := kind.find?_name
  rw [hname, other.find?_name] at hfound
  exact (Option.some.inj hfound).symm

end Wire.ResponseKind

namespace Wire.Call

/-- The names of the functions, in the order in which the calls are listed. -/
def names : List String :=
  ["account.getPrivacy", "account.setPrivacy", "account.getAccountTTL", "account.setAccountTTL",
    "account.updatePersonalChannel", "contacts.search", "messages.setBotShippingResults",
    "messages.getDialogs", "messages.getPinnedDialogs", "messages.uploadMedia",
    "messages.sendMedia", "messages.sendPaidReaction", "payments.getPaymentForm",
    "payments.sendStarsForm", "payments.getStarGifts", "payments.getUserStarGifts",
    "payments.saveStarGift", "payments.convertStarGift", "payments.checkGiftCode",
    "payments.applyGiftCode"]

theorem getElem?_names (call : Call) : names[call.ctorIdx]? = some call.name := by
  cases call <;> rfl

theorem idxOf_name (call : Call) : names.idxOf call.name = call.ctorIdx := by
  cases call <;> rfl

/-- Functions are told apart by their names: calls have the same name exactly if they are calls of
the same function. -/
theorem name_eq_iff {call other : Call} : call.name = other.name ↔ call.ctorIdx = other.ctorIdx := by
  constructor
  · intro hname
    rw [← idxOf_name, hname, idxOf_name]
  · intro hindex
    have hnames := call.getElem?_names
    rw [hindex, other.getElem?_names] at hnames
    exact (Option.some.inj hnames).symm

end Wire.Call

/-- An answer is a failure of the request that it answers. -/
inductive Attributed (request : Wire.Request) : Answer → CallError → Prop
  /-- The server refused the request. The error is passed on, with its cause: if none was given, it
  is the call that was to run in the end, whose name is that of no other function and not that of
  acting on somebody's behalf. -/
  | refused {error : RpcError} {cause : String}
      (cause_eq : cause = error.causedBy.getD request.innermost.name)
      (name_eq_iff : ∀ other : Wire.Call,
        request.innermost.name = other.name ↔ request.innermost.ctorIdx = other.ctorIdx)
      (innermost_ne : ∀ id query,
        request.innermost.name ≠ (Wire.Request.onBehalf id query).name) :
      Attributed request (.error (.rpc error)) (.rpc { error with causedBy := some cause })
  /-- The request failed on the way. -/
  | lost {error : CallError} (not_refused : ∀ refusal, error ≠ .rpc refusal) :
      Attributed request (.error error) error
  /-- The answer is of another kind than the request returns, and has another name. -/
  | unexpected {response : Wire.Response} (kind_ne : response.kind ≠ request.returns)
      (name_ne : response.name ≠ request.returns.name) :
      Attributed request (.ok response) (.deserialize ⟨request.returns, response.kind⟩)

namespace Client

variable {request : Wire.Request} {answer : Answer} {error : CallError}

theorem meaning_eq_error_iff :
    meaning request.innermost answer = .error error ↔ Attributed request answer error := by
  constructor
  · intro hmeaning
    rcases answer with failure | response
    · cases failure with
      | rpc refusal =>
        cases hmeaning
        exact .refused rfl (fun _ => Wire.Call.name_eq_iff) request.name_innermost_ne
      | dropped =>
        cases hmeaning
        exact .lost (by simp)
      | io failure =>
        cases hmeaning
        exact .lost (by simp)
      | deserialize mistake =>
        cases hmeaning
        exact .lost (by simp)
    · rw [meaning, ← request.returns_eq_innermost] at hmeaning
      by_cases hkind : response.kind = request.returns
      · rw [if_pos hkind] at hmeaning
        cases hmeaning
      · rw [if_neg hkind] at hmeaning
        cases hmeaning
        exact .unexpected hkind fun hname => hkind (Wire.ResponseKind.name_injective hname)
  · intro hattributed
    cases hattributed with
    | refused cause_eq => rw [cause_eq, meaning]
    | lost not_refused =>
      cases error with
      | rpc refusal => exact absurd rfl (not_refused refusal)
      | _ => rfl
    | unexpected kind_ne => rw [meaning, ← request.returns_eq_innermost, if_neg kind_ne]

/-- A request fails exactly with the failures that are attributed to it. -/
theorem receive_eq_error_iff :
    receive request answer = .error error ↔ Attributed request answer error := by
  rw [← meaning_eq_error_iff, ← map_receive]
  cases receive request answer <;> simp [Except.map]

end Client

/-! ## Methods -/

/-- The steps of a method account for its result. -/
theorem Method.accounts (method : Method α) (services : Services) (world : World) :
    ∃ steps result, Client.Takes method.run services world steps result ∧
      Accounts steps result := by
  cases hrefused : method.refused? with
  | some reason => exact ⟨[], _, takes_refused hrefused services world, .nil (by simp)⟩
  | none =>
    rcases Method.follows hrefused services world with
      ⟨asked, result, hbarred, htakes⟩ | ⟨later, result, hmet, htakes, haccounts, -⟩
    · exact ⟨_, result, htakes, hbarred.accounts⟩
    · refine ⟨_, result, htakes, .append ?_ haccounts⟩
      intro step hmem
      obtain ⟨need, hneed, rfl⟩ := List.mem_map.1 hmem
      exact Need.failure?_step (hmet need hneed)

/-- A step that failed like a request is a request, or a reference for which the resolver failed. -/
theorem Step.failure?_eq_invocation {step : Step} {error : CallError}
    (hfailed : step.failure? = some (.invocation error)) :
    (∃ request answer, step = .sent request answer ∧ Attributed request answer error) ∨
      ∃ chat, step = .resolved chat (.error error) := by
  match step with
  | .resolved chat (.ok (some peer)) => cases hfailed
  | .resolved chat (.ok none) => cases hfailed
  | .resolved chat (.error failure) =>
    cases hfailed
    exact Or.inr ⟨chat, rfl⟩
  | .saved file (.ok kept) => cases hfailed
  | .saved file (.error failure) => cases hfailed
  | .sent request answer =>
    cases hreceive : Client.receive request answer with
    | ok value => simp [failure?, hreceive] at hfailed
    | error failure =>
      rw [failure?_sent_of_error hreceive] at hfailed
      cases hfailed
      exact Or.inl ⟨request, answer, rfl, Client.receive_eq_error_iff.1 hreceive⟩

/-! ## Main statement -/

/-- Whatever is asked of a client, and whatever is resolved, saved and answered:

1. A request that is not answered by a value of the kind that it returns is the last step of the
   method, and the method fails with the failure that is attributed to the request.
2. A method fails like a request only if its last step is a request to which that failure is
   attributed, or a reference for which the resolver failed with it. So no answer of the right kind
   is taken for a failure. -/
theorem failures_end_methods (method : Method α) (services : Services) (world : World) :
    let outcome := method.run services world
    ∃ steps, Performs services world steps outcome.2 ∧
      (∀ earlier request answer later, steps = earlier ++ .sent request answer :: later →
        (∀ value, answer ≠ .ok ⟨request.returns, value⟩) →
          later = [] ∧ ∃ error, Attributed request answer error ∧
            outcome.1 = .error (.invocation error)) ∧
      ∀ error, outcome.1 = .error (.invocation error) →
        ∃ earlier last, steps = earlier ++ [last] ∧
          ((∃ request answer, last = .sent request answer ∧ Attributed request answer error) ∨
            ∃ chat, last = .resolved chat (.error error)) := by
  intro outcome
  obtain ⟨steps, result, htakes, haccounts⟩ := method.accounts services world
  have hresult : outcome.1 = result := htakes.result_eq
  rw [hresult]
  refine ⟨steps, htakes.performs, ?_, ?_⟩
  · intro earlier request answer later hsplit hanswer
    cases hreceive : Client.receive request answer with
    | ok value => exact absurd (Client.receive_eq_ok_iff.1 hreceive) (hanswer value)
    | error error =>
      have hfails := haccounts.toFailsLast
      rw [hsplit] at hfails
      obtain ⟨hlater, hfailure⟩ := hfails.of_failed (Step.failure?_sent_of_error hreceive)
      exact ⟨hlater, error, Client.receive_eq_error_iff.1 hreceive, hfailure⟩
  · intro error herror
    obtain ⟨last, hlast, hfailed⟩ := Option.bind_eq_some_iff.1 (haccounts.blame error herror)
    exact ⟨steps.dropLast, last, (List.dropLast_append_getLast? last hlast).symm,
      Step.failure?_eq_invocation hfailed⟩

end Messenger
