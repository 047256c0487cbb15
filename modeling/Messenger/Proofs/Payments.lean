import Messenger.Client.Gifts
import Messenger.Proofs.Steps

/-!
# Payments with stars

A purchase (`Purchase`) is paid in two requests, of which the second confirms the form that the
first one asked for.

1. **Naming** (`Purchase.named`): the invoice that the requests name is known before any is sent.
2. **Paying** (`Paying`): the requests that are sent for an invoice, and what comes of them.

Main statement: `payments_confirm_their_form`.
-/

namespace Messenger

/-! ## Requests -/

namespace Wire

/-- Asks for the form of an invoice. -/
def askForm (invoice : InputInvoice) : Request :=
  .call (.getPaymentForm invoice none)

/-- Confirms the form with the identifier for an invoice. -/
def confirmForm (formId : Int64) (invoice : InputInvoice) : Request :=
  .call (.sendStarsForm formId invoice)

/-- The identifier that a form of each kind came with. -/
inductive PaymentForm.HasId : PaymentForm → Int64 → Prop
  | provider (form : ProviderForm) : HasId (.provider form) form.formId
  | stars (form : StarsForm) : HasId (.stars form) form.formId
  | starGift (formId : Int64) (invoice : Invoice) : HasId (.starGift formId invoice) formId

theorem PaymentForm.hasId_formId (form : PaymentForm) : form.HasId form.formId := by
  cases form with
  | provider form => exact .provider form
  | stars form => exact .stars form
  | starGift formId invoice => exact .starGift formId invoice

end Wire

/-! ## Paying -/

/-- What is sent to pay an invoice, and what comes of it. -/
inductive Paying (invoice : Wire.InputInvoice) : List Step → Except MethodError Bool → Prop
  /-- No form came. -/
  | refused {answer : Answer} {error : CallError}
      (failed : Client.receive (Wire.askForm invoice) answer = .error error) :
      Paying invoice [.sent (Wire.askForm invoice) answer] (.error (.invocation error))
  /-- The form was not confirmed. -/
  | unconfirmed {form : Wire.PaymentForm} {formId : Int64} {answer : Answer} {error : CallError}
      (hasId : form.HasId formId)
      (failed : Client.receive (Wire.confirmForm formId invoice) answer = .error error) :
      Paying invoice
        [.sent (Wire.askForm invoice) (.ok ⟨.paymentForm, form⟩),
          .sent (Wire.confirmForm formId invoice) answer]
        (.error (.invocation error))
  /-- The payer has to confirm the payment elsewhere. -/
  | unverified {form : Wire.PaymentForm} {formId : Int64} (hasId : form.HasId formId)
      (url : String) :
      Paying invoice
        [.sent (Wire.askForm invoice) (.ok ⟨.paymentForm, form⟩),
          .sent (Wire.confirmForm formId invoice) (.ok ⟨.paymentResult, .verificationNeeded url⟩)]
        (.error (.invalidArgument (.verification url)))
  | paid {form : Wire.PaymentForm} {formId : Int64} (hasId : form.HasId formId)
      (updates : Wire.Updates) :
      Paying invoice
        [.sent (Wire.askForm invoice) (.ok ⟨.paymentForm, form⟩),
          .sent (Wire.confirmForm formId invoice) (.ok ⟨.paymentResult, .paid updates⟩)]
        (.ok true)

namespace Paying

variable {invoice : Wire.InputInvoice} {turns : List Step} {result : Except MethodError Bool}

/-- The form is asked for, and it is confirmed for the same invoice exactly if it came. -/
theorem turns_eq (hpaying : Paying invoice turns result) :
    (∃ answer, turns = [.sent (Wire.askForm invoice) answer] ∧
        ∀ form, answer ≠ .ok ⟨.paymentForm, form⟩) ∨
      ∃ (form : Wire.PaymentForm) (formId : Int64) (answer : Answer), form.HasId formId ∧
        turns = [.sent (Wire.askForm invoice) (.ok ⟨.paymentForm, form⟩),
          .sent (Wire.confirmForm formId invoice) answer] := by
  cases hpaying with
  | @refused answer error hfailed =>
    refine Or.inl ⟨answer, rfl, ?_⟩
    rintro form rfl
    cases (Client.receive_eq_ok_iff.2 rfl).symm.trans hfailed
  | unconfirmed hasId => exact Or.inr ⟨_, _, _, hasId, rfl⟩
  | unverified hasId => exact Or.inr ⟨_, _, _, hasId, rfl⟩
  | paid hasId => exact Or.inr ⟨_, _, _, hasId, rfl⟩

/-- Paying succeeds exactly if the payment went through. -/
theorem result_eq_true_iff (hpaying : Paying invoice turns result) :
    result = .ok true ↔ ∃ first confirmation updates,
      turns = [first, .sent confirmation (.ok ⟨.paymentResult, .paid updates⟩)] := by
  cases hpaying with
  | refused => simp
  | @unconfirmed form formId answer error _ hfailed =>
    refine ⟨by simp, ?_⟩
    rintro ⟨first, confirmation, updates, hturns⟩
    obtain ⟨-, -, rfl⟩ : _ ∧ _ ∧ answer = .ok ⟨.paymentResult, .paid updates⟩ := by
      simpa using hturns
    cases (Client.receive_eq_ok_iff.2 rfl).symm.trans hfailed
  | unverified => simp
  | paid => simp

theorem result_ne_false (hpaying : Paying invoice turns result) : result ≠ .ok false := by
  cases hpaying <;> simp

/-- A payment that needs verification is refused. -/
theorem result_eq_of_verification (hpaying : Paying invoice turns result) {first : Step}
    {confirmation : Wire.Request} {url : String}
    (hturns : turns =
      [first, .sent confirmation (.ok ⟨.paymentResult, .verificationNeeded url⟩)]) :
    result = .error (.invalidArgument (.verification url)) := by
  cases hpaying with
  | refused => simp at hturns
  | @unconfirmed form formId answer error _ hfailed =>
    obtain ⟨-, -, rfl⟩ : _ ∧ _ ∧ answer = .ok ⟨.paymentResult, .verificationNeeded url⟩ := by
      simpa using hturns
    cases (Client.receive_eq_ok_iff.2 rfl).symm.trans hfailed
  | unverified _ address =>
    obtain ⟨-, -, rfl⟩ : _ ∧ _ ∧ address = url := by simpa using hturns
    rfl
  | paid => simp at hturns

/-- Only the last request failed, and its failure is that of the payment. -/
theorem failsLast (hpaying : Paying invoice turns result) : FailsLast turns result := by
  have hform (form : Wire.PaymentForm) :
      (Step.sent (Wire.askForm invoice) (.ok ⟨.paymentForm, form⟩)).failure? = none :=
    Step.failure?_sent_ok (Wire.askForm invoice) form
  have hconfirmed (formId : Int64) (result : Wire.PaymentResult) :
      (Step.sent (Wire.confirmForm formId invoice) (.ok ⟨.paymentResult, result⟩)).failure? =
        none := Step.failure?_sent_ok (Wire.confirmForm formId invoice) result
  cases hpaying with
  | refused hfailed => exact .single (by simp [Step.failure?_sent_of_error hfailed])
  | @unconfirmed form _ _ _ _ hfailed =>
    exact .cons (hform form) (.single (by simp [Step.failure?_sent_of_error hfailed]))
  | unverified => exact .of_succeeds (by simp [hform, hconfirmed])
  | paid => exact .of_succeeds (by simp [hform, hconfirmed])

end Paying

namespace Client

/-- Paying an invoice takes one of the courses. -/
theorem takes_payWithStars (invoice : Wire.InputInvoice) (services : Services) (world : World) :
    ∃ turns result, Paying invoice turns result ∧
      Takes (payWithStars invoice) services world turns result := by
  rcases invoke_cases (Wire.askForm invoice) services world with
    ⟨form, hask⟩ | ⟨answer, error, hfailed, hask⟩
  · have hasId := form.hasId_formId
    rcases invoke_cases (Wire.confirmForm form.formId invoice) services
        (invoke (Wire.askForm invoice) services world).2 with
      ⟨result, hconfirm⟩ | ⟨answer, error, hfailed, hconfirm⟩
    · cases result with
      | paid updates =>
        exact ⟨_, _, .paid hasId updates, hask.lift.bind (hconfirm.lift.bind (takes_pure true _ _))⟩
      | verificationNeeded url =>
        exact ⟨_, _, .unverified hasId url, hask.lift.bind (hconfirm.lift.bind (takes_throw _ _ _))⟩
    · exact ⟨_, _, .unconfirmed hasId hfailed, hask.lift.bind hconfirm.lift.bind_error⟩
  · exact ⟨_, _, .refused hfailed, hask.lift.bind_error⟩

/-- The user that was found, unless the reference leads to something else or nowhere. -/
def foundUser (chat : ChatRef) (answer : Except CallError (Option Wire.InputPeer)) :
    Except MethodError Wire.InputUser :=
  match found chat answer with
  | .error error => .error error
  | .ok peer =>
    match peer.user? with
    | some user => .ok user
    | none => .error (.invalidArgument .chatNotUser)

theorem takes_userOf (chat : ChatRef) (services : Services) (world : World) :
    Takes (userOf chat) services world [.resolved chat (services.resolve chat)]
      (foundUser chat (services.resolve chat)) := by
  have hpeer := takes_peerOf chat services world
  unfold foundUser
  cases hfound : found chat (services.resolve chat) with
  | error error =>
    rw [hfound] at hpeer
    exact hpeer.bind_error
  | ok peer =>
    rw [hfound] at hpeer
    refine hpeer.bind_nil ?_
    dsimp only
    cases peer.user? with
    | none => exact takes_throw _ _ _
    | some user => exact takes_pure _ _ _

end Client

/-! ## Purchases -/

/-- Something that is paid with stars. -/
inductive Purchase where
  /-- What an invoice asks to be paid. -/
  | invoiced (chat : ChatRef) (reference : InvoiceRef)
  /-- A gift for a user. -/
  | gift (chat : ChatRef) (giftId : Int64) (text : Option DraftText) (hideName : Bool)

namespace Purchase

/-- Pays for the purchase. -/
def pay : Purchase → Client MethodError Bool
  | .invoiced chat reference => Client.payInvoice chat reference
  | .gift chat giftId text hideName => Client.buyGift chat giftId text hideName

/-- The steps that come before any request: an invoice behind a link needs none. -/
def naming (services : Services) : Purchase → List Step
  | .invoiced chat (.message _) => [.resolved chat (services.resolve chat)]
  | .invoiced _ (.link _) => []
  | .gift chat _ _ _ => [.resolved chat (services.resolve chat)]

/-- The invoice that the requests name, unless the chat is not found or is not fit for it. -/
def named (services : Services) : Purchase → Except MethodError Wire.InputInvoice
  | .invoiced chat (.message id) =>
    (Client.found chat (services.resolve chat)).map (.message · id)
  | .invoiced _ (.link link) => .ok (.slug (Link.invoiceSlug link))
  | .gift chat giftId text hideName =>
    (Client.foundUser chat (services.resolve chat)).map fun user =>
      .starGift ⟨hideName, user, giftId, Client.giftText services text⟩

/-- The invoice is named first, and then it is paid. -/
theorem takes_pay (purchase : Purchase) (services : Services) (world : World) :
    ∃ turns result,
      Client.Takes purchase.pay services world (purchase.naming services ++ turns) result ∧
        ((∃ error, purchase.named services = .error error ∧ turns = [] ∧ result = .error error) ∨
          ∃ invoice, purchase.named services = .ok invoice ∧ Paying invoice turns result) := by
  match purchase with
  | .invoiced chat (.message id) =>
    have hpeer := Client.takes_peerOf chat services world
    cases hfound : Client.found chat (services.resolve chat) with
    | error error =>
      rw [hfound] at hpeer
      have hnamed : named services (.invoiced chat (.message id)) = .error error := by
        rw [named, hfound]
        rfl
      exact ⟨[], _, hpeer.bind_error.bind_error, Or.inl ⟨error, hnamed, rfl, rfl⟩⟩
    | ok peer =>
      rw [hfound] at hpeer
      have hnamed : named services (.invoiced chat (.message id)) = .ok (.message peer id) := by
        rw [named, hfound]
        rfl
      have hinvoice : Client.Takes (Client.inputInvoice chat (.message id)) services world _ _ :=
        hpeer.bind_nil (Client.takes_pure (Wire.InputInvoice.message peer id) _ _)
      obtain ⟨turns, result, hpaying, htakes⟩ :=
        Client.takes_payWithStars (.message peer id) services
          (Client.inputInvoice chat (.message id) services world).2
      exact ⟨turns, result, hinvoice.bind htakes, Or.inr ⟨_, hnamed, hpaying⟩⟩
  | .invoiced chat (.link link) =>
    obtain ⟨turns, result, hpaying, htakes⟩ :=
      Client.takes_payWithStars (.slug (Link.invoiceSlug link)) services world
    exact ⟨turns, result, (Client.takes_pure _ services world).bind htakes,
      Or.inr ⟨_, rfl, hpaying⟩⟩
  | .gift chat giftId text hideName =>
    have huser := Client.takes_userOf chat services world
    cases hfound : Client.foundUser chat (services.resolve chat) with
    | error error =>
      rw [hfound] at huser
      have hnamed : named services (.gift chat giftId text hideName) = .error error := by
        rw [named, hfound]
        rfl
      exact ⟨[], _, huser.bind_error, Or.inl ⟨error, hnamed, rfl, rfl⟩⟩
    | ok user =>
      rw [hfound] at huser
      have hnamed : named services (.gift chat giftId text hideName) =
          .ok (.starGift ⟨hideName, user, giftId, Client.giftText services text⟩) := by
        rw [named, hfound]
        rfl
      obtain ⟨turns, result, hpaying, htakes⟩ :=
        Client.takes_payWithStars
          (.starGift ⟨hideName, user, giftId, Client.giftText services text⟩) services
          (Client.userOf chat services world).2
      exact ⟨turns, result, huser.bind ((Client.takes_read services _).bind htakes),
        Or.inr ⟨_, hnamed, hpaying⟩⟩

end Purchase

/-! ## Main statement -/

/-- Whatever is bought, and whatever is resolved and answered: nothing is sent unless the invoice
can be named; then its form is asked for; and the form is confirmed, under the identifier that it
came with and for the same invoice, exactly if it came. Paying succeeds exactly if the confirmation
is answered with a payment that went through, and never says that it did not; a payment that needs
verification is refused; and a request that fails is the last one, and its failure that of the
payment. -/
theorem payments_confirm_their_form (purchase : Purchase) (services : Services) (world : World) :
    let outcome := purchase.pay services world
    ∃ turns : List Step,
      Performs services world (purchase.naming services ++ turns) outcome.2 ∧
      ((∃ error, purchase.named services = .error error ∧ turns = [] ∧ outcome.1 = .error error) ∨
        ∃ invoice, purchase.named services = .ok invoice ∧
          ((∃ answer, turns = [.sent (Wire.askForm invoice) answer] ∧
              ∀ form, answer ≠ .ok ⟨.paymentForm, form⟩) ∨
            ∃ (form : Wire.PaymentForm) (formId : Int64) (answer : Answer), form.HasId formId ∧
              turns = [.sent (Wire.askForm invoice) (.ok ⟨.paymentForm, form⟩),
                .sent (Wire.confirmForm formId invoice) answer])) ∧
      (outcome.1 = .ok true ↔ ∃ first confirmation updates,
        turns = [first, .sent confirmation (.ok ⟨.paymentResult, .paid updates⟩)]) ∧
      outcome.1 ≠ .ok false ∧
      (∀ first confirmation url,
        turns = [first, .sent confirmation (.ok ⟨.paymentResult, .verificationNeeded url⟩)] →
          outcome.1 = .error (.invalidArgument (.verification url))) ∧
      (∀ step ∈ turns.dropLast, step.failure? = none) ∧
      ∀ error, turns.getLast?.bind Step.failure? = some error → outcome.1 = .error error := by
  intro outcome
  obtain ⟨turns, result, htakes, hcourse⟩ := purchase.takes_pay services world
  have hresult : outcome.1 = result := htakes.result_eq
  refine ⟨turns, htakes.performs, ?_⟩
  rw [hresult]
  rcases hcourse with ⟨error, hnamed, rfl, rfl⟩ | ⟨invoice, hnamed, hpaying⟩
  · exact ⟨Or.inl ⟨error, hnamed, rfl, rfl⟩, by simp⟩
  · exact ⟨Or.inr ⟨invoice, hnamed, hpaying.turns_eq⟩, hpaying.result_eq_true_iff,
      hpaying.result_ne_false, fun _ _ _ => hpaying.result_eq_of_verification,
      hpaying.failsLast.earlier, hpaying.failsLast.last⟩

end Messenger
