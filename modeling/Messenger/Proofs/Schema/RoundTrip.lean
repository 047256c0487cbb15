import Messenger.Proofs.Schema.Messages
import Messenger.Wire.Call

/-!
# Requests and responses are read back

1. **Calls**: each call is covered by the form of its tag (`Call.covered`).
2. **Requests**: a request on somebody's behalf contains a request, and is read level by level.
3. **Responses**: each kind has its own form, and the schema of each kind is faithful.

Main statement: `requests_and_responses_read_back`. What is written of a request or of a response is
read as the same value, and so is every other document that says the same: with the members of
objects in another order, with members that the schema does not know, without what is not there.
-/

namespace Messenger

open Schema Schema.Faithful

variable {depth : Nat}

namespace Wire

/-! ## Calls -/

instance : Faithful AccountDaysTtl depth := .single (.record (by decide) fun _ => rfl)

instance : Faithful GetDialogs depth := .record (by decide) fun _ => rfl

instance : Faithful ShippingResults depth := .record (by decide) fun _ => rfl

instance : Faithful UploadMedia depth := .record (by decide) fun _ => rfl

instance : Faithful SendMedia depth := .record (by decide) fun _ => rfl

instance : Faithful SendPaidReaction depth := .record (by decide) fun _ => rfl

instance : Faithful GetUserStarGifts depth := .record (by decide) fun _ => rfl

instance : Faithful SaveStarGift depth := .record (by decide) fun _ => rfl

namespace Call

theorem faithful_argumentRecord {α : Type} [Schema α] [Faithful α depth] {name key : String} :
    @Faithful α (argumentRecord name key) depth :=
  .record (List.pairwise_singleton _ key) fun _ => rfl

theorem faithful_argumentsRecord {α β : Type} [Schema α] [Schema β] [Member α depth]
    [Member β depth] {name first second : String} (hdistinct : first ≠ second) :
    @Faithful (α × β) (argumentsRecord name first second) depth :=
  .record (by simpa using hdistinct) fun _ => rfl

theorem covered : (call : Call) → Covered forms depth call call.view
  | .getPrivacy _ => .tagged faithful_argumentRecord
  | .setPrivacy _ _ => .tagged (faithful_argumentsRecord (by decide))
  | .getAccountTtl => .tagged (.record (by decide) fun _ => rfl)
  | .setAccountTtl _ => .tagged faithful_argumentRecord
  | .updatePersonalChannel _ => .tagged faithful_argumentRecord
  | .searchContacts _ _ => .tagged (faithful_argumentsRecord (by decide))
  | .setBotShippingResults _ => .tagged inferInstance
  | .getDialogs _ => .tagged inferInstance
  | .getPinnedDialogs _ => .tagged faithful_argumentRecord
  | .uploadMedia _ => .tagged inferInstance
  | .sendMedia _ => .tagged inferInstance
  | .sendPaidReaction _ => .tagged inferInstance
  | .getPaymentForm _ _ => .tagged (faithful_argumentsRecord (by decide))
  | .sendStarsForm _ _ => .tagged (faithful_argumentsRecord (by decide))
  | .getStarGifts _ => .tagged faithful_argumentRecord
  | .getUserStarGifts _ => .tagged inferInstance
  | .saveStarGift _ => .tagged inferInstance
  | .convertStarGift _ _ => .tagged (faithful_argumentsRecord (by decide))
  | .checkGiftCode _ => .tagged faithful_argumentRecord
  | .applyGiftCode _ => .tagged faithful_argumentRecord

end Call

/-! ## Requests -/

namespace Request

variable {inner : Schema Request}

/-- The forms of calls are forms of requests. -/
theorem covered_of_call {call : Call} {term : Term} (hcovered : Covered Call.forms depth call term) :
    Covered (forms inner) depth (.call call) term := by
  have hforms {entry : String × Form Call} (hentry : entry ∈ Call.forms) :
      formOfCall entry ∈ forms inner :=
    List.mem_cons_of_mem _ (List.mem_map_of_mem hentry)
  cases hcovered with
  | bare hform => exact .bare (hforms hform)
  | @tagged _ tag schema make _ hfaithful hform hmade =>
    -- to make a call and then a request of it is one step
    have hform : (tag, .of schema (Request.call ∘ make)) ∈ forms inner := by
      have hmem := hforms hform
      simpa only [formOfCall, Form.of, Option.map_map] using hmem
    exact .tagged hfaithful hform (congrArg Request.call hmade)

theorem view_onBehalf (hview : inner.view = view) (connectionId : String) (query : Request) :
    (Request.onBehalf connectionId query).view =
      tagged "InvokeWithBusinessConnection" (behalfRecord inner) (connectionId, query) := by
  rw [view, ← hview]
  rfl

theorem tags_distinct (inner : Schema Request) : ((forms inner).map Prod.fst).Nodup := by
  have htags : (forms inner).map Prod.fst =
      "InvokeWithBusinessConnection" :: Call.forms.map Prod.fst := rfl
  rw [htags]
  decide

end Request

open Request in
instance : Faithful Request depth := .nested fun inner level hview hinner =>
  .ofForms_succ (tags_distinct inner) fun
    | .call c => covered_of_call c.covered
    | .onBehalf connectionId query => by
      rw [view_onBehalf hview]
      exact .tagged (.record (by decide) fun _ => rfl)

/-! ## Responses -/

instance : Faithful Found depth := .single (.record (by decide) fun _ => rfl)

namespace ResponseKind

theorem mem_all (kind : ResponseKind) : kind ∈ all := by
  cases kind <;> decide

theorem faithful : (kind : ResponseKind) → @Faithful kind.Value kind.schema depth
  | .bool => inferInstanceAs (Faithful Bool depth)
  | .privacyRules => inferInstanceAs (Faithful PrivacyRules depth)
  | .accountDaysTtl => inferInstanceAs (Faithful AccountDaysTtl depth)
  | .found => inferInstanceAs (Faithful Found depth)
  | .dialogs => inferInstanceAs (Faithful Dialogs depth)
  | .peerDialogs => inferInstanceAs (Faithful PeerDialogs depth)
  | .messageMedia => inferInstanceAs (Faithful MessageMedia depth)
  | .updates => inferInstanceAs (Faithful Updates depth)
  | .paymentForm => inferInstanceAs (Faithful PaymentForm depth)
  | .paymentResult => inferInstanceAs (Faithful PaymentResult depth)
  | .starGifts => inferInstanceAs (Faithful StarGifts depth)
  | .userStarGifts => inferInstanceAs (Faithful UserStarGifts depth)
  | .checkedGiftCode => inferInstanceAs (Faithful CheckedGiftCode depth)

end ResponseKind

instance : Faithful Response depth := .ofForms (by decide) fun
  | ⟨kind, _⟩ => .tagged kind.faithful (List.mem_map_of_mem kind.mem_all)

end Wire

/-! ## Round trips -/

section

variable {α : Type} [Schema α] (value : α)

/-- All real numbers in the value, which are durations of videos, are finite. -/
def FiniteDurations : Prop :=
  (Schema.view value).isFinite = true

instance : Decidable (FiniteDurations value) :=
  inferInstanceAs (Decidable (_ = true))

/-- What is written of the value is read as the value, and so is every document that says the same:
the members of each object in any order, those of unknown names added to a record, those of fields
that are not there left out. -/
def ReadsBack : Prop :=
  Schema.read (Schema.write value) = some value ∧
    ∀ document, Term.Renders (Schema.view value) document → Schema.read document = some value

end

theorem readsBack_of_faithful {α : Type} [Schema α] (hfaithful : ∀ depth, Faithful α depth)
    {value : α} (hfinite : FiniteDurations value) : ReadsBack value := by
  have hread (document : Json) (hrenders : Term.Renders (Schema.view value) document) :
      Schema.read document = some value :=
    (hfaithful document.depth).read_of_renders hrenders (Nat.le_refl _)
  exact ⟨hread _ (Term.renders_toJson _ hfinite), hread⟩

open Wire

/-- The JSON form loses nothing of a request or of a response, and readers do not mind the order of
members, unknown members, or missing members of what is not there. -/
theorem requests_and_responses_read_back (request : Request) (response : Response)
    (hrequest : FiniteDurations request) (hresponse : FiniteDurations response) :
    ReadsBack request ∧ ReadsBack response :=
  ⟨readsBack_of_faithful (fun _ => inferInstance) hrequest,
    readsBack_of_faithful (fun _ => inferInstance) hresponse⟩

example : Schema.read (.obj [("Folder", .obj [("new", .null), ("title", .str "Work"),
    ("id", .integer 1)])]) = some (Folder.mk 1 "Work") := by decide

/-- A video of twelve and a half seconds. -/
def shortVideo : DocumentAttribute :=
  .video { (default : VideoAttributes) with duration := 12.5 }

/-- A business account sends the video for stars. -/
def paidVideoRequest : Request :=
  let video : UploadedDocument := { (default : UploadedDocument) with attributes := [shortVideo] }
  let media : InputMedia := .paidMedia ⟨5, [.uploadedDocument video, .empty], none⟩
  .onBehalf "shop" (.call (.sendMedia { (default : SendMedia) with media }))

/-- A payment led to a message with an invoice, and the video behind it is paid for. -/
def paidVideoResponse : Response :=
  let document : Document := { (default : Document) with attributes := [shortVideo] }
  let video : MessageMedia :=
    .document { (default : DocumentMedia) with document := some (.document document) }
  let media : MessageMedia := .paidMedia ⟨5, [.preview default, .media video]⟩
  let message : Wire.Message := .content { (default : ContentMessage) with media := some media }
  ⟨.paymentResult, .paid (.short (.newScheduledMessage message) 0)⟩

theorem paid_videos_read_back : FiniteDurations paidVideoRequest ∧
    FiniteDurations paidVideoResponse ∧ ReadsBack paidVideoRequest ∧ ReadsBack paidVideoResponse := by
  have hrequest : FiniteDurations paidVideoRequest := by decide
  have hresponse : FiniteDurations paidVideoResponse := by decide
  exact ⟨hrequest, hresponse, requests_and_responses_read_back _ _ hrequest hresponse⟩

end Messenger
