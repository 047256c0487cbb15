import Messenger.Proofs.Methods.Catalogue
import Messenger.Proofs.Paging.Exchange
import Messenger.Proofs.Posts
import Messenger.Proofs.Unchanged

/-!
# How methods number their requests

Requests that send something carry a number. A method takes it just before it sends the request, so
that no failure comes in between.

1. **Numbers** (`World.numbering`): where the next number comes from, and which ones were sent.
2. **Runs without numbers** (`Client.Untagged`): a run that takes no number and sends none, so that
   the numbers are kept. A run that is made of such runs is one, so it is enough to look at the single
   steps.
3. **Runs with one number** (`Client.Numbered`): a run that takes a number and sends it, unless it
   fails before.
4. **Methods** (`Method.numbered`, `Method.untagged`): posts and reactions are such runs, and all
   other methods take no numbers.
-/

namespace Messenger

variable {α β : Type}

/-! ## Numbers -/

namespace Wire

/-- The number of the call, if it carries one. -/
def Call.randomId? : Call → Option Int64
  | .sendMedia arguments => some arguments.randomId
  | .sendPaidReaction arguments => some arguments.randomId
  | _ => none

/-- The number that a request carries, also on behalf of somebody. -/
def Request.randomId? (request : Request) : Option Int64 :=
  request.innermost.randomId?

end Wire

namespace World

/-- The numbers that were sent, in order. -/
def randomIds (world : World) : List Int64 :=
  world.sent.filterMap Wire.Request.randomId?

/-- Where the next number comes from, and the numbers that were sent. -/
def numbering (world : World) : RandomIdCounter × List Int64 :=
  (world.nextRandomId, world.randomIds)

end World

namespace Client

variable {ε : Type}

/-- A request that carries a number adds it to those that were sent. -/
theorem numbering_invoke (request : Wire.Request) (services : Services) (world : World) :
    (invoke request services world).2.numbering =
      (world.nextRandomId, world.randomIds ++ request.randomId?.toList) := by
  rw [invoke_apply]
  cases hid : request.randomId? <;>
    simp [World.numbering, World.randomIds, World.sent, List.filterMap_cons, hid]

theorem numbering_runOnBehalf (call : Wire.Call) (connectionId : Option String)
    (services : Services) (world : World) :
    (runOnBehalf call connectionId services world).2.numbering =
      (world.nextRandomId, world.randomIds ++ call.randomId?.toList) := by
  cases connectionId with
  | none => exact numbering_invoke (.call call) services world
  | some id => exact numbering_invoke (.onBehalf id (.call call)) services world

/-! ## Runs without numbers -/

/-- The run takes no number and sends none. -/
def Untagged (run : Client ε α) : Prop :=
  ∀ services world, (run services world).2.numbering = world.numbering

theorem untagged_pure (value : α) : Untagged (pure value : Client ε α) :=
  keeps_pure World.numbering value

theorem untagged_throw (error : ε) : Untagged (throw error : Client ε α) :=
  keeps_throw World.numbering error

theorem untagged_read : Untagged (read : Client ε Services) :=
  keeps_read World.numbering

theorem untagged_warned (value : Warned α) : Untagged (warned value : Client ε α) := by
  intro services world
  rw [warned_apply]
  simp [World.numbering, World.randomIds, World.sent]

/-- To warn of something takes no number either. -/
theorem untagged_warn (warning : Warning) : Untagged (record (.warned warning) : Client ε Unit) :=
  untagged_warned ⟨(), [warning]⟩

theorem untagged_invoke {request : Wire.Request} (hid : request.randomId? = none) :
    Untagged (invoke request) := by
  intro services world
  rw [numbering_invoke, hid, Option.toList_none, List.append_nil]
  rfl

theorem untagged_run {call : Wire.Call} (hid : call.randomId? = none) : Untagged (run call) := by
  have hrequest : (Wire.Request.call call).randomId? = none := hid
  exact untagged_invoke hrequest

theorem untagged_peerOf (chat : ChatRef) : Untagged (peerOf chat) := by
  intro services world
  rw [peerOf_apply]
  simp [World.numbering, World.randomIds, World.sent, Event.request?]

theorem untagged_upload (file : LocalFile) : Untagged (upload file) := by
  intro services world
  rw [upload_apply]
  simp [World.numbering, World.randomIds, World.sent, Event.request?]

/-- A run that may only fail with a request takes no number where methods fail for other reasons. -/
theorem Untagged.lift {run : Client CallError α} (hrun : Untagged run) :
    Untagged (liftM run : Client MethodError α) :=
  Keeps.lift World.numbering hrun

/-- What takes no number may follow or not: the numbers are those of the first part. -/
theorem numbering_bind (first : Client ε α) {next : α → Client ε β}
    (hnext : ∀ value, Untagged (next value)) (services : Services) (world : World) :
    ((first >>= next) services world).2.numbering = (first services world).2.numbering :=
  observe_bind World.numbering first hnext services world

/-- Runs without numbers one after the other are a run without numbers. -/
theorem Untagged.bind {first : Client ε α} {next : α → Client ε β} (hfirst : Untagged first)
    (hnext : ∀ value, Untagged (next value)) : Untagged (first >>= next) :=
  Keeps.bind World.numbering hfirst hnext

theorem Untagged.map {run : Client ε α} (hrun : Untagged run) (f : α → β) :
    Untagged (run >>= fun value => pure (f value)) :=
  Keeps.map World.numbering hrun f

theorem Untagged.mapM {run : α → Client ε β} (hrun : ∀ value, Untagged (run value))
    (values : List α) : Untagged (values.mapM run) :=
  Keeps.mapM World.numbering hrun values

theorem Untagged.mapM_option {run : α → Client ε β} (hrun : ∀ value, Untagged (run value))
    (value? : Option α) : Untagged (value?.mapM run) :=
  Keeps.mapM_option World.numbering hrun value?

/-! ## Iterators -/

section Iterators

variable {ρ : Type} [Paged ρ α]

/-- The pages of a list are asked for without numbers. -/
def PagesUntagged (ρ : Type) [Paged ρ α] : Prop :=
  ∀ (position : ρ) size, (Paged.call position size).randomId? = none

theorem untagged_fetch (hpages : PagesUntagged ρ) (pages : Pages ρ α) : Untagged pages.fetch :=
  (untagged_run (hpages pages.position pages.pageSize)).bind fun _ =>
    (untagged_warned _).map _

/-- However many pages it takes to give out an item. -/
theorem untagged_take (hpages : PagesUntagged ρ) (pages : Pages ρ α) : Untagged pages.take := by
  intro services world
  change (pages.next services world).world.numbering = world.numbering
  -- induction on the pages that are fetched until there is an item to give out
  induction pages, world using @Pages.next.induct ρ α inferInstance services with
  | case1 pages world item pages' hready => rw [Pages.next_of_ready hready]
  | case2 pages world hready error world' hfetch =>
    have hfetched := untagged_fetch hpages pages services world
    rw [hfetch] at hfetched
    rw [Pages.next_of_failed hready hfetch]
    exact hfetched
  | case3 pages world hready pages' world' hfetch ih =>
    have hfetched := untagged_fetch hpages pages services world
    rw [hfetch] at hfetched
    rw [Pages.next_of_fetched hready hfetch]
    exact ih.trans hfetched

theorem untagged_askTotal (hpages : PagesUntagged ρ) (pages : Pages ρ α) :
    Untagged pages.askTotal := by
  unfold Pages.askTotal
  cases pages.total with
  | some total => exact untagged_pure (total, pages)
  | none => exact (untagged_run (hpages pages.position 1)).map _

theorem untagged_countAll (hpages : PagesUntagged ρ) (pages : Pages ρ α) :
    Untagged pages.countAll :=
  (untagged_askTotal hpages pages).map Prod.fst

end Iterators

theorem dialogs_untagged : PagesUntagged DialogPosition :=
  fun _ _ => rfl

theorem gifts_untagged : PagesUntagged GiftPosition :=
  fun _ _ => rfl

/-! ## Parts of methods -/

theorem untagged_userOf (chat : ChatRef) : Untagged (userOf chat) :=
  keeps_user untagged_peerOf chat .chatNotUser

theorem untagged_ruleOf (rule : PrivacyRequest) : Untagged (ruleOf rule) :=
  keeps_ruleOf untagged_peerOf rule

theorem untagged_setProfileChannel (chat : Option ChatRef) :
    Untagged (setProfileChannel chat) := by
  cases chat with
  | none => exact (untagged_run rfl).lift
  | some chat =>
    refine (untagged_peerOf chat).bind fun peer => ?_
    split
    · exact (untagged_run rfl).lift
    · exact (untagged_warn _).bind fun _ => untagged_pure false

theorem untagged_answerShipping (id : String) (ok : Bool) (options : List ShippingOption)
    (error : Option String) : Untagged (answerShipping id ok options error) := by
  unfold answerShipping
  cases ok && options.isEmpty with
  | true => exact untagged_throw _
  | false =>
    cases Text.readInt64? id.toList with
    | none => exact untagged_throw _
    | some queryId => exact (untagged_run rfl).lift

theorem untagged_dialogsCount (pinnedOnly : Bool) (fromArchive : Option Bool) :
    Untagged (dialogsCount pinnedOnly fromArchive) := by
  unfold dialogsCount
  split
  · exact (untagged_run rfl).map _
  · exact (untagged_run rfl).map _

theorem untagged_giftCatalogue : Untagged giftCatalogue := by
  refine (untagged_run rfl).bind fun answer => ?_
  cases answer with
  | gifts hash gifts => exact untagged_warned _
  | notModified => exact (untagged_warn _).bind fun _ => untagged_pure []

theorem untagged_inputInvoice (chat : ChatRef) (invoice : InvoiceRef) :
    Untagged (inputInvoice chat invoice) := by
  cases invoice with
  | message id => exact (untagged_peerOf chat).map _
  | link link => exact untagged_pure _

theorem untagged_payWithStars (invoice : Wire.InputInvoice) : Untagged (payWithStars invoice) := by
  refine (untagged_run rfl).lift.bind fun form => (untagged_run rfl).lift.bind fun result => ?_
  cases result with
  | paid updates => exact untagged_pure true
  | verificationNeeded url => exact untagged_throw _

theorem untagged_requireOrigin (gift : StarGift) : Untagged gift.requireOrigin := by
  unfold StarGift.requireOrigin
  split
  · exact untagged_pure _
  · exact untagged_throw _

theorem untagged_namePhoto (spoiler : Bool) (kept : Wire.MessageMedia) :
    Untagged (namePhoto spoiler kept) := by
  unfold namePhoto
  cases kept.keptPhoto? with
  | some photo => exact untagged_pure _
  | none => exact untagged_throw _

theorem untagged_nameVideo (spoiler : Bool) (kept : Wire.MessageMedia) :
    Untagged (nameVideo spoiler kept) := by
  unfold nameVideo
  cases kept.keptDocument? with
  | some document => exact untagged_pure _
  | none => exact untagged_throw _

/-- To make an item known to the server takes no number. -/
theorem untagged_sendableItem (peer : Wire.InputPeer) (connectionId : Option String)
    (item : MediaItem) : Untagged (sendableItem peer connectionId item) := by
  rcases item with ⟨_ | details, file | file, spoiler⟩
  · exact (untagged_upload file).bind fun _ =>
      (untagged_run rfl).lift.bind fun kept => untagged_namePhoto spoiler kept
  · exact untagged_pure _
  · exact untagged_read.bind fun _ =>
      (Untagged.mapM_option untagged_upload details.thumb).bind fun _ =>
        (untagged_upload file).bind fun _ =>
          (untagged_run rfl).lift.bind fun kept => untagged_nameVideo spoiler kept
  · exact untagged_pure _

/-! ## Runs with one number -/

/-- The run takes the next number and sends it, or it takes no number, sends none and fails. -/
def Numbered (run : Client ε α) : Prop :=
  ∀ services world,
    ((∃ error, (run services world).1 = .error error) ∧
        (run services world).2.numbering = world.numbering) ∨
      (run services world).2.numbering =
        (world.nextRandomId.advance, world.randomIds ++ [world.nextRandomId.value])

theorem numbered_throw (error : ε) : Numbered (throw error : Client ε α) :=
  fun _ _ => Or.inl ⟨⟨error, rfl⟩, rfl⟩

/-- A run without numbers may come first, and may fail. -/
theorem Untagged.bind_numbered {first : Client ε α} {next : α → Client ε β}
    (hfirst : Untagged first) (hnext : ∀ value, Numbered (next value)) :
    Numbered (first >>= next) := by
  intro services world
  have hleft := hfirst services world
  rw [bind_apply]
  rcases hrun : first services world with ⟨error | value, world'⟩
  · rw [hrun] at hleft
    exact Or.inl ⟨⟨error, rfl⟩, hleft⟩
  · rw [hrun] at hleft
    obtain ⟨hnumber, hids⟩ := Prod.mk.inj hleft
    have hright := hnext value services world'
    rwa [hleft, hnumber, hids] at hright

/-- The run sends the number once, and takes none. -/
def Sends (id : Int64) (run : Client ε α) : Prop :=
  ∀ services world,
    (run services world).2.numbering = (world.nextRandomId, world.randomIds ++ [id])

theorem sends_runOnBehalf {call : Wire.Call} {id : Int64} (hid : call.randomId? = some id)
    (connectionId : Option String) : Sends id (runOnBehalf call connectionId) := by
  intro services world
  rw [numbering_runOnBehalf, hid, Option.toList_some]

theorem Sends.lift {id : Int64} {run : Client CallError α} (hrun : Sends id run) :
    Sends id (liftM run : Client MethodError α) := by
  intro services world
  rw [lift_apply]
  exact hrun services world

/-- A run without numbers may follow. -/
theorem Sends.bind {id : Int64} {first : Client ε α} {next : α → Client ε β}
    (hfirst : Sends id first) (hnext : ∀ value, Untagged (next value)) :
    Sends id (first >>= next) := by
  intro services world
  rw [numbering_bind first hnext]
  exact hfirst services world

/-- A number that is taken is sent next, so that nothing can fail in between. -/
theorem Sends.numbered {run : Int64 → Client ε α} (hrun : ∀ id, Sends id (run id)) :
    Numbered (newRandomId >>= run) := by
  intro services world
  right
  rw [bind_apply, newRandomId_apply]
  exact hrun _ services _

theorem numbered_sendPrepared (post : PaidPost) (peer : Wire.InputPeer)
    (items : List Wire.InputMedia) : Numbered (sendPrepared post peer items) := by
  refine untagged_read.bind_numbered fun services => Sends.numbered fun id => ?_
  exact (sends_runOnBehalf rfl post.businessConnectionId).lift.bind fun _ => untagged_pure _

/-- Everything that can fail before a post is sent comes before its number is taken. -/
theorem numbered_sendPost (chat : ChatRef) (post : PaidPost) : Numbered (sendPost chat post) := by
  cases hfit : post.sizeFits with
  | false =>
    rw [sendPost, hfit]
    exact numbered_throw (MethodError.invalidArgument (.paidMediaCount post.media.length))
  | true =>
    -- the chat and all items come before the number
    rw [sendPost_of_fit chat hfit]
    refine (untagged_peerOf chat).bind_numbered fun peer => ?_
    have hitems := Untagged.mapM (untagged_sendableItem peer post.businessConnectionId) post.media
    exact hitems.bind_numbered fun items => numbered_sendPrepared post peer items

theorem numbered_payReaction (chat : ChatRef) (messageId count : Int32) (isPrivate : Option Bool) :
    Numbered (payReaction chat messageId count isPrivate) := by
  refine (untagged_peerOf chat).bind_numbered fun peer => Sends.numbered fun id => ?_
  exact (sends_runOnBehalf rfl none).lift.bind fun _ => untagged_pure true

end Client

/-! ## Methods -/

namespace Method

/-- The request, if it is handed in as it is. -/
def request? : Method α → Option Wire.Request
  | .invoke request => some request
  | _ => none

/-- A request that is handed in takes no number, whatever it carries. -/
theorem nextRandomId_of_request {method : Method α} {request : Wire.Request}
    (hrequest : method.request? = some request) (services : Services) (world : World) :
    (method.run services world).2.nextRandomId = world.nextRandomId := by
  cases method with
  | invoke request => exact congrArg Prod.fst (Client.numbering_invoke request services world)
  | _ => cases hrequest

/-- The method builds a request with a number. -/
def isNumbered : Method α → Bool
  | .sendPost _ _ => true
  | .payReaction _ _ _ _ => true
  | _ => false

theorem isNumbered_of_request {method : Method α} {request : Wire.Request}
    (hrequest : method.request? = some request) : method.isNumbered = false := by
  cases method with
  | invoke request => rfl
  | _ => cases hrequest

/-- The other methods take no numbers, and build no requests with numbers. -/
theorem untagged {method : Method α} (hrequest : method.request? = none)
    (hnumbered : method.isNumbered = false) : Client.Untagged method.run := by
  cases method with
  | invoke request => cases hrequest
  | peerOf chat => exact Client.untagged_peerOf chat
  | privacy key =>
    exact ((Client.untagged_run rfl).bind fun _ => Client.untagged_warned _).lift
  | replacePrivacy key rules =>
    exact (Client.Untagged.mapM Client.untagged_ruleOf rules).bind fun _ =>
      (Client.untagged_run rfl).lift.bind fun _ => Client.untagged_warned _
  | accountLifetime => exact ((Client.untagged_run rfl).map _).lift
  | setAccountLifetime days => exact (Client.untagged_run rfl).lift
  | setProfileChannel chat => exact Client.untagged_setProfileChannel chat
  | search query limit =>
    exact ((Client.untagged_run rfl).bind fun _ => Client.untagged_warned _).lift
  | answerShipping id ok options error => exact Client.untagged_answerShipping id ok options error
  | dialogsCount pinnedOnly fromArchive =>
    exact (Client.untagged_dialogsCount pinnedOnly fromArchive).lift
  | inspectGiftCode link => exact ((Client.untagged_run rfl).map _).lift
  | claimGiftCode link =>
    exact ((Client.untagged_run rfl).bind fun _ => Client.untagged_pure true).lift
  | paymentForm chat invoice =>
    exact (Client.untagged_inputInvoice chat invoice).bind fun _ =>
      (Client.untagged_run rfl).lift.map _
  | payInvoice chat invoice =>
    exact (Client.untagged_inputInvoice chat invoice).bind Client.untagged_payWithStars
  | giftCatalogue => exact Client.untagged_giftCatalogue.lift
  | buyGift chat giftId text hideName =>
    exact (Client.untagged_userOf chat).bind fun _ =>
      Client.untagged_read.bind fun _ => Client.untagged_payWithStars _
  | giftsOf chat => exact (Client.untagged_userOf chat).map _
  | giftsCount chat =>
    exact ((Client.untagged_userOf chat).map _).bind fun gifts =>
      (Client.untagged_askTotal Client.gifts_untagged gifts).lift.map _
  | showGift chat messageId =>
    exact (Client.untagged_userOf chat).bind fun _ => (Client.untagged_run rfl).lift
  | hideGift chat messageId =>
    exact (Client.untagged_userOf chat).bind fun _ => (Client.untagged_run rfl).lift
  | convertGift chat messageId =>
    exact (Client.untagged_userOf chat).bind fun _ => (Client.untagged_run rfl).lift
  | sendPost chat post => cases hnumbered
  | payReaction chat messageId count isPrivate => cases hnumbered
  | nextDialog pages => exact (Client.untagged_take Client.dialogs_untagged pages).lift
  | countDialogs pages => exact (Client.untagged_countAll Client.dialogs_untagged pages).lift
  | nextGift pages => exact (Client.untagged_take Client.gifts_untagged pages).lift
  | countGifts pages => exact (Client.untagged_countAll Client.gifts_untagged pages).lift
  | displayReceived gift =>
    exact (Client.untagged_requireOrigin gift).bind fun _ => (Client.untagged_run rfl).lift
  | hideReceived gift =>
    exact (Client.untagged_requireOrigin gift).bind fun _ => (Client.untagged_run rfl).lift
  | convertReceived gift =>
    exact (Client.untagged_requireOrigin gift).bind fun _ => (Client.untagged_run rfl).lift
  | answerReceived query ok options error =>
    exact Client.untagged_answerShipping query.id ok options error

/-- Posts and reactions take one number and send it, unless they fail before. -/
theorem numbered {method : Method α} (hnumbered : method.isNumbered = true) :
    Client.Numbered method.run := by
  cases method with
  | sendPost chat post => exact Client.numbered_sendPost chat post
  | payReaction chat messageId count isPrivate =>
    exact Client.numbered_payReaction chat messageId count isPrivate
  | _ => cases hnumbered

end Method

end Messenger
