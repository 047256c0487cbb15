import Messenger.Proofs.Methods.Needs
import Messenger.Proofs.Posts

/-!
# References are resolved first

What each method needs (`Method.needs`), and that it does nothing else before it has that.

1. **Parts**: the parts of methods that only resolve references gather these, and the parts that
   resolve none are direct.
2. **Methods** (`Method.follows`): a method gathers what it needs, and is direct after that. Only a
   post with too few or too many items is refused before (`Method.refused?`).

Main statement: `references_are_resolved_first`.
-/

namespace Messenger

variable {α : Type}

/-! ## What methods need -/

/-- The references that a rule needs, in their order. -/
def PrivacyRequest.needs : PrivacyRequest → List (Need α)
  | .allowUsers users => users.map fun chat => .user chat (.notUser chat)
  | .disallowUsers users => users.map fun chat => .user chat (.notUser chat)
  | .allowChats chats => chats.map fun chat => .group chat (.notGroup chat)
  | .disallowChats chats => chats.map fun chat => .group chat (.notGroup chat)
  | _ => []

/-- Only an invoice in a message needs its chat. -/
def InvoiceRef.needs (chat : ChatRef) : InvoiceRef → List (Need α)
  | .message _ => [.any chat]
  | .link _ => []

namespace Method

/-- The references that a method needs, in the order in which they are resolved. -/
def needs : Method α → List (Need α)
  | .peerOf chat => [.any chat]
  | .replacePrivacy _ rules => rules.flatMap PrivacyRequest.needs
  | .setProfileChannel chat => chat.toList.map .channel
  | .paymentForm chat invoice => invoice.needs chat
  | .payInvoice chat invoice => invoice.needs chat
  | .buyGift chat _ _ _ => [.user chat .chatNotUser]
  | .giftsOf chat => [.user chat .chatNotUser]
  | .giftsCount chat => [.user chat .chatNotUser]
  | .showGift chat _ => [.user chat .chatNotUser]
  | .hideGift chat _ => [.user chat .chatNotUser]
  | .convertGift chat _ => [.user chat .chatNotUser]
  | .sendPost chat _ => [.any chat]
  | .payReaction chat _ _ _ => [.any chat]
  | _ => []

/-- Why a method is refused before it looks at its references. -/
def refused? : Method α → Option InvalidArgument
  | .sendPost _ post =>
    if post.sizeFits then none else some (.paidMediaCount post.media.length)
  | _ => none

end Method

namespace Client

/-! ## Parts that gather references -/

theorem gathers_peerOf (chat : ChatRef) : Gathers (peerOf chat) [(Need.any chat : Need α)] := by
  have hgathers : Gathers (peerOf chat >>= pure) [(Need.any chat : Need α)] :=
    gathers_peer (.any chat) (fun peer _ => ⟨peer, rfl⟩) (by simp [Need.any])
  rwa [bind_pure] at hgathers

/-- A reference to somebody leads to a user, or is refused for the reason. -/
theorem gathers_user (chat : ChatRef) (reason : InvalidArgument) :
    Gathers (peerOf chat >>= fun peer =>
      match peer.user? with
      | some user => pure user
      | none => throw (.invalidArgument reason)) [(Need.user chat reason : Need α)] := by
  refine gathers_peer (.user chat reason) ?_ ?_
  · intro peer huse
    cases peer <;> first | exact ⟨_, rfl⟩ | cases huse
  · intro peer refusal hrefusal
    cases peer <;> cases hrefusal <;> exact ⟨reason, rfl, rfl⟩

theorem gathers_userOf (chat : ChatRef) :
    Gathers (userOf chat) [(Need.user chat .chatNotUser : Need α)] :=
  gathers_user chat .chatNotUser

theorem gathers_ruleUser (chat : ChatRef) :
    Gathers (ruleUser chat) [(Need.user chat (.notUser chat) : Need α)] :=
  gathers_user chat (.notUser chat)

theorem gathers_ruleChat (chat : ChatRef) :
    Gathers (ruleChat chat) [(Need.group chat (.notGroup chat) : Need α)] := by
  refine gathers_peer (.group chat (.notGroup chat)) ?_ ?_
  · intro peer huse
    cases peer <;> first | exact ⟨_, rfl⟩ | cases huse
  · intro peer refusal hrefusal
    cases peer <;> cases hrefusal <;> exact ⟨.notGroup chat, rfl, rfl⟩

/-- A rule gathers the references that it names. -/
theorem gathers_ruleOf (rule : PrivacyRequest) :
    Gathers (ruleOf rule) (rule.needs : List (Need α)) := by
  have husers := Gathers.mapM (gathers_ruleUser (α := α))
  have hchats := Gathers.mapM (gathers_ruleChat (α := α))
  cases rule with
  | allowUsers users =>
    have hneeds := (husers users).map Wire.PrivacyRule.allowUsers
    rwa [← List.map_eq_flatMap] at hneeds
  | disallowUsers users =>
    have hneeds := (husers users).map Wire.PrivacyRule.disallowUsers
    rwa [← List.map_eq_flatMap] at hneeds
  | allowChats chats =>
    have hneeds := (hchats chats).map (Wire.PrivacyRule.allowChats (υ := Wire.InputUser))
    rwa [← List.map_eq_flatMap] at hneeds
  | disallowChats chats =>
    have hneeds := (hchats chats).map (Wire.PrivacyRule.disallowChats (υ := Wire.InputUser))
    rwa [← List.map_eq_flatMap] at hneeds
  | allowAll => exact gathers_pure _
  | allowContacts => exact gathers_pure _
  | allowPremium => exact gathers_pure _
  | disallowAll => exact gathers_pure _
  | disallowContacts => exact gathers_pure _

theorem gathers_inputInvoice (chat : ChatRef) (invoice : InvoiceRef) :
    Gathers (inputInvoice chat invoice) (invoice.needs chat : List (Need α)) := by
  cases invoice with
  | message id => exact (gathers_peerOf chat).map (Wire.InputInvoice.message · id)
  | link link => exact gathers_pure _

/-! ## Direct parts -/

theorem direct_runOnBehalf (call : Wire.Call) (connectionId : Option String) :
    Direct (liftM (runOnBehalf call connectionId)) := by
  cases connectionId with
  | none => exact direct_invoke (.call call)
  | some id => exact direct_invoke (.onBehalf id (.call call))

theorem direct_payWithStars (invoice : Wire.InputInvoice) : Direct (payWithStars invoice) := by
  refine (direct_invoke _).bind fun form => (direct_invoke _).bind fun result => ?_
  cases result with
  | paid updates => exact direct_pure true
  | verificationNeeded url => exact direct_throw (by simp)

theorem direct_giftCatalogue : Direct (liftM giftCatalogue) := by
  refine (direct_invoke (.call (.getStarGifts 0))).lift_bind fun answer => ?_
  cases answer with
  | gifts hash gifts => exact direct_warned _
  | notModified => exact (direct_warn .giftsNotModified).bind fun _ => direct_pure []

theorem direct_answerShipping (id : String) (ok : Bool) (options : List ShippingOption)
    (error : Option String) : Direct (answerShipping id ok options error) := by
  have hrefuse (reason : InvalidArgument) :
      Direct (throw (.invalidArgument reason) : Client MethodError Bool) := direct_throw (by simp)
  unfold answerShipping
  cases ok && options.isEmpty with
  | true => exact hrefuse .noShippingOptions
  | false =>
    cases Text.readInt64? id.toList with
    | none => exact hrefuse (.shippingQueryId id)
    | some queryId =>
      exact direct_invoke (.call (.setBotShippingResults
        ⟨queryId, error, Listing.nonempty? (options.map ShippingOption.raw)⟩))

theorem direct_dialogsCount (pinnedOnly : Bool) (fromArchive : Option Bool) :
    Direct (liftM (dialogsCount pinnedOnly fromArchive)) := by
  cases pinnedOnly with
  | true => exact (direct_invoke _).lift_bind fun answer => direct_pure _
  | false => exact (direct_invoke _).lift_bind fun answer => direct_pure _

theorem direct_namePhoto (spoiler : Bool) (kept : Wire.MessageMedia) :
    Direct (namePhoto spoiler kept) := by
  unfold namePhoto
  cases kept.keptPhoto? with
  | some photo => exact direct_pure _
  | none => exact direct_throw (by simp)

theorem direct_nameVideo (spoiler : Bool) (kept : Wire.MessageMedia) :
    Direct (nameVideo spoiler kept) := by
  unfold nameVideo
  cases kept.keptDocument? with
  | some document => exact direct_pure _
  | none => exact direct_throw (by simp)

theorem direct_sendableItem (peer : Wire.InputPeer) (connectionId : Option String)
    (item : MediaItem) : Direct (sendableItem peer connectionId item) := by
  rcases item with ⟨_ | details, file | file, spoiler⟩
  · exact (direct_upload file).bind fun _ =>
      (direct_invoke _).bind fun kept => direct_namePhoto spoiler kept
  · exact direct_pure _
  · exact direct_read.bind fun _ => (Direct.mapM_option direct_upload details.thumb).bind fun _ =>
      (direct_upload file).bind fun _ =>
        (direct_invoke _).bind fun kept => direct_nameVideo spoiler kept
  · exact direct_pure _

theorem direct_sendPrepared (post : PaidPost) (peer : Wire.InputPeer)
    (items : List Wire.InputMedia) : Direct (sendPrepared post peer items) :=
  direct_read.bind fun _ => direct_newRandomId.bind fun _ =>
    (direct_runOnBehalf _ _).bind fun _ => direct_pure _

theorem direct_requireOrigin (gift : StarGift) : Direct gift.requireOrigin := by
  unfold StarGift.requireOrigin
  cases gift.origin? with
  | some origin => exact direct_pure origin
  | none => exact direct_throw (by simp)

theorem direct_setShown (gift : StarGift) (shown : Bool) : Direct (gift.setShown shown) :=
  (direct_requireOrigin gift).bind fun _ => direct_invoke _

/-! ## Methods that need references -/

/-- A channel is put on the profile; for anything else nothing is done. -/
theorem follows_setProfileChannel (chat : ChatRef) :
    Follows (setProfileChannel (some chat)) [.channel chat] := by
  intro services world
  rcases takes_need (Need.channel chat) services world with
    ⟨peer, hmet, hrefusal, hpeer⟩ | ⟨peer, refusal, hbar, hrefusal, hpeer⟩ | ⟨error, hbar, hpeer⟩
  · cases peer <;> cases hrefusal
    rename_i id accessHash
    obtain ⟨steps, result, htakes, haccounts, hsilent⟩ :=
      direct_invoke (.call (.updatePersonalChannel (.channel id accessHash))) services
        (peerOf chat services world).2
    exact Or.inr ⟨steps, result, by simpa using hmet, hpeer.bind htakes, haccounts, hsilent⟩
  · -- what was found is no channel: that is warned of, and the method ends
    refine Or.inl ⟨[.channel chat], .ok false, .single ?_, hpeer.bind_nil ?_⟩
    · rw [hbar]
      cases peer <;> cases hrefusal <;> rfl
    · have hwarned := takes_warned (ε := MethodError) ⟨(), [.notChannel peer]⟩ services
        (peerOf chat services world).2
      cases peer <;> cases hrefusal <;> exact hwarned.bind_nil (takes_pure false services _)
  · exact Or.inl ⟨[.channel chat], .error error, .single hbar, hpeer.bind_error⟩

/-- The references of all rules are gathered before the rules are sent. -/
theorem follows_replacePrivacy (key : Wire.PrivacyKey) (rules : List PrivacyRequest) :
    Follows (replacePrivacy key rules) (rules.flatMap PrivacyRequest.needs) :=
  (Gathers.mapM gathers_ruleOf rules).bind_direct fun _ =>
    (direct_invoke _).bind fun _ => direct_warned _

theorem follows_sendPost (chat : ChatRef) {post : PaidPost} (hfit : post.sizeFits = true) :
    Follows (sendPost chat post) [.any chat] := by
  rw [sendPost_of_fit chat hfit]
  refine (gathers_peerOf chat).bind_direct fun peer => ?_
  have hitems := Direct.mapM (direct_sendableItem peer post.businessConnectionId) post.media
  exact hitems.bind fun items => direct_sendPrepared post peer items

end Client

/-! ## Methods -/

namespace Method

/-- Unless its arguments are refused, a method gathers what it needs, and is direct after that. -/
theorem follows {method : Method α} (haccepted : method.refused? = none) :
    Client.Follows method.run method.needs := by
  cases method with
  | invoke request => exact (Client.direct_invoke request).follows
  | peerOf chat => exact (Client.gathers_peerOf chat).follows
  | privacy key =>
    exact Client.Direct.follows ((Client.direct_invoke _).lift_bind fun _ => Client.direct_warned _)
  | replacePrivacy key rules => exact Client.follows_replacePrivacy key rules
  | accountLifetime =>
    exact Client.Direct.follows ((Client.direct_invoke _).lift_bind fun _ => Client.direct_pure _)
  | setAccountLifetime days => exact (Client.direct_invoke _).follows
  | setProfileChannel chat =>
    cases chat with
    | none => exact (Client.direct_invoke _).follows
    | some chat => exact Client.follows_setProfileChannel chat
  | search query limit =>
    exact Client.Direct.follows ((Client.direct_invoke _).lift_bind fun _ => Client.direct_warned _)
  | answerShipping id ok options error =>
    exact (Client.direct_answerShipping id ok options error).follows
  | dialogsCount pinnedOnly fromArchive =>
    exact (Client.direct_dialogsCount pinnedOnly fromArchive).follows
  | inspectGiftCode link =>
    exact Client.Direct.follows ((Client.direct_invoke _).lift_bind fun _ => Client.direct_pure _)
  | claimGiftCode link =>
    exact Client.Direct.follows ((Client.direct_invoke _).lift_bind fun _ => Client.direct_pure _)
  | paymentForm chat invoice =>
    exact (Client.gathers_inputInvoice chat invoice).bind_direct fun _ =>
      (Client.direct_invoke _).bind fun _ => Client.direct_pure _
  | payInvoice chat invoice =>
    exact (Client.gathers_inputInvoice chat invoice).bind_direct Client.direct_payWithStars
  | giftCatalogue => exact Client.direct_giftCatalogue.follows
  | buyGift chat giftId text hideName =>
    exact (Client.gathers_userOf chat).bind_direct fun _ =>
      Client.direct_read.bind fun _ => Client.direct_payWithStars _
  | giftsOf chat => exact ((Client.gathers_userOf chat).map _).follows
  | giftsCount chat =>
    exact ((Client.gathers_userOf chat).map _).bind_direct fun gifts =>
      (Client.direct_askTotal gifts).bind fun _ => Client.direct_pure _
  | showGift chat messageId =>
    exact (Client.gathers_userOf chat).bind_direct fun _ => Client.direct_invoke _
  | hideGift chat messageId =>
    exact (Client.gathers_userOf chat).bind_direct fun _ => Client.direct_invoke _
  | convertGift chat messageId =>
    exact (Client.gathers_userOf chat).bind_direct fun _ => Client.direct_invoke _
  | sendPost chat post =>
    have hfit : post.sizeFits = true := by simpa [refused?] using haccepted
    exact Client.follows_sendPost chat hfit
  | payReaction chat messageId count isPrivate =>
    exact (Client.gathers_peerOf chat).bind_direct fun _ =>
      Client.direct_newRandomId.bind fun _ =>
        (Client.direct_invoke _).bind fun _ => Client.direct_pure true
  | nextDialog pages => exact (Client.direct_take pages).follows
  | countDialogs pages => exact (Client.direct_countAll pages).follows
  | nextGift pages => exact (Client.direct_take pages).follows
  | countGifts pages => exact (Client.direct_countAll pages).follows
  | displayReceived gift => exact (Client.direct_setShown gift true).follows
  | hideReceived gift => exact (Client.direct_setShown gift false).follows
  | convertReceived gift =>
    exact Client.Direct.follows
      ((Client.direct_requireOrigin gift).bind fun _ => Client.direct_invoke _)
  | answerReceived query ok options error =>
    exact (Client.direct_answerShipping query.id ok options error).follows

/-- A method whose arguments are refused does nothing at all. -/
theorem takes_refused {method : Method α} {reason : InvalidArgument}
    (hrefused : method.refused? = some reason) (services : Services) (world : World) :
    Client.Takes method.run services world [] (.error (.invalidArgument reason)) := by
  cases method with
  | sendPost chat post =>
    rw [refused?] at hrefused
    split at hrefused
    · cases hrefused
    · rename_i hunfit
      cases hrefused
      exact Client.sendPost_of_unfit chat (Bool.eq_false_iff.2 hunfit) services world
  | _ => cases hrefused

end Method

/-! ## Main statement -/

/-- Whatever the resolver says. A method whose arguments are refused does nothing at all. Any other
one resolves what it needs before it does anything else:

1. If some reference is not known, makes the resolver fail, or leads to a peer that is of no use, the
   first such reference is the last that is resolved. No file is saved and no request is sent, and
   the method ends as that reference has it (`Need.end?`).
2. If all references are of use, all of them are resolved, in their order, and no others, neither
   before nor later. -/
theorem references_are_resolved_first (method : Method α) (services : Services) (world : World) :
    let outcome := method.run services world
    match method.refused? with
    | some reason =>
      outcome.1 = .error (.invalidArgument reason) ∧ outcome.2.deeds = world.deeds
    | none =>
      (∀ bad ∈ method.needs, bad.end? services ≠ none →
        ∃ earlier first later, method.needs = earlier ++ first :: later ∧
          (∀ other ∈ earlier, other.end? services = none) ∧
          first.end? services = some outcome.1 ∧
          outcome.2.deeds = world.deeds ++ (earlier ++ [first]).map Need.event) ∧
      ((∀ need ∈ method.needs, need.end? services = none) →
        ∃ others, outcome.2.deeds = world.deeds ++ method.needs.map Need.event ++ others ∧
          ∀ chat, .resolved chat ∉ others) := by
  intro outcome
  cases hrefused : method.refused? with
  | some reason =>
    have htakes := Method.takes_refused hrefused services world
    refine ⟨htakes.result_eq, ?_⟩
    simpa using htakes.performs.deeds_eq
  | none =>
    rcases Method.follows hrefused services world with
      ⟨asked, result, hbarred, htakes⟩ | ⟨later, result, hmet, htakes, -, hsilent⟩
    · have hdeeds := htakes.performs.deeds_eq
      rw [List.map_map, Need.event_comp_step] at hdeeds
      constructor
      · intro bad hmem hbad
        -- whichever reference is bad, the method ends with the first of them
        generalize method.needs = needs at hbarred
        obtain ⟨hmet, hbar⟩ := hbarred
        exact ⟨_, _, _, rfl, hmet, by rw [hbar, ← htakes.result_eq], hdeeds⟩
      · intro hmet
        obtain ⟨need, hmem, hbad⟩ := hbarred.exists_mem
        exact absurd (hmet need hmem) hbad
    · have hdeeds := htakes.performs.deeds_eq
      rw [List.map_append, List.map_map, Need.event_comp_step, ← List.append_assoc] at hdeeds
      constructor
      · intro bad hmem hbad
        exact absurd (hmet bad hmem) hbad
      · intro _
        exact ⟨_, hdeeds, Step.resolved_notMem_events hsilent⟩

end Messenger
