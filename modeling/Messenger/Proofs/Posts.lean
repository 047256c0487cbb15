import Messenger.Proofs.Posts.Items

/-!
# Posts are sent whole or not at all

The items of a post are prepared in their order. Once all of them are, the post is sent, and brings
back the messages of the answer.

1. **Arguments** (`PaidPost.SentAs`): what is sent of a post, spelled out part by part.
2. **Messages** (`MessagesOf`): what is brought back.
3. **Deliveries** (`Delivery`): the steps of sending a post to a peer, up to the first one that fails.
4. **Postings** (`Posting`): the whole call, with the checks that come before.

Main statement: `posts_are_sent_whole`.
-/

namespace Messenger

/-! ## Arguments -/

theorem PaidPost.sizeFits_eq_true_iff (post : PaidPost) :
    post.sizeFits = true ↔ 1 ≤ post.media.length ∧ post.media.length ≤ 10 := by
  simp [sizeFits, maxItems, Nat.one_le_iff_ne_zero, Nat.pos_iff_ne_zero]

/-- A text is sent with its formatting, if it has any. -/
structure Wire.FormattedText.SentAs (text : FormattedText) (message : String)
    (entities : Option (List MessageEntity)) : Prop where
  message : message = text.text
  formatted : text.entities ≠ [] → entities = some text.entities
  unformatted : text.entities = [] → entities = none

namespace PaidPost

/-- The reply names the message, and quotes the part of it, if there is one, with its formatting and
its place. -/
structure RepliesTo (services : Services) (post : PaidPost) (messageId : Int32)
    (reply : Wire.ReplyToMessage) : Prop where
  messageId : reply.messageId = messageId
  unthreaded : reply.topMessageId = none ∧ reply.peer = none
  quoted : ∀ quote, post.quote = some quote →
    (∃ text, reply.quoteText = some text ∧
      (services.formatted quote.text).SentAs text reply.quoteEntities) ∧
      reply.quoteOffset = quote.offset
  unquoted : post.quote = none →
    reply.quoteText = none ∧ reply.quoteEntities = none ∧ reply.quoteOffset = none

/-- The arguments send the post to the peer, with the items: the caption with its formatting, and all
that the post says about how it is sent. -/
structure SentAs (services : Services) (post : PaidPost) (peer : Wire.InputPeer)
    (items : List Wire.InputMedia) (arguments : Wire.SendMedia) : Prop where
  peer : arguments.peer = peer
  media : arguments.media = .paidMedia {
    starsAmount := post.starsAmount
    items := items
    payload := post.payload }
  caption : ∀ caption, post.caption = some caption →
    (services.formatted caption).SentAs arguments.message arguments.entities
  uncaptioned : post.caption = none → arguments.message = "" ∧ arguments.entities = none
  silent : arguments.silent = post.silent
  noforwards : arguments.noforwards = post.protectContent
  invertMedia : arguments.invertMedia = post.invertMedia
  scheduled : arguments.scheduleDate = post.scheduleDate.map (·.seconds.toInt32)
  reply : ∀ messageId, post.replyTo = some messageId →
    ∃ reply, arguments.replyTo = some (.message reply) ∧ post.RepliesTo services messageId reply
  unreplied : post.replyTo = none → arguments.replyTo = none
  rest : arguments.background = false ∧ arguments.clearDraft = false ∧
    arguments.updateStickersetsOrder = false ∧ arguments.sendAs = none ∧ arguments.effect = none

variable (services : Services) (post : PaidPost)

theorem sentAs_nonempty? (text : Wire.FormattedText) :
    text.SentAs text.text (Listing.nonempty? text.entities) :=
  ⟨rfl, Listing.nonempty?_of_ne_nil, Listing.nonempty?_eq_none_iff.2⟩

theorem exists_repliesTo {messageId : Int32} (hreply : post.replyTo = some messageId) :
    ∃ reply, post.reply? services = some (.message reply) ∧
      post.RepliesTo services messageId reply := by
  rw [reply?, hreply]
  refine ⟨_, rfl, rfl, ⟨rfl, rfl⟩, ?_, ?_⟩
  · intro quote hquote
    rw [hquote]
    exact ⟨⟨_, rfl, sentAs_nonempty? _⟩, rfl⟩
  · intro hquote
    rw [hquote]
    exact ⟨rfl, rfl, rfl⟩

/-- The request for a post sends it. -/
theorem sentAs_request (peer : Wire.InputPeer) (items : List Wire.InputMedia) (randomId : Int64) :
    post.SentAs services peer items (post.request services peer items randomId) where
  peer := rfl
  media := rfl
  caption caption hcaption := by
    simp only [request, formattedCaption, hcaption]
    exact sentAs_nonempty? _
  uncaptioned hcaption := by
    simp only [request, formattedCaption, hcaption]
    exact ⟨rfl, rfl⟩
  silent := rfl
  noforwards := rfl
  invertMedia := rfl
  scheduled := rfl
  reply messageId hreply := exists_repliesTo services post hreply
  unreplied hreply := by rw [request, reply?, hreply]; rfl
  rest := ⟨rfl, rfl, rfl, rfl, rfl⟩

end PaidPost

/-! ## Messages -/

/-- The messages among what is told, in their order. -/
inductive MessagesOf : List Update → List Message → Prop
  | nil : MessagesOf [] []
  | message (message : Message) {updates : List Update} {messages : List Message}
      (rest : MessagesOf updates messages) :
      MessagesOf (.newMessage message :: updates) (message :: messages)
  | other {update : Update} {updates : List Update} {messages : List Message}
      (noMessage : ∀ message, update ≠ .newMessage message) (rest : MessagesOf updates messages) :
      MessagesOf (update :: updates) messages

theorem messagesOf_filterMap (updates : List Update) :
    MessagesOf updates (updates.filterMap Update.message?) := by
  induction updates with
  | nil => exact .nil
  | cons update updates ih =>
    cases update with
    | newMessage message => exact .message message ih
    | chatBoost chat boost => exact .other (by simp) ih
    | shippingQuery query => exact .other (by simp) ih
    | raw update => exact .other (by simp) ih

/-! ## Deliveries -/

namespace Client

theorem sendPost_of_unfit {post : PaidPost} (chat : ChatRef) (hunfit : post.sizeFits = false)
    (services : Services) (world : World) :
    Takes (sendPost chat post) services world []
      (.error (.invalidArgument (.paidMediaCount post.media.length))) := by
  rw [sendPost, hunfit]
  exact (takes_throw _ services world).bind_error

theorem sendPost_of_fit {post : PaidPost} (chat : ChatRef) (hfit : post.sizeFits = true) :
    sendPost chat post =
      peerOf chat >>= fun peer =>
        post.media.mapM (sendableItem peer post.businessConnectionId) >>= fun items =>
          sendPrepared post peer items := by
  rw [sendPost, hfit]
  rfl

/-- Once its items are prepared, a post is sent in one step. -/
theorem takes_sendPrepared (post : PaidPost) (peer : Wire.InputPeer) (items : List Wire.InputMedia)
    (services : Services) (world : World) :
    let arguments := post.request services peer items world.nextRandomId.value
    let request := (Wire.Call.sendMedia arguments).onBehalfOf post.businessConnectionId
    (∃ updates, Takes (sendPrepared post peer items) services world
        [.sent request (.ok ⟨.updates, updates⟩)]
        (.ok ((Update.ofContainer updates).filterMap Update.message?))) ∨
      ∃ answer error, receive request answer = .error error ∧
        Takes (sendPrepared post peer items) services world [.sent request answer]
          (.error (.invocation error)) := by
  intro arguments request
  rcases runOnBehalf_cases (.sendMedia arguments) post.businessConnectionId services
      ((newRandomId : Client MethodError Int64) services world).2 with
    ⟨updates, hrun⟩ | ⟨answer, error, hrefused, hrun⟩
  · exact Or.inl ⟨updates, (takes_read services world).bind
      ((takes_newRandomId services world).bind (hrun.lift.bind_nil (takes_pure _ _ _)))⟩
  · exact Or.inr ⟨answer, error, hrefused, (takes_read services world).bind
      ((takes_newRandomId services world).bind hrun.lift.bind_error)⟩

end Client

/-- The steps of sending a post to a peer, and the result. -/
inductive Delivery (services : Services) (post : PaidPost) (peer : Wire.InputPeer) :
    List Step → Except MethodError (List Message) → Prop
  /-- The first item that is not prepared is the end. -/
  | broken {before after : List MediaItem} {item : MediaItem}
      {parts : List (List Step × Wire.InputMedia)} {steps : List Step} {error : MethodError}
      (media : post.media = before ++ item :: after)
      (prepared : List.Forall₂ (Prepared services peer post.businessConnectionId) before parts)
      (broken : Broken services peer post.businessConnectionId item steps error) :
      Delivery services post peer (parts.flatMap Prod.fst ++ steps) (.error error)
  /-- All items are prepared, and the post with all of them is sent. It brings back the messages of
  the answer. -/
  | sent {parts : List (List Step × Wire.InputMedia)} {arguments : Wire.SendMedia}
      {updates : Wire.Updates} {messages : List Message}
      (prepared : List.Forall₂ (Prepared services peer post.businessConnectionId) post.media parts)
      (sentAs : post.SentAs services peer (parts.map Prod.snd) arguments)
      (told : MessagesOf (Update.ofContainer updates) messages) :
      Delivery services post peer
        (parts.flatMap Prod.fst ++
          [.sent ((Wire.Call.sendMedia arguments).onBehalfOf post.businessConnectionId)
            (.ok ⟨.updates, updates⟩)])
        (.ok messages)
  /-- All items are prepared, but the server refuses the post. -/
  | refused {parts : List (List Step × Wire.InputMedia)} {arguments : Wire.SendMedia}
      {request : Wire.Request} {answer : Answer} {error : CallError}
      (prepared : List.Forall₂ (Prepared services peer post.businessConnectionId) post.media parts)
      (sentAs : post.SentAs services peer (parts.map Prod.snd) arguments)
      (request_eq : request =
        (Wire.Call.sendMedia arguments).onBehalfOf post.businessConnectionId)
      (refused : Client.receive request answer = .error error) :
      Delivery services post peer (parts.flatMap Prod.fst ++ [.sent request answer])
        (.error (.invocation error))

namespace Delivery

variable {services : Services} {post : PaidPost} {peer : Wire.InputPeer} {steps : List Step}
  {result : Except MethodError (List Message)}

/-- The post is sent after all of its items are prepared, as the last step; before that, the server
is only asked to keep the items for the same peer and business connection. -/
theorem request_cases (hdelivery : Delivery services post peer steps result)
    {earlier later : List Step} {request : Wire.Request} {answer : Answer}
    (hsplit : steps = earlier ++ .sent request answer :: later) :
    (∃ media, request = Wire.keepMedia post.businessConnectionId peer media) ∨
      later = [] ∧ ∃ parts arguments,
        List.Forall₂ (Prepared services peer post.businessConnectionId) post.media parts ∧
          earlier = parts.flatMap Prod.fst ∧
          post.SentAs services peer (parts.map Prod.snd) arguments ∧
          request = (Wire.Call.sendMedia arguments).onBehalfOf post.businessConnectionId := by
  cases hdelivery with
  | broken media hprepared hbroken =>
    left
    have hmem : Step.sent request answer ∈ _ :=
      hsplit ▸ List.mem_append_right earlier List.mem_cons_self
    rcases List.mem_append.1 hmem with hmem | hmem
    · exact Prepared.request_of_mem_parts hprepared hmem
    · exact hbroken.request_of_mem hmem
  | sent hprepared hsentAs =>
    rcases Step.last_or_mem hsplit with ⟨rfl, rfl, hlast⟩ | hmem
    · exact Or.inr ⟨rfl, _, _, hprepared, rfl, hsentAs, (Step.sent.inj hlast).1⟩
    · exact Or.inl (Prepared.request_of_mem_parts hprepared hmem)
  | refused hprepared hsentAs hrequest =>
    rcases Step.last_or_mem hsplit with ⟨rfl, rfl, hlast⟩ | hmem
    · exact Or.inr ⟨rfl, _, _, hprepared, rfl, hsentAs, (Step.sent.inj hlast).1.trans hrequest⟩
    · exact Or.inl (Prepared.request_of_mem_parts hprepared hmem)

/-- Only the last step of sending a post failed. -/
theorem failsLast (hdelivery : Delivery services post peer steps result) :
    FailsLast steps result := by
  cases hdelivery with
  | broken media hprepared hbroken =>
    exact .append (Prepared.failure?_of_mem_parts hprepared) hbroken.failsLast
  | sent hprepared =>
    refine .append (Prepared.failure?_of_mem_parts hprepared) (.of_succeeds ?_)
    simp [Step.failure?_sent_onBehalfOf (.sendMedia _)]
  | refused hprepared _ _ hrefused =>
    exact .append (Prepared.failure?_of_mem_parts hprepared)
      (.single (by simp [Step.failure?_sent_of_error hrefused]))

end Delivery

namespace Client

/-- The items of a post are prepared in their order, and then it is sent. -/
theorem takes_deliver (post : PaidPost) (peer : Wire.InputPeer) (services : Services)
    (world : World) :
    ∃ steps result, Delivery services post peer steps result ∧
      Takes (post.media.mapM (sendableItem peer post.businessConnectionId) >>= fun items =>
        sendPrepared post peer items) services world steps result := by
  rcases takes_mapM (takes_sendableItem peer post.businessConnectionId · services ·)
      post.media world with
    ⟨parts, hprepared, hitems⟩ |
    ⟨before, item, after, parts, steps, error, hmedia, hprepared, hbroken, hitems⟩
  · rcases takes_sendPrepared post peer (parts.map Prod.snd) services
        (post.media.mapM (sendableItem peer post.businessConnectionId) services world).2 with
      ⟨updates, hsent⟩ | ⟨answer, error, hrefused, hsent⟩
    · exact ⟨_, _, .sent hprepared (post.sentAs_request services peer _ _)
        (messagesOf_filterMap _), hitems.bind hsent⟩
    · exact ⟨_, _, .refused hprepared (post.sentAs_request services peer _ _) rfl hrefused,
        hitems.bind hsent⟩
  · exact ⟨_, _, .broken hmedia hprepared hbroken, hitems.bind_error⟩

end Client

/-! ## Postings -/

/-- The steps of a call that sends a post to a chat, and the result. -/
inductive Posting (services : Services) (chat : ChatRef) (post : PaidPost) :
    List Step → Except MethodError (List Message) → Prop
  /-- The post has too few or too many items. -/
  | unfit (unfit : ¬ (1 ≤ post.media.length ∧ post.media.length ≤ 10)) :
      Posting services chat post [] (.error (.invalidArgument (.paidMediaCount post.media.length)))
  /-- The chat is not found. -/
  | lost {error : MethodError} (fits : 1 ≤ post.media.length ∧ post.media.length ≤ 10)
      (found : Client.found chat (services.resolve chat) = .error error) :
      Posting services chat post [.resolved chat (services.resolve chat)] (.error error)
  /-- The chat is found, and the post is delivered to it, as far as that goes. -/
  | delivered {peer : Wire.InputPeer} {turns : List Step}
      {result : Except MethodError (List Message)}
      (fits : 1 ≤ post.media.length ∧ post.media.length ≤ 10)
      (found : Client.found chat (services.resolve chat) = .ok peer)
      (delivery : Delivery services post peer turns result) :
      Posting services chat post (.resolved chat (services.resolve chat) :: turns) result

/-- Only the last step of a call that sends a post failed. -/
theorem Posting.failsLast {services : Services} {chat : ChatRef} {post : PaidPost}
    {steps : List Step} {result : Except MethodError (List Message)}
    (hposting : Posting services chat post steps result) : FailsLast steps result := by
  cases hposting with
  | unfit => exact .nil
  | lost _ hfound => exact .single (by simp [Client.failure?_resolved_of_error hfound])
  | delivered _ hfound hdelivery =>
    exact .cons (Client.failure?_resolved_of_ok hfound) hdelivery.failsLast

/-- A call that sends a post takes one of these courses. -/
theorem Client.takes_sendPost (chat : ChatRef) (post : PaidPost) (services : Services)
    (world : World) :
    ∃ steps result, Posting services chat post steps result ∧
      Takes (sendPost chat post) services world steps result := by
  by_cases hfits : 1 ≤ post.media.length ∧ post.media.length ≤ 10
  · have hpost := sendPost_of_fit chat (post.sizeFits_eq_true_iff.2 hfits)
    have hpeer := takes_peerOf chat services world
    cases hfound : found chat (services.resolve chat) with
    | error error =>
      rw [hfound] at hpeer
      exact ⟨_, _, .lost hfits hfound, hpost ▸ hpeer.bind_error⟩
    | ok peer =>
      rw [hfound] at hpeer
      obtain ⟨turns, result, hdelivery, hdeliver⟩ :=
        takes_deliver post peer services (peerOf chat services world).2
      exact ⟨_, _, .delivered hfits hfound hdelivery, hpost ▸ hpeer.bind hdeliver⟩
  · have hunfit : post.sizeFits = false :=
      Bool.eq_false_iff.2 (mt post.sizeFits_eq_true_iff.1 hfits)
    exact ⟨_, _, .unfit hfits, sendPost_of_unfit chat hunfit services world⟩

/-! ## Main statement -/

/-- Whatever is resolved, saved and answered: a post of too few or too many items is refused before
anything is done. Otherwise the chat is resolved, and the items are prepared in their order, up to
the first step that fails, which is the last one and whose failure is that of the post. The post is
sent exactly if all items are prepared, once and after all else, to the same peer and on behalf of
its business connection, with one item for each of its own in their order; and all that the server is
asked before that is to keep an item for the same peer and business connection. -/
theorem posts_are_sent_whole (chat : ChatRef) (post : PaidPost) (services : Services)
    (world : World) :
    let outcome := Client.sendPost chat post services world
    ∃ steps, Performs services world steps outcome.2 ∧ FailsLast steps outcome.1 ∧
      if 1 ≤ post.media.length ∧ post.media.length ≤ 10 then
        ∃ turns, steps = .resolved chat (services.resolve chat) :: turns ∧
          match Client.found chat (services.resolve chat) with
          | .error error => turns = [] ∧ outcome.1 = .error error
          | .ok peer =>
            Delivery services post peer turns outcome.1 ∧
              ∀ earlier request answer later, turns = earlier ++ .sent request answer :: later →
                (∃ media, request = Wire.keepMedia post.businessConnectionId peer media) ∨
                  later = [] ∧ ∃ parts arguments,
                    List.Forall₂ (Prepared services peer post.businessConnectionId) post.media
                        parts ∧
                      earlier = parts.flatMap Prod.fst ∧
                      post.SentAs services peer (parts.map Prod.snd) arguments ∧
                      request =
                        (Wire.Call.sendMedia arguments).onBehalfOf post.businessConnectionId
      else
        steps = [] ∧
          outcome.1 = .error (.invalidArgument (.paidMediaCount post.media.length)) := by
  intro outcome
  obtain ⟨steps, result, hposting, htakes⟩ := Client.takes_sendPost chat post services world
  have hresult : outcome.1 = result := htakes.result_eq
  rw [hresult]
  refine ⟨steps, htakes.performs, hposting.failsLast, ?_⟩
  cases hposting with
  | unfit hunfit =>
    rw [if_neg hunfit]
    exact ⟨rfl, rfl⟩
  | lost hfits hfound =>
    rw [if_pos hfits, hfound]
    exact ⟨[], rfl, rfl, rfl⟩
  | delivered hfits hfound hdelivery =>
    rw [if_pos hfits, hfound]
    refine ⟨_, rfl, hdelivery, ?_⟩
    intro earlier request answer later hsplit
    exact hdelivery.request_cases hsplit

end Messenger
