import Messenger.Proofs.Behalf
import Messenger.Proofs.Posts

/-!
# Uploading and naming agree

A post whose items are uploaded is sent as if each item had been named by the identifier, the access
hash and the file reference that the server returned for it.

1. **Items** (`Kept`): what is saved and answered when an item is uploaded without a failure, and
   the item that names what the server returned.
2. **Spending** (`Client.Spends`): with just these answers, whatever others come later, a run brings a
   value, and all that it does is part of uploading.
3. **Sending** (`Client.result_sendPrepared_eq`): what comes of sending a post is up to the last
   answer alone.

Main statement: `stored_posts_are_sent_alike`.
-/

namespace Messenger

variable {α β : Type}

/-! ## Items -/

/-- An item is uploaded without a failure: the answers of the uploader and of the transport, and the
item that names what the server returned. An item that the server has takes no answers, and stays as
it is. -/
inductive Kept : MediaItem → List UploadAnswer → List Answer → MediaItem → Prop
  | known {item : MediaItem} {file : RemoteFile} (source : item.source = .stored file) :
      Kept item [] [] item
  | photo {file : LocalFile} {spoiler : Bool} {saved : Wire.InputFile} {media : Wire.PhotoMedia}
      {photo : Wire.Photo} (photo_eq : media.photo = some (.photo photo)) :
      Kept ⟨.photo, .upload file, spoiler⟩ [.ok saved] [.ok ⟨.messageMedia, .photo media⟩] {
        kind := .photo
        source := .stored {
          id := photo.id
          accessHash := photo.accessHash
          fileReference := photo.fileReference }
        spoiler := spoiler }
  /-- The thumbnail is saved before the video, if there is one. Nothing needs to be said about a
  video that the server has. -/
  | video {details details' : VideoDetails} {file : LocalFile} {spoiler : Bool}
      {thumb : Option Wire.InputFile} {saved : Wire.InputFile} {media : Wire.DocumentMedia}
      {document : Wire.Document} (thumb_iff : thumb.isSome = details.thumb.isSome)
      (document_eq : media.document = some (.document document)) :
      Kept ⟨.video details, .upload file, spoiler⟩ ((thumb.toList ++ [saved]).map .ok)
        [.ok ⟨.messageMedia, .document media⟩] {
        kind := .video details'
        source := .stored {
          id := document.id
          accessHash := document.accessHash
          fileReference := document.fileReference }
        spoiler := spoiler }

/-- A post names the item as the file of the server that it is. -/
inductive Named : MediaItem → Wire.InputMedia → Prop
  | intro {item : MediaItem} {file : RemoteFile} {media : Wire.InputMedia}
      (source : item.source = .stored file) (namedAs : item.kind.NamedAs item.spoiler file media) :
      Named item media

/-- All items are uploaded in their order, without a failure. -/
inductive AllKept : List MediaItem → List UploadAnswer → List Answer → List MediaItem → Prop
  | nil : AllKept [] [] [] []
  | cons {item item' : MediaItem} {items items' : List MediaItem}
      {saves saves' : List UploadAnswer} {answers answers' : List Answer}
      (kept : Kept item saves answers item') (rest : AllKept items saves' answers' items') :
      AllKept (item :: items) (saves ++ saves') (answers ++ answers') (item' :: items')

theorem AllKept.length_eq {items items' : List MediaItem} {saves : List UploadAnswer}
    {answers : List Answer} (hkept : AllKept items saves answers items') :
    items'.length = items.length := by
  induction hkept with
  | nil => rfl
  | cons _ _ ih => rw [List.length_cons, List.length_cons, ih]

/-! ## Spending -/

/-- The event is part of uploading media for a peer. -/
def Event.IsUpload (peer : Wire.InputPeer) (connectionId : Option String) : Event → Prop
  | .saved _ => True
  | .sent request => ∃ media, request = Wire.keepMedia connectionId peer media
  | _ => False

namespace Client

section Spending

variable {peer : Wire.InputPeer} {connectionId : Option String} {services : Services}
  {saves moreSaves : List UploadAnswer} {answers moreAnswers : List Answer}

/-- Given these answers of the uploader and of the transport, and perhaps others that come later, the
run brings the value, leaves the others, and does nothing but upload. -/
def Spends (peer : Wire.InputPeer) (connectionId : Option String) (services : Services)
    (run : Client MethodError α) (saves : List UploadAnswer) (answers : List Answer) (value : α) :
    Prop :=
  ∀ (world : World) (moreSaves : List UploadAnswer) (moreAnswers : List Answer),
    world.uploads = saves ++ moreSaves → world.answers = answers ++ moreAnswers →
      (run services world).2.uploads = moreSaves ∧
        (run services world).2.answers = moreAnswers ∧
        ∃ steps, Takes run services world steps (.ok value) ∧
          ∀ event ∈ steps.map Step.event, event.IsUpload peer connectionId

theorem spends_pure (value : α) : Spends peer connectionId services (pure value) [] [] value := by
  intro world moreSaves moreAnswers huploads hanswers
  exact ⟨huploads, hanswers, [], takes_pure value services world, by simp⟩

/-- Parts spend their answers one after the other. -/
theorem Spends.bind {first : Client MethodError α} {next : α → Client MethodError β} {value : α}
    {result : β} (hfirst : Spends peer connectionId services first saves answers value)
    (hnext : Spends peer connectionId services (next value) moreSaves moreAnswers result) :
    Spends peer connectionId services (first >>= next) (saves ++ moreSaves)
      (answers ++ moreAnswers) result := by
  intro world lastSaves lastAnswers huploads hanswers
  -- what is left by the first part is what the second one needs, and the answers that come later
  rw [List.append_assoc] at huploads hanswers
  obtain ⟨huploads, hanswers, steps, htakes, hsteps⟩ := hfirst world _ _ huploads hanswers
  obtain ⟨huploads', hanswers', later, htakes', hlater⟩ := hnext _ _ _ huploads hanswers
  have hbind : (first >>= next) services world = next value services (first services world).2 := by
    rw [bind_apply, ← Prod.eta (first services world), htakes.result_eq]
  refine ⟨by rw [hbind, huploads'], by rw [hbind, hanswers'], steps ++ later,
    htakes.bind htakes', ?_⟩
  intro event hmem
  rw [List.map_append] at hmem
  rcases List.mem_append.1 hmem with hmem | hmem
  · exact hsteps event hmem
  · exact hlater event hmem

/-- To make something else of the value takes no answers. -/
theorem Spends.map {run : Client MethodError α} {value : α}
    (hrun : Spends peer connectionId services run saves answers value) (f : α → β) :
    Spends peer connectionId services (run >>= fun value => pure (f value)) saves answers
      (f value) := by
  rw [← List.append_nil saves, ← List.append_nil answers]
  exact hrun.bind (spends_pure (f value))

theorem spends_upload (file : LocalFile) (saved : Wire.InputFile) :
    Spends peer connectionId services (upload file) [.ok saved] [] saved := by
  intro world moreSaves moreAnswers huploads hanswers
  have htakes := takes_upload file services world
  rw [huploads] at htakes
  refine ⟨?_, ?_, _, htakes, by simp [Step.event, Event.IsUpload]⟩
  · rw [upload_apply, huploads]
    rfl
  · rw [upload_apply]
    exact hanswers

/-- The thumbnail is saved if there is one. -/
theorem spends_thumb {thumb? : Option LocalFile} {saved? : Option Wire.InputFile}
    (hthumb : saved?.isSome = thumb?.isSome) :
    Spends peer connectionId services (thumb?.mapM upload) (saved?.toList.map .ok) [] saved? := by
  cases thumb? with
  | none =>
    cases saved? with
    | none => exact spends_pure none
    | some saved => cases hthumb
  | some thumb =>
    cases saved? with
    | none => cases hthumb
    | some saved =>
      rw [Option.mapM_some, map_eq_pure_bind]
      exact (spends_upload thumb saved).map some

theorem spends_uploadMedia (media : Wire.InputMedia) (kept : Wire.MessageMedia) :
    Spends peer connectionId services (uploadMedia peer connectionId media) []
      [.ok ⟨.messageMedia, kept⟩] kept := by
  intro world moreSaves moreAnswers huploads hanswers
  have htakes := takes_invoke (Wire.keepMedia connectionId peer media) services world
  rw [hanswers] at htakes
  have hrun : uploadMedia peer connectionId media services world =
        ((invoke (Wire.keepMedia connectionId peer media) services world).1.mapError .invocation,
          (invoke (Wire.keepMedia connectionId peer media) services world).2) := rfl
  rw [hrun, invoke_apply, hanswers]
  exact ⟨huploads, rfl, _, htakes.lift, by simp [Step.event, Event.IsUpload]⟩

theorem spends_read : Spends peer connectionId services read [] [] services := by
  intro world moreSaves moreAnswers huploads hanswers
  exact ⟨huploads, hanswers, [], takes_read services world, by simp⟩

variable {item item' : MediaItem} {items items' : List MediaItem}

variable (peer connectionId services) in
/-- A post names an item that is uploaded as it names the one that the server returned. -/
theorem spends_sendableItem (hkept : Kept item saves answers item') :
    ∃ media, Named item' media ∧
      Spends peer connectionId services (sendableItem peer connectionId item) saves answers media ∧
      sendableItem peer connectionId item' = pure media := by
  cases hkept with
  | @known _ file source =>
    -- both items are the same
    rcases item with ⟨_ | details, _, spoiler⟩ <;> obtain rfl := source
    · exact ⟨_, .intro rfl .photo, spends_pure _, rfl⟩
    · exact ⟨_, .intro rfl (.video details), spends_pure _, rfl⟩
  | @photo file spoiler saved media photo photo_eq =>
    refine ⟨_, .intro rfl .photo, ?_, rfl⟩
    refine (spends_upload file saved).bind ((spends_uploadMedia _ (.photo media)).bind ?_)
    rw [namePhoto, Wire.MessageMedia.keptPhoto?_eq_some_iff.2 ⟨_, rfl, photo_eq⟩]
    exact spends_pure _
  | @video details details' file spoiler thumb saved media document thumb_iff document_eq =>
    refine ⟨_, .intro rfl (.video details'), ?_, rfl⟩
    rw [List.map_append]
    refine spends_read.bind ((spends_thumb thumb_iff).bind ((spends_upload file saved).bind
      ((spends_uploadMedia _ (.document media)).bind ?_)))
    rw [nameVideo, Wire.MessageMedia.keptDocument?_eq_some_iff.2 ⟨_, rfl, document_eq⟩]
    exact spends_pure _

variable (peer connectionId services) in
/-- The same holds of all items of a post. -/
theorem spends_mapM (hkept : AllKept items saves answers items') :
    ∃ media, List.Forall₂ Named items' media ∧
      Spends peer connectionId services (items.mapM (sendableItem peer connectionId)) saves answers
        media ∧
      items'.mapM (sendableItem peer connectionId) = pure media := by
  induction hkept with
  | nil => exact ⟨[], .nil, spends_pure [], rfl⟩
  | cons hitem _ ih =>
    obtain ⟨part, hnamed, hspends, hstored⟩ := spends_sendableItem peer connectionId services hitem
    obtain ⟨parts, hnames, hrest, hothers⟩ := ih
    refine ⟨part :: parts, .cons hnamed hnames, ?_, ?_⟩
    · rw [List.mapM_cons]
      exact hspends.bind (hrest.map (part :: ·))
    · rw [List.mapM_cons, hstored, hothers, pure_bind, pure_bind]

end Spending

/-! ## Sending -/

theorem map_mk_injective {kind : Wire.ResponseKind} :
    Function.Injective fun outcome : Except CallError kind.Value =>
      outcome.map (Wire.Response.mk kind) := by
  intro first second hmap
  cases first <;> cases second <;> simp_all [Except.map]

/-- What is heard when media is sent is up to the answer: its meaning depends on the call, but not on
the arguments of that. -/
theorem result_runOnBehalf_eq (arguments arguments' : Wire.SendMedia) (connectionId : Option String)
    (services : Services) (world world' : World)
    (hanswer : world'.answers.head? = world.answers.head?) :
    (runOnBehalf (.sendMedia arguments') connectionId services world').1 =
      (runOnBehalf (.sendMedia arguments) connectionId services world).1 := by
  cases connectionId with
  | none =>
    simp only [runOnBehalf, invoke_apply, hanswer]
    exact map_mk_injective ((map_receive (.call (.sendMedia arguments')) _).trans
      (map_receive (.call (.sendMedia arguments)) _).symm)
  | some id =>
    simp only [runOnBehalf, invoke_apply, hanswer]
    exact map_mk_injective ((map_receive (.onBehalf id (.call (.sendMedia arguments'))) _).trans
      (map_receive (.onBehalf id (.call (.sendMedia arguments))) _).symm)

theorem result_sendPrepared (post : PaidPost) (peer : Wire.InputPeer)
    (items : List Wire.InputMedia) (services : Services) (world : World) :
    (sendPrepared post peer items services world).1 =
      ((runOnBehalf (.sendMedia (post.request services peer items world.nextRandomId.value))
          post.businessConnectionId services
          { world with nextRandomId := world.nextRandomId.advance }).1.mapError .invocation).map
        fun updates => (Update.ofContainer updates).filterMap Update.message? := by
  simp only [sendPrepared, bind_apply, read_apply, newRandomId_apply, lift_apply]
  rcases runOnBehalf _ _ services _ with ⟨_ | updates, world'⟩ <;> rfl

/-- So is what comes of sending a post. -/
theorem result_sendPrepared_eq (post : PaidPost) (peer : Wire.InputPeer)
    (items : List Wire.InputMedia) (services : Services) {world world' : World}
    (hanswer : world'.answers.head? = world.answers.head?) :
    (sendPrepared post peer items services world').1 =
      (sendPrepared post peer items services world).1 := by
  have hheard := result_runOnBehalf_eq (post.request services peer items world.nextRandomId.value)
    (post.request services peer items world'.nextRandomId.value) post.businessConnectionId services
    { world with nextRandomId := world.nextRandomId.advance }
    { world' with nextRandomId := world'.nextRandomId.advance } hanswer
  rw [result_sendPrepared, result_sendPrepared, hheard]

/-- A post is sent in one step. -/
theorem takes_sending (post : PaidPost) (peer : Wire.InputPeer) (items : List Wire.InputMedia)
    (services : Services) (world : World) :
    ∃ randomId answer result, Takes (sendPrepared post peer items) services world
      [.sent ((Wire.Call.sendMedia (post.request services peer items randomId)).onBehalfOf
        post.businessConnectionId) answer] result := by
  rcases takes_sendPrepared post peer items services world with
    ⟨updates, htakes⟩ | ⟨answer, error, -, htakes⟩
  · exact ⟨_, _, _, htakes⟩
  · exact ⟨_, _, _, htakes⟩

/-- Once the chat is found, uploading the items and naming them lead to the same post and to the same
result. -/
theorem takes_deliver_alike (post : PaidPost) (peer : Wire.InputPeer) (services : Services)
    {items : List MediaItem} {saves moreSaves : List UploadAnswer}
    {answers moreAnswers : List Answer} {world world' : World}
    (hkept : AllKept post.media saves answers items)
    (huploads : world.uploads = saves ++ moreSaves)
    (hanswers : world.answers = answers ++ moreAnswers)
    (hanswer : world'.answers.head? = moreAnswers.head?) :
    ∃ steps media randomId randomId' answer answer' result,
      List.Forall₂ Named items media ∧
      Takes (post.media.mapM (sendableItem peer post.businessConnectionId) >>=
        sendPrepared post peer) services world
        (steps ++ [.sent ((Wire.Call.sendMedia
          (post.request services peer media randomId)).onBehalfOf post.businessConnectionId) answer])
        result ∧
      Takes (items.mapM (sendableItem peer post.businessConnectionId) >>= sendPrepared post peer)
        services world' [.sent ((Wire.Call.sendMedia
          (post.request services peer media randomId')).onBehalfOf post.businessConnectionId)
            answer'] result ∧
      ∀ event ∈ steps.map Step.event, event.IsUpload peer post.businessConnectionId := by
  obtain ⟨media, hnames, hspends, hstored⟩ :=
    spends_mapM peer post.businessConnectionId services hkept
  obtain ⟨-, hleft, steps, hitems, huploading⟩ :=
    hspends world moreSaves moreAnswers huploads hanswers
  obtain ⟨randomId, answer, result, hsend⟩ := takes_sending post peer media services
    (post.media.mapM (sendableItem peer post.businessConnectionId) services world).2
  obtain ⟨randomId', answer', result', hsend'⟩ := takes_sending post peer media services world'
  have hresult : result' = result := by
    rw [← hsend'.result_eq, ← hsend.result_eq]
    exact result_sendPrepared_eq post peer media services (by rw [hleft, hanswer])
  refine ⟨steps, media, randomId, randomId', answer, answer', result, hnames, hitems.bind hsend, ?_,
    huploading⟩
  rw [hstored, pure_bind, ← hresult]
  exact hsend'

end Client

/-! ## Main statement -/

/-- Take a post whose items are all uploaded without a failure, and the post that names what the
server returned for them instead. Sent to the same chat, with the same answer to the last request,
both end with the same result. If the chat is found, the first one uploads and then sends the post,
with one item for each of its own, named by what the server returned for it; the second one saves no
file and asks the server to keep nothing, but sends the same post at once, on behalf of the same
business connection, with another random number. -/
theorem stored_posts_are_sent_alike (chat : ChatRef) {post : PaidPost} (services : Services)
    {items : List MediaItem} {saves moreSaves : List UploadAnswer}
    {answers moreAnswers : List Answer} (world world' : World)
    (hsize : 1 ≤ post.media.length ∧ post.media.length ≤ 10)
    (hkept : AllKept post.media saves answers items)
    (huploads : world.uploads = saves ++ moreSaves)
    (hanswers : world.answers = answers ++ moreAnswers)
    (hanswer : world'.answers.head? = moreAnswers.head?) :
    let outcome := Client.sendPost chat post services world
    let outcome' := Client.sendPost chat { post with media := items } services world'
    outcome'.1 = outcome.1 ∧
      match Client.found chat (services.resolve chat) with
      | .error error =>
        outcome.1 = .error error ∧
          outcome.2.deeds = world.deeds ++ [.resolved chat] ∧
          outcome'.2.deeds = world'.deeds ++ [.resolved chat]
      | .ok peer =>
        ∃ (uploading : List Event) (media : List Wire.InputMedia) (arguments : Wire.SendMedia)
          (randomId randomId' : Int64),
          (∀ event ∈ uploading, event.IsUpload peer post.businessConnectionId) ∧
          List.Forall₂ Named items media ∧ post.SentAs services peer media arguments ∧
          outcome.2.deeds = world.deeds ++ .resolved chat :: uploading ++
            [.sent ((Wire.Call.sendMedia { arguments with randomId := randomId }).onBehalfOf
              post.businessConnectionId)] ∧
          outcome'.2.deeds = world'.deeds ++ [.resolved chat,
            .sent ((Wire.Call.sendMedia { arguments with randomId := randomId' }).onBehalfOf
              post.businessConnectionId)] := by
  intro outcome outcome'
  have hfit : post.sizeFits = true := post.sizeFits_eq_true_iff.2 hsize
  have hfit' : ({ post with media := items } : PaidPost).sizeFits = true := by
    rw [PaidPost.sizeFits_eq_true_iff, hkept.length_eq]
    exact hsize
  have hpost := Client.sendPost_of_fit chat hfit
  have hpost' := Client.sendPost_of_fit chat hfit'
  have hpeer := Client.takes_peerOf chat services world
  have hpeer' := Client.takes_peerOf chat services world'
  cases hfound : Client.found chat (services.resolve chat) with
  | error error =>
    rw [hfound] at hpeer hpeer'
    have htakes : Client.Takes (Client.sendPost chat post) services world _ (.error error) :=
      hpost ▸ hpeer.bind_error
    have htakes' : Client.Takes (Client.sendPost chat { post with media := items }) services world'
        _ (.error error) := hpost' ▸ hpeer'.bind_error
    exact ⟨htakes'.result_eq.trans htakes.result_eq.symm, htakes.result_eq,
      htakes.performs.deeds_eq, htakes'.performs.deeds_eq⟩
  | ok peer =>
    rw [hfound] at hpeer hpeer'
    have huploads' : (Client.peerOf chat services world).2.uploads = saves ++ moreSaves := by
      rw [Client.peerOf_apply]
      exact huploads
    have hanswers' : (Client.peerOf chat services world).2.answers = answers ++ moreAnswers := by
      rw [Client.peerOf_apply]
      exact hanswers
    have hanswer' : (Client.peerOf chat services world').2.answers.head? = moreAnswers.head? := by
      rw [Client.peerOf_apply]
      exact hanswer
    obtain ⟨steps, media, randomId, randomId', answer, answer', result, hnames, hupload, hname,
      huploading⟩ := Client.takes_deliver_alike post peer services hkept huploads' hanswers' hanswer'
    have htakes : Client.Takes (Client.sendPost chat post) services world _ result :=
      hpost ▸ hpeer.bind hupload
    have htakes' : Client.Takes (Client.sendPost chat { post with media := items }) services world'
        _ result := hpost' ▸ hpeer'.bind hname
    refine ⟨htakes'.result_eq.trans htakes.result_eq.symm, steps.map Step.event, media,
      post.request services peer media 0, randomId, randomId', huploading, hnames,
      post.sentAs_request services peer media 0, ?_, ?_⟩
    · have hdeeds := htakes.performs.deeds_eq
      rw [List.map_append, List.map_append] at hdeeds
      rw [List.append_assoc]
      exact hdeeds
    · exact htakes'.performs.deeds_eq

/-! ## A mixed post -/

namespace PaidPost

/-- The photo that the server keeps. -/
def keptPhoto : Wire.Photo := ⟨false, 11, 12, [13], 0, [], 2⟩

/-- The video that the server keeps. -/
def keptVideo : Wire.Document := ⟨21, 22, [23], 0, "video/mp4", 5, none, 2, []⟩

/-- What is said about the video: it has a thumbnail. -/
def thumbed : VideoDetails := { VideoDetails.unknown with thumb := some (.path "thumb.jpg") }

/-- A post with a photo and a video to upload, and a photo that the server has. -/
def mixed : PaidPost where
  starsAmount := 25
  media := [⟨.photo, .upload (.path "photo.jpg"), true⟩,
    ⟨.video thumbed, .upload (.path "video.mp4"), false⟩,
    ⟨.photo, .stored ⟨1, 2, [3]⟩, false⟩]
  caption := some ⟨"Behind the scenes", none, none⟩
  payload := none
  silent := false
  replyTo := none
  quote := none
  scheduleDate := none
  protectContent := true
  invertMedia := false
  businessConnectionId := some "connection"

/-- Its items, once the server keeps them. -/
def mixedItems : List MediaItem :=
  [⟨.photo, .stored ⟨11, 12, [13]⟩, true⟩,
    ⟨.video .unknown, .stored ⟨21, 22, [23]⟩, false⟩,
    ⟨.photo, .stored ⟨1, 2, [3]⟩, false⟩]

/-- The uploader saves the photo, the thumbnail and the video. -/
def mixedSaves : List UploadAnswer :=
  [.ok (.file 1 1 "photo.jpg" ""), .ok (.file 2 1 "thumb.jpg" ""), .ok (.big 3 9 "video.mp4")]

/-- The server keeps the photo and the video. -/
def mixedAnswers : List Answer :=
  [.ok ⟨.messageMedia, .photo ⟨true, some (.photo keptPhoto), none⟩⟩,
    .ok ⟨.messageMedia, .document ⟨false, false, true, false, false,
      some (.document keptVideo), none⟩⟩]

theorem mixed_kept : AllKept mixed.media mixedSaves mixedAnswers mixedItems := by
  have hphoto : Kept ⟨.photo, .upload (.path "photo.jpg"), true⟩ [.ok (.file 1 1 "photo.jpg" "")]
      [.ok ⟨.messageMedia, .photo ⟨true, some (.photo keptPhoto), none⟩⟩]
      ⟨.photo, .stored ⟨11, 12, [13]⟩, true⟩ := @Kept.photo _ _ _ _ keptPhoto rfl
  have hvideo : Kept ⟨.video thumbed, .upload (.path "video.mp4"), false⟩
      ([.file 2 1 "thumb.jpg" "", .big 3 9 "video.mp4"].map .ok)
      [.ok ⟨.messageMedia, .document ⟨false, false, true, false, false,
        some (.document keptVideo), none⟩⟩]
      ⟨.video .unknown, .stored ⟨21, 22, [23]⟩, false⟩ :=
    @Kept.video _ _ _ _ (some _) _ _ keptVideo rfl rfl
  have hknown : Kept ⟨.photo, .stored ⟨1, 2, [3]⟩, false⟩ [] [] _ := .known rfl
  have hall := AllKept.cons hphoto (.cons hvideo (.cons hknown .nil))
  exact hall

theorem media_of_mixedItems {media : List Wire.InputMedia}
    (hnames : List.Forall₂ Named mixedItems media) :
    media = [.photo ⟨true, .photo ⟨11, 12, [13]⟩, none⟩,
      .document ⟨false, .document ⟨21, 22, [23]⟩, none, none⟩,
      .photo ⟨false, .photo ⟨1, 2, [3]⟩, none⟩] := by
  obtain _ | ⟨⟨⟨⟩, ⟨⟩⟩, _ | ⟨⟨⟨⟩, ⟨⟩⟩, _ | ⟨⟨⟨⟩, ⟨⟩⟩, ⟨⟩⟩⟩⟩ := hnames
  rfl

end PaidPost

/-- The photo and the video are uploaded once, and then the post can be sent again and again. -/
theorem mixed_sent_alike :
    let services : Services := {
      resolve := fun _ => .ok (some (.channel 7 8))
      parse := fun _ text => .plain text
      parseMode := .disabled
      mimeType := fun name => if name = "video.mp4" then some "video/mp4" else none }
    let outcome := Client.sendPost (.username "gallery") PaidPost.mixed services
      ⟨PaidPost.mixedAnswers ++ [.ok ⟨.updates, .tooLong⟩], PaidPost.mixedSaves, 4, []⟩
    let outcome' := Client.sendPost (.username "gallery")
      { PaidPost.mixed with media := PaidPost.mixedItems } services
      ⟨[.ok ⟨.updates, .tooLong⟩], [], 9, []⟩
    outcome'.1 = outcome.1 ∧ ∃ (uploading : List Event) (arguments : Wire.SendMedia)
      (randomId randomId' : Int64),
      arguments.media = .paidMedia ⟨25, [.photo ⟨true, .photo ⟨11, 12, [13]⟩, none⟩,
        .document ⟨false, .document ⟨21, 22, [23]⟩, none, none⟩,
        .photo ⟨false, .photo ⟨1, 2, [3]⟩, none⟩], none⟩ ∧
      outcome.2.deeds = .resolved (.username "gallery") :: uploading ++
        [.sent (.onBehalf "connection" (.call (.sendMedia
          { arguments with randomId := randomId })))] ∧
      outcome'.2.deeds = [.resolved (.username "gallery"),
        .sent (.onBehalf "connection" (.call (.sendMedia
          { arguments with randomId := randomId' })))] := by
  intro services outcome outcome'
  have hsize : 1 ≤ PaidPost.mixed.media.length ∧ PaidPost.mixed.media.length ≤ 10 := by decide
  have huploads : PaidPost.mixedSaves = PaidPost.mixedSaves ++ [] := by simp
  obtain ⟨hresult, uploading, media, arguments, randomId, randomId', -, hnames, hsentAs, hdeeds,
    hdeeds'⟩ := stored_posts_are_sent_alike (.username "gallery") services
      ⟨PaidPost.mixedAnswers ++ [.ok ⟨.updates, .tooLong⟩], PaidPost.mixedSaves, 4, []⟩
      ⟨[.ok ⟨.updates, .tooLong⟩], [], 9, []⟩ hsize PaidPost.mixed_kept huploads rfl rfl
  refine ⟨hresult, uploading, arguments, randomId, randomId', ?_, hdeeds, hdeeds'⟩
  rw [hsentAs.media, PaidPost.media_of_mixedItems hnames]
  rfl

end Messenger
