import Messenger.Client.Posts
import Messenger.Proofs.Steps

/-!
# The items of a post

An item that the server has takes no steps; one that has to be uploaded is saved and handed to the
server, unless one of these steps fails.

1. **Files** (`MediaKind.NamedAs`, `MediaKind.HandedAs`, `Returned`): how a file is named and handed
   over, and which file the server returns for it, spelled out in relations of their own.
2. **Courses** (`Prepared`, `Broken`): the steps for an item, up to the one that fails.
3. **Requests and failures** (`Prepared.request_of_mem`, `Broken.failsLast`): what the steps ask of
   the server, and which of them failed.
4. **Runs** (`Client.takes_sendableItem`): an item is prepared, or one of its steps fails.
-/

namespace Messenger

/-! ## Files -/

/-- The request to keep saved media for a peer. -/
def Wire.keepMedia (connectionId : Option String) (peer : Wire.InputPeer)
    (media : Wire.InputMedia) : Wire.Request :=
  .call (.uploadMedia { businessConnectionId := connectionId, peer := peer, media := media })

/-- A file of the server, as a post names it: as a photo or as a document, under the same cover. -/
inductive MediaKind.NamedAs (spoiler : Bool) (file : RemoteFile) :
    MediaKind → Wire.InputMedia → Prop
  | photo : NamedAs spoiler file .photo <| .photo {
      spoiler := spoiler
      id := .photo {
        id := file.id
        accessHash := file.accessHash
        fileReference := file.fileReference }
      ttlSeconds := none }
  | video (details : VideoDetails) : NamedAs spoiler file (.video details) <| .document {
      spoiler := spoiler
      id := .document {
        id := file.id
        accessHash := file.accessHash
        fileReference := file.fileReference }
      ttlSeconds := none
      query := none }

/-- A saved file, as it is handed to the server: a photo as it is, and a video with its thumbnail,
with the type and the name of its file and with what is known about it. -/
inductive MediaKind.HandedAs (services : Services) (spoiler : Bool) (file : LocalFile)
    (saved : Wire.InputFile) (thumb : Option Wire.InputFile) : MediaKind → Wire.InputMedia → Prop
  | photo : HandedAs services spoiler file saved thumb .photo <| .uploadedPhoto {
      spoiler := spoiler
      file := saved
      stickers := none
      ttlSeconds := none }
  | video (details : VideoDetails) :
      HandedAs services spoiler file saved thumb (.video details) <| .uploadedDocument {
        nosoundVideo := true
        forceFile := false
        spoiler := spoiler
        file := saved
        thumb := thumb
        mimeType := (services.mimeType file.name).getD "video/mp4"
        attributes := [
          .video {
            roundMessage := false
            supportsStreaming := details.supportsStreaming
            nosound := false
            duration := details.duration
            width := details.width
            height := details.height
            preloadPrefixSize := none },
          .filename file.name]
        stickers := none
        ttlSeconds := none }

/-- The server answered to an upload with the file that it made of it: a photo for a photo, and a
document for a video. -/
inductive Returned : MediaKind → Wire.MessageMedia → RemoteFile → Prop
  | photo {media : Wire.PhotoMedia} {photo : Wire.Photo}
      (photo_eq : media.photo = some (.photo photo)) :
      Returned .photo (.photo media) {
        id := photo.id
        accessHash := photo.accessHash
        fileReference := photo.fileReference }
  | video {details : VideoDetails} {media : Wire.DocumentMedia} {document : Wire.Document}
      (document_eq : media.document = some (.document document)) :
      Returned (.video details) (.document media) {
        id := document.id
        accessHash := document.accessHash
        fileReference := document.fileReference }

/-- The failure where the server answered to an upload with something else. -/
inductive Unreturned : MediaKind → IoError → Prop
  | photo : Unreturned .photo {
      kind := .invalidData
      message := "server did not return the uploaded photo" }
  | video (details : VideoDetails) : Unreturned (.video details) {
      kind := .invalidData
      message := "server did not return the uploaded video" }

/-! ## Courses -/

/-- A file is saved if there is one. -/
inductive Saved : Option LocalFile → List Step → Option Wire.InputFile → Prop
  | nothing : Saved none [] none
  | file (file : LocalFile) (saved : Wire.InputFile) :
      Saved (some file) [.saved file (.ok saved)] (some saved)

/-- The thumbnail of a video is saved if it has one. -/
inductive ThumbSaved : MediaKind → List Step → Option Wire.InputFile → Prop
  | photo : ThumbSaved .photo [] none
  | video {details : VideoDetails} {steps : List Step} {thumb : Option Wire.InputFile}
      (saved : Saved details.thumb steps thumb) : ThumbSaved (.video details) steps thumb

section

variable (services : Services) (peer : Wire.InputPeer) (connectionId : Option String)
  (item : MediaItem)

/-- The thumbnail of an item is saved if there is one, then its file, and a request hands them to
the server, which answers. -/
inductive Handed : List Step → Wire.Request → Answer → Prop
  | intro {file : LocalFile} {thumbSteps : List Step} {thumb : Option Wire.InputFile}
      {saved : Wire.InputFile} {media : Wire.InputMedia} {request : Wire.Request} {answer : Answer}
      (source : item.source = .upload file) (thumbSaved : ThumbSaved item.kind thumbSteps thumb)
      (handedAs : item.kind.HandedAs services item.spoiler file saved thumb media)
      (request_eq : request = Wire.keepMedia connectionId peer media) :
      Handed (thumbSteps ++ [.saved file (.ok saved), .sent request answer]) request answer

/-- The steps that prepare an item for a post, and the item as the post names it. -/
inductive Prepared : List Step × Wire.InputMedia → Prop
  /-- The server has the item. -/
  | stored {file : RemoteFile} {media : Wire.InputMedia} (source : item.source = .stored file)
      (namedAs : item.kind.NamedAs item.spoiler file media) : Prepared ([], media)
  /-- The item is handed to the server, which keeps it. -/
  | uploaded {steps : List Step} {request : Wire.Request} {kept : Wire.MessageMedia}
      {file : RemoteFile} {media : Wire.InputMedia}
      (handed : Handed services peer connectionId item steps request (.ok ⟨.messageMedia, kept⟩))
      (returned : Returned item.kind kept file)
      (namedAs : item.kind.NamedAs item.spoiler file media) : Prepared (steps, media)

/-- The steps of preparing an item up to the one that fails, and the failure. -/
inductive Broken : List Step → MethodError → Prop
  /-- The thumbnail is not saved. -/
  | thumb {details : VideoDetails} {file thumb : LocalFile} {error : IoError}
      (source : item.source = .upload file) (kind : item.kind = .video details)
      (hasThumb : details.thumb = some thumb) :
      Broken [.saved thumb (.error error)] (.upload error)
  /-- The file is not saved. -/
  | file {file : LocalFile} {thumbSteps : List Step} {thumb : Option Wire.InputFile}
      {error : IoError} (source : item.source = .upload file)
      (thumbSaved : ThumbSaved item.kind thumbSteps thumb) :
      Broken (thumbSteps ++ [.saved file (.error error)]) (.upload error)
  /-- The request to keep them fails. -/
  | refused {steps : List Step} {request : Wire.Request} {answer : Answer} {error : CallError}
      (handed : Handed services peer connectionId item steps request answer)
      (refused : Client.receive request answer = .error error) :
      Broken steps (.invocation error)
  /-- The server keeps something else. -/
  | notReturned {steps : List Step} {request : Wire.Request} {kept : Wire.MessageMedia}
      {error : IoError}
      (handed : Handed services peer connectionId item steps request (.ok ⟨.messageMedia, kept⟩))
      (notReturned : ∀ file, ¬ Returned item.kind kept file)
      (unreturned : Unreturned item.kind error) :
      Broken steps (.upload error)

end

/-! ## Requests and failures -/

namespace Saved

variable {file? : Option LocalFile} {steps : List Step} {saved? : Option Wire.InputFile}

/-- A file is saved in at most one step, which succeeds. -/
theorem steps_eq (hsaved : Saved file? steps saved?) :
    steps = [] ∨ ∃ file saved, steps = [.saved file (.ok saved)] := by
  cases hsaved with
  | nothing => exact Or.inl rfl
  | file file saved => exact Or.inr ⟨file, saved, rfl⟩

theorem failure?_of_mem (hsaved : Saved file? steps saved?) {step : Step} (hmem : step ∈ steps) :
    step.failure? = none := by
  rcases hsaved.steps_eq with rfl | ⟨file, saved, rfl⟩
  · cases hmem
  · rw [List.mem_singleton.1 hmem]
    rfl

theorem not_sent (hsaved : Saved file? steps saved?) (request : Wire.Request) (answer : Answer) :
    Step.sent request answer ∉ steps := by
  rcases hsaved.steps_eq with rfl | ⟨file, saved, rfl⟩ <;> simp

end Saved

namespace ThumbSaved

variable {kind : MediaKind} {steps : List Step} {thumb? : Option Wire.InputFile}

theorem failure?_of_mem (hthumb : ThumbSaved kind steps thumb?) {step : Step}
    (hmem : step ∈ steps) : step.failure? = none := by
  cases hthumb with
  | photo => cases hmem
  | video hsaved => exact hsaved.failure?_of_mem hmem

theorem not_sent (hthumb : ThumbSaved kind steps thumb?) (request : Wire.Request)
    (answer : Answer) : Step.sent request answer ∉ steps := by
  cases hthumb with
  | photo => simp
  | video hsaved => exact hsaved.not_sent request answer

end ThumbSaved

section Requests

variable {services : Services} {peer : Wire.InputPeer} {connectionId : Option String}
  {item : MediaItem} {steps : List Step} {request asked : Wire.Request} {answer reply : Answer}

/-- Whatever is saved is saved before the request, which names the peer and the business
connection. -/
theorem Handed.steps_eq (hhanded : Handed services peer connectionId item steps request answer) :
    (∃ media, request = Wire.keepMedia connectionId peer media) ∧
      ∃ saves, steps = saves ++ [.sent request answer] ∧
        (∀ step ∈ saves, step.failure? = none) ∧
        ∀ asked reply, Step.sent asked reply ∉ saves := by
  cases hhanded with
  | @intro file thumbSteps thumb saved media _ _ hsource hthumb hmedia hrequest =>
    refine ⟨⟨media, hrequest⟩, thumbSteps ++ [.saved file (.ok saved)], by simp, ?_, ?_⟩
    · intro step hmem
      rcases List.mem_append.1 hmem with hmem | hmem
      · exact hthumb.failure?_of_mem hmem
      · rw [List.mem_singleton.1 hmem]
        rfl
    · simp [hthumb.not_sent]

theorem Handed.request_of_mem
    (hhanded : Handed services peer connectionId item steps request answer)
    (hmem : .sent asked reply ∈ steps) :
    ∃ media, asked = Wire.keepMedia connectionId peer media := by
  obtain ⟨⟨media, rfl⟩, saves, rfl, -, hsaves⟩ := hhanded.steps_eq
  rcases List.mem_append.1 hmem with hmem | hmem
  · exact absurd hmem (hsaves asked reply)
  · obtain ⟨rfl, -⟩ := Step.sent.inj (List.mem_singleton.1 hmem)
    exact ⟨media, rfl⟩

/-- An answer of the right kind is no failure. -/
theorem Handed.failure?_of_kept {kept : Wire.MessageMedia}
    (hhanded : Handed services peer connectionId item steps request (.ok ⟨.messageMedia, kept⟩))
    {step : Step} (hmem : step ∈ steps) : step.failure? = none := by
  obtain ⟨⟨media, rfl⟩, saves, rfl, hsaves, -⟩ := hhanded.steps_eq
  rcases List.mem_append.1 hmem with hmem | hmem
  · exact hsaves step hmem
  · rw [List.mem_singleton.1 hmem]
    exact Step.failure?_sent_ok (Wire.keepMedia connectionId peer media) kept

variable {part : List Step × Wire.InputMedia} {error : MethodError}

/-- None of the steps that prepare an item failed. -/
theorem Prepared.failure?_of_mem (hprepared : Prepared services peer connectionId item part)
    {step : Step} (hmem : step ∈ part.1) : step.failure? = none := by
  cases hprepared with
  | stored => cases hmem
  | uploaded hhanded => exact hhanded.failure?_of_kept hmem

/-- All that is asked of the server for an item is to keep it for the peer. -/
theorem Prepared.request_of_mem (hprepared : Prepared services peer connectionId item part)
    (hmem : .sent asked reply ∈ part.1) :
    ∃ media, asked = Wire.keepMedia connectionId peer media := by
  cases hprepared with
  | stored => cases hmem
  | uploaded hhanded => exact hhanded.request_of_mem hmem

/-- Only the last step for a broken item failed. -/
theorem Broken.failsLast {α : Type} (hbroken : Broken services peer connectionId item steps error) :
    FailsLast steps (.error error : Except MethodError α) := by
  cases hbroken with
  | thumb => exact .single (by simp [Step.failure?])
  | file source hthumb =>
    exact .append (fun _ => hthumb.failure?_of_mem) (.single (by simp [Step.failure?]))
  | refused hhanded hrefused =>
    obtain ⟨-, saves, rfl, hsaves, -⟩ := hhanded.steps_eq
    exact .append hsaves (.single (by simp [Step.failure?_sent_of_error hrefused]))
  | notReturned hhanded => exact .of_succeeds fun _ => hhanded.failure?_of_kept

theorem Broken.request_of_mem (hbroken : Broken services peer connectionId item steps error)
    (hmem : .sent asked reply ∈ steps) :
    ∃ media, asked = Wire.keepMedia connectionId peer media := by
  cases hbroken with
  | thumb => simp at hmem
  | file source hthumb => simp [hthumb.not_sent] at hmem
  | refused hhanded => exact hhanded.request_of_mem hmem
  | notReturned hhanded => exact hhanded.request_of_mem hmem

variable {items : List MediaItem} {parts : List (List Step × Wire.InputMedia)}

/-- What is done for some items is done for one of them. -/
theorem Prepared.of_mem_parts
    (hprepared : List.Forall₂ (Prepared services peer connectionId) items parts) {step : Step}
    (hmem : step ∈ parts.flatMap Prod.fst) :
    ∃ item part, Prepared services peer connectionId item part ∧ step ∈ part.1 := by
  induction hprepared with
  | nil => cases hmem
  | cons hpart _ ih =>
    rw [List.flatMap_cons] at hmem
    rcases List.mem_append.1 hmem with hmem | hmem
    · exact ⟨_, _, hpart, hmem⟩
    · exact ih hmem

theorem Prepared.failure?_of_mem_parts
    (hprepared : List.Forall₂ (Prepared services peer connectionId) items parts) (step : Step)
    (hmem : step ∈ parts.flatMap Prod.fst) : step.failure? = none := by
  obtain ⟨item, part, hpart, hmem⟩ := Prepared.of_mem_parts hprepared hmem
  exact hpart.failure?_of_mem hmem

theorem Prepared.request_of_mem_parts
    (hprepared : List.Forall₂ (Prepared services peer connectionId) items parts)
    (hmem : .sent asked reply ∈ parts.flatMap Prod.fst) :
    ∃ media, asked = Wire.keepMedia connectionId peer media := by
  obtain ⟨item, part, hpart, hmem⟩ := Prepared.of_mem_parts hprepared hmem
  exact hpart.request_of_mem hmem

end Requests

/-! ## Runs -/

namespace Wire.MessageMedia

variable {kept : Wire.MessageMedia}

theorem keptPhoto?_eq_some_iff {photo : Wire.Photo} :
    kept.keptPhoto? = some photo ↔
      ∃ media, kept = .photo media ∧ media.photo = some (.photo photo) := by
  constructor
  · intro hkept
    simp only [keptPhoto?] at hkept
    split at hkept
    · split at hkept
      · cases hkept
        exact ⟨_, rfl, ‹_›⟩
      · cases hkept
    · cases hkept
  · rintro ⟨media, rfl, hphoto⟩
    simp only [keptPhoto?, hphoto]

theorem keptDocument?_eq_some_iff {document : Wire.Document} :
    kept.keptDocument? = some document ↔
      ∃ media, kept = .document media ∧ media.document = some (.document document) := by
  constructor
  · intro hkept
    simp only [keptDocument?] at hkept
    split at hkept
    · split at hkept
      · cases hkept
        exact ⟨_, rfl, ‹_›⟩
      · cases hkept
    · cases hkept
  · rintro ⟨media, rfl, hdocument⟩
    simp only [keptDocument?, hdocument]

end Wire.MessageMedia

namespace Client

/-- The thumbnail is saved if there is one, or the uploader refuses it. -/
theorem takes_thumb (thumb? : Option LocalFile) (services : Services) (world : World) :
    (∃ steps thumb, Saved thumb? steps thumb ∧
        Takes (thumb?.mapM upload) services world steps (.ok thumb)) ∨
      ∃ thumb error, thumb? = some thumb ∧
        Takes (thumb?.mapM upload) services world [.saved thumb (.error error)]
          (.error (.upload error)) := by
  cases thumb? with
  | none => exact Or.inl ⟨[], none, .nothing, takes_pure none services world⟩
  | some thumb =>
    rw [Option.mapM_some, map_eq_pure_bind]
    rcases upload_cases thumb services world with ⟨saved, htakes⟩ | ⟨error, htakes⟩
    · exact Or.inl ⟨_, _, .file thumb saved, htakes.bind_nil (takes_pure _ _ _)⟩
    · exact Or.inr ⟨thumb, error, rfl, htakes.bind_error⟩

/-- The server keeps media for a peer, or the request fails. -/
theorem uploadMedia_cases (peer : Wire.InputPeer) (connectionId : Option String)
    (media : Wire.InputMedia) (services : Services) (world : World) :
    (∃ kept : Wire.MessageMedia,
        Takes (uploadMedia peer connectionId media) services world
          [.sent (Wire.keepMedia connectionId peer media) (.ok ⟨.messageMedia, kept⟩)] (.ok kept)) ∨
      ∃ answer error, receive (Wire.keepMedia connectionId peer media) answer = .error error ∧
        Takes (uploadMedia peer connectionId media) services world
          [.sent (Wire.keepMedia connectionId peer media) answer] (.error (.invocation error)) := by
  rcases invoke_cases (Wire.keepMedia connectionId peer media) services world with
    ⟨kept, hkeep⟩ | ⟨answer, error, hrefused, hkeep⟩
  · exact Or.inl ⟨kept, hkeep.lift⟩
  · exact Or.inr ⟨answer, error, hrefused, hkeep.lift⟩

/-- The run names the file that the server returned for an item, and fails if it returned none. -/
def Names (item : MediaItem) (next : Wire.MessageMedia → Client MethodError Wire.InputMedia) :
    Prop :=
  ∀ kept,
    (∃ file media, Returned item.kind kept file ∧ item.kind.NamedAs item.spoiler file media ∧
        next kept = pure media) ∨
      ∃ error, (∀ file, ¬ Returned item.kind kept file) ∧ Unreturned item.kind error ∧
        next kept = throw (.upload error)

theorem names_namePhoto (source : MediaSource) (spoiler : Bool) :
    Names ⟨.photo, source, spoiler⟩ (namePhoto spoiler) := by
  intro kept
  cases hkept : kept.keptPhoto? with
  | some photo =>
    left
    obtain ⟨media, rfl, hphoto⟩ := Wire.MessageMedia.keptPhoto?_eq_some_iff.1 hkept
    exact ⟨_, _, .photo hphoto, .photo, by rw [namePhoto, hkept]⟩
  | none =>
    right
    refine ⟨_, ?_, .photo, by rw [namePhoto, hkept]; rfl⟩
    intro file hreturned
    cases hreturned with
    | photo hphoto =>
      cases hkept.symm.trans (Wire.MessageMedia.keptPhoto?_eq_some_iff.2 ⟨_, rfl, hphoto⟩)

theorem names_nameVideo (details : VideoDetails) (source : MediaSource) (spoiler : Bool) :
    Names ⟨.video details, source, spoiler⟩ (nameVideo spoiler) := by
  intro kept
  cases hkept : kept.keptDocument? with
  | some document =>
    left
    obtain ⟨media, rfl, hdocument⟩ := Wire.MessageMedia.keptDocument?_eq_some_iff.1 hkept
    exact ⟨_, _, .video hdocument, .video details, by rw [nameVideo, hkept]; rfl⟩
  | none =>
    right
    refine ⟨_, ?_, .video details, by rw [nameVideo, hkept]; rfl⟩
    intro file hreturned
    cases hreturned with
    | video hdocument =>
      cases hkept.symm.trans (Wire.MessageMedia.keptDocument?_eq_some_iff.2 ⟨_, rfl, hdocument⟩)

section

variable (services : Services) (peer : Wire.InputPeer) (connectionId : Option String)

/-- Once the thumbnail of an item is saved, its file is saved and handed to the server, and what the
server returns is named, up to the step that fails. -/
theorem takes_saveAndHand (item : MediaItem) {file : LocalFile} {thumbSteps : List Step}
    {thumb : Option Wire.InputFile} {media : Wire.InputFile → Wire.InputMedia}
    {next : Wire.MessageMedia → Client MethodError Wire.InputMedia}
    (hsource : item.source = .upload file) (hthumb : ThumbSaved item.kind thumbSteps thumb)
    (hmedia : ∀ saved, item.kind.HandedAs services item.spoiler file saved thumb (media saved))
    (hnames : Names item next) (world : World) :
    (∃ steps named, Prepared services peer connectionId item (thumbSteps ++ steps, named) ∧
        Takes (upload file >>= fun saved => uploadMedia peer connectionId (media saved) >>= next)
          services world steps (.ok named)) ∨
      ∃ steps error, Broken services peer connectionId item (thumbSteps ++ steps) error ∧
        Takes (upload file >>= fun saved => uploadMedia peer connectionId (media saved) >>= next)
          services world steps (.error error) := by
  rcases upload_cases file services world with ⟨saved, hsave⟩ | ⟨error, hsave⟩
  · have hhanded (answer : Answer) : Handed services peer connectionId item
        (thumbSteps ++ [.saved file (.ok saved),
          .sent (Wire.keepMedia connectionId peer (media saved)) answer])
        (Wire.keepMedia connectionId peer (media saved)) answer :=
      .intro hsource hthumb (hmedia saved) rfl
    rcases uploadMedia_cases peer connectionId (media saved) services (upload file services world).2
      with ⟨kept, hkeep⟩ | ⟨answer, error, hrefused, hkeep⟩
    · rcases hnames kept with
        ⟨returned, named, hreturned, hnamed, hnext⟩ | ⟨error, hnone, herror, hnext⟩
      · refine Or.inl ⟨_, named, .uploaded (hhanded _) hreturned hnamed,
          hsave.bind (hkeep.bind_nil ?_)⟩
        rw [hnext]
        exact takes_pure named services _
      · refine Or.inr ⟨_, _, .notReturned (hhanded _) hnone herror,
          hsave.bind (hkeep.bind_nil ?_)⟩
        rw [hnext]
        exact takes_throw _ services _
    · exact Or.inr ⟨_, _, .refused (hhanded _) hrefused, hsave.bind hkeep.bind_error⟩
  · exact Or.inr ⟨_, _, .file hsource hthumb, hsave.bind_error⟩

variable (spoiler : Bool) (file : LocalFile) (world : World)

/-- A photo is uploaded, up to the step that fails. -/
theorem takes_uploadPhoto :
    (∃ part, Prepared services peer connectionId ⟨.photo, .upload file, spoiler⟩ part ∧
        Takes (uploadPhoto peer connectionId spoiler file) services world part.1 (.ok part.2)) ∨
      ∃ steps error,
        Broken services peer connectionId ⟨.photo, .upload file, spoiler⟩ steps error ∧
        Takes (uploadPhoto peer connectionId spoiler file) services world steps (.error error) := by
  rcases takes_saveAndHand services peer connectionId ⟨.photo, .upload file, spoiler⟩ rfl .photo
      (fun _ => .photo) (names_namePhoto _ spoiler) world with
    ⟨steps, named, hprepared, htakes⟩ | ⟨steps, error, hbroken, htakes⟩
  · exact Or.inl ⟨(steps, named), hprepared, htakes⟩
  · exact Or.inr ⟨steps, error, hbroken, htakes⟩

/-- A video is uploaded, its thumbnail first, up to the step that fails. -/
theorem takes_uploadVideo (details : VideoDetails) :
    (∃ part, Prepared services peer connectionId ⟨.video details, .upload file, spoiler⟩ part ∧
        Takes (uploadVideo peer connectionId spoiler details file) services world part.1
          (.ok part.2)) ∨
      ∃ steps error,
        Broken services peer connectionId ⟨.video details, .upload file, spoiler⟩ steps error ∧
        Takes (uploadVideo peer connectionId spoiler details file) services world steps
          (.error error) := by
  rcases takes_thumb details.thumb services world with
    ⟨thumbSteps, thumb, hthumb, hfirst⟩ | ⟨thumb, error, hthumb, hfirst⟩
  · rcases takes_saveAndHand services peer connectionId ⟨.video details, .upload file, spoiler⟩ rfl
        (.video hthumb) (fun _ => .video details) (names_nameVideo details _ spoiler)
        (details.thumb.mapM upload services world).2 with
      ⟨steps, named, hprepared, htakes⟩ | ⟨steps, error, hbroken, htakes⟩
    · exact Or.inl ⟨(thumbSteps ++ steps, named), hprepared,
        (takes_read services world).bind (hfirst.bind htakes)⟩
    · exact Or.inr ⟨_, _, hbroken, (takes_read services world).bind (hfirst.bind htakes)⟩
  · exact Or.inr ⟨_, _, .thumb rfl rfl hthumb, (takes_read services world).bind hfirst.bind_error⟩

end

/-- A stored item is named as it is, and another one is uploaded first. -/
theorem takes_sendableItem (peer : Wire.InputPeer) (connectionId : Option String) (item : MediaItem)
    (services : Services) (world : World) :
    (∃ part, Prepared services peer connectionId item part ∧
        Takes (sendableItem peer connectionId item) services world part.1 (.ok part.2)) ∨
      ∃ steps error, Broken services peer connectionId item steps error ∧
        Takes (sendableItem peer connectionId item) services world steps (.error error) := by
  rcases item with ⟨_ | details, file | file, spoiler⟩
  · exact takes_uploadPhoto services peer connectionId spoiler file world
  · exact Or.inl ⟨_, .stored rfl .photo, takes_pure _ services world⟩
  · exact takes_uploadVideo services peer connectionId spoiler file world details
  · exact Or.inl ⟨_, .stored rfl (.video details), takes_pure _ services world⟩

end Client

end Messenger
