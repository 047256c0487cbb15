import Messenger.Media

/-!
# What becomes of the entries of paid media

The entries of paid media become previews, photos and videos, in their order. What cannot become one
of these is left out.

1. **Videos** (`FirstVideo`, `NoVideo`): a document is the video that its first video attributes
   make it, or it has none.
2. **Entries** (`PaidItem.Shows`, `Foreign`): an entry becomes the item that shows it, or it is left
   out (`PaidItem.ofRaw?_cases`); it is foreign if its media is neither a photo nor a document.
3. **Lists** (`Becomes`): each entry is kept, or left out with a warning, or left out without one.
   One more entry (`Becomes.exists_cons`) leads to the whole list (`exists_becomes_itemsOf`).

Main statement: `entries_leave_traces_iff`. A foreign entry disappears without a warning
(`entry_vanishes`).
-/

namespace Messenger

/-! ## Videos -/

namespace Wire.DocumentAttribute

/-- The attributes of a video, if that is what is said. -/
def video? : DocumentAttribute → Option VideoAttributes
  | .video attributes => some attributes
  | _ => none

theorem video?_eq_some_iff {said : DocumentAttribute} {attributes : VideoAttributes} :
    said.video? = some attributes ↔ said = .video attributes := by
  cases said <;> simp [video?]

theorem forall_video?_eq_none_iff {all : List DocumentAttribute} :
    (∀ said ∈ all, said.video? = none) ↔ ∀ attributes, .video attributes ∉ all := by
  simp only [Option.eq_none_iff_forall_ne_some, ne_eq, video?_eq_some_iff]
  constructor
  · intro hnone attributes hmem
    exact hnone _ hmem attributes rfl
  · rintro hnone _ hmem attributes rfl
    exact hnone attributes hmem

end Wire.DocumentAttribute

namespace Wire.DocumentMedia

/-- The first video attributes of the document. -/
def FirstVideo (document : DocumentMedia) (attributes : VideoAttributes) : Prop :=
  ∃ before after, document.attributes = before ++ .video attributes :: after ∧
    ∀ other, .video other ∉ before

/-- The document has no video attributes. -/
def NoVideo (document : DocumentMedia) : Prop :=
  ∀ attributes, .video attributes ∉ document.attributes

theorem findSome?_video?_eq_some_iff {document : DocumentMedia} {attributes : VideoAttributes} :
    document.attributes.findSome? DocumentAttribute.video? = some attributes ↔
      document.FirstVideo attributes := by
  rw [List.findSome?_eq_some_iff]
  simp only [DocumentAttribute.video?_eq_some_iff, DocumentAttribute.forall_video?_eq_none_iff]
  constructor
  · rintro ⟨before, _, after, hsplit, rfl, hbefore⟩
    exact ⟨before, after, hsplit, hbefore⟩
  · rintro ⟨before, after, hsplit, hbefore⟩
    exact ⟨before, _, after, hsplit, rfl, hbefore⟩

end Wire.DocumentMedia

namespace Video

/-- The search for the attributes of a video, by its name. -/
theorem ofDocument?_eq (document : Wire.DocumentMedia) :
    ofDocument? document =
      (document.attributes.findSome? Wire.DocumentAttribute.video?).map (⟨document, ·⟩) :=
  rfl

/-- A document is the video that its first video attributes make it, or it has none. -/
theorem ofDocument?_cases (document : Wire.DocumentMedia) :
    (∃ attributes, document.FirstVideo attributes ∧
        ofDocument? document = some ⟨document, attributes⟩) ∨
      document.NoVideo ∧ ofDocument? document = none := by
  rw [ofDocument?_eq]
  cases hfound : document.attributes.findSome? Wire.DocumentAttribute.video? with
  | some attributes =>
    exact Or.inl ⟨attributes, Wire.DocumentMedia.findSome?_video?_eq_some_iff.1 hfound, rfl⟩
  | none =>
    rw [List.findSome?_eq_none_iff, Wire.DocumentAttribute.forall_video?_eq_none_iff] at hfound
    exact Or.inr ⟨hfound, rfl⟩

end Video

/-! ## Entries -/

/-- The preview says what the server does, and has a picture only if its bytes were sent along. -/
structure PaidPreview.Previews (preview : PaidPreview) (raw : Wire.MediaPreview) : Prop where
  width_eq : preview.width = raw.width
  height_eq : preview.height = raw.height
  duration_eq : preview.duration = raw.videoDuration
  thumbnail_iff : ∀ bytes, preview.thumbnail = some bytes ↔
    ∃ type, raw.thumb = some (.stripped type bytes)

theorem PaidPreview.previews_ofRaw (raw : Wire.MediaPreview) : (ofRaw raw).Previews raw := by
  refine ⟨rfl, rfl, rfl, fun bytes => ?_⟩
  rw [ofRaw]
  split <;> simp_all

/-- The item shows the entry: a preview as a preview, a photo as it is, and a document as the video
that its first video attributes make it. -/
inductive PaidItem.Shows : PaidItem → Wire.ExtendedMedia Wire.MessageMedia → Prop
  | preview {preview : PaidPreview} {raw : Wire.MediaPreview} (previews : preview.Previews raw) :
      Shows (.preview preview) (.preview raw)
  | photo (photo : Wire.PhotoMedia) : Shows (.photo photo) (.media (.photo photo))
  | video {document : Wire.DocumentMedia} {attributes : Wire.VideoAttributes}
      (first : document.FirstVideo attributes) :
      Shows (.video ⟨document, attributes⟩) (.media (.document document))

namespace Wire.ExtendedMedia

/-- The entry has media, and neither a photo nor a document. -/
inductive Foreign : ExtendedMedia MessageMedia → Prop
  | empty : Foreign (.media .empty)
  | unsupported : Foreign (.media .unsupported)
  | invoice (invoice : InvoiceMedia (ExtendedMedia MessageMedia)) :
      Foreign (.media (.invoice invoice))
  | paidMedia (media : PaidMedia (ExtendedMedia MessageMedia)) :
      Foreign (.media (.paidMedia media))

theorem not_foreign_of_shows {item : PaidItem} {entry : ExtendedMedia MessageMedia}
    (hshows : item.Shows entry) : ¬ entry.Foreign := by
  cases hshows <;> rintro ⟨⟩

theorem not_foreign_document (document : DocumentMedia) :
    ¬ Foreign (.media (.document document)) := by
  rintro ⟨⟩

end Wire.ExtendedMedia

/-- An entry becomes the item that shows it, or it is left out: a document without video attributes
with a warning, and a foreign entry without one. -/
theorem PaidItem.ofRaw?_cases (entry : Wire.ExtendedMedia Wire.MessageMedia) :
    (∃ item : PaidItem, item.Shows entry ∧ ofRaw? entry = ⟨some item, []⟩) ∨
      (∃ document : Wire.DocumentMedia, entry = .media (.document document) ∧ document.NoVideo ∧
        ofRaw? entry = ⟨none, [.paidDocumentWithoutVideo]⟩) ∨
      entry.Foreign ∧ ofRaw? entry = ⟨none, []⟩ := by
  match entry with
  | .preview raw => exact Or.inl ⟨_, .preview (PaidPreview.previews_ofRaw raw), rfl⟩
  | .media (.photo raw) => exact Or.inl ⟨_, .photo raw, rfl⟩
  | .media (.document document) =>
    rw [ofRaw?]
    rcases Video.ofDocument?_cases document with ⟨attributes, hfirst, hvideo⟩ | ⟨hnone, hvideo⟩
    · rw [hvideo]
      exact Or.inl ⟨_, .video hfirst, rfl⟩
    · rw [hvideo]
      exact Or.inr (Or.inl ⟨document, rfl, hnone, rfl⟩)
  | .media .empty => exact Or.inr (Or.inr ⟨.empty, rfl⟩)
  | .media .unsupported => exact Or.inr (Or.inr ⟨.unsupported, rfl⟩)
  | .media (.invoice invoice) => exact Or.inr (Or.inr ⟨.invoice invoice, rfl⟩)
  | .media (.paidMedia media) => exact Or.inr (Or.inr ⟨.paidMedia media, rfl⟩)

/-! ## Lists -/

namespace PaidMedia

/-- What becomes of entries: the items that are kept, the warnings, and the entries that are left
out without one, each in the order of the entries. -/
inductive Becomes : List (Wire.ExtendedMedia Wire.MessageMedia) → List PaidItem → List Warning →
    List (Wire.ExtendedMedia Wire.MessageMedia) → Prop
  | nil : Becomes [] [] [] []
  | kept {entry : Wire.ExtendedMedia Wire.MessageMedia} {item : PaidItem}
      {entries items warnings lost} (shows : item.Shows entry)
      (rest : Becomes entries items warnings lost) :
      Becomes (entry :: entries) (item :: items) warnings lost
  | warned {document : Wire.DocumentMedia} {entries items warnings lost}
      (no_video : document.NoVideo) (rest : Becomes entries items warnings lost) :
      Becomes (.media (.document document) :: entries) items (.paidDocumentWithoutVideo :: warnings)
        lost
  | lost {entry : Wire.ExtendedMedia Wire.MessageMedia} {entries items warnings lost}
      (foreign : entry.Foreign) (rest : Becomes entries items warnings lost) :
      Becomes (entry :: entries) items warnings (entry :: lost)

namespace Becomes

variable {entries lost : List (Wire.ExtendedMedia Wire.MessageMedia)} {items : List PaidItem}
  {warnings : List Warning}

/-- Each entry is counted once. -/
theorem length_eq (hbecomes : Becomes entries items warnings lost) :
    items.length + warnings.length + lost.length = entries.length := by
  induction hbecomes with
  | nil => rfl
  | kept shows rest ih => simp only [List.length_cons]; omega
  | warned no_video rest ih => simp only [List.length_cons]; omega
  | lost foreign rest ih => simp only [List.length_cons]; omega

/-- Nothing is lost exactly if no entry is foreign. -/
theorem lost_eq_nil_iff (hbecomes : Becomes entries items warnings lost) :
    lost = [] ↔ ∀ entry ∈ entries, ¬ entry.Foreign := by
  induction hbecomes with
  | nil => simp
  | kept shows rest ih => simp [ih, Wire.ExtendedMedia.not_foreign_of_shows shows]
  | warned no_video rest ih => simp [ih, Wire.ExtendedMedia.not_foreign_document]
  | lost foreign rest ih => simp [foreign]

/-- One more entry is kept or left out. -/
theorem exists_cons (entry : Wire.ExtendedMedia Wire.MessageMedia)
    (hrest : Becomes entries items warnings lost) :
    ∃ lost', Becomes (entry :: entries) ((PaidItem.ofRaw? entry).value.toList ++ items)
      ((PaidItem.ofRaw? entry).warnings ++ warnings) lost' := by
  rcases PaidItem.ofRaw?_cases entry with
    ⟨item, hshows, hitem⟩ | ⟨document, rfl, hnone, hitem⟩ | ⟨hforeign, hitem⟩
  · rw [hitem]
    exact ⟨lost, .kept hshows hrest⟩
  · rw [hitem]
    exact ⟨lost, .warned hnone hrest⟩
  · rw [hitem]
    exact ⟨entry :: lost, .lost hforeign hrest⟩

end Becomes

theorem exists_becomes_itemsOf (entries : List (Wire.ExtendedMedia Wire.MessageMedia)) :
    ∃ lost, Becomes entries (itemsOf entries).value (itemsOf entries).warnings lost := by
  induction entries with
  | nil => exact ⟨[], .nil⟩
  | cons entry entries ih =>
    obtain ⟨lost, hrest⟩ := ih
    obtain ⟨lost', hbecomes⟩ := hrest.exists_cons entry
    refine ⟨lost', ?_⟩
    rw [itemsOf]
    simpa using hbecomes

end PaidMedia

/-! ## Main statement -/

/-- Whatever entries paid media has: its price stays, and each entry, in its turn, is kept as the
one item that shows it, or it is left out. A document without video attributes is left out with one
warning. An entry with media that is neither a photo nor a document is left out without one, and no
other entry is. So the items and the warnings come to the number of entries exactly if there is no
such entry. -/
theorem entries_leave_traces_iff (raw : Wire.PaidMedia (Wire.ExtendedMedia Wire.MessageMedia)) :
    let paid := PaidMedia.ofRaw raw
    paid.value.starsAmount = raw.starsAmount ∧
      ∃ lost, PaidMedia.Becomes raw.extendedMedia paid.value.media paid.warnings lost ∧
        paid.value.media.length + paid.warnings.length + lost.length = raw.extendedMedia.length ∧
        (paid.value.media.length + paid.warnings.length = raw.extendedMedia.length ↔
          ∀ entry ∈ raw.extendedMedia, ¬ entry.Foreign) := by
  intro paid
  obtain ⟨lost, hbecomes⟩ := PaidMedia.exists_becomes_itemsOf raw.extendedMedia
  -- there is nothing to warn about but the entries
  have hwarnings : paid.warnings = (PaidMedia.itemsOf raw.extendedMedia).warnings :=
    List.append_nil _
  rw [← hwarnings] at hbecomes
  have hlength : paid.value.media.length + paid.warnings.length + lost.length =
      raw.extendedMedia.length := hbecomes.length_eq
  refine ⟨rfl, lost, hbecomes, hlength, ?_⟩
  rw [← hbecomes.lost_eq_nil_iff, ← List.length_eq_zero_iff]
  omega

/-- Unsupported media is not kept, and there is no warning about it. -/
theorem entry_vanishes :
    ¬ ∀ raw : Wire.PaidMedia (Wire.ExtendedMedia Wire.MessageMedia),
      (PaidMedia.ofRaw raw).value.media.length + (PaidMedia.ofRaw raw).warnings.length =
        raw.extendedMedia.length := by
  intro halways
  have hlength := halways ⟨50, [.media .unsupported]⟩
  revert hlength
  decide

end Messenger
