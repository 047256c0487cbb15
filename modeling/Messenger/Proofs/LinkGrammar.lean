import Mathlib.Computability.Language
import Messenger.Client.GiftCodes
import Messenger.Proofs.Steps

/-!
# The grammar of links

A link is a word of a language, and a slug behind it (`Link.LeadsTo`).

1. **Languages** (`Link.words`, `Link.address`): what a link to anything starts with.
2. **Readers** (`Link.Reads`): a reader takes the words of its language off a text, and nothing else.
   Readers follow one another (`Link.Reads.mul`), and what may be missing is skipped
   (`Link.Reads.optional`), as long as the first character tells whether it is there (`Link.Opens`).
3. **Slugs** (`Link.slug?_eq_some_iff`): the slug that is read is the one that the link leads to.
4. **Gift codes** (`GiftCode.leadsTo_link`): the link of a gift code leads to its slug.

Main statement: `Link.slugs_are_read_from_links`.
-/

namespace Messenger

namespace Link

/-! ## Languages -/

/-- One of some texts. -/
def words (texts : List String) : Language Char :=
  {word | ∃ text ∈ texts, word = text.toList}

/-- Where a link is addressed to: perhaps how the host is reached, perhaps `www.`, and the host. -/
def address : Language Char :=
  (1 + words ["http://", "https://"]) * (1 + words ["www."]) * words ["t", "telegram"] *
    words ["."] * words ["org", "me", "dog"]

/-- One or more word characters or hyphens. -/
def Slug (slug : String) : Prop :=
  slug ≠ "" ∧ ∀ c ∈ slug.toList, Text.isWord c = true ∨ c = '-'

/-- The link is an address, one of the marks and the slug. -/
def LeadsTo (marks : List String) (link slug : String) : Prop :=
  (∃ front ∈ address * words marks, link.toList = front ++ slug.toList) ∧ Slug slug

theorem mem_words {texts : List String} {text : String} (hmem : text ∈ texts) :
    text.toList ∈ words texts :=
  ⟨text, hmem, rfl⟩

/-- One text and another one behind it are one of the texts that these make together. -/
theorem words_mul (texts others : List String) :
    words texts * words others = words (texts.flatMap fun text => others.map (text ++ ·)) := by
  ext word
  rw [Language.mem_mul]
  constructor
  · rintro ⟨_, ⟨text, htext, rfl⟩, _, ⟨other, hother, rfl⟩, rfl⟩
    refine ⟨text ++ other, ?_, String.toList_append.symm⟩
    exact List.mem_flatMap.2 ⟨text, htext, List.mem_map.2 ⟨other, hother, rfl⟩⟩
  · rintro ⟨both, hboth, rfl⟩
    obtain ⟨text, htext, hmap⟩ := List.mem_flatMap.1 hboth
    obtain ⟨other, hother, rfl⟩ := List.mem_map.1 hmap
    exact ⟨_, mem_words htext, _, mem_words hother, String.toList_append.symm⟩

/-- Every word of the language starts with one of the characters. -/
def Opens (heads : List Char) (language : Language Char) : Prop :=
  ∀ word ∈ language, ∃ c ∈ heads, word.head? = some c

theorem opens_words {heads : List Char} {texts : List String}
    (htexts : ∀ text ∈ texts, ∃ c ∈ heads, text.toList.head? = some c) :
    Opens heads (words texts) := by
  rintro _ ⟨text, htext, rfl⟩
  exact htexts text htext

section

variable {heads others : List Char} {first next : Language Char}

theorem Opens.mul (hfirst : Opens heads first) : Opens heads (first * next) := by
  intro word hword
  obtain ⟨part, hpart, rest, -, rfl⟩ := Language.mem_mul.1 hword
  obtain ⟨c, hc, hhead⟩ := hfirst part hpart
  exact ⟨c, hc, by rw [List.head?_append, hhead, Option.some_or]⟩

/-- What may be missing starts like itself or like what follows. -/
theorem Opens.optional (hfirst : Opens heads first) (hnext : Opens others next) :
    Opens (heads ++ others) ((1 + first) * next) := by
  intro word hword
  rw [add_mul, one_mul, Language.mem_add] at hword
  rcases hword with hword | hword
  · obtain ⟨c, hc, hhead⟩ := hnext word hword
    exact ⟨c, List.mem_append_right _ hc, hhead⟩
  · obtain ⟨c, hc, hhead⟩ := hfirst.mul word hword
    exact ⟨c, List.mem_append_left _ hc, hhead⟩

end

/-! ## Readers -/

/-- The reader takes a word of the language off a text, and leaves the rest. -/
def Reads (reader : List Char → Option (List Char)) (language : Language Char) : Prop :=
  ∀ text rest, reader text = some rest ↔ ∃ word ∈ language, text = word ++ rest

theorem after?_eq_some_iff {start text rest : List Char} :
    after? start text = some rest ↔ text = start ++ rest := by
  rw [after?]
  by_cases hstart : start <+: text
  · obtain ⟨behind, rfl⟩ := hstart
    rw [if_pos (by simp), List.drop_left]
    simp
  · rw [if_neg (by simpa using hstart)]
    constructor
    · simp
    · rintro rfl
      exact absurd (List.prefix_append start rest) hstart

theorem reads_after? (start : String) : Reads (after? start.toList) (words [start]) := by
  intro text rest
  rw [after?_eq_some_iff]
  constructor
  · intro htext
    exact ⟨start.toList, mem_words (List.mem_singleton_self start), htext⟩
  · rintro ⟨_, ⟨word, hword, rfl⟩, htext⟩
    rwa [List.mem_singleton.1 hword] at htext

/-- Of texts none of which starts another one, at most one stands at the start of a text. -/
theorem reads_afterAny? (starts : List String)
    (hfree : ∀ start ∈ starts, ∀ other ∈ starts, start.toList <+: other.toList → start = other) :
    Reads (afterAny? starts) (words starts) := by
  intro text rest
  constructor
  · intro hread
    obtain ⟨start, hstart, hafter⟩ := List.exists_of_findSome?_eq_some hread
    exact ⟨start.toList, mem_words hstart, after?_eq_some_iff.1 hafter⟩
  · rintro ⟨_, ⟨start, hstart, rfl⟩, htext⟩
    have hsome : (afterAny? starts text).isSome = true := by
      rw [afterAny?, List.findSome?_isSome_iff]
      exact ⟨start, hstart, by rw [after?_eq_some_iff.2 htext]; rfl⟩
    obtain ⟨behind, hread⟩ := Option.isSome_iff_exists.1 hsome
    obtain ⟨other, hother, hafter⟩ := List.exists_of_findSome?_eq_some hread
    have hbehind : text = other.toList ++ behind := after?_eq_some_iff.1 hafter
    -- both stand at the start of the text, so that one of them starts the other
    have hsame : start = other := by
      rcases List.prefix_or_prefix_of_prefix ⟨rest, htext.symm⟩ ⟨behind, hbehind.symm⟩ with
        hprefix | hprefix
      · exact hfree start hstart other hother hprefix
      · exact (hfree other hother start hstart hprefix).symm
    rw [hread, List.append_cancel_left (hbehind.symm.trans (hsame ▸ htext))]

section

variable {reader reader' : List Char → Option (List Char)} {first next : Language Char}

theorem Reads.mul (hfirst : Reads reader first) (hnext : Reads reader' next) :
    Reads (fun text => (reader text).bind reader') (first * next) := by
  intro text rest
  rw [Option.bind_eq_some_iff]
  constructor
  · rintro ⟨middle, hmiddle, hrest⟩
    obtain ⟨word, hword, rfl⟩ := (hfirst text middle).1 hmiddle
    obtain ⟨word', hword', rfl⟩ := (hnext middle rest).1 hrest
    exact ⟨word ++ word', Language.append_mem_mul hword hword', (List.append_assoc ..).symm⟩
  · rintro ⟨_, hmem, rfl⟩
    obtain ⟨word, hword, word', hword', rfl⟩ := Language.mem_mul.1 hmem
    exact ⟨word' ++ rest, (hfirst _ _).2 ⟨word, hword, List.append_assoc ..⟩,
      (hnext _ _).2 ⟨word', hword', rfl⟩⟩

/-- What may be missing is skipped. If it is there, what follows cannot start in its place. -/
theorem Reads.optional {heads others : List Char} (hfirst : Reads reader first)
    (hnext : Reads reader' next) (hheads : Opens heads first) (hothers : Opens others next)
    (hapart : ∀ c ∈ heads, c ∉ others) :
    Reads (fun text => reader' ((reader text).getD text)) ((1 + first) * next) := by
  intro text rest
  rw [add_mul, one_mul]
  simp only [Language.mem_add]
  cases hread : reader text with
  | none =>
    rw [Option.getD_none, hnext]
    constructor
    · rintro ⟨word, hword, htext⟩
      exact ⟨word, Or.inl hword, htext⟩
    · rintro ⟨word, hword | hword, htext⟩
      · exact ⟨word, hword, htext⟩
      · -- the first reader would have found its word
        obtain ⟨part, hpart, behind, -, rfl⟩ := Language.mem_mul.1 hword
        rw [(hfirst text (behind ++ rest)).2 ⟨part, hpart, by rw [htext, List.append_assoc]⟩] at hread
        cases hread
  | some middle =>
    obtain ⟨part, hpart, htext⟩ := (hfirst text middle).1 hread
    rw [Option.getD_some, hnext]
    constructor
    · rintro ⟨word, hword, hmiddle⟩
      refine ⟨part ++ word, Or.inr (Language.append_mem_mul hpart hword), ?_⟩
      rw [htext, hmiddle, List.append_assoc]
    · rintro ⟨word, hword | hword, hother⟩
      · -- the text would have two first characters
        obtain ⟨c, hc, hhead⟩ := hheads part hpart
        obtain ⟨d, hd, hhead'⟩ := hothers word hword
        have hcd : c = d := by
          have hsame := congrArg List.head? (htext.symm.trans hother)
          simpa [List.head?_append, hhead, hhead'] using hsame
        exact absurd (hcd ▸ hd) (hapart c hc)
      · obtain ⟨part', hpart', behind, hbehind, rfl⟩ := Language.mem_mul.1 hword
        have hmiddle := (hfirst text (behind ++ rest)).2
          ⟨part', hpart', by rw [hother, List.append_assoc]⟩
        rw [hread, Option.some.injEq] at hmiddle
        exact ⟨behind, hbehind, hmiddle⟩

end

/-- The host is read as the grammar has it, with the slash behind it. -/
theorem reads_afterHost? : Reads afterHost? (address * words ["/"]) := by
  have hhosts : Reads (afterAny? hosts) (words ["t", "telegram"] * words ["."]) := by
    rw [words_mul]
    exact reads_afterAny? hosts (by decide)
  have hdomains : Reads (afterAny? domains) (words ["org", "me", "dog"] * words ["/"]) := by
    rw [words_mul]
    exact reads_afterAny? domains (by decide)
  have hnamed := hhosts.mul hdomains
  -- `h`, `w` and `t` tell the two parts that may be missing from each other and from the host
  have hopens : Opens ['t'] (words ["t", "telegram"] * words ["."] *
      (words ["org", "me", "dog"] * words ["/"])) :=
    (opens_words (by simp)).mul.mul
  have hwww : Opens ['w'] (words ["www."]) := opens_words (by simp)
  have hschemes : Opens ['h'] (words schemes) := opens_words (by simp [schemes])
  have hreads : Reads afterHost? ((1 + words schemes) * ((1 + words ["www."]) *
      (words ["t", "telegram"] * words ["."] * (words ["org", "me", "dog"] * words ["/"])))) :=
    (reads_afterAny? schemes (by decide)).optional
      ((reads_after? "www.").optional hnamed hwww hopens (by simp)) hschemes
      (hwww.optional hopens) (by simp)
  have haddress : address * words ["/"] = (1 + words schemes) * ((1 + words ["www."]) *
      (words ["t", "telegram"] * words ["."] * (words ["org", "me", "dog"] * words ["/"]))) := by
    rw [address, schemes]
    simp only [mul_assoc]
  rwa [haddress]

/-! ## Slugs -/

theorem slug_iff {slug : String} : Slug slug ↔ isSlug slug.toList = true := by
  simp [Slug, isSlug, isSlugChar]

/-- A slug is read exactly if the text is a link to it. -/
theorem slug?_eq_some_iff {marks : List String}
    (hfree : ∀ mark ∈ marks, ∀ other ∈ marks, mark.toList <+: other.toList → mark = other)
    (link slug : String) :
    slug? marks link.toList = some slug.toList ↔ LeadsTo (marks.map ("/" ++ ·)) link slug := by
  have hmarks : address * words (marks.map ("/" ++ ·)) = address * words ["/"] * words marks := by
    rw [mul_assoc, words_mul, List.flatMap_singleton]
  have hread : slug? marks link.toList =
      ((afterHost? link.toList).bind (afterAny? marks)).bind
        fun text => if isSlug text then some text else none := by
    rw [slug?, Option.bind_assoc]
    rfl
  rw [LeadsTo, hmarks, slug_iff, ← reads_afterHost?.mul (reads_afterAny? marks hfree), hread,
    Option.bind_eq_some_iff]
  constructor
  · rintro ⟨text, htext, hslug⟩
    by_cases hshape : isSlug text = true
    · rw [if_pos hshape, Option.some.injEq] at hslug
      exact ⟨hslug ▸ htext, hslug ▸ hshape⟩
    · rw [if_neg hshape] at hslug
      cases hslug
  · rintro ⟨htext, hshape⟩
    exact ⟨slug.toList, htext, if_pos hshape⟩

/-- What a text is taken for: the slug that it leads to, or itself. -/
def slugOf (marks : List String) (text : String) : String :=
  (slug? marks text.toList).elim text .ofList

/-- A slug has no slash in it. -/
theorem Slug.slash_notMem {slug : String} (hslug : Slug slug) : '/' ∉ slug.toList := by
  intro hslash
  rcases hslug.2 '/' hslash with hword | hhyphen
  · revert hword
    decide
  · cases hhyphen

/-- A link has a slash in it. -/
theorem LeadsTo.slash_mem {marks : List String} {text slug : String}
    (hlink : LeadsTo (marks.map ("/" ++ ·)) text slug) : '/' ∈ text.toList := by
  obtain ⟨⟨front, hfront, htext⟩, -⟩ := hlink
  obtain ⟨host, -, _, ⟨_, hmark, rfl⟩, rfl⟩ := Language.mem_mul.1 hfront
  obtain ⟨mark, -, rfl⟩ := List.mem_map.1 hmark
  rw [htext]
  simp

/-- Texts are read after a grammar: a link with one of the marks is read as the slug that it leads
to, any other text as itself, and what was read is read as itself. -/
structure ReadsAfter (marks : List String) (read : String → String) : Prop where
  of_link : ∀ text slug, LeadsTo marks text slug → read text = slug
  of_other : ∀ text, (∀ slug, ¬ LeadsTo marks text slug) → read text = text
  again : ∀ text, read (read text) = read text

theorem readsAfter_slugOf (marks : List String)
    (hfree : ∀ mark ∈ marks, ∀ other ∈ marks, mark.toList <+: other.toList → mark = other) :
    ReadsAfter (marks.map ("/" ++ ·)) (slugOf marks) := by
  have hlink : ∀ text slug, LeadsTo (marks.map ("/" ++ ·)) text slug → slugOf marks text = slug := by
    intro text slug hleads
    rw [slugOf, (slug?_eq_some_iff hfree text slug).2 hleads]
    exact String.ofList_toList
  have hother : ∀ text, (∀ slug, ¬ LeadsTo (marks.map ("/" ++ ·)) text slug) →
      slugOf marks text = text := by
    intro text hnone
    have hread : slug? marks text.toList = none := by
      rw [Option.eq_none_iff_forall_ne_some]
      intro slug hslug
      rw [← String.toList_ofList (l := slug), slug?_eq_some_iff hfree] at hslug
      exact hnone _ hslug
    rw [slugOf, hread]
    rfl
  refine ⟨hlink, hother, ?_⟩
  intro text
  -- what was read is a slug or was no link before
  by_cases hleads : ∃ slug, LeadsTo (marks.map ("/" ++ ·)) text slug
  · obtain ⟨slug, hslug⟩ := hleads
    rw [hlink text slug hslug]
    -- a slug is no link, since it has no slash
    exact hother slug fun _ hagain => hslug.2.slash_notMem hagain.slash_mem
  · have hsame := hother text fun slug hslug => hleads ⟨slug, hslug⟩
    rw [hsame, hsame]

end Link

/-! ## Gift codes -/

/-- The link of a gift code leads to its slug. -/
theorem GiftCode.leadsTo_link (code : GiftCode) (hslug : Link.Slug code.slug) :
    Link.LeadsTo ["/giftcode/", "/+"] code.link code.slug := by
  have hscheme : "https://".toList ∈ 1 + Link.words ["http://", "https://"] :=
    Or.inr (Link.mem_words (by simp))
  have hwww : [] ∈ 1 + Link.words ["www."] := Or.inl rfl
  have haddress : "https://".toList ++ [] ++ "t".toList ++ ".".toList ++ "me".toList ∈
      Link.address := by
    refine Language.append_mem_mul (Language.append_mem_mul (Language.append_mem_mul
      (Language.append_mem_mul hscheme hwww) ?_) ?_) ?_
    · exact Link.mem_words (by simp)
    · exact Link.mem_words (by simp)
    · exact Link.mem_words (by simp)
  have hmark : "/giftcode/".toList ∈ Link.words ["/giftcode/", "/+"] :=
    Link.mem_words (by simp)
  refine ⟨⟨_, Language.append_mem_mul haddress hmark, ?_⟩, hslug⟩
  have hstart : linkStart.toList =
      "https://".toList ++ [] ++ "t".toList ++ ".".toList ++ "me".toList ++ "/giftcode/".toList := by
    decide
  rw [link, String.toList_append, hstart]

/-! ## Main statement -/

/-- A text is read as the slug of an invoice if it is an address, `/$` and the slug, and as the slug
of a gift code if it is an address, `/giftcode/` or `/+`, and the slug. Any other text is left as it
is, and so is what was read. Asking about the link of a gift code, and claiming it, sends the slug
of the code, and nothing else. -/
theorem Link.slugs_are_read_from_links :
    ReadsAfter ["/$"] invoiceSlug ∧
      ReadsAfter ["/giftcode/", "/+"] giftCodeSlug ∧
      ∀ (code : GiftCode) (services : Services) (world : World), Slug code.slug →
        let answer := world.answers.head?.getD (.error .dropped)
        Client.Takes (Client.inspectGiftCode code.link) services world
            [.sent (.call (.checkGiftCode code.slug)) answer]
            ((Client.receive (.call (.checkGiftCode code.slug)) answer).map GiftCodeStatus.ofRaw) ∧
          Client.Takes (Client.claimGiftCode code.link) services world
            [.sent (.call (.applyGiftCode code.slug)) answer]
            ((Client.receive (.call (.applyGiftCode code.slug)) answer).map fun _ => true) := by
  have hinvoice : ReadsAfter ["/$"] invoiceSlug :=
    readsAfter_slugOf invoiceMarks (by decide)
  have hgift : ReadsAfter ["/giftcode/", "/+"] giftCodeSlug :=
    readsAfter_slugOf giftCodeMarks (by decide)
  refine ⟨hinvoice, hgift, ?_⟩
  intro code services world hslug answer
  have hread : giftCodeSlug code.link = code.slug :=
    hgift.of_link _ _ (code.leadsTo_link hslug)
  rw [Client.inspectGiftCode, Client.claimGiftCode, hread]
  exact ⟨Client.takes_run_map (.checkGiftCode code.slug) _ services world,
    Client.takes_run_map (.applyGiftCode code.slug) _ services world⟩

/-- The code behind a link with a hyphen and a letter beyond ASCII in its slug. -/
theorem Link.linked_code_is_sent :
    let code : GiftCode := ⟨3, "Añb-1", none, none, false, false, none⟩
    let services : Services := .blank
    let world : World := ⟨[.ok ⟨.updates, .tooLong⟩], [], 0, []⟩
    Slug code.slug ∧ code.link = "https://t.me/giftcode/Añb-1" ∧
      giftCodeSlug "https://t.me/giftcode/Añb-1" = "Añb-1" ∧
      Client.Takes (Client.claimGiftCode "https://t.me/giftcode/Añb-1") services world
        [.sent (.call (.applyGiftCode "Añb-1")) (.ok ⟨.updates, .tooLong⟩)] (.ok true) := by
  intro code services world
  have hslug : Slug code.slug := slug_iff.2 (by decide)
  have hlink : code.link = "https://t.me/giftcode/Añb-1" := by decide
  obtain ⟨-, hgift, hcodes⟩ := slugs_are_read_from_links
  have hread := hgift.of_link _ _ (code.leadsTo_link hslug)
  have hclaim := (hcodes code services world hslug).2
  rw [hlink] at hread hclaim
  exact ⟨hslug, hlink, hread, hclaim⟩

/-- With a slash too many, without a slug, with a line behind it or with a host in capitals, a text
is no link. -/
example :
    let texts := ["https://t.me/giftcode/AbCd/", "t.me/+", "t.me/+AbCd\n", "https://T.me/+AbCd"]
    texts.map Link.giftCodeSlug = texts := by
  decide

end Messenger
