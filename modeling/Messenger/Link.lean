import Messenger.Text.Word

/-!
# Links

A link to an invoice or to a gift code ends in a slug, which is what requests name. A link is made
of these parts, of which the first two may be missing:

1. `http://` or `https://`;
2. `www.`;
3. the host, `t` or `telegram`, a dot, and `org`, `me` or `dog`, and a slash;
4. the mark of what it leads to: `$` for an invoice, `giftcode/` or `+` for a gift code;
5. the slug: one or more word characters or hyphens, up to the end.

Anything that is not such a link is taken to be the slug itself.
-/

namespace Messenger.Link

/-- The rest of the text behind the start, if the text starts with it. -/
def after? (start text : List Char) : Option (List Char) :=
  if start.isPrefixOf text then some (text.drop start.length) else none

/-- The rest of the text behind the start, or the text if it does not start with it. -/
def skip (start text : List Char) : List Char :=
  (after? start text).getD text

/-- The rest of the text behind the first of the starts that it has. -/
def afterAny? (starts : List String) (text : List Char) : Option (List Char) :=
  starts.findSome? fun start => after? start.toList text

/-- The ways to say how the host is reached. -/
def schemes : List String := ["http://", "https://"]

/-- The names of hosts. -/
def hosts : List String := ["t.", "telegram."]

/-- The domains of hosts, with the slash behind them. -/
def domains : List String := ["org/", "me/", "dog/"]

/-- The marks of a link to an invoice. -/
def invoiceMarks : List String := ["$"]

/-- The marks of a link to a gift code. -/
def giftCodeMarks : List String := ["giftcode/", "+"]

/-- The rest of the text behind the host. -/
def afterHost? (text : List Char) : Option (List Char) := do
  let text := (afterAny? schemes text).getD text
  let text := skip "www.".toList text
  let text ← afterAny? hosts text
  afterAny? domains text

/-- The character may stand in a slug. -/
def isSlugChar (c : Char) : Bool :=
  Text.isWord c || c == '-'

/-- The text can be a slug. -/
def isSlug (text : List Char) : Bool :=
  text ≠ [] ∧ text.all isSlugChar

/-- The slug of a link with one of the marks, if the text is such a link. -/
def slug? (marks : List String) (text : List Char) : Option (List Char) := do
  let text ← afterHost? text
  let text ← afterAny? marks text
  if isSlug text then some text else none

/-- The slug of an invoice, given a link to it or the slug. -/
def invoiceSlug (link : String) : String :=
  (slug? invoiceMarks link.toList).elim link .ofList

/-- The slug of a gift code, given a link to it or the slug. -/
def giftCodeSlug (link : String) : String :=
  (slug? giftCodeMarks link.toList).elim link .ofList

end Messenger.Link
