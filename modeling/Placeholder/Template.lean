import Placeholder.Tag.Reader

/-! # Templates

A template is a text with tags in it. `Template.tags` finds the tags from left
to right: where no tag begins, the scan moves on by one character, and behind a
tag it goes on with the next character, so tags never overlap. What belongs to
no tag is text and stays as it is.

`Template.fill` puts texts in the place of the tags. It walks over the tags once
and cuts the template at their byte offsets, so what was put in is not read
again.
-/

namespace Placeholder.Template

open Placeholder.Text

/-! ## Finding tags -/

/-- Whether two opening braces stand next to each other somewhere: a text
without them has no tags. -/
def hasOpening : List Char → Bool
  | '\x7b' :: '\x7b' :: _ => true
  | _ :: cs => hasOpening cs
  | [] => false

/-- The characters in front of `rest`, a tail of `cs`. -/
def before (cs rest : List Char) : List Char := cs.take (cs.length - rest.length)

/-- The tag with a written form, its text and the byte offset it begins at. -/
def tagOf (form : Tag.Form) (raw : List Char) (start : Nat) : Tag where
  raw := String.ofList raw
  start := start
  stop := start + byteLength raw
  name := form.head.call.name
  args := form.head.call.args
  processor := form.processor.map Tag.CallForm.call

/-- The tags of the characters that begin at a byte offset. -/
def scan (offset : Nat) (cs : List Char) : List Tag :=
  match cs with
  | [] => []
  | c :: tail =>
      match _hread : Tag.read? (c :: tail) with
      | some (form, rest) =>
          let raw := before (c :: tail) rest
          tagOf form raw offset :: scan (offset + byteLength raw) rest
      | none => scan (offset + c.utf8Size) tail
termination_by cs.length
decreasing_by
  · exact Tag.read?_shorter (by assumption)
  · simp

/-- The tags of a template, in the order in which they occur. -/
def tags (template : String) : List Tag :=
  if hasOpening template.toList then scan 0 template.toList else []

/-! ## Filling in -/

/-- The text of the first pair with this raw text. -/
def lookup (raw : String) (texts : List (String × String)) : String :=
  (texts.lookup raw).getD ""

/-- The characters from a byte offset on, with every tag replaced by the text
that is listed for its raw text; nothing, if a tag lies outside the characters
or begins or ends inside one. -/
def fillFrom? (texts : List (String × String)) (offset : Nat) (cs : List Char) :
    List Tag → Option (List Char)
  | [] => some cs
  | tag :: tags => do
      let (gap, here) ← cut? (tag.start - offset) cs
      let (raw, rest) ← cut? (tag.stop - tag.start) here
      let filled ← fillFrom? texts tag.stop rest tags
      some (gap ++ (lookup (String.ofList raw) texts).toList ++ filled)

/-- The template with its tags replaced. Tags with the same raw text get the
same text, the first one listed for it. -/
def fill? (template : String) (tags : List Tag) (texts : List (String × String)) :
    Option String :=
  (fillFrom? texts 0 template.toList tags).map String.ofList

/-- The part of a template from one byte offset to another; nothing, if they are in
the wrong order, lie beyond the end or inside a character. -/
def slice? (template : String) (start stop : Nat) : Option String :=
  if start ≤ stop then do
    let (_, here) ← cut? start template.toList
    let (inside, _) ← cut? (stop - start) here
    some (String.ofList inside)
  else none

end Placeholder.Template
