import Placeholder.Proofs.Tag.Printer
import Placeholder.Proofs.Template.Scan

/-! # Writing templates

A template written piece by piece, of texts without an opening brace and of tags.
`tags_print` says that the tags are found again, each at its place and each with its
name, arguments and processor, whatever stands between the quotes of an argument list
and whatever the neighbours of a tag are.
-/

namespace Placeholder.Template

open Placeholder.Text
open Placeholder.Tag (Written read?)

/-- A piece of a template. -/
inductive Segment where
  | text (s : String) (plain : '\x7b' ∉ s.toList)
  | tag (w : Written)

/-- The characters of a piece. -/
def Segment.chars : Segment → List Char
  | .text s _ => s.toList
  | .tag w => w.text

/-- The template that consists of some pieces. -/
def print (segments : List Segment) : String := String.ofList (segments.flatMap Segment.chars)

/-- The tags among some pieces, the first of which begins at a byte offset. -/
def printedTags (offset : Nat) : List Segment → List Tag
  | [] => []
  | .text s _ :: segments => printedTags (offset + s.utf8ByteSize) segments
  | .tag w :: segments => w.tag offset :: printedTags (offset + byteLength w.text) segments

/-- A tag begins with an opening brace. -/
theorem read?_of_ne_brace {c : Char} (hc : c ≠ '\x7b') (cs : List Char) :
    read? (c :: cs) = none := by
  unfold read?
  split
  · next heq =>
      cases heq
      exact absurd rfl hc
  · rfl

/-- The scan passes over a text without opening braces. -/
theorem scan_of_plain (n : Nat) {plain : List Char} (h : '\x7b' ∉ plain) (cs : List Char) :
    scan n (plain ++ cs) = scan (n + byteLength plain) cs := by
  induction plain generalizing n with
  | nil => rfl
  | cons c plain ih =>
      rcases List.ne_and_not_mem_of_not_mem_cons h with ⟨hc, hplain⟩
      rw [List.cons_append, scan_of_none (read?_of_ne_brace hc.symm _), ih _ hplain,
        byteLength_cons, Nat.add_assoc]

/-- The tag that is meant is the one with the derivation that is meant. -/
theorem tagOf_written (w : Written) (start : Nat) : tagOf w.form w.text start = w.tag start := by
  have hhead : w.form.head.call = w.head.call := w.head.form_call
  have hprocessor : w.form.processor.map Tag.CallForm.call =
      w.processor.map Tag.WrittenCall.call := by
    have hform : Tag.CallForm.call ∘ Tag.WrittenCall.form = Tag.WrittenCall.call :=
      funext Tag.WrittenCall.form_call
    rw [← hform, ← Option.map_map]
    rfl
  rw [tagOf, hhead, hprocessor]
  rfl

theorem scan_print (n : Nat) (segments : List Segment) :
    scan n (segments.flatMap Segment.chars) = printedTags n segments := by
  induction segments generalizing n with
  | nil => exact scan_nil n
  | cons segment segments ih =>
      rw [List.flatMap_cons]
      cases segment with
      | text s plain =>
          rw [Segment.chars, scan_of_plain n plain, byteLength_toList, ih]
          rfl
      | tag w =>
          rw [Segment.chars, scan_of_some (w.read?_text _), tagOf_written, ih]
          rfl

/-- **Reading a template undoes writing it.** The tags of a template that was written
piece by piece are the tags that were written, in order, each with its place in the
template and with its name, arguments and processor. -/
theorem tags_print (segments : List Segment) :
    tags (print segments) = printedTags 0 segments := by
  rw [tags_eq_scan, print, String.toList_ofList, scan_print]

/-- Blanks in all places, a quoted argument that looks like the end of a tag, and a bare
argument that is empty. -/
example :
    let tight : Tag.Gap := ⟨[], by simp [Tag.Blanks]⟩
    let blank : Tag.Gap := ⟨[' '], by simp [Tag.Blanks, isBlank]⟩
    print [
      .text "é\x7d" (by decide),
      .tag {
        head := {
          front := blank, name := "\x7bx", back := blank, isName := ⟨by decide, by simp [isBlank]⟩
          args := some {
            front := blank, items := ["a\x7d\x7d b", "|"], spelling := .quoted, back := blank
            items_ne_nil := by decide, no_comma := by decide, joined_ne_nil := by decide
            allowed := by simp [Tag.Spelling.Allows, joined, List.intercalate, isBlank] } }
        processor := some {
          front := blank, name := "p", back := tight, isName := ⟨by decide, by simp [isBlank]⟩
          args := some {
            front := tight, items := ["", "\""], spelling := .bare, back := blank
            items_ne_nil := by decide, no_comma := by decide, joined_ne_nil := by decide
            allowed := by simp [Tag.Spelling.Allows, joined, List.intercalate, isBlank] } } }] =
      "é\x7d\x7b\x7b \x7bx : \"a\x7d\x7d b,|\" | p:,\" \x7d\x7d" := by
  decide +kernel

end Placeholder.Template
