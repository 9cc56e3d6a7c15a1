import Placeholder.Proofs.Template.Scan

/-! # Filling in

`Woven text n cs gs out` says what it is to put a text in the place of every tag: it
follows the tags through the characters, copies what stands between them and never
looks at what it has put in.

* `exists_woven_scan`: the tags that a scan finds can be filled in, whatever the
  texts for them are.
* `Woven.unique`: there is one result only.
* `fill?_of_woven`: cutting the template at the byte offsets of its tags gives it.
-/

namespace Placeholder.Template

open Placeholder.Text
open Placeholder.Tag (Form read?)

/-- `out` is the text `cs`, whose first byte has the offset `n`, with `text g` in the
place of every tag `g` of `gs`. Each tag stands in the text with its raw text, at
its span; the characters in front of the first tag, between two tags and behind
the last one are those of `cs`. -/
inductive Woven (text : Tag → String) : Nat → List Char → List Tag → List Char → Prop
  | rest (n : Nat) (cs : List Char) : Woven text n cs [] cs
  | tag {n : Nat} {gap cs out : List Char} {g : Tag} {gs : List Tag}
      (hstart : g.start = n + byteLength gap)
      (hstop : g.stop = g.start + byteLength g.raw.toList)
      (hrest : Woven text g.stop cs gs out) :
      Woven text n (gap ++ g.raw.toList ++ cs) (g :: gs) (gap ++ (text g).toList ++ out)

namespace Woven

variable {text text' : Tag → String} {n : Nat} {c : Char} {cs out out' : List Char}
  {gs : List Tag}

theorem eq_of_nil (h : Woven text n cs [] out) : out = cs := by
  cases h
  rfl

/-- A character in front of everything else is copied. -/
theorem cons (h : Woven text (n + c.utf8Size) cs gs out) :
    Woven text n (c :: cs) gs (c :: out) := by
  cases h with
  | rest => exact .rest n (c :: cs)
  | @tag _ gap cs out g gs hstart hstop hrest =>
      have hstart' : g.start = n + byteLength (c :: gap) := by
        rw [hstart, byteLength_cons, Nat.add_assoc]
      exact @Woven.tag text n (c :: gap) cs out g gs hstart' hstop hrest

/-- Only the texts for the tags themselves matter. -/
theorem congr (h : Woven text n cs gs out) (heq : ∀ g ∈ gs, text g = text' g) :
    Woven text' n cs gs out := by
  induction h with
  | rest n cs => exact .rest n cs
  | @tag n gap cs out g gs hstart hstop hrest ih =>
      rcases List.forall_mem_cons.mp heq with ⟨hg, hgs⟩
      rw [hg]
      exact .tag hstart hstop (ih hgs)

/-- The result is determined: the offsets say how the text is cut. -/
theorem unique (h : Woven text n cs gs out) (h' : Woven text n cs gs out') : out = out' := by
  induction h generalizing out' with
  | rest n cs =>
      cases h'
      rfl
  | @tag n gap cs out g gs hstart hstop hrest ih =>
      generalize hcs : gap ++ g.raw.toList ++ cs = whole at h'
      cases h' with
      | @tag _ gap' cs' out' _ _ hstart' hstop' hrest' =>
          -- both fillings put the tag at the same offset, so they copy the same gap
          have hlength : byteLength gap = byteLength gap' := by omega
          have hcut := cut?_append gap (g.raw.toList ++ cs)
          rw [← List.append_assoc, hcs, hlength, List.append_assoc, cut?_append] at hcut
          rcases Prod.mk.inj (Option.some.inj hcut) with ⟨rfl, htail⟩
          obtain rfl := List.append_cancel_left htail
          rw [ih hrest']

end Woven

theorem exists_woven_scan (text : Tag → String) (n : Nat) (cs : List Char) :
    ∃ out, Woven text n cs (scan n cs) out := by
  induction n, cs using scan_induction with
  | nil n =>
      rw [scan_nil]
      exact ⟨[], .rest n []⟩
  | skip n c cs hread ih =>
      rcases ih with ⟨out, hout⟩
      rw [scan_of_none hread]
      exact ⟨c :: out, hout.cons⟩
  | tag n raw rest form hread ih =>
      rcases ih with ⟨out, hout⟩
      rw [scan_of_some hread]
      have hraw : (tagOf form raw n).raw.toList = raw := String.toList_ofList
      have hwoven : Woven text n ([] ++ (tagOf form raw n).raw.toList ++ rest)
          (tagOf form raw n :: scan (n + byteLength raw) rest)
          ([] ++ (text (tagOf form raw n)).toList ++ out) :=
        .tag rfl (by rw [hraw]; rfl) hout
      rw [hraw] at hwoven
      exact ⟨_, hwoven⟩

/-- The tags of a template can be filled in. -/
theorem exists_woven (text : Tag → String) (t : String) :
    ∃ out, Woven text 0 t.toList (tags t) out := by
  rw [tags_eq_scan]
  exact exists_woven_scan text 0 t.toList

theorem fillFrom?_of_woven {texts : List (String × String)} {n : Nat} {cs out : List Char}
    {gs : List Tag} (h : Woven (fun g => lookup g.raw texts) n cs gs out) :
    fillFrom? texts n cs gs = some out := by
  induction h with
  | rest n cs => rfl
  | @tag n gap cs out g gs hstart hstop hrest ih =>
      have hgap : g.start - n = byteLength gap := by omega
      have hraw : g.stop - g.start = byteLength g.raw.toList := by omega
      rw [fillFrom?, hgap, hraw, List.append_assoc, cut?_append]
      simp only [Option.bind_eq_bind, Option.bind_some, cut?_append, ih, String.ofList_toList]

/-- Filling a template in never fails on its own tags, and gives every tag the text
that is listed for its raw text. -/
theorem fill?_of_woven {t : String} {texts : List (String × String)} {out : List Char}
    (h : Woven (fun g => lookup g.raw texts) 0 t.toList (tags t) out) :
    fill? t (tags t) texts = some (String.ofList out) := by
  rw [fill?, fillFrom?_of_woven h]
  rfl

/-- When tags with the same raw text have the same text, every tag gets its own. -/
theorem lookup_of_mem {text : Tag → String} {gs : List Tag} {g : Tag} (hg : g ∈ gs)
    (hsame : ∀ g' ∈ gs, g'.raw = g.raw → text g' = text g) :
    lookup g.raw (gs.map fun g => (g.raw, text g)) = text g := by
  induction gs with
  | nil => cases hg
  | cons g' gs ih =>
      rcases List.forall_mem_cons.mp hsame with ⟨hfirst, hlater⟩
      by_cases heq : g'.raw = g.raw
      · rw [lookup, List.map_cons, List.lookup_cons, heq, beq_self_eq_true]
        exact hfirst heq
      · have hne : (g.raw == g'.raw) = false := by simpa using fun h => heq h.symm
        have hmem : g ∈ gs := by
          rcases List.mem_cons.mp hg with rfl | hmem
          · exact absurd rfl heq
          · exact hmem
        rw [lookup, List.map_cons, List.lookup_cons, hne]
        exact ih hmem hlater

end Placeholder.Template
