import Placeholder.Proofs.Tag.Readings
import Placeholder.Template

/-! # The scan of a template

A template is read from left to right. `scan_induction` follows the scan: at the
end of the text, over a character at which no tag begins, and over a tag.

* `tags_eq_scan`: looking for two opening braces first changes nothing.
* `mem_scan`: every tag stands in the text and is read there.
* `read?_eq_none_of_outside`: outside the spans nothing can be read.
* `tags_are_the_derivations`: the tags of a template by the grammar alone.
* `raw_determines_tag`: a tag can be read off its own text.
-/

namespace Placeholder.Template

open Placeholder.Text
open Placeholder.Tag (Derives Form read?)

/-! ## Steps of the scan -/

theorem before_append (raw rest : List Char) : before (raw ++ rest) rest = raw := by
  simp [before]

theorem scan_nil (n : Nat) : scan n [] = [] := by
  rw [scan]

theorem scan_of_none {n : Nat} {c : Char} {cs : List Char} (h : read? (c :: cs) = none) :
    scan n (c :: cs) = scan (n + c.utf8Size) cs := by
  rw [scan]
  split
  · next hread => rw [h] at hread; cases hread
  · rfl

theorem scan_of_some {n : Nat} {raw rest : List Char} {form : Form}
    (h : read? (raw ++ rest) = some (form, rest)) :
    scan n (raw ++ rest) = tagOf form raw n :: scan (n + byteLength raw) rest := by
  cases hcs : raw ++ rest with
  | nil =>
      rw [hcs] at h
      cases h
  | cons c tail =>
      rw [scan]
      rw [hcs] at h
      split
      · next form' rest' hread =>
          rw [h] at hread
          cases hread
          rw [← hcs, before_append]
      · next hread => rw [h] at hread; cases hread

/-- The scan as an induction: what holds at the end of a text, is carried over
a character at which no tag begins and over a tag, holds of every text. -/
theorem scan_induction {motive : Nat → List Char → Prop} (nil : ∀ n, motive n [])
    (skip : ∀ n c cs, read? (c :: cs) = none → motive (n + c.utf8Size) cs → motive n (c :: cs))
    (tag : ∀ n raw rest form, read? (raw ++ rest) = some (form, rest) →
      motive (n + byteLength raw) rest → motive n (raw ++ rest))
    (n : Nat) (cs : List Char) : motive n cs := by
  induction hlen : cs.length using Nat.strong_induction_on generalizing n cs with
  | _ k ih =>
      cases cs with
      | nil => exact nil n
      | cons c tail =>
          cases hread : read? (c :: tail) with
          | none => exact skip n c tail hread (ih _ (by simp [← hlen]) _ _ rfl)
          | some result =>
              rcases result with ⟨form, rest⟩
              rcases Tag.read?_eq_some_iff.mp hread with ⟨raw, -, hsplit, -⟩
              have hshorter := Tag.read?_shorter hread
              rw [hsplit] at hread ⊢
              exact tag n raw rest form hread (ih _ (hlen ▸ hshorter) _ _ rfl)

/-! ## The two opening braces -/

theorem hasOpening_of_read? {cs rest : List Char} {form : Form}
    (h : read? cs = some (form, rest)) : hasOpening cs = true := by
  rcases Tag.read?_eq_some_iff.mp h with ⟨raw, hderives, rfl, -⟩
  cases hderives
  rfl

theorem hasOpening_of_tail {c : Char} {cs : List Char} (h : hasOpening cs = true) :
    hasOpening (c :: cs) = true := by
  rw [hasOpening.eq_def]
  split
  · rfl
  · next heq =>
      cases heq
      exact h
  · next heq => cases heq

theorem hasOpening_iff {cs : List Char} :
    hasOpening cs = true ↔ ['\x7b', '\x7b'] <:+: cs := by
  fun_induction hasOpening cs with
  | case1 cs => exact iff_of_true rfl ⟨[], cs, rfl⟩
  | case2 c cs hne ih =>
      rw [ih, List.infix_cons_iff]
      constructor
      · exact .inr
      · rintro (⟨rest, hprefix⟩ | hinfix)
        · cases hprefix
          exact absurd rfl (hne rest rfl)
        · exact hinfix
  | case3 => simp

theorem scan_eq_nil_of_not_hasOpening (n : Nat) (cs : List Char) :
    hasOpening cs = false → scan n cs = [] := by
  induction n, cs using scan_induction with
  | nil n => exact fun _ => scan_nil n
  | skip n c cs hread ih =>
      intro h
      rw [scan_of_none hread]
      apply ih
      apply Bool.eq_false_iff.mpr
      intro htail
      rw [hasOpening_of_tail htail] at h
      cases h
  | tag n raw rest form hread ih =>
      intro h
      rw [hasOpening_of_read? hread] at h
      cases h

/-- No tag stands in a text without two opening braces, so looking for them first
changes nothing. -/
theorem tags_eq_scan (t : String) : tags t = scan 0 t.toList := by
  unfold tags
  cases h : hasOpening t.toList with
  | true => rfl
  | false => exact (scan_eq_nil_of_not_hasOpening 0 t.toList h).symm

/-! ## What the scan finds -/

/-- Every tag that is found stands in the text, at the offset it names, and is what
can be read there. -/
theorem mem_scan {n : Nat} {cs : List Char} {g : Tag} :
    g ∈ scan n cs → ∃ front rest form, cs = front ++ g.raw.toList ++ rest ∧
      g = tagOf form g.raw.toList (n + byteLength front) ∧
      read? (g.raw.toList ++ rest) = some (form, rest) := by
  induction n, cs using scan_induction with
  | nil n =>
      rw [scan_nil]
      exact fun h => absurd h List.not_mem_nil
  | skip n c cs hread ih =>
      rw [scan_of_none hread]
      intro h
      rcases ih h with ⟨front, rest, form, hsplit, htag, hform⟩
      refine ⟨c :: front, rest, form, by rw [hsplit]; rfl, ?_, hform⟩
      rw [byteLength_cons, ← Nat.add_assoc]
      exact htag
  | tag n raw rest form hread ih =>
      rw [scan_of_some hread]
      intro h
      rcases List.mem_cons.mp h with rfl | h
      · have hraw : (tagOf form raw n).raw.toList = raw := String.toList_ofList
        rw [hraw]
        exact ⟨[], rest, form, rfl, rfl, hread⟩
      · rcases ih h with ⟨front, behind, form', hsplit, htag, hform⟩
        refine ⟨raw ++ front, behind, form', by rw [hsplit]; simp, ?_, hform⟩
        rw [byteLength_append, ← Nat.add_assoc]
        exact htag

theorem mem_tags {t : String} {g : Tag} (hg : g ∈ tags t) :
    ∃ front rest form, t.toList = front ++ g.raw.toList ++ rest ∧
      g = tagOf form g.raw.toList (byteLength front) ∧
      read? (g.raw.toList ++ rest) = some (form, rest) := by
  rw [tags_eq_scan] at hg
  rcases mem_scan hg with ⟨front, rest, form, hsplit, htag, hread⟩
  rw [Nat.zero_add] at htag
  exact ⟨front, rest, form, hsplit, htag, hread⟩

/-- A tag was read with the rest of the template behind it, and is read without it. -/
theorem exists_read?_raw {t : String} {g : Tag} (hg : g ∈ tags t) :
    ∃ form, read? g.raw.toList = some (form, []) ∧ g = tagOf form g.raw.toList g.start := by
  rcases mem_tags hg with ⟨front, rest, form, -, htag, hread⟩
  have hstart : g.start = byteLength front := congrArg Tag.start htag
  refine ⟨form, Tag.read?_cut hread, ?_⟩
  rw [hstart]
  exact htag

/-- Where no span lies nothing can be read. -/
theorem read?_eq_none_of_outside {n : Nat} {cs : List Char} :
    ∀ front rest, cs = front ++ rest →
      (∀ g ∈ scan n cs, ¬ (g.start ≤ n + byteLength front ∧ n + byteLength front < g.stop)) →
      read? rest = none := by
  induction n, cs using scan_induction with
  | nil n =>
      intro front rest hsplit _
      rcases List.append_eq_nil_iff.mp hsplit.symm with ⟨-, rfl⟩
      rfl
  | skip n c cs hread ih =>
      intro front rest hsplit houtside
      rw [scan_of_none hread] at houtside
      cases front with
      | nil =>
          obtain rfl : c :: cs = rest := hsplit
          exact hread
      | cons d front =>
          rcases List.cons_eq_cons.mp hsplit with ⟨rfl, htail⟩
          refine ih front rest htail ?_
          rw [byteLength_cons, ← Nat.add_assoc] at houtside
          exact houtside
  | tag n raw behind form hread ih =>
      intro front rest hsplit houtside
      rw [scan_of_some hread] at houtside
      rcases List.forall_mem_cons.mp houtside with ⟨hfirst, hlater⟩
      -- outside of the first span means behind it
      have hbeyond : byteLength raw ≤ byteLength front := by
        have hspan : ¬ (n ≤ n + byteLength front ∧ n + byteLength front < n + byteLength raw) :=
          hfirst
        omega
      rcases List.append_eq_append_iff.mp hsplit with
        ⟨front', rfl, hrest⟩ | ⟨inside, rfl, hrest⟩
      · refine ih front' rest hrest ?_
        rw [byteLength_append, ← Nat.add_assoc] at hlater
        exact hlater
      · -- the place lies inside the tag, so it is its end
        have hinside : inside = [] := by
          rw [byteLength_append] at hbeyond
          exact byteLength_eq_zero.mp (by omega)
        subst hinside
        refine ih [] rest (by simpa using hrest.symm) ?_
        simpa using hlater

/-- The spans follow one another. -/
theorem scan_pairwise (n : Nat) (cs : List Char) :
    (scan n cs).Pairwise fun g g' => g.stop ≤ g'.start := by
  induction n, cs using scan_induction with
  | nil n =>
      rw [scan_nil]
      exact List.Pairwise.nil
  | skip n c cs hread ih =>
      rw [scan_of_none hread]
      exact ih
  | tag n raw rest form hread ih =>
      rw [scan_of_some hread]
      refine List.Pairwise.cons ?_ ih
      intro g hg
      rcases mem_scan hg with ⟨front, _, form', -, htag, -⟩
      rw [htag]
      exact Nat.le_add_right _ _

/-! ## Tags and the grammar -/

/-- **The tags of a template are the derivations in it, the leftmost and preferred
ones.** Every tag is derived by the grammar and says what its derivation says, and
no derivation that begins at the same place is preferred to it. Where no tag
stands, nothing can be derived. The tags are in the order of the text. -/
theorem tags_are_the_derivations (t : String) :
    (∀ g ∈ tags t, ∃ front rest form,
      t.toList = front ++ g.raw.toList ++ rest ∧
      g.start = byteLength front ∧
      g.stop = byteLength front + byteLength g.raw.toList ∧
      Derives form g.raw.toList ∧
      g.name = String.ofList form.head.name ∧
      g.args = form.head.suffix.bind (fun suffix => argumentsOf suffix.text) ∧
      g.processor = form.processor.map (fun call =>
        ⟨String.ofList call.name, call.suffix.bind fun suffix => argumentsOf suffix.text⟩) ∧
      ∀ other text, text <+: g.raw.toList ++ rest → Derives other text → form.Preferred other) ∧
    (∀ front rest, t.toList = front ++ rest →
      (∀ g ∈ tags t, ¬ (g.start ≤ byteLength front ∧ byteLength front < g.stop)) →
      ∀ form text, text <+: rest → ¬ Derives form text) ∧
    (tags t).Pairwise fun g g' => g.stop ≤ g'.start := by
  rw [tags_eq_scan]
  refine ⟨?_, ?_, scan_pairwise 0 t.toList⟩
  · intro g hg
    rcases mem_scan hg with ⟨front, rest, form, hsplit, htag, hread⟩
    rcases Tag.read?_eq_some_iff.mp hread with ⟨raw, hderives, hraw, hbest⟩
    obtain rfl := List.append_cancel_right hraw
    rw [Nat.zero_add] at htag
    have hstart : g.start = byteLength front := congrArg Tag.start htag
    have hstop : g.stop = byteLength front + byteLength g.raw.toList := congrArg Tag.stop htag
    have hname : g.name = String.ofList form.head.name := congrArg Tag.name htag
    have hargs : g.args = _ := congrArg Tag.args htag
    have hprocessor : g.processor = _ := congrArg Tag.processor htag
    exact ⟨front, rest, form, hsplit, hstart, hstop, hderives, hname, hargs, hprocessor, hbest⟩
  · intro front rest hsplit houtside
    have hread : read? rest = none := by
      apply read?_eq_none_of_outside (n := 0) front rest hsplit
      intro g hg
      rw [Nat.zero_add]
      exact houtside g hg
    exact Tag.read?_eq_none_iff.mp hread

/-- A template whose tag has two readings that end in different places. The quoted
one counts, and nothing begins at the braces behind it. -/
theorem tags_are_the_derivations_quoted_or_bare :
    (∃ form, Derives form "\x7b\x7bx:\"a\x7d\x7db\"\x7d\x7d".toList ∧
      form.Preferred ⟨⟨['x'], some (.bare ['\x22', 'a'])⟩, none⟩) ∧
    (∀ form text, text <+: "\x7b\x7by".toList → ¬ Derives form text) := by
  have htags : tags "\x7b\x7bx:\"a\x7d\x7db\"\x7d\x7d \x7b\x7by" =
      [⟨"\x7b\x7bx:\"a\x7d\x7db\"\x7d\x7d", 0, 12, "x", some ["a\x7d\x7db"], none⟩] := by decide +kernel
  have hbare :
      Derives ⟨⟨['x'], some (.bare ['\x22', 'a'])⟩, none⟩ "\x7b\x7bx:\"a\x7d\x7d".toList := by
    refine Derives.tag (@Tag.CallDerives.suffixed [] ['x'] [] [] _ [] _ ?_ ⟨?_, ?_⟩ ?_ ?_
      (.bare ?_ ?_) ?_) .absent
    all_goals simp [Tag.Blanks, isBlank]
  rcases tags_are_the_derivations "\x7b\x7bx:\"a\x7d\x7db\"\x7d\x7d \x7b\x7by" with
    ⟨hfound, houtside, -⟩
  rw [htags] at hfound houtside
  constructor
  · obtain ⟨front, rest, form, -, -, -, hderives, -, -, -, hbest⟩ :=
      hfound _ List.mem_cons_self
    exact ⟨form, hderives, hbest _ _ ⟨'b' :: '\x22' :: '\x7d' :: '\x7d' :: rest, rfl⟩ hbare⟩
  · exact houtside "\x7b\x7bx:\"a\x7d\x7db\"\x7d\x7d ".toList _ rfl (by decide)

/-! ## Tags and their texts -/

theorem tags_of_read? {raw : String} {form : Form} (h : read? raw.toList = some (form, [])) :
    tags raw = [tagOf form raw.toList 0] := by
  have hread : read? (raw.toList ++ []) = some (form, []) := by
    rw [List.append_nil]
    exact h
  have hscan := scan_of_some (n := 0) hread
  rw [List.append_nil, scan_nil] at hscan
  rw [tags_eq_scan, hscan]

/-- The text of a tag, taken as a template, is that tag and nothing else. -/
theorem tags_raw {t : String} {g : Tag} (hg : g ∈ tags t) :
    tags g.raw = [{ g with start := 0, stop := g.raw.utf8ByteSize }] := by
  rcases exists_read?_raw hg with ⟨form, halone, htag⟩
  rw [tags_of_read? halone, ← byteLength_toList]
  rw [htag]
  simp [tagOf]

/-- Tags with the same text say the same, wherever they stand. -/
theorem eq_of_raw_eq {t t' : String} {g g' : Tag} (hg : g ∈ tags t) (hg' : g' ∈ tags t')
    (hraw : g.raw = g'.raw) :
    g.name = g'.name ∧ g.args = g'.args ∧ g.processor = g'.processor := by
  have hsame := tags_raw hg'
  rw [← hraw, tags_raw hg] at hsame
  simpa [hraw] using hsame

/-- **The text of a tag determines the tag.** It reads as that one tag, although the
tag was chosen among readings that may reach beyond it, and tags of any two
templates with the same text have the same name, arguments and processor. -/
theorem raw_determines_tag {t : String} {g : Tag} (hg : g ∈ tags t) :
    tags g.raw = [{ g with start := 0, stop := g.raw.utf8ByteSize }] ∧
    ∀ (t' : String) (g' : Tag), g' ∈ tags t' → g.raw = g'.raw →
      g.name = g'.name ∧ g.args = g'.args ∧ g.processor = g'.processor := by
  constructor
  · exact tags_raw hg
  · intro t' g' hg' hraw
    exact eq_of_raw_eq hg hg' hraw

/-- The quote of this tag has a partner behind the tag, which its own text lacks. -/
theorem raw_determines_tag_of_open_quote :
    tags "\x7b\x7b x:\"a\x7d\x7d \"b\x7d\x7d" =
      [⟨"\x7b\x7b x:\"a\x7d\x7d", 0, 9, "x", some ["\"a"], none⟩] ∧
    tags "\x7b\x7b x:\"a\x7d\x7d" = [⟨"\x7b\x7b x:\"a\x7d\x7d", 0, 9, "x", some ["\"a"], none⟩] ∧
    ∀ t, ∀ g ∈ tags t, "\x7b\x7b x:\"a\x7d\x7d" = g.raw → some ["\"a"] = g.args := by
  have htags : tags "\x7b\x7b x:\"a\x7d\x7d \"b\x7d\x7d" =
      [⟨"\x7b\x7b x:\"a\x7d\x7d", 0, 9, "x", some ["\"a"], none⟩] := by decide +kernel
  rcases raw_determines_tag (htags ▸ List.mem_cons_self) with ⟨hraw, hsame⟩
  exact ⟨htags, hraw, fun t g hg heq => (hsame t g hg heq).2.1⟩

end Placeholder.Template
