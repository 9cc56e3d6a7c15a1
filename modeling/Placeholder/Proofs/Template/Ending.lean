import Mathlib.Data.List.Basic
import Placeholder.Proofs.Template.Scan

/-! # Where a tag ends

Two closing braces end a tag, unless they stand between the quotes of a suffix. A suffix that begins
with a quote is read as a quoted one where that completes a tag, even if the bare reading would
complete a shorter tag, so the tag is not always the shortest one that begins there.

* `Tag.Derives.bracesQuoted`: a closing brace in front of the last two stands between quotes.
* `Tag.before_of_read?`: a tag that ends in another place is a worse reading.
* `shorter_tag_ends_in_quotes`: the two for a shorter tag, which ends between quotes and is worse.
-/

namespace Placeholder

namespace Tag

open Text

/-- A derivation that goes on differently is worse than the one that is read. -/
theorem before_of_read? {cs rest behind text : List Char} {form other : Form}
    (h : read? cs = some (form, rest)) (hother : Derives other text) (hsplit : cs = text ++ behind)
    (hne : behind ≠ rest) : form.Before other := by
  rw [read?_eq_head?] at h
  rcases List.head?_eq_some_iff.mp h with ⟨tail, hlist⟩
  have hmem : (other, behind) ∈ readings cs := mem_readings.mpr ⟨text, hother, hsplit⟩
  have hpairwise := readings_pairwise cs
  rw [hlist] at hmem hpairwise
  rcases List.mem_cons.mp hmem with heq | hlater
  · exact absurd (congrArg Prod.snd heq) hne
  · exact List.rel_of_pairwise_cons hpairwise hlater

/-! ## Braces between quotes -/

/-- The suffixes of a call and of its processor. -/
def Form.suffixes (f : Form) : List Suffix :=
  f.head.suffix.toList ++ (f.processor.bind CallForm.suffix).toList

/-- Every closing brace of a text stands between the quotes of one of the suffixes. -/
def BracesQuoted (suffixes : List Suffix) (cs : List Char) : Prop :=
  ∀ before after, cs = before ++ '\x7d' :: after →
    ∃ front inside more behind, before = front ++ '\x22' :: inside ∧
      after = more ++ '\x22' :: behind ∧ .quoted (inside ++ '\x7d' :: more) ∈ suffixes

namespace BracesQuoted

variable {suffixes : List Suffix} {as bs cs : List Char}

theorem of_not_mem (h : '\x7d' ∉ cs) : BracesQuoted suffixes cs := by
  rintro before after rfl
  exact absurd (List.mem_append_right before List.mem_cons_self) h

theorem mono {others : List Suffix} (h : BracesQuoted suffixes cs) (hsub : suffixes ⊆ others) :
    BracesQuoted others cs := by
  intro before after hcs
  rcases h before after hcs with ⟨front, inside, more, behind, hbefore, hafter, hmem⟩
  exact ⟨front, inside, more, behind, hbefore, hafter, hsub hmem⟩

theorem append (has : BracesQuoted suffixes as) (hbs : BracesQuoted suffixes bs) :
    BracesQuoted suffixes (as ++ bs) := by
  intro before after hsplit
  rcases List.append_eq_append_iff.mp hsplit with ⟨middle, hbefore, hrest⟩ | ⟨middle, has', hrest⟩
  · -- the brace stands in the second part
    rcases hbs middle after hrest with ⟨front, inside, more, behind, rfl, hafter, hmem⟩
    exact ⟨as ++ front, inside, more, behind, by simp [hbefore], hafter, hmem⟩
  · cases middle with
    | nil =>
        rw [List.append_nil] at has'
        rcases hbs [] after hrest.symm with ⟨front, inside, more, behind, hnil, -⟩
        cases front <;> cases hnil
    | cons c middle =>
        rcases List.cons_eq_cons.mp hrest with ⟨rfl, rfl⟩
        rcases has before middle has' with ⟨front, inside, more, behind, hbefore, rfl, hmem⟩
        exact ⟨front, inside, more, behind ++ bs, hbefore, by simp, hmem⟩

end BracesQuoted

/-! ## Braces in a tag -/

theorem Blanks.brace_not_mem {w : List Char} (h : Blanks w) : '\x7d' ∉ w := by
  intro hmem
  cases h _ hmem

theorem IsName.brace_not_mem {name : List Char} (h : IsName name) : '\x7d' ∉ name := by
  intro hmem
  exact (h.chars _ hmem).2.2.1 rfl

/-- A brace in a suffix is a character between the quotes of that suffix. -/
theorem SuffixDerives.bracesQuoted {suffix : Suffix} {text : List Char}
    (h : SuffixDerives suffix text) : BracesQuoted [suffix] text := by
  cases h with
  | @quoted body _ =>
      intro before after hsplit
      cases before with
      | nil => cases hsplit
      | cons c inside =>
          obtain ⟨rfl, hrest⟩ := List.cons_eq_cons.mp hsplit
          -- the closing quote is the last character, so it stands behind the brace
          rcases List.eq_nil_or_concat' after with rfl | ⟨more, c, rfl⟩
          · cases (List.append_inj' hrest rfl).2
          · have hends : body ++ ['\x22'] = inside ++ '\x7d' :: more ++ [c] := by
              rw [List.append_assoc]
              exact hrest
            obtain ⟨rfl, hc⟩ := List.append_inj' hends rfl
            cases hc
            exact ⟨[], inside, more, [], rfl, rfl, List.mem_cons_self⟩
  | bare _ hrun =>
      apply BracesQuoted.of_not_mem
      intro hmem
      exact (hrun _ hmem).2.1 rfl

theorem CallDerives.bracesQuoted {call : CallForm} {text : List Char} (h : CallDerives call text) :
    BracesQuoted call.suffix.toList text := by
  cases h with
  | plain h₁ hname h₂ =>
      apply BracesQuoted.of_not_mem
      simp [h₁.brace_not_mem, hname.brace_not_mem, h₂.brace_not_mem]
  | @suffixed w₁ name w₂ w₃ text w₄ suffix h₁ hname h₂ h₃ hsuffix h₄ =>
      have hfront : BracesQuoted [suffix] (w₁ ++ name ++ w₂ ++ ':' :: w₃) := by
        apply BracesQuoted.of_not_mem
        simp [h₁.brace_not_mem, hname.brace_not_mem, h₂.brace_not_mem, h₃.brace_not_mem]
      have hback : BracesQuoted [suffix] w₄ := BracesQuoted.of_not_mem h₄.brace_not_mem
      have hshape : w₁ ++ name ++ w₂ ++ ':' :: (w₃ ++ text ++ w₄) =
          w₁ ++ name ++ w₂ ++ ':' :: w₃ ++ text ++ w₄ := by simp
      rw [hshape]
      exact (hfront.append hsuffix.bracesQuoted).append hback

theorem ProcessorDerives.bracesQuoted {processor : Option CallForm} {text : List Char}
    (h : ProcessorDerives processor text) :
    BracesQuoted (processor.bind CallForm.suffix).toList text := by
  cases h with
  | absent => exact BracesQuoted.of_not_mem List.not_mem_nil
  | @present call text hcall =>
      have hbar : BracesQuoted call.suffix.toList ['|'] := BracesQuoted.of_not_mem (by simp)
      exact hbar.append hcall.bracesQuoted

/-- Every brace of a tag is one of the two in front, one of the two at the end or stands between the
quotes of a suffix. -/
theorem Derives.bracesQuoted {form : Form} {raw : List Char} (h : Derives form raw) :
    ∃ inside, raw = ['\x7b', '\x7b'] ++ inside ++ ['\x7d', '\x7d'] ∧
      BracesQuoted form.suffixes inside := by
  cases h with
  | @tag head processor text₁ text₂ hhead hprocessor =>
      refine ⟨text₁ ++ text₂, by simp, ?_⟩
      have hleft := hhead.bracesQuoted.mono
        (List.subset_append_left _ (processor.bind CallForm.suffix).toList)
      have hright := hprocessor.bracesQuoted.mono (List.subset_append_right head.suffix.toList _)
      exact hleft.append hright

/-- A proper beginning of a tag that ends in two braces ends between the quotes of a suffix of the
tag. -/
theorem Derives.exists_quoted_of_prefix {form : Form} {raw text behind : List Char}
    (h : Derives form raw) (hraw : raw = ['\x7b', '\x7b'] ++ text ++ ['\x7d', '\x7d'] ++ behind)
    (hne : behind ≠ []) :
    ∃ front inside more rest, text = front ++ '\x22' :: inside ∧
      behind = more ++ '\x22' :: rest ∧
      .quoted (inside ++ ['\x7d', '\x7d'] ++ more) ∈ form.suffixes := by
  rcases h.bracesQuoted with ⟨whole, hwhole, hquoted⟩
  have hends : whole ++ ['\x7d', '\x7d'] = text ++ '\x7d' :: '\x7d' :: behind := by
    have hboth := hwhole.symm.trans hraw
    simpa using hboth
  -- the braces at the end of the tag are its last two characters, and those of `text` are not
  obtain ⟨later, c, rfl⟩ := (List.eq_nil_or_concat' behind).resolve_left hne
  obtain ⟨after, d, hafter⟩ :=
    (List.eq_nil_or_concat' ('\x7d' :: later)).resolve_left (List.cons_ne_nil _ _)
  have hlast : whole ++ ['\x7d'] ++ ['\x7d'] = text ++ '\x7d' :: after ++ [d] ++ [c] := by
    rw [List.append_assoc text, List.cons_append, ← hafter]
    simpa using hends
  obtain ⟨hlast, -⟩ := List.append_inj' hlast rfl
  obtain ⟨hinside, -⟩ := List.append_inj' hlast rfl
  rcases hquoted text after hinside with ⟨front, inside, more, rest, htext, rfl, hmem⟩
  cases more with
  | nil => cases hafter
  | cons brace more =>
      obtain ⟨rfl, hlater⟩ := List.cons_eq_cons.mp hafter
      exact ⟨front, inside, more, rest ++ [d, c], htext, by simp [hlater], by simpa using hmem⟩

end Tag

namespace Template

open Text
open Tag (Derives)

/-- **A tag ends at its first closing braces outside of quotes.** Where the grammar derives a proper
beginning of a tag as a tag of its own, that tag takes the bare reading of a suffix for which the longer
one takes the quoted reading, and the braces it ends in stand between the quotes of a suffix of the
longer one. Text behind a whole tag is swallowed by it as part of a quoted suffix or not at all. -/
theorem shorter_tag_ends_in_quotes {t : String} {g : Tag} (hg : g ∈ tags t) :
    ∃ form, Derives form g.raw.toList ∧ g = tagOf form g.raw.toList g.start ∧
      ∀ other text, text <+: g.raw.toList → text ≠ g.raw.toList → Derives other text →
        form.Before other ∧
        ∃ front inside more rest,
          text = front ++ '\x22' :: (inside ++ ['\x7d', '\x7d']) ∧
          g.raw.toList = text ++ more ++ '\x22' :: rest ∧
          .quoted (inside ++ ['\x7d', '\x7d'] ++ more) ∈ form.suffixes := by
  rcases exists_read?_raw hg with ⟨form, hread, htag⟩
  rcases Tag.read?_eq_some_iff.mp hread with ⟨raw, hderives, hraw, -⟩
  rw [List.append_nil] at hraw
  subst hraw
  refine ⟨form, hderives, htag, ?_⟩
  rintro other text ⟨behind, hsplit⟩ hshorter hother
  have hne : behind ≠ [] := by
    rintro rfl
    exact hshorter (by simpa using hsplit)
  -- both are readings of the same text, and the shorter one leaves something behind
  refine ⟨Tag.before_of_read? hread hother hsplit.symm hne, ?_⟩
  rcases hother.braces with ⟨middle, -, htext⟩
  rcases hderives.exists_quoted_of_prefix (hsplit.symm.trans (by rw [htext])) hne with
    ⟨front, inside, more, rest, hmiddle, hbehind, hmem⟩
  refine ⟨['\x7b', '\x7b'] ++ front, inside, more, rest, ?_, ?_, hmem⟩
  · rw [htext, hmiddle]
    simp
  · rw [← hsplit, hbehind, List.append_assoc]

/-- The beginning of `{{x:"a}}b"}}` is a tag with a bare suffix. -/
theorem derives_open_quote :
    Derives ⟨⟨['x'], some (.bare ['\x22', 'a'])⟩, none⟩ "\x7b\x7bx:\"a\x7d\x7d".toList := by
  refine Derives.tag (@Tag.CallDerives.suffixed [] ['x'] [] [] _ [] _ ?_ ⟨?_, ?_⟩ ?_ ?_
    (.bare ?_ ?_) ?_) .absent
  all_goals simp [Tag.Blanks, isBlank]

theorem tags_closed_quote :
    tags "\x7b\x7bx:\"a\x7d\x7db\"\x7d\x7d" =
      [⟨"\x7b\x7bx:\"a\x7d\x7db\"\x7d\x7d", 0, 12, "x", some ["a\x7d\x7db"], none⟩] := by
  decide +kernel

/-- The braces in the quotes end a tag that begins like this one, and the one that is read is
preferred to it. -/
theorem shorter_tag_ends_in_quotes_of_x :
    tags "\x7b\x7bx:\"a\x7d\x7db\"\x7d\x7d" =
      [⟨"\x7b\x7bx:\"a\x7d\x7db\"\x7d\x7d", 0, 12, "x", some ["a\x7d\x7db"], none⟩] ∧
    "\x7b\x7bx:\"a\x7d\x7d".toList <+: "\x7b\x7bx:\"a\x7d\x7db\"\x7d\x7d".toList ∧
    ∃ form, Derives form "\x7b\x7bx:\"a\x7d\x7db\"\x7d\x7d".toList ∧
      form.Before ⟨⟨['x'], some (.bare ['\x22', 'a'])⟩, none⟩ ∧
      ∃ inside more, .quoted (inside ++ ['\x7d', '\x7d'] ++ more) ∈ form.suffixes := by
  have hbegins : "\x7b\x7bx:\"a\x7d\x7d".toList <+: "\x7b\x7bx:\"a\x7d\x7db\"\x7d\x7d".toList :=
    ⟨"b\"\x7d\x7d".toList, rfl⟩
  rcases shorter_tag_ends_in_quotes (tags_closed_quote ▸ List.mem_cons_self) with
    ⟨form, hderives, -, hshorter⟩
  rcases hshorter _ _ hbegins (by decide) derives_open_quote with
    ⟨hbefore, -, inside, more, -, -, -, hmem⟩
  exact ⟨tags_closed_quote, hbegins, form, hderives, hbefore, inside, more, hmem⟩

/-- A tag may begin with a shorter one. -/
theorem shorter_tag_is_derivable :
    ¬ ∀ t, ∀ g ∈ tags t, ∀ other text, text <+: g.raw.toList → text ≠ g.raw.toList →
      ¬ Derives other text := by
  intro h
  refine h _ _ (tags_closed_quote ▸ List.mem_cons_self) _ _ ?_ ?_ derives_open_quote
  · exact ⟨"b\"\x7d\x7d".toList, rfl⟩
  · decide

end Template

end Placeholder
