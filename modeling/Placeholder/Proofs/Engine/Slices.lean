import Placeholder.Proofs.Engine.Rendering

/-! # Slices of a template

An engine cuts a template at the byte offsets that its tags name, and a cut between
the bytes of one character, beyond the end or back to front is none. The spans of a
template allow all of these cuts: they lie in the template, between characters, one
after another, and what is cut out at a span is the text of the tag.

* `slice?_eq_some_iff`: what it means to cut a text out.
* `parts?_of_woven`: the cuts in front of, at and behind the tags lose nothing.
* `spans_cut_without_loss`: the spans of a template, also when the tags come from a
  cache.
-/

namespace Placeholder

open Placeholder.Text

namespace Template

/-! ## Slices -/

/-- A slice stands in the template at its two offsets. -/
theorem slice?_eq_some_iff {t inside : String} {start stop : Nat} :
    slice? t start stop = some inside ↔ ∃ front rest,
      t.toList = front ++ inside.toList ++ rest ∧
      start = byteLength front ∧ stop = start + byteLength inside.toList := by
  unfold slice?
  constructor
  · intro h
    split at h
    · next hle =>
        simp only [Option.bind_eq_bind, Option.bind_eq_some_iff, Option.some.injEq] at h
        rcases h with ⟨⟨front, here⟩, hfront, ⟨cs, rest⟩, hinside, rfl⟩
        rcases cut?_eq_some_iff.mp hfront with ⟨hsplit, hstart⟩
        rcases cut?_eq_some_iff.mp hinside with ⟨rfl, hlength⟩
        refine ⟨front, rest, ?_, hstart, ?_⟩
        · rw [hsplit, String.toList_ofList, List.append_assoc]
        · have hlength : stop - start = byteLength cs := hlength
          rw [String.toList_ofList]
          dsimp only
          omega
    · cases h
  · rintro ⟨front, rest, hsplit, rfl, rfl⟩
    rw [if_pos (Nat.le_add_right _ _), Nat.add_sub_cancel_left, hsplit, List.append_assoc]
    simp only [Option.bind_eq_bind, cut?_append, Option.bind_some, String.ofList_toList]

/-- A template cut at the offsets of tags: what stands in front of each tag and what
stands at its span, by turns, and what stands behind the last one. -/
def parts? (t : String) (offset : Nat) : List Tag → Option (List String)
  | [] => do
      let rest ← slice? t offset t.utf8ByteSize
      some [rest]
  | g :: gs => do
      let gap ← slice? t offset g.start
      let here ← slice? t g.start g.stop
      let later ← parts? t g.stop gs
      some (gap :: here :: later)

/-- Tags that can be filled in are tags at which the template can be cut, and the
parts give back what was cut. -/
theorem parts?_of_woven {t : String} {text : Tag → String} {n : Nat} {cs out : List Char}
    {gs : List Tag} (h : Woven text n cs gs out) :
    ∀ front, t.toList = front ++ cs → n = byteLength front →
      ∃ parts, parts? t n gs = some parts ∧ (String.join parts).toList = cs := by
  -- `front` is what the cuts so far have used up, and `n` is where the last one ended
  induction h with
  | rest n cs =>
      intro front hsplit hn
      have hend : t.utf8ByteSize = n + byteLength cs := by
        rw [← byteLength_toList, hsplit, byteLength_append, hn]
      have hrest : slice? t n t.utf8ByteSize = some (String.ofList cs) :=
        slice?_eq_some_iff.mpr ⟨front, [], by simp [hsplit], hn, by simpa using hend⟩
      refine ⟨[String.ofList cs], ?_, ?_⟩
      · rw [parts?, hrest]
        rfl
      · simp
  | @tag n gap cs out g gs hstart hstop hrest ih =>
      intro front hsplit hn
      have hgap : slice? t n g.start = some (String.ofList gap) := by
        refine slice?_eq_some_iff.mpr ⟨front, g.raw.toList ++ cs, ?_, hn, ?_⟩
        · simp [hsplit]
        · simpa using hstart
      have hraw : slice? t g.start g.stop = some g.raw := by
        refine slice?_eq_some_iff.mpr ⟨front ++ gap, cs, ?_, ?_, hstop⟩
        · simp [hsplit]
        · rw [hstart, hn, byteLength_append]
      -- the next cut begins where this tag ends
      rcases ih (front ++ gap ++ g.raw.toList) (by simp [hsplit])
        (by rw [hstop, hstart, hn, byteLength_append, byteLength_append])
        with ⟨later, hlater, hjoin⟩
      refine ⟨String.ofList gap :: g.raw :: later, ?_, ?_⟩
      · rw [parts?, hgap, hraw, hlater]
        rfl
      · rw [String.toList_join] at hjoin ⊢
        simp [hjoin]

/-- A template can be cut at its tags without loss. -/
theorem parts?_tags (t : String) :
    ∃ parts, parts? t 0 (tags t) = some parts ∧ String.join parts = t := by
  rcases exists_woven Tag.raw t with ⟨out, hwoven⟩
  rcases parts?_of_woven hwoven [] rfl rfl with ⟨parts, hparts, hjoin⟩
  exact ⟨parts, hparts, String.toList_inj.mp hjoin⟩

/-! ## Spans -/

/-- An offset behind a prefix of the template is one between two characters. -/
theorem isValid_of_split {t : String} {front rest : List Char} (h : t.toList = front ++ rest) :
    String.Pos.Raw.IsValid t ⟨byteLength front⟩ := by
  refine String.Pos.Raw.isValid_iff_exists_append.mpr
    ⟨String.ofList front, String.ofList rest, ?_, ?_⟩
  · rw [← String.ofList_append, ← h, String.ofList_toList]
  · apply String.Pos.Raw.ext
    have hsize := byteLength_toList (String.ofList front)
    rw [String.toList_ofList] at hsize
    exact hsize

/-- A tag stands in the template, and its span says where. -/
theorem exists_span {t : String} {g : Tag} (hg : g ∈ tags t) : ∃ front rest form,
    t.toList = front ++ g.raw.toList ++ rest ∧ g.start = byteLength front ∧
    g.stop = g.start + byteLength g.raw.toList ∧ Tag.Derives form g.raw.toList := by
  rcases mem_tags hg with ⟨front, rest, form, hsplit, htag, hread⟩
  rcases Tag.read?_eq_some_iff.mp hread with ⟨raw, hderives, hraw, -⟩
  obtain rfl := List.append_cancel_right hraw
  have hstart : g.start = byteLength front := congrArg Tag.start htag
  have hstop : g.stop = byteLength front + byteLength g.raw.toList := congrArg Tag.stop htag
  exact ⟨front, rest, form, hsplit, hstart, by rw [hstop, hstart], hderives⟩

/-- What stands at the span of a tag is its raw text. -/
theorem slice?_span {t : String} {g : Tag} (hg : g ∈ tags t) :
    slice? t g.start g.stop = some g.raw := by
  rcases exists_span hg with ⟨front, rest, form, hsplit, hstart, hstop, -⟩
  exact slice?_eq_some_iff.mpr ⟨front, rest, hsplit, hstart, hstop⟩

end Template

/-! ## The cuts that an engine makes -/

namespace State

open Template

/-- What resolving a template cuts out at the spans of the tags is their raw texts. -/
theorem resolve_slices {s : State} (hs : s.Sound) (t : String) :
    (s.resolve t).1.map (fun r => some r.raw) =
      (Template.tags t).map fun g => slice? t g.start g.stop := by
  have hraw : (s.resolve t).1.map (fun r => some r.raw) =
      ((s.resolve t).1.map Resolved.raw).map some := by
    rw [List.map_map]
    rfl
  rw [hraw, resolve_raw hs, List.map_map]
  apply List.map_congr_left
  intro g hg
  exact (slice?_span hg).symm

/-- **The spans of a template cut it without loss.** Every span lies in the template,
begins and ends between two characters and is at least five bytes long, and the spans
follow one another. What stands at a span is the raw text of the tag, between two pairs
of braces, and with the texts between the spans the raw texts give the template back.
So an engine, in every state that a session can lead to, makes only cuts that exist:
when it resolves the template, and when it fills in whatever the tags resolved to. -/
theorem spans_cut_without_loss (t : String) :
    (∀ g ∈ Template.tags t,
      g.start + 5 ≤ g.stop ∧ g.stop ≤ t.utf8ByteSize ∧
      String.Pos.Raw.IsValid t ⟨g.start⟩ ∧ String.Pos.Raw.IsValid t ⟨g.stop⟩ ∧
      slice? t g.start g.stop = some g.raw ∧
      ∃ inside, g.raw.toList = ['\x7b', '\x7b'] ++ inside ++ ['\x7d', '\x7d']) ∧
    (Template.tags t).Pairwise (fun g g' => g.stop ≤ g'.start) ∧
    (∃ parts, parts? t 0 (Template.tags t) = some parts ∧ String.join parts = t) ∧
    ∀ s : State, s.Reachable →
      (∃ parts, parts? t 0 (s.tags t).1 = some parts ∧ String.join parts = t) ∧
      (s.resolve t).1.map (fun r => some r.raw) =
        (s.tags t).1.map (fun g => slice? t g.start g.stop) ∧
      ∀ texts, (fill? t (s.tags t).1 texts).isSome := by
  refine ⟨?_, ?_, parts?_tags t, ?_⟩
  · intro g hg
    rcases exists_span hg with ⟨front, rest, form, hsplit, hstart, hstop, hderives⟩
    rcases hderives.braces with ⟨inside, hne, hraw⟩
    refine ⟨?_, ?_, ?_, ?_, slice?_span hg, inside, hraw⟩
    · -- two pairs of braces and a character between them
      have hlength := length_le_byteLength g.raw.toList
      have hinside := List.length_pos_iff.mpr hne
      rw [hraw] at hlength
      simp only [List.length_append, List.length_cons, List.length_nil] at hlength
      rw [hstop, hraw]
      omega
    · rw [← byteLength_toList, hsplit, byteLength_append, byteLength_append]
      omega
    · rw [hstart]
      exact isValid_of_split (by rw [hsplit, List.append_assoc])
    · rw [hstop, hstart, ← byteLength_append]
      exact isValid_of_split hsplit
  · rw [tags_eq_scan]
    exact scan_pairwise 0 t.toList
  · intro s hs
    rw [tags_fst hs.sound]
    refine ⟨parts?_tags t, resolve_slices hs.sound t, ?_⟩
    intro texts
    rcases exists_woven (fun g => lookup g.raw texts) t with ⟨out, hwoven⟩
    rw [fill?_of_woven hwoven]
    rfl

/-- Characters of several bytes, and tags that come from the cache. -/
theorem spans_cut_without_loss_multibyte :
    let t := "→ \x7b\x7bимя\x7d\x7d ←"
    let s := (start {} ⟨0, 0, 0⟩ Table.empty).after [.tags t]
    s.Reachable ∧ slice? t 4 14 = some "\x7b\x7bимя\x7d\x7d" ∧
      String.Pos.Raw.IsValid t ⟨4⟩ ∧ slice? t 4 7 = none ∧
      (fill? t (s.tags t).1 [("\x7b\x7bимя\x7d\x7d", "x")]).isSome := by
  intro t s
  have hreachable : s.Reachable := ⟨{}, ⟨0, 0, 0⟩, Table.empty, [.tags t], rfl⟩
  have htags : Template.tags t = [⟨"\x7b\x7bимя\x7d\x7d", 4, 14, "имя", none, none⟩] := by
    decide +kernel
  rcases spans_cut_without_loss t with ⟨hspans, -, -, hengine⟩
  rcases hspans _ (htags ▸ List.mem_cons_self) with ⟨-, -, hvalid, -, hslice, -⟩
  exact ⟨hreachable, hslice, hvalid, by decide +kernel, (hengine s hreachable).2.2 _⟩

end State

end Placeholder
