import Placeholder.Proofs.Engine.Resolution
import Placeholder.Proofs.Template.Filling

/-! # Rendering a template

What an engine with a sound cache makes of a template, in terms of the tags of the
template and of what they resolve to, without the cache and without byte offsets.

Rendering resolves every tag and then looks the text for a tag up under its raw text,
where the first tag with this raw text has left it. A producer that counts its calls
gives other tags with the same raw text other values, which are computed and never
shown (`render_shows_first_resolved`).
-/

namespace Placeholder.State

/-- Tags with the same raw text resolve alike. -/
theorem resolveTag_of_raw_eq (s : State) {t t' : String} {g g' : Tag}
    (hg : g ∈ Template.tags t) (hg' : g' ∈ Template.tags t') (hraw : g.raw = g'.raw) :
    (s.resolveTag g).1 = (s.resolveTag g').1 := by
  rcases Template.eq_of_raw_eq hg hg' hraw with ⟨hname, hargs, hprocessor⟩
  rw [resolveTag_fst, resolveTag_fst, Tag.textFor, Tag.processed?, hname, hargs, hprocessor]
  rfl

/-- What rendering returns is the template with every tag replaced by the text that
the first tag with its raw text resolved to. -/
theorem render_woven {s : State} (hs : s.Sound) (t : String) :
    Template.Woven (fun g => Template.lookup g.raw ((s.resolve t).1.map fun r => (r.raw, r.text)))
      0 t.toList (Template.tags t) (s.render t).1.text.toList := by
  rcases Template.exists_woven
    (fun g => Template.lookup g.raw ((s.resolve t).1.map fun r => (r.raw, r.text))) t
    with ⟨out, hout⟩
  suffices h : (s.render t).1.text = String.ofList out by
    rw [h, String.toList_ofList]
    exact hout
  have hfill := Template.fill?_of_woven hout
  unfold render
  dsimp only
  rw [tags_fst hs]
  split
  · -- there are no tags, and nothing to fill in
    next hempty =>
      rw [List.isEmpty_iff.mp hempty] at hout
      rw [hout.eq_of_nil, String.ofList_toList]
      rfl
  · have hresolve : (s.resolve t).1 = ((s.tags t).2.resolveTags (Template.tags t)).1 := by
      unfold resolve
      dsimp only
      rw [tags_fst hs]
    rw [hresolve] at hfill
    exact congrArg (Option.getD · "") hfill

/-! ## Rendering and resolving -/

/-- What is listed under a raw text is the text of the first result with it. -/
theorem lookup_resolved (rs : List Resolved) (raw : String) :
    (rs.map fun r => (r.raw, r.text)).lookup raw =
      (rs.find? (·.raw == raw)).map Resolved.text := by
  induction rs with
  | nil => rfl
  | cons r rs ih =>
      by_cases hraw : r.raw = raw
      · simp [hraw]
      · have hne : (raw == r.raw) = false := by simpa using fun h => hraw h.symm
        simp [List.lookup_cons, hraw, hne, ih]

/-- The results for a template are listed under the raw texts of its tags. -/
theorem resolve_raw {s : State} (hs : s.Sound) (t : String) :
    (s.resolve t).1.map Resolved.raw = (Template.tags t).map Tag.raw := by
  unfold resolve
  dsimp only
  rw [tags_fst hs, resolveTags_raw]

/-- Every tag of a template has a result under its raw text. -/
theorem exists_first_resolved {s : State} (hs : s.Sound) {t : String} {g : Tag}
    (hg : g ∈ Template.tags t) : ∃ r, (s.resolve t).1.find? (·.raw == g.raw) = some r := by
  have hraw : g.raw ∈ (s.resolve t).1.map Resolved.raw := by
    rw [resolve_raw hs]
    exact List.mem_map_of_mem hg
  rcases List.mem_map.mp hraw with ⟨r, hr, heq⟩
  apply Option.isSome_iff_exists.mp
  exact List.find?_isSome.mpr ⟨r, hr, by simpa using heq⟩

/-- A template is returned as it is when it has no tags, and only then. -/
theorem render_eq_untouched_iff {s : State} (hs : s.Sound) (t t' : String) :
    (s.render t).1 = .untouched t' ↔ t' = t ∧ Template.tags t = [] := by
  unfold render
  dsimp only
  rw [tags_fst hs]
  split
  · next hempty => simp [List.isEmpty_iff.mp hempty, eq_comm]
  · next hsome =>
      have hne : Template.tags t ≠ [] := fun h => hsome (by rw [h]; rfl)
      simp [hne]

/-- **Rendering shows the first of the results that resolving lists.** Resolving a
template gives one result for each of its tags, in order and under its raw text: the
name is evaluated once for each tag, after the calls that the tags in front of it
made, and the value goes through the processor as those tags left it. Rendering from
the same state puts at each tag the text of the first result with its raw text, which
there always is, and leaves the same state. It returns the template as it is exactly
when there are no tags. -/
theorem render_shows_first_resolved {s : State} (hs : s.Reachable) (t : String) :
    (s.resolve t).1.map Resolved.raw = (Template.tags t).map Tag.raw ∧
    (∀ front g later, Template.tags t = front ++ g :: later →
      (s.resolve t).1[front.length]? = some ⟨g.raw,
        g.textFor ((s.tags t).2.resolveTags front).2.engine.registry
          (s.vars.valueAfter (Tag.callsOf g.name front) g.name g.args)⟩) ∧
    (∀ name, (s.resolve t).2.vars.find? name =
      (s.vars.find? name).map fun r => r.called (Tag.callsOf name (Template.tags t))) ∧
    (∃ first : Tag → String,
      (∀ g ∈ Template.tags t,
        ((s.resolve t).1.find? (·.raw == g.raw)).map Resolved.text = some (first g)) ∧
      Template.Woven first 0 t.toList (Template.tags t) (s.render t).1.text.toList) ∧
    (s.render t).2 = (s.resolve t).2 ∧
    ∀ t', (s.render t).1 = .untouched t' ↔ t' = t ∧ Template.tags t = [] := by
  have hsound := hs.sound
  -- the cache is looked at once, before the first tag is resolved
  have hresolve : s.resolve t = (s.tags t).2.resolveTags (Template.tags t) := by
    unfold resolve
    dsimp only
    rw [tags_fst hsound]
  refine ⟨resolve_raw hsound t, ?_, ?_, ⟨_, ?_, render_woven hsound t⟩, render_snd s t,
    render_eq_untouched_iff hsound t⟩
  · intro front g later hsplit
    rw [hresolve, hsplit, resolveTags_getElem?, resolveTag_behind]
    rfl
  · intro name
    rw [hresolve, find?_resolveTags]
    rfl
  · -- the first result is there, so nothing is left to a default
    intro g hg
    rcases exists_first_resolved hsound hg with ⟨r, hr⟩
    rw [Template.lookup, lookup_resolved, hr]
    rfl

/-- A producer that answers its first call only. Both tags are resolved, to different
texts, and the text of the first one is shown twice. -/
theorem render_shows_first_resolved_twice :
    let once : List Arguments → Arguments → String := fun calls _ =>
      if calls.isEmpty then "first" else "later"
    let s := start {} ⟨0, 0, 0⟩ ⟨[("n", .producer once [])]⟩
    s.Reachable ∧
      (s.resolve "\x7b\x7bn\x7d\x7d, \x7b\x7bn\x7d\x7d").1 =
        [⟨"\x7b\x7bn\x7d\x7d", "first"⟩, ⟨"\x7b\x7bn\x7d\x7d", "later"⟩] ∧
      (s.render "\x7b\x7bn\x7d\x7d, \x7b\x7bn\x7d\x7d").1.text = "first, first" ∧
      (s.render "\x7b\x7bn\x7d\x7d, \x7b\x7bn\x7d\x7d").2.vars.find? "n" =
        some (.producer once [none, none]) := by
  intro once s
  have hreachable : s.Reachable := ⟨{}, ⟨0, 0, 0⟩, _, [], rfl⟩
  let g : Tag := ⟨"\x7b\x7bn\x7d\x7d", 0, 5, "n", none, none⟩
  let g' : Tag := ⟨"\x7b\x7bn\x7d\x7d", 7, 12, "n", none, none⟩
  have htags : Template.tags "\x7b\x7bn\x7d\x7d, \x7b\x7bn\x7d\x7d" = [g, g'] := by
    decide +kernel
  have hsplit : "\x7b\x7bn\x7d\x7d, \x7b\x7bn\x7d\x7d".toList =
      [] ++ g.raw.toList ++ ([',', ' '] ++ g'.raw.toList ++ []) := by decide
  have hresolve : (s.resolve "\x7b\x7bn\x7d\x7d, \x7b\x7bn\x7d\x7d").1 =
      [⟨"\x7b\x7bn\x7d\x7d", "first"⟩, ⟨"\x7b\x7bn\x7d\x7d", "later"⟩] := by
    unfold resolve
    dsimp only
    rw [tags_fst hreachable.sound, htags]
    rfl
  rcases render_shows_first_resolved hreachable "\x7b\x7bn\x7d\x7d, \x7b\x7bn\x7d\x7d" with
    ⟨-, -, hcalls, ⟨first, hfirst, hwoven⟩, hstate, -⟩
  rw [htags, hresolve] at hfirst
  rw [htags, hsplit] at hwoven
  have hg : "first" = first g := Option.some.inj (hfirst g (by simp))
  have hg' : "first" = first g' := Option.some.inj (hfirst g' (by simp))
  have hout := hwoven.unique (.tag rfl (by decide) (.tag rfl (by decide) (.rest _ _)))
  rw [← hg, ← hg'] at hout
  refine ⟨hreachable, hresolve, String.toList_inj.mp (hout.trans (by decide)), ?_⟩
  rw [hstate, hcalls, htags]
  rfl

end Placeholder.State
