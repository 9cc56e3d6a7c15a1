import Placeholder.Proofs.Engine.Invocations
import Placeholder.Proofs.Engine.Rendering

/-! # What a rendering depends on

A template names what it uses: the names of its tags and those of their processors. Two
states that agree on these give the same texts and count the same failures, whatever else
they hold.

Agreement is about answers and not about how they come about. Two entries are alike if they
answer alike now and after any further uses (`Replacement.Alike`, `Processor.Alike`), so a
name that is missing agrees with the empty text, and a processor that is always there with a
registered one that does the same.

* `AgreeOn.resolveTag`: one tag keeps the agreement and has the same text on both sides.
* `AgreeOn.resolveTags`: so do the tags of a template, and as many of them fail.
* `render_depends_on_named`: rendering and resolving.
-/

namespace Placeholder

/-! ## Replacements -/

namespace Replacement

/-- Two replacements that answer alike, now and after any further calls. -/
def Alike (r r' : Replacement) : Prop :=
  ∀ calls args, ((r.called calls).evaluate args).1 = ((r'.called calls).evaluate args).1

theorem Alike.refl (r : Replacement) : r.Alike r := fun _ _ => rfl

theorem Alike.value {r r' : Replacement} (h : r.Alike r') (args : Arguments) :
    (r.evaluate args).1 = (r'.evaluate args).1 := by
  have hnow := h [] args
  rw [called_nil, called_nil] at hnow
  exact hnow

theorem Alike.after {r r' : Replacement} (h : r.Alike r') (args : Arguments) :
    (r.evaluate args).2.Alike (r'.evaluate args).2 := by
  intro calls args'
  rw [← called_cons, ← called_cons]
  exact h (args :: calls) args'

end Replacement

namespace Replacements

/-- What a name stands for. A name that is missing has no text, like one that stands for the
empty text. -/
def meaning (vars : Replacements) (name : String) : Replacement :=
  (vars.find? name).getD (.literal "")

theorem evaluate_fst_eq_meaning (vars : Replacements) (name : String) (args : Arguments) :
    (vars.evaluate name args).1 = ((vars.meaning name).evaluate args).1 := by
  rw [evaluate_fst, meaning]
  cases vars.find? name with
  | none => rfl
  | some r => rfl

theorem meaning_evaluate (vars : Replacements) (name other : String) (args : Arguments) :
    (vars.evaluate name args).2.meaning other =
      if other = name then ((vars.meaning other).evaluate args).2 else vars.meaning other := by
  rw [meaning, find?_evaluate]
  split
  · rw [meaning]
    cases vars.find? other with
    | none => rfl
    | some r => rfl
  · rfl

/-- An evaluation of a name keeps what two tables agree on. -/
theorem alike_evaluate {vars vars' : Replacements} {name other : String}
    (h : (vars.meaning other).Alike (vars'.meaning other)) (args : Arguments) :
    ((vars.evaluate name args).2.meaning other).Alike
      ((vars'.evaluate name args).2.meaning other) := by
  rw [meaning_evaluate, meaning_evaluate]
  split
  · exact h.after args
  · exact h

end Replacements

/-! ## Processors -/

namespace Processor

/-- Two processors that give the same texts and fail alike, now and after any further
uses. -/
def Alike (p p' : Processor) : Prop :=
  ∀ later use, ((p.used later).run use).text = ((p'.used later).run use).text ∧
    ((p.used later).run use).failed = ((p'.used later).run use).failed

theorem Alike.refl (p : Processor) : p.Alike p := fun _ _ => ⟨rfl, rfl⟩

theorem Alike.symm {p p' : Processor} (h : p.Alike p') : p'.Alike p := by
  intro later use
  exact ⟨(h later use).1.symm, (h later use).2.symm⟩

theorem Alike.trans {p p' p'' : Processor} (h : p.Alike p') (h' : p'.Alike p'') :
    p.Alike p'' := by
  intro later use
  exact ⟨(h later use).1.trans (h' later use).1, (h later use).2.trans (h' later use).2⟩

theorem Alike.used {p p' : Processor} (h : p.Alike p') (uses : List Use) :
    (p.used uses).Alike (p'.used uses) := by
  intro later use
  rw [← used_append, ← used_append]
  exact h (uses ++ later) use

end Processor

/-- Two uses of a name that are the same but for processors that are alike. -/
structure Invocation.Alike (i i' : Invocation) : Prop where
  name : i'.name = i.name
  use : i'.use = i.use
  processor : i.processor.Alike i'.processor

namespace Invocation

theorem Alike.text {i i' : Invocation} (h : i.Alike i') : i.text = i'.text := by
  unfold Invocation.text
  rw [h.use]
  exact (h.processor [] i.use).1

theorem Alike.failed {i i' : Invocation} (h : i.Alike i') : i.failed = i'.failed := by
  unfold Invocation.failed
  rw [h.use]
  exact (h.processor [] i.use).2

end Invocation

namespace Registry

/-- The processors that are always there do not remember their uses. -/
theorem builtin_alike_used (r : Registry) (b : Builtin) (uses : List Use) :
    ((r.builtin b).used uses).Alike (r.builtin b) := by
  intro later use
  rw [Processor.run_text, Processor.run_text, Processor.run_failed, Processor.run_failed]
  exact ⟨rfl, rfl⟩

/-- A name stands for processors that are alike, or for none in both registries. -/
def AgreeOn (r r' : Registry) (name : String) : Prop :=
  Option.Rel Processor.Alike (r.find? name) (r'.find? name)

/-- After an invocation its name stands for a processor that was put to one use more, or for
one that does not remember it. -/
theorem find?_after {r : Registry} {i : Invocation} (h : r.find? i.name = some i.processor) :
    ∃ p, (r.after i).find? i.name = some p ∧ (i.processor.used [i.use]).Alike p := by
  unfold after
  rw [find?_record_self]
  split
  · refine ⟨_, rfl, ?_⟩
    rw [Processor.run_after_eq_used]
    exact .refl _
  · -- nothing is registered under the name, so it is the name of one that is always there
    next hcustom =>
      refine ⟨i.processor, h, ?_⟩
      have hmissing : r.custom.find? i.name = none := by
        simpa [Table.contains] using hcustom
      rw [find?, hmissing, Option.none_or] at h
      rcases Option.map_eq_some_iff.mp h with ⟨b, -, hb⟩
      rw [← hb]
      exact r.builtin_alike_used b [i.use]

/-- Invocations that are alike keep what two registries agree on. -/
theorem AgreeOn.after {r r' : Registry} {i i' : Invocation}
    (hfind : r.find? i.name = some i.processor) (hfind' : r'.find? i'.name = some i'.processor)
    (halike : i.Alike i') {name : String} (h : r.AgreeOn r' name) :
    (r.after i).AgreeOn (r'.after i') name := by
  unfold AgreeOn
  by_cases hname : name = i.name
  · subst hname
    -- either side may have a registered processor while the other one has not
    rcases find?_after hfind with ⟨p, hp, hused⟩
    rcases find?_after hfind' with ⟨p', hp', hused'⟩
    rw [halike.name] at hp'
    rw [halike.use] at hused'
    rw [hp, hp']
    exact .some (hused.symm.trans ((halike.processor.used [i.use]).trans hused'))
  · have hname' : name ≠ i'.name := by
      rw [halike.name]
      exact hname
    unfold Registry.after
    rw [find?_record_of_ne r _ hname, find?_record_of_ne r' _ hname']
    exact h

end Registry

/-! ## One tag -/

namespace Tag

/-- Registries that agree on the processor of a tag have it make invocations that are
alike. -/
theorem invocation?_alike (g : Tag) {r r' : Registry}
    (h : ∀ call, g.processor = some call → r.AgreeOn r' call.name) (value : String) :
    Option.Rel Invocation.Alike (g.invocation? r value) (g.invocation? r' value) := by
  unfold invocation?
  split
  · exact .none
  · cases hprocessor : g.processor with
    | none => exact .none
    | some call =>
        have hagree := h call hprocessor
        unfold Registry.AgreeOn at hagree
        dsimp only [Option.bind_some]
        unfold Registry.invoke?
        generalize r.find? call.name = found at hagree
        generalize r'.find? call.name = found' at hagree
        cases hagree with
        | none => exact .none
        | some halike => exact .some ⟨rfl, rfl, halike⟩

end Tag

namespace State

/-- Two states agree on some tags when they agree on the names of the tags and on those of
their processors. -/
structure AgreeOn (s s' : State) (gs : List Tag) : Prop where
  vars : ∀ g ∈ gs, (s.vars.meaning g.name).Alike (s'.vars.meaning g.name)
  registry : ∀ g ∈ gs, ∀ call, g.processor = some call →
    s.engine.registry.AgreeOn s'.engine.registry call.name

/-- Where the names stand for the same things there is agreement. -/
theorem AgreeOn.of_eq {s s' : State} {gs : List Tag}
    (hvars : ∀ g ∈ gs, s.vars.meaning g.name = s'.vars.meaning g.name)
    (hregistry : ∀ g ∈ gs, ∀ call, g.processor = some call →
      s.engine.registry.find? call.name = s'.engine.registry.find? call.name) :
    s.AgreeOn s' gs where
  vars g hg := by
    rw [hvars g hg]
    exact .refl _
  registry g hg call hcall := by
    unfold Registry.AgreeOn
    rw [hregistry g hg call hcall]
    cases s'.engine.registry.find? call.name with
    | none => exact .none
    | some p => exact .some (.refl p)

section

variable {s s' : State} {gs : List Tag} (h : s.AgreeOn s' gs)

include h

/-- The name of a tag has the same value on both sides. -/
theorem AgreeOn.value {g : Tag} (hg : g ∈ gs) :
    (s.vars.evaluate g.name g.args).1 = (s'.vars.evaluate g.name g.args).1 := by
  rw [Replacements.evaluate_fst_eq_meaning, Replacements.evaluate_fst_eq_meaning]
  exact (h.vars g hg).value g.args

/-- One tag makes invocations that are alike. -/
theorem AgreeOn.invocation? {g : Tag} (hg : g ∈ gs) :
    Option.Rel Invocation.Alike
      (g.invocation? s.engine.registry (s.vars.evaluate g.name g.args).1)
      (g.invocation? s'.engine.registry (s'.vars.evaluate g.name g.args).1) := by
  rw [h.value hg]
  exact g.invocation?_alike (h.registry g hg) _

/-- One tag has the same text on both sides. -/
theorem AgreeOn.resolveTag_fst {g : Tag} (hg : g ∈ gs) :
    (s.resolveTag g).1 = (s'.resolveTag g).1 := by
  have hinvocation := h.invocation? hg
  rw [State.resolveTag_fst, State.resolveTag_fst, Tag.textFor_eq, Tag.textFor_eq]
  generalize g.invocation? s.engine.registry _ = invocation at hinvocation ⊢
  generalize g.invocation? s'.engine.registry _ = invocation' at hinvocation ⊢
  cases hinvocation with
  | none => exact h.value hg
  | some halike => exact halike.text

/-- One tag keeps the agreement. -/
theorem AgreeOn.resolveTag {g : Tag} (hg : g ∈ gs) :
    (s.resolveTag g).2.AgreeOn (s'.resolveTag g).2 gs where
  vars other hother := by
    rw [resolveTag_vars, resolveTag_vars]
    exact Replacements.alike_evaluate (h.vars other hother) g.args
  registry other hother call hcall := by
    have hagree := h.registry other hother call hcall
    have hinvocation := h.invocation? hg
    rw [resolveTag_registry, resolveTag_registry, Tag.registryAfter_eq, Tag.registryAfter_eq]
    generalize hi : g.invocation? s.engine.registry _ = invocation at hinvocation ⊢
    generalize hi' : g.invocation? s'.engine.registry _ = invocation' at hinvocation ⊢
    cases hinvocation with
    | none => exact hagree
    | some halike =>
        exact hagree.after (Tag.find?_of_invocation? hi) (Tag.find?_of_invocation? hi') halike

end

/-! ## Templates -/

/-- The tags of a template have the same texts on both sides, and as many of their
invocations fail. -/
theorem AgreeOn.resolveTags {gs later : List Tag} (hlater : ∀ g ∈ later, g ∈ gs)
    {s s' : State} (h : s.AgreeOn s' gs) :
    (s.resolveTags later).1 = (s'.resolveTags later).1 ∧
    (s.invocations? later).reduceOption.countP Invocation.failed =
      (s'.invocations? later).reduceOption.countP Invocation.failed ∧
    (s.resolveTags later).2.AgreeOn (s'.resolveTags later).2 gs := by
  -- the states agree on all of `gs` and not only on the tags that are left, since a later
  -- tag may have the name of one that is resolved already
  induction later generalizing s s' with
  | nil => exact ⟨rfl, rfl, h⟩
  | cons g later ih =>
      have hg : g ∈ gs := hlater g List.mem_cons_self
      have htext := h.resolveTag_fst hg
      have hinvocation := h.invocation? hg
      rcases ih (fun g' hg' => hlater g' (List.mem_cons_of_mem g hg')) (h.resolveTag hg) with
        ⟨htexts, hcount, hagree⟩
      refine ⟨?_, ?_, hagree⟩
      · unfold State.resolveTags
        dsimp only
        rw [htext, htexts]
      · unfold invocations?
        generalize g.invocation? s.engine.registry _ = invocation at hinvocation ⊢
        generalize g.invocation? s'.engine.registry _ = invocation' at hinvocation ⊢
        cases hinvocation with
        | none => exact hcount
        | some halike =>
            rw [List.reduceOption_cons_of_some, List.reduceOption_cons_of_some, List.countP_cons,
              List.countP_cons, hcount, halike.failed]

theorem AgreeOn.tags {s s' : State} {gs : List Tag} (h : s.AgreeOn s' gs) (t : String) :
    (s.tags t).2.AgreeOn (s'.tags t).2 gs where
  vars := h.vars
  registry := by
    rw [tags_registry, tags_registry]
    exact h.registry

theorem resolve_failures {s : State} (hs : s.Sound) (t : String) :
    (s.resolve t).2.engine.registry.failures = s.engine.registry.failures +
      ((s.tags t).2.invocations? (Template.tags t)).reduceOption.countP Invocation.failed := by
  rw [(s.resolve_follows t).failures, invocationsFor?, tags_fst hs]

/-- **A rendering depends only on what the template names.** Two states, each of them with
its own configuration, cache and history, agree on the tags of a template. Then rendering
gives the same result from both and resolving the same list, and either way as many failures
are counted on both sides and there is agreement again. -/
theorem render_depends_on_named {s s' : State} (hs : s.Reachable) (hs' : s'.Reachable)
    {t : String} (h : s.AgreeOn s' (Template.tags t)) :
    (s.render t).1 = (s'.render t).1 ∧
    (s.resolve t).1 = (s'.resolve t).1 ∧
    (∃ n, (s.render t).2.engine.registry.failures = s.engine.registry.failures + n ∧
      (s'.render t).2.engine.registry.failures = s'.engine.registry.failures + n ∧
      (s.resolve t).2.engine.registry.failures = s.engine.registry.failures + n ∧
      (s'.resolve t).2.engine.registry.failures = s'.engine.registry.failures + n) ∧
    (s.render t).2.AgreeOn (s'.render t).2 (Template.tags t) := by
  rcases (h.tags t).resolveTags (fun _ hg => hg) with ⟨htexts, hcount, hagree⟩
  have hresolve := resolve_eq hs.sound t
  have hresolve' := resolve_eq hs'.sound t
  -- the invocations that fail are counted on both sides
  have hfailures := resolve_failures hs.sound t
  have hfailures' := resolve_failures hs'.sound t
  rw [← hcount] at hfailures'
  rw [render_snd, render_snd]
  refine ⟨?_, ?_, ⟨_, hfailures, hfailures', hfailures, hfailures'⟩, ?_⟩
  · unfold render
    dsimp only
    rw [tags_fst hs.sound, tags_fst hs'.sound, htexts]
    split
    · rfl
    · rfl
  · rw [hresolve, hresolve']
    exact htexts
  · rw [hresolve, hresolve']
    exact hagree

/-- The name `e` stands for the empty text or for nothing, and nobody can tell. The second
engine has no cache, another clock, a further processor and a further name. -/
theorem render_depends_on_named_missing :
    let extra : Processor := ⟨.infallible fun uses _ => toString uses.length, []⟩
    let s := start {} ⟨0, 0, 0⟩ ⟨[("e", .literal ""), ("v", .literal "x")]⟩
    let s' := (start { cache := { enabled := false } } ⟨7, 0, 0⟩
      ⟨[("v", .literal "x"), ("w", .literal "y")]⟩).after [.register "extra" extra]
    let t := "\x7b\x7be\x7d\x7d\x7b\x7bv|number\x7d\x7d\x7b\x7bv|none\x7d\x7d"
    s.Reachable ∧ s'.Reachable ∧ s.AgreeOn s' (Template.tags t) ∧
      (s.render t).1 = (s'.render t).1 := by
  intro extra s s' t
  have hs : s.Reachable := ⟨{}, ⟨0, 0, 0⟩, _, [], rfl⟩
  have hs' : s'.Reachable := ⟨{ cache := { enabled := false } }, ⟨7, 0, 0⟩, _, _, rfl⟩
  have htags : Template.tags t =
      [⟨"\x7b\x7be\x7d\x7d", 0, 5, "e", none, none⟩,
        ⟨"\x7b\x7bv|number\x7d\x7d", 5, 17, "v", none, some ⟨"number", none⟩⟩,
        ⟨"\x7b\x7bv|none\x7d\x7d", 17, 27, "v", none, some ⟨"none", none⟩⟩] := by
    decide +kernel
  -- `number` is the one that is always there, and it has the same settings in both
  have hnumber : s.engine.registry.find? "number" = s'.engine.registry.find? "number" := by
    have hcustom : s.engine.registry.custom.find? "number" = none :=
      Option.isNone_iff_eq_none.mp (by decide +kernel)
    have hcustom' : s'.engine.registry.custom.find? "number" = none :=
      Option.isNone_iff_eq_none.mp (by decide +kernel)
    have hname : Builtin.ofName? "number" = some .number := by decide +kernel
    have hsettings : s.engine.registry.config.number = s'.engine.registry.config.number := rfl
    rw [Registry.find?, Registry.find?, hcustom, hcustom', hname]
    unfold Registry.builtin Builtin.run
    dsimp only [Option.map_some]
    rw [hsettings]
  have hnone : s.engine.registry.find? "none" = s'.engine.registry.find? "none" := by
    have hunknown : s.engine.registry.find? "none" = none :=
      Option.isNone_iff_eq_none.mp (by decide +kernel)
    have hunknown' : s'.engine.registry.find? "none" = none :=
      Option.isNone_iff_eq_none.mp (by decide +kernel)
    exact hunknown.trans hunknown'.symm
  have h : s.AgreeOn s' (Template.tags t) := by
    rw [htags]
    apply AgreeOn.of_eq
    · intro g hg
      rcases List.mem_cons.mp hg with rfl | hg
      · rfl
      · rcases List.mem_pair.mp hg with rfl | rfl
        · rfl
        · rfl
    · intro g hg call hcall
      rcases List.mem_cons.mp hg with rfl | hg
      · cases hcall
      · rcases List.mem_pair.mp hg with rfl | rfl
        · cases hcall
          exact hnumber
        · cases hcall
          exact hnone
  exact ⟨hs, hs', h, (render_depends_on_named hs hs' h).1⟩

end State

end Placeholder
