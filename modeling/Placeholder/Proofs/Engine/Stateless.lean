import Placeholder.Proofs.Engine.Invocations
import Placeholder.Proofs.Engine.Rendering

/-! # Rendering without memory

Rendering looks the text for a tag up under the raw text of the tag, where the
first occurrence has left it. With producers and processors that do not remember
earlier calls nobody can tell: every occurrence gets what it resolves to by itself
(`render_fills_each_tag`).

The argument has two halves. Resolving a tag changes only what stateless producers
and processors ignore, so every tag resolves as in the first state
(`resolveTags_of_stateless`). And tags with the same raw text have the same name,
arguments and processor, whatever stands around them (`Template.eq_of_raw_eq`), so
the first occurrence speaks for all of them.
-/

namespace Placeholder

/-! ## Producers -/

namespace Replacement

/-- A text is always the same, and a producer is stateless when its answer does not
depend on the earlier calls. -/
def Stateless : Replacement → Prop
  | .literal _ => True
  | .producer answer _ => ∀ calls calls' args, answer calls args = answer calls' args

theorem Stateless.evaluate {r : Replacement} (hr : r.Stateless) (args : Arguments) :
    (r.evaluate args).2.Stateless := by
  cases r with
  | literal text => exact hr
  | producer answer calls => exact hr

theorem Stateless.evaluate_again {r : Replacement} (hr : r.Stateless) (args args' : Arguments) :
    ((r.evaluate args).2.evaluate args').1 = (r.evaluate args').1 := by
  cases r with
  | literal text => rfl
  | producer answer calls => exact hr (args :: calls) calls args'

end Replacement

namespace Replacements

/-- Every name stands for a text or for a stateless producer. -/
def Stateless (vars : Replacements) : Prop :=
  ∀ name r, vars.find? name = some r → r.Stateless

/-- Two tables in which every name has the same value for every arguments. -/
def Same (vars vars' : Replacements) : Prop :=
  ∀ name args, (vars.evaluate name args).1 = (vars'.evaluate name args).1

theorem Stateless.evaluate {vars : Replacements} (hvars : vars.Stateless) (name : String)
    (args : Arguments) : (vars.evaluate name args).2.Stateless := by
  cases h : vars.find? name with
  | none =>
      rw [evaluate_of_missing h]
      exact hvars
  | some r =>
      rw [evaluate_of_find? h]
      intro other r' hfind
      by_cases heq : other = name
      · subst heq
        rw [Table.find?_insert_self] at hfind
        cases hfind
        exact (hvars other r h).evaluate args
      · rw [Table.find?_insert_of_ne _ _ heq] at hfind
        exact hvars other r' hfind

theorem Stateless.same_evaluate {vars : Replacements} (hvars : vars.Stateless) (name : String)
    (args : Arguments) : vars.Same (vars.evaluate name args).2 := by
  intro other args'
  cases h : vars.find? name with
  | none => rw [evaluate_of_missing h]
  | some r =>
      rw [evaluate_of_find? h, evaluate_fst, evaluate_fst]
      by_cases heq : other = name
      · subst heq
        rw [Table.find?_insert_self, h]
        exact ((hvars other r h).evaluate_again args args').symm
      · rw [Table.find?_insert_of_ne _ _ heq]

end Replacements

/-! ## Processors -/

namespace Processor

/-- The text that a processor gives does not depend on the earlier uses of it. -/
def Stateless (p : Processor) : Prop :=
  ∀ uses use, (({ p with uses := uses } : Processor).run use).text = (p.run use).text

theorem Stateless.after {p : Processor} (hp : p.Stateless) (use : Use) :
    (p.run use).after.Stateless := by
  intro uses use'
  rw [run_after]
  exact (hp uses use').trans (hp (use :: p.uses) use').symm

theorem Stateless.run_again {p : Processor} (hp : p.Stateless) (use use' : Use) :
    ((p.run use).after.run use').text = (p.run use').text := by
  rw [run_after]
  exact hp (use :: p.uses) use'

end Processor

namespace Registry

/-- Every registered processor is stateless. -/
def Stateless (r : Registry) : Prop := ∀ name p, r.custom.find? name = some p → p.Stateless

/-- Two registries whose processors give the same texts. -/
def Same (r r' : Registry) : Prop :=
  ∀ name use, (r.apply name use).map Prod.fst = (r'.apply name use).map Prod.fst

/-- The processors that are always there are stateless. -/
theorem builtin_stateless (r : Registry) (b : Builtin) : (r.builtin b).Stateless := by
  intro uses use
  rw [Processor.run_text, Processor.run_text]
  rfl

theorem Stateless.find? {r : Registry} (hr : r.Stateless) {name : String} {p : Processor}
    (h : r.find? name = some p) : p.Stateless := by
  rcases Option.or_eq_some_iff.mp h with hcustom | ⟨-, hbuiltin⟩
  · exact hr name p hcustom
  · rcases Option.map_eq_some_iff.mp hbuiltin with ⟨b, -, rfl⟩
    exact builtin_stateless r b

theorem Stateless.record {r : Registry} (hr : r.Stateless) (name : String)
    {outcome : Processor.Outcome} (houtcome : outcome.after.Stateless) :
    (r.record name outcome).Stateless := by
  intro other p hfind
  unfold Registry.record at hfind
  dsimp only at hfind
  split at hfind
  · by_cases heq : other = name
    · subst heq
      rw [Table.find?_insert_self] at hfind
      cases hfind
      exact houtcome
    · rw [Table.find?_insert_of_ne _ _ heq] at hfind
      exact hr other p hfind
  · exact hr other p hfind

theorem Stateless.apply {r r' : Registry} (hr : r.Stateless) {name text : String} {use : Use}
    (h : r.apply name use = some (text, r')) : r'.Stateless ∧ r.Same r' := by
  rcases Option.map_eq_some_iff.mp h with ⟨p, hp, heq⟩
  cases heq
  have hstateless := hr.find? hp
  refine ⟨hr.record name (hstateless.after use), ?_⟩
  intro other use'
  rw [apply_fst, apply_fst]
  by_cases heq : other = name
  · subst heq
    rw [find?_record_self, hp]
    split
    · exact congrArg some (hstateless.run_again use use').symm
    · rfl
  · rw [find?_record_of_ne r _ heq]

theorem Same.textFor {r r' : Registry} (h : r.Same r') (g : Tag) (value : String) :
    g.textFor r value = g.textFor r' value := by
  have hprocessed : (g.processed? r value).map Prod.fst = (g.processed? r' value).map Prod.fst := by
    unfold Tag.processed?
    cases g.processor with
    | none => rfl
    | some call => exact h call.name _
  rw [Tag.textFor, Tag.textFor, hprocessed]

theorem Stateless.registryAfter {r : Registry} (hr : r.Stateless) (g : Tag) (value : String) :
    (g.registryAfter r value).Stateless ∧ r.Same (g.registryAfter r value) := by
  unfold Tag.registryAfter
  split
  · exact ⟨hr, fun _ _ => rfl⟩
  · cases hprocessed : g.processed? r value with
    | none => exact ⟨hr, fun _ _ => rfl⟩
    | some result =>
        rcases Option.bind_eq_some_iff.mp hprocessed with ⟨call, -, happly⟩
        exact hr.apply happly

end Registry

/-! ## Resolving tags -/

namespace State

/-- Neither producers nor processors remember anything. -/
structure Stateless (s : State) : Prop where
  vars : s.vars.Stateless
  registry : s.engine.registry.Stateless

/-- Two states in which every tag has the same text. -/
structure Same (s s' : State) : Prop where
  vars : s.vars.Same s'.vars
  registry : s.engine.registry.Same s'.engine.registry

theorem Same.resolveTag {s s' : State} (h : s.Same s') (g : Tag) :
    (s.resolveTag g).1 = (s'.resolveTag g).1 := by
  rw [resolveTag_fst, resolveTag_fst, h.vars g.name g.args]
  exact h.registry.textFor g _

/-- Resolving a tag changes only what is not seen in a text. -/
theorem Stateless.resolveTag {s : State} (hs : s.Stateless) (g : Tag) :
    (s.resolveTag g).2.Stateless ∧ s.Same (s.resolveTag g).2 := by
  rw [resolveTag_eq]
  rcases hs.registry.registryAfter g (s.vars.evaluate g.name g.args).1 with ⟨hregistry, hsame⟩
  exact ⟨⟨hs.vars.evaluate g.name g.args, hregistry⟩,
    ⟨hs.vars.same_evaluate g.name g.args, hsame⟩⟩

/-- Each tag of a list resolves as it does alone in the first state. -/
theorem resolveTags_of_stateless {s : State} (hs : s.Stateless) (gs : List Tag) :
    (s.resolveTags gs).1 = gs.map fun g => ⟨g.raw, (s.resolveTag g).1⟩ := by
  induction gs generalizing s with
  | nil => rfl
  | cons g gs ih =>
      rcases hs.resolveTag g with ⟨hafter, hsame⟩
      have hrest : (s.resolveTags (g :: gs)).1 =
          ⟨g.raw, (s.resolveTag g).1⟩ :: ((s.resolveTag g).2.resolveTags gs).1 := rfl
      -- the rest resolves in the next state, which differs in nothing that is seen
      have hlater : gs.map (fun g' => Resolved.mk g'.raw ((s.resolveTag g).2.resolveTag g').1) =
          gs.map fun g' => ⟨g'.raw, (s.resolveTag g').1⟩ := by
        apply List.map_congr_left
        intro g' _
        rw [hsame.resolveTag g']
      rw [hrest, ih hafter, List.map_cons, hlater]

/-! ## Rendering -/

/-- Looking for the tags of a template touches the cache alone. -/
theorem tags_stateless {s : State} (hs : s.Stateless) (t : String) :
    (s.tags t).2.Stateless ∧ s.Same (s.tags t).2 := by
  have hregistry : (s.tags t).2.engine.registry = s.engine.registry :=
    Engine.tags_registry s.engine t
  refine ⟨⟨hs.vars, ?_⟩, ⟨fun _ _ => rfl, ?_⟩⟩
  · rw [hregistry]
    exact hs.registry
  · rw [hregistry]
    exact fun _ _ => rfl

theorem resolve_of_stateless {s : State} (hsound : s.Sound) (hs : s.Stateless) (t : String) :
    (s.resolve t).1 = (Template.tags t).map fun g => ⟨g.raw, (s.resolveTag g).1⟩ := by
  rcases tags_stateless hs t with ⟨hafter, hsame⟩
  unfold resolve
  dsimp only
  rw [tags_fst hsound, resolveTags_of_stateless hafter]
  apply List.map_congr_left
  intro g _
  rw [hsame.resolveTag g]

/-- **Without memory, every tag is replaced by what it resolves to itself.** In a state
that a session can lead to, with stateless producers and processors, rendering
copies the template outside of the spans of its tags and puts at each tag the text
that this very occurrence resolves to, in the order of the template. What is put in
is not read again. -/
theorem render_fills_each_tag {s : State} (hreachable : s.Reachable) (hs : s.Stateless)
    (t : String) :
    (s.resolve t).1 = (Template.tags t).map (fun g => ⟨g.raw, (s.resolveTag g).1⟩) ∧
    ∀ out, Template.Woven (fun g => (s.resolveTag g).1) 0 t.toList (Template.tags t) out ↔
      out = (s.render t).1.text.toList := by
  have hresolve := resolve_of_stateless hreachable.sound hs t
  have hwoven := render_woven hreachable.sound t
  rw [hresolve, List.map_map] at hwoven
  -- what is looked up by the raw text is what the occurrence itself resolves to
  have heach : Template.Woven (fun g => (s.resolveTag g).1) 0 t.toList (Template.tags t)
      (s.render t).1.text.toList := by
    apply hwoven.congr
    intro g hg
    apply @Template.lookup_of_mem (fun g => (s.resolveTag g).1) _ g hg
    intro g' hg' hraw
    exact resolveTag_of_raw_eq s hg' hg hraw
  refine ⟨hresolve, ?_⟩
  -- what is woven is unique, so one direction is enough
  intro out
  constructor
  · intro hout
    exact hout.unique heach
  · intro hout
    rw [hout]
    exact heach

/-- A text with braces in it is put in twice, and neither its braces nor the repeated
tag make a difference. -/
theorem render_fills_each_tag_unread :
    let vars : Replacements := ⟨[("a", .literal "\x7b\x7bb\x7d\x7d"),
      ("b", .producer (fun _ args => args.elim "" (String.intercalate "-")) [])]⟩
    let wrap : Processor := ⟨.infallible fun _ use => "<" ++ use.value ++ ">", []⟩
    let s := (start {} ⟨0, 0, 0⟩ vars).after [.register "wrap" wrap]
    s.Reachable ∧ s.Stateless ∧
      (s.render "\x7b\x7ba\x7d\x7d é\x7b\x7bb:x,y|wrap\x7d\x7d \x7b\x7ba\x7d\x7d").1.text =
        "\x7b\x7bb\x7d\x7d é<x-y> \x7b\x7bb\x7d\x7d" := by
  intro vars wrap s
  have hreachable : s.Reachable := ⟨{}, ⟨0, 0, 0⟩, vars, [.register "wrap" wrap], rfl⟩
  have hstateless : s.Stateless := by
    constructor
    · intro name r hr
      rcases List.lookup_eq_some_iff.mp hr with ⟨front, back, hentries, -⟩
      have hmem : (name, r) ∈ s.vars.entries := hentries ▸ List.mem_append_cons_self
      rcases List.mem_cons.mp hmem with heq | hmem
      · cases heq
        trivial
      · cases List.mem_singleton.mp hmem
        exact fun _ _ _ => rfl
    · intro name p hp
      rcases List.lookup_eq_some_iff.mp hp with ⟨front, back, hentries, -⟩
      have hmem : (name, p) ∈ s.engine.registry.custom.entries :=
        hentries ▸ List.mem_append_cons_self
      cases List.mem_singleton.mp hmem
      exact fun _ _ => rfl
  refine ⟨hreachable, hstateless, ?_⟩
  let first : Tag := ⟨"\x7b\x7ba\x7d\x7d", 0, 5, "a", none, none⟩
  let second : Tag :=
    ⟨"\x7b\x7bb:x,y|wrap\x7d\x7d", 8, 22, "b", some ["x", "y"], some ⟨"wrap", none⟩⟩
  let third : Tag := ⟨"\x7b\x7ba\x7d\x7d", 23, 28, "a", none, none⟩
  have htags : Template.tags "\x7b\x7ba\x7d\x7d é\x7b\x7bb:x,y|wrap\x7d\x7d \x7b\x7ba\x7d\x7d" =
      [first, second, third] := by decide +kernel
  have hsplit : "\x7b\x7ba\x7d\x7d é\x7b\x7bb:x,y|wrap\x7d\x7d \x7b\x7ba\x7d\x7d".toList =
      [] ++ first.raw.toList ++
        ([' ', 'é'] ++ second.raw.toList ++ ([' '] ++ third.raw.toList ++ [])) := by
    decide
  have hrender := (render_fills_each_tag hreachable hstateless
    "\x7b\x7ba\x7d\x7d é\x7b\x7bb:x,y|wrap\x7d\x7d \x7b\x7ba\x7d\x7d").2
  rw [htags, hsplit] at hrender
  have hout := (hrender _).mp
    (.tag rfl (by decide) (.tag rfl (by decide) (.tag rfl (by decide) (.rest _ _))))
  have hfirst : (s.resolveTag first).1 = "\x7b\x7bb\x7d\x7d" := rfl
  have hsecond : (s.resolveTag second).1 = "<x-y>" := rfl
  have hthird : (s.resolveTag third).1 = "\x7b\x7bb\x7d\x7d" := rfl
  rw [hfirst, hsecond, hthird] at hout
  exact String.toList_inj.mp (hout.symm.trans (by decide))

end State

end Placeholder
