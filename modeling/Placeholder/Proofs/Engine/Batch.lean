import Mathlib.Data.List.OfFn
import Mathlib.Data.List.FinRange
import Mathlib.Logic.Equiv.Fin.Rotate
import Placeholder.Proofs.Engine.Agreement
import Placeholder.Proofs.Engine.Stateless

/-! # Batches

The templates of a batch are rendered one after another by the same engine. Each of them
finds the cache, the producers and the processors as the ones in front of it have left them.

If neither producers nor processors remember anything, no template can tell. The step is
`resolve_of_memoryless`: after a template the state agrees with the state before it on every
name, and it is memoryless again. The run is `renderAll_of_memoryless`: the texts of a batch and
the failures in it are those of its templates, each of them taken alone in the first state.
The order of the templates does not occur in either of them.

What is asked of a processor is more than in `Processor.Stateless`. There only its texts must
not depend on earlier uses; here failures are counted, and a processor that fails gives a text
like any other.
-/

namespace Placeholder

/-! ## Producers and processors -/

namespace Replacement

/-- A stateless replacement answers after any calls as it did before them. -/
theorem Stateless.called_alike {r : Replacement} (hr : r.Stateless) (calls : List Arguments) :
    (r.called calls).Alike r := by
  intro later args
  cases r with
  | literal text => rfl
  | producer answer earlier => exact hr _ _ args

theorem Stateless.called {r : Replacement} (hr : r.Stateless) (calls : List Arguments) :
    (r.called calls).Stateless := by
  cases r with
  | literal text => exact hr
  | producer answer earlier => exact hr

end Replacement

namespace Processor

/-- The answer of a processor, a failure included, does not depend on the earlier uses of
it. -/
def Memoryless (p : Processor) : Prop :=
  ∀ uses use, ({ p with uses := uses } : Processor).answer use = p.answer use

/-- A memoryless processor gives after any uses the texts and the failures that it gave
before them. -/
theorem Memoryless.used_alike {p : Processor} (hp : p.Memoryless) (uses : List Use) :
    (p.used uses).Alike p := by
  intro later use
  have hanswer : ((p.used uses).used later).answer use = (p.used later).answer use :=
    (hp _ use).trans (hp _ use).symm
  rw [run_text, run_text, run_failed, run_failed, hanswer]
  exact ⟨rfl, rfl⟩

theorem Memoryless.used {p : Processor} (hp : p.Memoryless) (uses : List Use) :
    (p.used uses).Memoryless := by
  intro earlier use
  exact (hp earlier use).trans (hp _ use).symm

end Processor

namespace Registry

/-- Every registered processor is memoryless. -/
def Memoryless (r : Registry) : Prop := ∀ name p, r.custom.find? name = some p → p.Memoryless

variable {r r' : Registry} {log : List Invocation}

/-- Invocations leave memoryless processors what they are. -/
theorem Memoryless.of_follows (hr : r.Memoryless) (h : r.Follows r' log) : r'.Memoryless := by
  intro name p hp
  rw [h.custom] at hp
  rcases Option.map_eq_some_iff.mp hp with ⟨q, hq, rfl⟩
  exact (hr name q hq).used _

/-- After any invocations of memoryless processors every name stands for one that is alike. -/
theorem Memoryless.agreeOn (hr : r.Memoryless) (h : r.Follows r' log) (name : String) :
    r'.AgreeOn r name := by
  unfold AgreeOn find?
  rw [h.custom, h.builtin]
  cases hcustom : r.custom.find? name with
  | some p => exact .some ((hr name p hcustom).used_alike _)
  | none =>
      cases Builtin.ofName? name with
      | none => exact .none
      | some b => exact .some (.refl _)

end Registry

namespace State

/-! ## One template -/

/-- Neither producers nor processors remember anything. -/
structure Memoryless (s : State) : Prop where
  vars : s.vars.Stateless
  registry : s.engine.registry.Memoryless

/-- The failures that are counted while a template is rendered. -/
def failuresIn (s : State) (t : String) : Nat :=
  (s.invocationsFor? t).reduceOption.countP Invocation.failed

/-- The state with the cache of an engine that was just set up. -/
def fresh (s : State) (settings : CacheSettings) : State :=
  { s with engine := { s.engine with
      cache := if settings.enabled then some (Cache.new settings.capacity) else none } }

theorem fresh_sound (s : State) (settings : CacheSettings) : (s.fresh settings).Sound := by
  intro c hc
  unfold fresh at hc
  split at hc
  · cases hc
    exact Cache.new_sound _
  · cases hc

/-- What a rendering gives can be told from what resolving gives. -/
theorem render_fst_of_resolve {s s' : State} (hs : s.Sound) (hs' : s'.Sound) {t : String}
    (h : (s.resolve t).1 = (s'.resolve t).1) : (s.render t).1 = (s'.render t).1 := by
  rw [resolve_eq hs, resolve_eq hs'] at h
  unfold render
  dsimp only
  rw [tags_fst hs, tags_fst hs', h]
  split
  · rfl
  · rfl

/-- States that agree on the tags of a template render it alike, with as many failures. -/
theorem AgreeOn.render {s s' : State} (hs : s.Sound) (hs' : s'.Sound) {t : String}
    (h : s.AgreeOn s' (Template.tags t)) :
    (s.render t).1 = (s'.render t).1 ∧ s.failuresIn t = s'.failuresIn t := by
  rcases (h.tags t).resolveTags (fun _ hg => hg) with ⟨htexts, hcount, -⟩
  have hresolve : (s.resolve t).1 = (s'.resolve t).1 := by
    rw [resolve_eq hs, resolve_eq hs']
    exact htexts
  refine ⟨render_fst_of_resolve hs hs' hresolve, ?_⟩
  rw [failuresIn, failuresIn, invocationsFor?, invocationsFor?, tags_fst hs, tags_fst hs']
  exact hcount

/-- The cache has no part in what the names stand for. -/
theorem fresh_agreeOn (s : State) (settings : CacheSettings) (gs : List Tag) :
    (s.fresh settings).AgreeOn s gs :=
  AgreeOn.of_eq (fun _ _ => rfl) (fun _ _ _ _ => rfl)

/-- A template that is rendered without memory leaves a state without memory, and one that
agrees with the first state on every name. -/
theorem resolve_of_memoryless {s : State} (hs : s.Sound) (hm : s.Memoryless) (t : String) :
    (s.resolve t).2.Memoryless ∧ ∀ gs, (s.resolve t).2.AgreeOn s gs := by
  have hfollows := s.resolve_follows t
  have hvars : ∀ name, (s.resolve t).2.vars.find? name =
      (s.vars.find? name).map fun r => r.called (Tag.callsOf name (Template.tags t)) := by
    intro name
    rw [resolve_eq hs, find?_resolveTags]
    rfl
  constructor
  · constructor
    · intro name r hr
      rw [hvars] at hr
      rcases Option.map_eq_some_iff.mp hr with ⟨r', hr', rfl⟩
      exact (hm.vars name r' hr').called _
    · exact hm.registry.of_follows hfollows
  · intro gs
    constructor
    · intro g _
      unfold Replacements.meaning
      rw [hvars]
      cases hfind : s.vars.find? g.name with
      | none => exact .refl _
      | some r => exact (hm.vars g.name r hfind).called_alike _
    · intro g _ call _
      exact hm.registry.agreeOn hfollows call.name

/-! ## Batches -/

/-- Rendering a template counts the failures in it. -/
theorem failures_render (s : State) (t : String) :
    (s.render t).2.engine.registry.failures =
      s.engine.registry.failures + s.failuresIn t := by
  rw [render_snd]
  exact (s.resolve_follows t).failures

/-- The failures in some templates, each of them taken alone. -/
def failuresInAll (s : State) : List String → Nat
  | [] => 0
  | t :: ts => s.failuresIn t + s.failuresInAll ts

theorem failuresInAll_congr {s s' : State} (h : ∀ t, s.failuresIn t = s'.failuresIn t)
    (ts : List String) : s.failuresInAll ts = s'.failuresInAll ts := by
  induction ts with
  | nil => rfl
  | cons t ts ih => rw [failuresInAll, failuresInAll, h, ih]

theorem failuresInAll_perm {s : State} {ts ts' : List String} (h : ts.Perm ts') :
    s.failuresInAll ts = s.failuresInAll ts' := by
  induction h with
  | nil => rfl
  | cons t _ ih => rw [failuresInAll, failuresInAll, ih]
  | swap t t' ts => simp only [failuresInAll, Nat.add_left_comm]
  | trans _ _ ih ih' => rw [ih, ih']

/-- Without memory a batch gives what its templates give, each of them taken alone. -/
theorem renderAll_of_memoryless {s : State} (hs : s.Sound) (hm : s.Memoryless)
    (ts : List String) :
    (s.renderAll ts).1 = ts.map (fun t => (s.render t).1.text) ∧
    (s.renderAll ts).2.engine.registry.failures =
      s.engine.registry.failures + s.failuresInAll ts := by
  induction ts generalizing s with
  | nil => exact ⟨rfl, rfl⟩
  | cons t ts ih =>
      -- the others begin in a state that agrees with the first one on all that they name
      have hlater := resolve_of_memoryless hs hm t
      rw [← render_snd] at hlater
      have hsound : (s.render t).2.Sound := render_sound hs t
      rcases ih hsound hlater.1 with ⟨htexts, hfailures⟩
      have hsame : ∀ t', ((s.render t).2.render t').1 = (s.render t').1 ∧
          (s.render t).2.failuresIn t' = s.failuresIn t' :=
        fun t' => (hlater.2 (Template.tags t')).render hsound hs
      constructor
      · have hstep : (s.renderAll (t :: ts)).1 =
            (s.render t).1.text :: ((s.render t).2.renderAll ts).1 := rfl
        have hothers : ts.map (fun t' => ((s.render t).2.render t').1.text) =
            ts.map fun t' => (s.render t').1.text := by
          apply List.map_congr_left
          intro t' _
          rw [(hsame t').1]
        rw [hstep, htexts, hothers, List.map_cons]
      · have hstep : (s.renderAll (t :: ts)).2 = ((s.render t).2.renderAll ts).2 := rfl
        have hothers : (s.render t).2.failuresInAll ts = s.failuresInAll ts :=
          failuresInAll_congr (fun t' => (hsame t').2) ts
        rw [hstep, hfailures, hothers, failures_render, failuresInAll, Nat.add_assoc]

/-- **The order of a batch does not matter.** The engine holds a sound cache, as every session
leaves it, and neither producers nor processors remember anything. Then a batch gives one text
for each template, the text that an engine with an empty cache gives for this template alone.
Templates in another order give the same texts in that order, and as many failures. -/
theorem renderAll_in_any_order {s : State} (hs : s.Sound) (hm : s.Memoryless)
    (ts : List String) :
    (∀ settings, (s.renderAll ts).1 =
      ts.map fun t => ((s.fresh settings).render t).1.text) ∧
    ∀ σ : Equiv.Perm (Fin ts.length),
      let permuted := List.ofFn fun i => ts[σ i]
      (s.renderAll permuted).1.length = (s.renderAll ts).1.length ∧
      (∀ i : Fin ts.length, (s.renderAll permuted).1[i.val]? = (s.renderAll ts).1[(σ i).val]?) ∧
      (s.renderAll permuted).2.engine.registry.failures =
        (s.renderAll ts).2.engine.registry.failures := by
  -- a batch is its templates one by one, so both sides are lists over the same templates
  rcases renderAll_of_memoryless hs hm ts with ⟨htexts, hfailures⟩
  constructor
  · intro settings
    rw [htexts]
    apply List.map_congr_left
    intro t _
    rw [((s.fresh_agreeOn settings (Template.tags t)).render (s.fresh_sound settings) hs).1]
  · intro σ permuted
    rcases renderAll_of_memoryless hs hm permuted with ⟨htexts', hfailures'⟩
    have hlength : permuted.length = ts.length := List.length_ofFn
    have hperm : permuted.Perm ts := by
      have hofFn : List.ofFn (fun i : Fin ts.length => ts[i]) = ts := List.ofFn_getElem
      have hmove := Equiv.Perm.ofFn_comp_perm σ fun i : Fin ts.length => ts[i]
      rw [hofFn] at hmove
      exact hmove
    refine ⟨?_, ?_, ?_⟩
    · rw [htexts, htexts', List.length_map, List.length_map, hlength]
    · intro i
      have hmember : permuted[i.val]? = ts[(σ i).val]? := by
        simp [permuted]
      rw [htexts, htexts', List.getElem?_map, List.getElem?_map, hmember]
    · rw [hfailures, hfailures', failuresInAll_perm hperm]

/-- The cache has room for one template, so the second template of the batch throws the first
one out. The batch is turned by one place: the template that fails comes last, and is counted
as before. -/
theorem renderAll_in_any_order_turned :
    let strict : Processor := ⟨.fallible fun _ use =>
      if use.value = "!" then .error (.unwritable "bang") else .ok ("[" ++ use.value ++ "]"), []⟩
    let vars : Replacements := ⟨[("a", .literal "!"),
      ("b", .producer (fun _ args => args.elim "" (String.intercalate "-")) [])]⟩
    let s := (start { cache := { capacity := 1 } } ⟨0, 0, 0⟩ vars).after
      [.register "strict" strict]
    let a := "\x7b\x7ba|strict\x7d\x7d"
    let b := "\x7b\x7bb:é,x|strict\x7d\x7d"
    s.Sound ∧ s.Memoryless ∧
      (s.renderAll [a, b, a]).1 = ["!", "[é-x]", "!"] ∧
      (s.renderAll [b, a, a]).1[2]? = some "!" ∧
      (s.renderAll [b, a, a]).2.engine.registry.failures = 2 := by
  intro strict vars s a b
  have hs : s.Sound := after_sound (start_sound _ _ vars) _
  have hm : s.Memoryless := by
    constructor
    · intro name r hr
      rcases List.lookup_eq_some_iff.mp hr with ⟨front, back, hentries, -⟩
      have hmem : (name, r) ∈ s.vars.entries := hentries ▸ List.mem_append_cons_self
      rcases List.mem_cons.mp hmem with heq | hmem
      · cases heq
        trivial
      · cases List.mem_singleton.mp hmem
        exact fun _ _ _ => rfl
    · intro name p hp
      rcases List.lookup_eq_some_iff.mp hp with ⟨front, back, hentries, -⟩
      have hmem : (name, p) ∈ s.engine.registry.custom.entries :=
        hentries ▸ List.mem_append_cons_self
      cases List.mem_singleton.mp hmem
      exact fun _ _ => rfl
  have htexts : (s.renderAll [a, b, a]).1 = ["!", "[é-x]", "!"] := by decide +kernel
  have hcount : (s.renderAll [a, b, a]).2.engine.registry.failures = 2 := by decide +kernel
  have hbatch := (renderAll_in_any_order hs hm [a, b, a]).2 (finRotate 3)
  have hturned : (List.ofFn fun i : Fin 3 => [a, b, a][(finRotate 3) i]) = [b, a, a] := rfl
  dsimp only [List.length_cons, List.length_nil] at hbatch
  rw [hturned, htexts, hcount] at hbatch
  have hlast : (s.renderAll [b, a, a]).1[2]? = some "!" := hbatch.2.1 2
  exact ⟨hs, hm, htexts, hlast, hbatch.2.2⟩

end State

end Placeholder
