import Placeholder.Proofs.Template.Scan
import Placeholder.Session

/-! # The cache cannot be observed

A cache is sound when it holds for every template the tags of that template. Every
operation keeps it so, whatever its capacity and whatever is registered or changed
in between (`perform_sound`).

The rest is a simulation by forgetting: `State.uncached` is a state without its
cache and its cache settings, and an operation on a sound state does on the
uncached state what it does on the state itself (`perform_uncached`). States that
differ in their caches alone have the same uncached state, so they cannot be told
apart by any session (`cache_is_unobservable`).
-/

namespace Placeholder

/-! ## Sound caches -/

namespace Cache

/-- A cache holds for every template the tags of that template. -/
def Sound (c : Cache) : Prop := ∀ t gs, c.find? t = some gs → gs = Template.tags t

theorem new_sound (capacity : Nat) : (new capacity).Sound := by
  intro t gs h
  cases h

/-- A template is added with its tags, after a clearing or not. -/
theorem add_sound {c : Cache} (hc : c.Sound) (t : String) : (c.add t (Template.tags t)).Sound := by
  intro t' gs h
  by_cases heq : t' = t
  · subst heq
    rw [add, find?, Table.find?_insert_self] at h
    exact (Option.some.inj h).symm
  · rw [add, find?, Table.find?_insert_of_ne _ _ heq] at h
    -- a full cache was cleared and has no other template, another kept what it had
    split at h
    · cases h
    · exact hc t' gs h

end Cache

namespace Engine

/-- The cache of an engine is sound, if it has one. -/
def Sound (e : Engine) : Prop := ∀ c, e.cache = some c → c.Sound

theorem new_sound (config : Config) (now : Moment) : (new config now).Sound := by
  intro c h
  unfold new at h
  split at h
  · cases h
    exact Cache.new_sound _
  · cases h

theorem tags_of_not_hasOpening {t : String} (h : Template.hasOpening t.toList = false) :
    Template.tags t = [] := by
  rw [Template.tags, h]
  rfl

/-- An engine with a sound cache finds the tags of the template. -/
theorem tags_fst {e : Engine} (he : e.Sound) (t : String) : (e.tags t).1 = Template.tags t := by
  unfold tags
  split
  · next h =>
      rw [tags_of_not_hasOpening (by simpa using h)]
  · split
    · rfl
    · next cache hcache =>
        split
        · next gs hfind => exact he cache hcache t gs hfind
        · rfl

/-- All that looking for tags can change is that a template that was missing is added
to the cache. -/
theorem tags_snd (e : Engine) (t : String) :
    (e.tags t).2 = e ∨
      ∃ c, e.cache = some c ∧
        (e.tags t).2 = { e with cache := some (c.add t (Template.tags t)) } := by
  unfold tags
  split
  · exact .inl rfl
  · split
    · exact .inl rfl
    · next cache hcache =>
        split
        · exact .inl rfl
        · exact .inr ⟨cache, hcache, rfl⟩

theorem tags_sound {e : Engine} (he : e.Sound) (t : String) : (e.tags t).2.Sound := by
  rcases tags_snd e t with h | ⟨cache, hcache, h⟩
  · rw [h]
    exact he
  · have hadd : (cache.add t (Template.tags t)).Sound := Cache.add_sound (he cache hcache) t
    rw [h]
    intro c hc
    cases hc
    exact hadd

@[simp] theorem tags_registry (e : Engine) (t : String) :
    (e.tags t).2.registry = e.registry := by
  rcases tags_snd e t with h | ⟨cache, -, h⟩
  · rw [h]
  · rw [h]

end Engine

/-! ## Operations keep the cache sound -/

namespace State

/-- The cache of the engine is sound. -/
def Sound (s : State) : Prop := s.engine.Sound

theorem Sound.of_cache_eq {s s' : State} (hs : s.Sound)
    (h : s'.engine.cache = s.engine.cache) : s'.Sound := by
  intro c hc
  exact hs c (h ▸ hc)

theorem process_cache (s : State) (call : Call) (value : String) :
    (s.process call value).2.engine.cache = s.engine.cache := by
  unfold process
  split <;> rfl

theorem resolveTag_cache (s : State) (g : Tag) :
    (s.resolveTag g).2.engine.cache = s.engine.cache := by
  unfold resolveTag
  dsimp only
  split
  · rfl
  · split
    · rfl
    · exact process_cache _ _ _

theorem resolveTags_cache (s : State) (gs : List Tag) :
    (s.resolveTags gs).2.engine.cache = s.engine.cache := by
  induction gs generalizing s with
  | nil => rfl
  | cons g gs ih => exact (ih _).trans (resolveTag_cache s g)

theorem tags_fst {s : State} (hs : s.Sound) (t : String) : (s.tags t).1 = Template.tags t :=
  Engine.tags_fst hs t

theorem tags_sound {s : State} (hs : s.Sound) (t : String) : (s.tags t).2.Sound :=
  Engine.tags_sound hs t

theorem resolve_sound {s : State} (hs : s.Sound) (t : String) : (s.resolve t).2.Sound :=
  (tags_sound hs t).of_cache_eq (resolveTags_cache _ _)

theorem render_sound {s : State} (hs : s.Sound) (t : String) : (s.render t).2.Sound := by
  unfold render
  dsimp only
  split
  · exact tags_sound hs t
  · exact resolve_sound hs t

theorem renderAll_sound {s : State} (hs : s.Sound) (ts : List String) :
    (s.renderAll ts).2.Sound := by
  induction ts generalizing s with
  | nil => exact hs
  | cons t ts ih => exact ih (render_sound hs t)

/-- One operation keeps the cache sound. -/
theorem perform_sound {s : State} (hs : s.Sound) (op : Operation) : (s.perform op).2.Sound := by
  cases op with
  | render t => exact render_sound hs t
  | renderAll ts => exact renderAll_sound hs ts
  | resolve t => exact resolve_sound hs t
  | tags t => exact tags_sound hs t
  | resolveTag g => exact hs.of_cache_eq (resolveTag_cache s g)
  | register name p => exact hs
  | apply name use =>
      unfold perform
      dsimp only
      split <;> exact hs
  | names => exact hs
  | contains name => exact hs
  | change revise => exact hs

theorem after_sound {s : State} (hs : s.Sound) (ops : List Operation) : (s.after ops).Sound := by
  induction ops generalizing s with
  | nil => exact hs
  | cons op ops ih => exact ih (perform_sound hs op)

theorem start_sound (config : Config) (now : Moment) (vars : Replacements) :
    (start config now vars).Sound :=
  Engine.new_sound config now

theorem Reachable.sound {s : State} (hs : s.Reachable) : s.Sound := by
  rcases hs with ⟨config, now, vars, ops, rfl⟩
  exact after_sound (start_sound config now vars) ops

end State

/-! ## Forgetting the cache -/

namespace Registry

/-- The registry with the default settings for the cache, which it does not use. -/
def uncached (r : Registry) : Registry := { r with config := { r.config with cache := {} } }

/-- No processor reads the settings of the cache. -/
theorem builtin_uncached (r : Registry) (b : Builtin) : r.uncached.builtin b = r.builtin b := by
  cases b <;> rfl

theorem find?_uncached (r : Registry) (name : String) : r.uncached.find? name = r.find? name := by
  have hbuiltin : r.uncached.builtin = r.builtin := funext (builtin_uncached r)
  rw [find?, find?, hbuiltin]
  rfl

theorem listing_uncached (r : Registry) : r.uncached.listing = r.listing := by
  have hbuiltin : r.uncached.builtin = r.builtin := funext (builtin_uncached r)
  rw [listing, listing, hbuiltin]
  rfl

theorem names_uncached (r : Registry) : r.uncached.names = r.names :=
  congrArg (List.map Prod.fst) (listing_uncached r)

theorem apply_uncached (r : Registry) (name : String) (use : Use) :
    r.uncached.apply name use = (r.apply name use).map (Prod.map id uncached) := by
  rw [apply, apply, find?_uncached, Option.map_map]
  rfl

end Registry

namespace State

/-- The state without its cache and the settings for it: everything else that a
later answer can depend on. -/
def uncached (s : State) : State where
  engine := { registry := s.engine.registry.uncached, cache := none }
  vars := s.vars

theorem start_uncached (config : Config) (k : CacheSettings) (now : Moment)
    (vars : Replacements) :
    (start { config with cache := k } now vars).uncached =
      ⟨⟨Registry.new { config with cache := {} } now, none⟩, vars⟩ := rfl

theorem process_uncached (s : State) (call : Call) (value : String) :
    s.uncached.process call value = Prod.map id uncached (s.process call value) := by
  have happly : s.uncached.engine.registry.apply call.name ⟨value, call.args⟩ = _ :=
    Registry.apply_uncached s.engine.registry call.name ⟨value, call.args⟩
  unfold process
  rw [happly]
  cases s.engine.registry.apply call.name ⟨value, call.args⟩ with
  | none => rfl
  | some result => rfl

theorem resolveTag_uncached (s : State) (g : Tag) :
    s.uncached.resolveTag g = Prod.map id uncached (s.resolveTag g) := by
  have hvalue : s.uncached.evaluate g.name g.args =
      Prod.map id uncached (s.evaluate g.name g.args) := rfl
  unfold resolveTag
  rw [hvalue]
  dsimp only [Prod.map, id]
  split
  · rfl
  · split
    · rfl
    · exact process_uncached _ _ _

theorem resolveTags_uncached (s : State) (gs : List Tag) :
    s.uncached.resolveTags gs = Prod.map id uncached (s.resolveTags gs) := by
  induction gs generalizing s with
  | nil => rfl
  | cons g gs ih =>
      unfold resolveTags
      rw [resolveTag_uncached]
      dsimp only [Prod.map, id]
      rw [ih]
      rfl

/-- Without a cache the tags are read anew, with the same result. -/
theorem tags_uncached {s : State} (hs : s.Sound) (t : String) :
    s.uncached.tags t = Prod.map id uncached (s.tags t) := by
  have hunread : s.uncached.engine.tags t = (Template.tags t, s.uncached.engine) := by
    unfold Engine.tags
    split
    · next h =>
        rw [Engine.tags_of_not_hasOpening (by simpa using h)]
    · rfl
  have hstate : (s.tags t).2.uncached = s.uncached := by
    unfold uncached
    rw [show (s.tags t).2.engine.registry = s.engine.registry from Engine.tags_registry _ t]
    rfl
  refine Prod.ext ?_ ?_
  · rw [tags, hunread]
    exact (tags_fst hs t).symm
  · rw [tags, hunread]
    exact hstate.symm

theorem resolve_uncached {s : State} (hs : s.Sound) (t : String) :
    s.uncached.resolve t = Prod.map id uncached (s.resolve t) := by
  unfold resolve
  rw [tags_uncached hs]
  exact resolveTags_uncached _ _

theorem render_uncached {s : State} (hs : s.Sound) (t : String) :
    s.uncached.render t = Prod.map id uncached (s.render t) := by
  unfold render
  rw [tags_uncached hs]
  dsimp only [Prod.map, id]
  split
  · rfl
  · rw [resolveTags_uncached]
    rfl

theorem renderAll_uncached {s : State} (hs : s.Sound) (ts : List String) :
    s.uncached.renderAll ts = Prod.map id uncached (s.renderAll ts) := by
  induction ts generalizing s with
  | nil => rfl
  | cons t ts ih =>
      unfold renderAll
      rw [render_uncached hs]
      dsimp only [Prod.map, id]
      rw [ih (render_sound hs t)]
      rfl

/-- One operation does on the uncached state what it does on the state. -/
theorem perform_uncached {s : State} (hs : s.Sound) (op : Operation) :
    s.uncached.perform op = Prod.map id uncached (s.perform op) := by
  cases op with
  | render t => exact congrArg (Prod.map Answer.rendered id) (render_uncached hs t)
  | renderAll ts => exact congrArg (Prod.map Answer.texts id) (renderAll_uncached hs ts)
  | resolve t => exact congrArg (Prod.map Answer.resolved id) (resolve_uncached hs t)
  | tags t => exact congrArg (Prod.map Answer.tags id) (tags_uncached hs t)
  | resolveTag g => exact congrArg (Prod.map Answer.text id) (resolveTag_uncached s g)
  | register name p => rfl
  | apply name use =>
      have happly : s.uncached.engine.registry.apply name use = _ :=
        Registry.apply_uncached s.engine.registry name use
      unfold perform
      dsimp only
      rw [happly]
      cases s.engine.registry.apply name use with
      | none => rfl
      | some result => rfl
  | names =>
      exact congrArg (fun names => (Answer.names names, s.uncached))
        (Registry.names_uncached s.engine.registry)
  | contains name => rfl
  | change revise => rfl

theorem run_uncached {s : State} (hs : s.Sound) (ops : List Operation) :
    s.uncached.run ops = (s.run ops).map (Prod.map id uncached) := by
  induction ops generalizing s with
  | nil => rfl
  | cons op ops ih =>
      have hrest : (s.perform op).2.uncached.run ops =
          ((s.perform op).2.run ops).map (Prod.map id uncached) := ih (perform_sound hs op)
      rw [run, run, perform_uncached hs, List.map_cons]
      exact congrArg _ hrest

/-! ## Two engines -/

/-- What can be seen of a step: its answer, the count of failures, what the names
stand for, with the calls made of producers, and the registered processors, with
the uses made of them. -/
def observe (step : Answer × State) : Answer × Nat × Replacements × Table Processor :=
  (step.1, step.2.engine.registry.failures, step.2.vars, step.2.engine.registry.custom)

theorem observe_uncached (step : Answer × State) :
    observe (Prod.map id uncached step) = observe step := rfl

/-- What can be seen of a session is what can be seen of it without a cache. -/
theorem map_observe_run {s : State} (hs : s.Sound) (ops : List Operation) :
    (s.run ops).map observe = (s.uncached.run ops).map observe := by
  rw [run_uncached hs, List.map_map]
  apply List.map_congr_left
  intro step _
  exact (observe_uncached step).symm

/-- **The cache cannot be observed.** Two engines with the same configuration but for
the cache give the same answers in every session, and after every step they agree
in the failures, the producers and the processors. Whatever the cache holds by
then, the tags of a template are those that the plain scan finds. -/
theorem cache_is_unobservable (config : Config) (k k' : CacheSettings) (now : Moment)
    (vars : Replacements) (ops : List Operation) :
    ((start { config with cache := k } now vars).run ops).map observe =
      ((start { config with cache := k' } now vars).run ops).map observe ∧
    ∀ t, (((start { config with cache := k } now vars).after ops).tags t).1 =
      Template.scan 0 t.toList := by
  constructor
  · -- both sessions are seen as the session without a cache, and that is the same one
    rw [map_observe_run (start_sound _ now vars), map_observe_run (start_sound _ now vars),
      start_uncached, start_uncached]
  · intro t
    have hsound := after_sound (start_sound { config with cache := k } now vars) ops
    rw [tags_fst hsound, Template.tags_eq_scan]

end State

end Placeholder
