import Mathlib.Data.List.Nodup
import Placeholder.Proofs.Engine.Resolution

/-! # What the cache holds

A cache changes when the tags of a template are looked for, and at no other time.
`Cache.visit` is this change: nothing for a template without two opening braces or
one that is remembered, and else the template is added, to an empty cache if there is
no room.

Every operation visits the templates that it reads, one after another
(`perform_cache`), so what holds of a new cache and is kept by a visit holds in every
session. `Cache.Kept` is such an invariant; with it a cache never holds more than its
capacity and never the tags of another text (`cache_holds_tags_within_capacity`).
-/

namespace Placeholder

/-! ## Visits -/

namespace Cache

/-- The cache after the tags of a template were looked for. -/
def visit (c : Cache) (t : String) : Cache :=
  if Template.hasOpening t.toList = false ∨ (c.find? t).isSome then c
  else c.add t (Template.tags t)

theorem visit_of_no_opening {t : String} (c : Cache) (h : Template.hasOpening t.toList = false) :
    c.visit t = c :=
  if_pos (.inl h)

theorem visit_of_hit {c : Cache} {t : String} (h : (c.find? t).isSome) : c.visit t = c :=
  if_pos (.inr h)

theorem visit_of_miss {c : Cache} {t : String} (h : Template.hasOpening t.toList = true)
    (hmiss : c.find? t = none) : c.visit t = c.add t (Template.tags t) :=
  if_neg (by simp [h, hmiss])

/-- Below the capacity nothing is forgotten. -/
theorem entries_add_of_room {c : Cache} {t : String} (hmiss : c.find? t = none)
    (hroom : c.templates.size < c.capacity) (gs : List Tag) :
    (c.add t gs).templates.entries = c.templates.entries ++ [(t, gs)] := by
  unfold add
  dsimp only
  rw [if_neg (by omega)]
  exact Table.entries_insert_of_missing hmiss gs

/-- At the capacity everything else is forgotten. -/
theorem entries_add_of_full {c : Cache} (hfull : c.capacity ≤ c.templates.size) (t : String)
    (gs : List Tag) : (c.add t gs).templates.entries = [(t, gs)] := by
  unfold add
  dsimp only
  rw [if_pos hfull]
  rfl

theorem visit_capacity (c : Cache) (t : String) : (c.visit t).capacity = c.capacity := by
  unfold visit
  split <;> rfl

/-! ## The invariant -/

/-- A cache has room for a template, holds no more than it has room for, holds each
template once and only those with two opening braces, and each with its tags. -/
structure Kept (c : Cache) : Prop where
  room : 0 < c.capacity
  bounded : c.templates.size ≤ c.capacity
  distinct : (c.templates.entries.map Prod.fst).Nodup
  entries : ∀ entry ∈ c.templates.entries,
    Template.hasOpening entry.1.toList = true ∧ entry.2 = Template.tags entry.1

theorem new_kept (capacity : Nat) : (new capacity).Kept where
  room := Nat.lt_of_lt_of_le Nat.one_pos (Nat.le_max_right capacity 1)
  bounded := Nat.zero_le _
  distinct := List.nodup_nil
  entries := fun _ h => absurd h List.not_mem_nil

/-- What is kept of a cache when a template is added, in front of it. -/
theorem exists_front_add {c : Cache} {t : String} (hpos : 0 < c.capacity)
    (hmiss : c.find? t = none) (gs : List Tag) : ∃ front,
      front.Sublist c.templates.entries ∧ front.length < c.capacity ∧
      (c.add t gs).templates.entries = front ++ [(t, gs)] := by
  by_cases hroom : c.templates.size < c.capacity
  · exact ⟨c.templates.entries, List.Sublist.refl _, hroom, entries_add_of_room hmiss hroom gs⟩
  · exact ⟨[], List.nil_sublist _, hpos, entries_add_of_full (Nat.le_of_not_lt hroom) t gs⟩

theorem Kept.add {c : Cache} (hc : c.Kept) {t : String}
    (hopening : Template.hasOpening t.toList = true) (hmiss : c.find? t = none) :
    (c.add t (Template.tags t)).Kept := by
  rcases exists_front_add hc.room hmiss (Template.tags t) with ⟨front, hfront, hroom, hentries⟩
  refine ⟨hc.room, ?_, ?_, ?_⟩
  · rw [Table.size, hentries, List.length_append]
    exact hroom
  · -- the template is new, so it is none of those that are kept
    have hnew : t ∉ front.map Prod.fst := by
      intro hmem
      rcases List.mem_map.mp hmem with ⟨entry, hentry, rfl⟩
      simpa using List.lookup_eq_none_iff.mp hmiss entry (hfront.subset hentry)
    have hkept : (front.map Prod.fst).Nodup := hc.distinct.sublist (hfront.map Prod.fst)
    rw [hentries, List.map_append]
    exact hkept.append (List.nodup_singleton t) (by simpa using hnew)
  · rw [hentries]
    intro entry hentry
    rcases List.mem_append.mp hentry with hold | hlast
    · exact hc.entries entry (hfront.subset hold)
    · rw [List.mem_singleton.mp hlast]
      exact ⟨hopening, rfl⟩

theorem Kept.visit {c : Cache} (hc : c.Kept) (t : String) : (c.visit t).Kept := by
  unfold Cache.visit
  split
  · exact hc
  · next hadd =>
      rcases not_or.mp hadd with ⟨hopening, hmiss⟩
      exact hc.add (by simpa using hopening) (by simpa using hmiss)

theorem Kept.visits {c : Cache} (hc : c.Kept) (ts : List String) : (ts.foldl Cache.visit c).Kept := by
  induction ts generalizing c with
  | nil => exact hc
  | cons t ts ih => exact ih (hc.visit t)

theorem visits_capacity (c : Cache) (ts : List String) :
    (ts.foldl visit c).capacity = c.capacity := by
  induction ts generalizing c with
  | nil => rfl
  | cons t ts ih => exact (ih (c.visit t)).trans (visit_capacity c t)

theorem visits_of_no_opening (c : Cache) {ts : List String}
    (h : ∀ t ∈ ts, Template.hasOpening t.toList = false) : ts.foldl visit c = c := by
  induction ts with
  | nil => rfl
  | cons t ts ih =>
      rcases List.forall_mem_cons.mp h with ⟨ht, hts⟩
      rw [List.foldl_cons, visit_of_no_opening c ht]
      exact ih hts

/-- A cache with the invariant holds a template after a visit. -/
theorem Kept.find?_visit {c : Cache} (hc : c.Kept) {t : String}
    (h : Template.hasOpening t.toList = true) :
    (c.visit t).find? t = some (Template.tags t) := by
  cases hfind : c.find? t with
  | none =>
      rw [visit_of_miss h hfind]
      exact Table.find?_insert_self _ _ _
  | some gs =>
      rw [visit_of_hit (by rw [hfind]; rfl), hfind]
      rcases List.lookup_eq_some_iff.mp hfind with ⟨front, back, hentries, -⟩
      have hmem : (t, gs) ∈ c.templates.entries := hentries ▸ List.mem_append_cons_self
      exact congrArg some (hc.entries _ hmem).2

end Cache

/-! ## Operations -/

/-- The templates that an operation looks for tags in, in this order. -/
def Operation.templates : Operation → List String
  | .render t | .resolve t | .tags t => [t]
  | .renderAll ts => ts
  | _ => []

theorem Engine.tags_cache (e : Engine) (t : String) :
    (e.tags t).2.cache = e.cache.map (·.visit t) := by
  unfold Engine.tags
  split
  · next hopening =>
      -- without two opening braces the engine does not even look at its cache
      have hsame : (fun c : Cache => c.visit t) = id :=
        funext fun c => c.visit_of_no_opening (by simpa using hopening)
      rw [hsame, Option.map_id]
      rfl
  · next hopening =>
      split
      · next hcache => rw [hcache]; rfl
      · next c hcache =>
          rw [hcache, Option.map_some]
          split
          · next gs hfind =>
              rw [Cache.visit_of_hit (by rw [hfind]; rfl)]
              exact hcache
          · next hfind => rw [Cache.visit_of_miss (by simpa using hopening) hfind]

namespace State

theorem resolve_cache (s : State) (t : String) :
    (s.resolve t).2.engine.cache = s.engine.cache.map (·.visit t) :=
  (resolveTags_cache _ _).trans (Engine.tags_cache s.engine t)

theorem render_cache (s : State) (t : String) :
    (s.render t).2.engine.cache = s.engine.cache.map (·.visit t) := by
  rw [render_snd]
  exact resolve_cache s t

theorem renderAll_cache (s : State) (ts : List String) :
    (s.renderAll ts).2.engine.cache = s.engine.cache.map (ts.foldl Cache.visit ·) := by
  induction ts generalizing s with
  | nil => exact Option.map_id'.symm
  | cons t ts ih =>
      have hstep : (s.renderAll (t :: ts)).2 = ((s.render t).2.renderAll ts).2 := rfl
      rw [hstep, ih, render_cache, Option.map_map]
      rfl

/-- An operation visits its templates one after another, and changes the cache in no
other way. -/
theorem perform_cache (s : State) (op : Operation) :
    (s.perform op).2.engine.cache = s.engine.cache.map (op.templates.foldl Cache.visit ·) := by
  cases op with
  | render t => exact render_cache s t
  | renderAll ts => exact renderAll_cache s ts
  | resolve t => exact resolve_cache s t
  | tags t => exact Engine.tags_cache s.engine t
  | resolveTag g => exact (resolveTag_cache s g).trans Option.map_id'.symm
  | register name p => exact Option.map_id'.symm
  | apply name use =>
      unfold perform
      dsimp only
      split <;> exact Option.map_id'.symm
  | names => exact Option.map_id'.symm
  | contains name => exact Option.map_id'.symm
  | change revise => exact Option.map_id'.symm

theorem after_cache (s : State) (ops : List Operation) :
    (s.after ops).engine.cache =
      s.engine.cache.map ((ops.flatMap Operation.templates).foldl Cache.visit ·) := by
  induction ops generalizing s with
  | nil => exact Option.map_id'.symm
  | cons op ops ih =>
      have hstep : s.after (op :: ops) = (s.perform op).2.after ops := rfl
      rw [hstep, ih, perform_cache, Option.map_map, List.flatMap_cons]
      simp only [List.foldl_append]
      rfl

/-- An operation leaves the cache as looking for the tags of its templates does. -/
theorem perform_cache_eq_after (s : State) (op : Operation) :
    (s.perform op).2.engine.cache = (s.after (op.templates.map .tags)).engine.cache := by
  have hone : (op.templates.map Operation.tags).flatMap Operation.templates = op.templates := by
    rw [List.flatMap_map]
    exact List.flatMap_singleton' op.templates
  rw [perform_cache, after_cache s, hone]

/-- Without two opening braces in its templates an operation does not touch the cache. -/
theorem perform_cache_of_no_opening (s : State) {op : Operation}
    (hop : ∀ t ∈ op.templates, Template.hasOpening t.toList = false) :
    (s.perform op).2.engine.cache = s.engine.cache := by
  have hsame : (op.templates.foldl Cache.visit · : Cache → Cache) = id :=
    funext fun c => c.visits_of_no_opening hop
  rw [perform_cache, hsame, Option.map_id]
  rfl

/-- What a session makes of the cache it began with: nothing, if there was none, and else
a cache with the invariant. -/
theorem after_kept (config : Config) (now : Moment) (vars : Replacements)
    (ops : List Operation) :
    (config.cache.enabled = false →
      ((start config now vars).after ops).engine.cache = none) ∧
    (config.cache.enabled = true → ∃ c, ((start config now vars).after ops).engine.cache = some c ∧
      c.capacity = max config.cache.capacity 1 ∧ c.Kept) := by
  rw [after_cache]
  constructor
  · intro hdisabled
    have hstart : (start config now vars).engine.cache = none := if_neg (by simp [hdisabled])
    rw [hstart]
    rfl
  · intro henabled
    have hstart : (start config now vars).engine.cache =
        some (Cache.new config.cache.capacity) := if_pos henabled
    rw [hstart]
    exact ⟨_, rfl, Cache.visits_capacity _ _, (Cache.new_kept _).visits _⟩

/-- **The cache holds the tags of its templates, and never more templates than it has
room for.** In every session a disabled cache stays empty. An enabled one holds each
template once, with two opening braces in it and with its own tags, and there are never
more of them than the capacity, or one. Behind an operation on one template with two
opening braces the template is there: a template that was there changes nothing, below
the capacity a new one is added, and at the capacity it is the only one left. Every
operation changes the cache as looking for the tags of its templates one by one does,
and not at all if none of them has two opening braces. -/
theorem cache_holds_tags_within_capacity (config : Config) (now : Moment) (vars : Replacements)
    (ops : List Operation) :
    let s := (start config now vars).after ops
    let room := max config.cache.capacity 1
    (config.cache.enabled = false → s.engine.cachedTemplates = 0) ∧
    (config.cache.enabled = true → ∃ c, s.engine.cache = some c ∧
      (c.templates.entries.map Prod.fst).Nodup ∧
      (∀ entry ∈ c.templates.entries,
        ['\x7b', '\x7b'] <:+: entry.1.toList ∧ entry.2 = Template.tags entry.1) ∧
      s.engine.cachedTemplates = c.templates.entries.length ∧
      s.engine.cachedTemplates ≤ room ∧
      ∀ t, ['\x7b', '\x7b'] <:+: t.toList → ∀ op ∈ [.tags t, .resolve t, .render t], ∃ c',
        (s.perform op).2.engine.cache = some c' ∧
        c'.find? t = some (Template.tags t) ∧
        (c.find? t ≠ none → c' = c) ∧
        (c.find? t = none → s.engine.cachedTemplates < room →
          c'.templates.entries = c.templates.entries ++ [(t, Template.tags t)]) ∧
        (c.find? t = none → room ≤ s.engine.cachedTemplates →
          c'.templates.entries = [(t, Template.tags t)])) ∧
    (∀ op, (s.perform op).2.engine.cache =
      (s.after (op.templates.map .tags)).engine.cache) ∧
    ∀ op, (∀ t ∈ op.templates, ¬ ['\x7b', '\x7b'] <:+: t.toList) →
      (s.perform op).2.engine.cache = s.engine.cache := by
  intro s room
  -- the session as a whole keeps the invariant, and the rest is one visit more
  rcases after_kept config now vars ops with ⟨hdisabled, henabled⟩
  refine ⟨?_, ?_, ?_, ?_⟩
  · intro h
    rw [Engine.cachedTemplates, hdisabled h]
    rfl
  · intro h
    rcases henabled h with ⟨c, hcache, hcapacity, hkept⟩
    have hsize : s.engine.cachedTemplates = c.templates.size := by
      rw [Engine.cachedTemplates, hcache]
      rfl
    refine ⟨c, hcache, hkept.distinct, ?_, hsize, ?_, ?_⟩
    · intro entry hentry
      rcases hkept.entries entry hentry with ⟨hopening, htags⟩
      exact ⟨Template.hasOpening_iff.mp hopening, htags⟩
    · have hbounded : c.templates.size ≤ max config.cache.capacity 1 := hcapacity ▸ hkept.bounded
      rw [hsize]
      exact hbounded
    · intro t ht op hop
      have hopening : Template.hasOpening t.toList = true := Template.hasOpening_iff.mpr ht
      -- all three operations visit the template and no other
      have htemplates : op.templates = [t] := by
        simp only [List.mem_cons, List.not_mem_nil, or_false] at hop
        rcases hop with rfl | rfl | rfl <;> rfl
      refine ⟨c.visit t, ?_, hkept.find?_visit hopening, ?_, ?_, ?_⟩
      · rw [perform_cache, hcache, htemplates]
        rfl
      · intro hhit
        exact Cache.visit_of_hit (Option.isSome_iff_ne_none.mpr hhit)
      · intro hmiss hroom
        rw [Cache.visit_of_miss hopening hmiss]
        exact Cache.entries_add_of_room hmiss (by rw [hcapacity, ← hsize]; exact hroom) _
      · intro hmiss hfull
        rw [Cache.visit_of_miss hopening hmiss]
        exact Cache.entries_add_of_full (by rw [hcapacity, ← hsize]; exact hfull) t _
  · exact perform_cache_eq_after s
  · intro op hop
    apply perform_cache_of_no_opening
    intro t ht
    exact Bool.eq_false_iff.mpr fun h => hop t ht (Template.hasOpening_iff.mp h)

/-- With the capacity 0 there is room for one template, and the next one takes its
place. -/
theorem cache_holds_tags_within_capacity_zero :
    let s := (start { cache := { capacity := 0 } } ⟨0, 0, 0⟩ Table.empty).after
      [.tags "\x7b\x7ba\x7d\x7d"]
    let unused := (start { cache := { enabled := false } } ⟨0, 0, 0⟩ Table.empty).after
      [.tags "\x7b\x7ba\x7d\x7d"]
    s.engine.cachedTemplates = 1 ∧
      (∃ c, (s.perform (.render "\x7b\x7bb\x7d\x7d")).2.engine.cache = some c ∧
        c.templates.entries =
          [("\x7b\x7bb\x7d\x7d", Template.tags "\x7b\x7bb\x7d\x7d")]) ∧
      (s.perform (.renderAll ["a", "b"])).2.engine.cache = s.engine.cache ∧
      unused.engine.cachedTemplates = 0 := by
  intro s unused
  have hone : s.engine.cachedTemplates = 1 := rfl
  have hopening : ['\x7b', '\x7b'] <:+: "\x7b\x7bb\x7d\x7d".toList := ⟨[], ['b', '\x7d', '\x7d'], rfl⟩
  rcases cache_holds_tags_within_capacity { cache := { capacity := 0 } } ⟨0, 0, 0⟩ Table.empty
    [.tags "\x7b\x7ba\x7d\x7d"] with ⟨-, henabled, -, huntouched⟩
  rcases henabled rfl with ⟨c, hcache, -, -, -, -, hlook⟩
  have hmiss : c.find? "\x7b\x7bb\x7d\x7d" = none := by
    have heq : s.engine.cache = some c := hcache
    cases heq
    rfl
  rcases hlook _ hopening (.render "\x7b\x7bb\x7d\x7d") (by simp) with ⟨c', hc', -, -, -, hfull⟩
  refine ⟨hone, ⟨c', hc', hfull hmiss (Nat.le_of_eq hone.symm)⟩, huntouched _ ?_, ?_⟩
  · intro t ht
    rw [← Template.hasOpening_iff]
    revert t
    decide
  · exact (cache_holds_tags_within_capacity { cache := { enabled := false } } ⟨0, 0, 0⟩
      Table.empty [.tags "\x7b\x7ba\x7d\x7d"]).1 rfl

end State

end Placeholder
