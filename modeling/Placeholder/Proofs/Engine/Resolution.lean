import Placeholder.Proofs.Engine.Cache

/-! # Resolving tags

Tags are resolved one after another. Each of them has what its name stands for
evaluated once, whether tags with this name came before or not, and the value goes
through its processor.

Producers remember the calls made of them, so the count and the order of the
evaluations can be read off the state: `Replacement.called` is what a name stands
for after some calls, and `Tag.callsOf` lists the calls that a list of tags makes
of a name.

* `resolveTag_eq`: all that resolving one tag does.
* `resolveTags_getElem?`: a tag is resolved in the state that the tags in front of it
  leave.
* `find?_resolveTags`: every producer is called once for each tag with its name, in
  the order of the tags.
-/

namespace Placeholder

/-! ## Values -/

namespace Replacement

/-- What a name stands for after calls with these arguments, the earliest one
first. -/
def called : Replacement → List Arguments → Replacement
  | .literal text, _ => .literal text
  | .producer answer calls, later => .producer answer (later.reverse ++ calls)

theorem called_nil (r : Replacement) : r.called [] = r := by
  cases r <;> rfl

/-- An evaluation is one call. -/
theorem called_cons (r : Replacement) (args : Arguments) (later : List Arguments) :
    r.called (args :: later) = (r.evaluate args).2.called later := by
  cases r with
  | literal text => rfl
  | producer answer calls => simp [called, evaluate]

end Replacement

namespace Replacements

theorem evaluate_of_find? {vars : Replacements} {name : String} {r : Replacement}
    (h : vars.find? name = some r) (args : Arguments) :
    vars.evaluate name args = ((r.evaluate args).1, vars.insert name (r.evaluate args).2) := by
  rw [evaluate, h]

theorem evaluate_of_missing {vars : Replacements} {name : String} (h : vars.find? name = none)
    (args : Arguments) : vars.evaluate name args = ("", vars) := by
  rw [evaluate, h]

theorem evaluate_fst (vars : Replacements) (name : String) (args : Arguments) :
    (vars.evaluate name args).1 = ((vars.find? name).map fun r => (r.evaluate args).1).getD "" := by
  cases h : vars.find? name with
  | none => rw [evaluate_of_missing h]; rfl
  | some r => rw [evaluate_of_find? h]; rfl

/-- An evaluation changes what its own name stands for and nothing else. -/
theorem find?_evaluate (vars : Replacements) (name other : String) (args : Arguments) :
    (vars.evaluate name args).2.find? other =
      if other = name then (vars.find? other).map fun r => (r.evaluate args).2
      else vars.find? other := by
  cases h : vars.find? name with
  | none =>
      rw [evaluate_of_missing h]
      split
      · next heq => rw [heq, h]; rfl
      · rfl
  | some r =>
      rw [evaluate_of_find? h]
      split
      · next heq => rw [heq, Table.find?_insert_self, h]; rfl
      · next hne => exact Table.find?_insert_of_ne _ _ hne

/-- The value of a name for some arguments, after calls of it with others. -/
def valueAfter (vars : Replacements) (calls : List Arguments) (name : String)
    (args : Arguments) : String :=
  ((vars.find? name).map fun r => ((r.called calls).evaluate args).1).getD ""

end Replacements

namespace Tag

/-- The arguments of the tags with a name, in the order of the tags. -/
def callsOf (name : String) (gs : List Tag) : List Arguments :=
  (gs.filter fun g => g.name = name).map Tag.args

/-- What the processor of a tag makes of a value, and the registry behind it; nothing,
if there is no processor or it is not known. -/
def processed? (g : Tag) (r : Registry) (value : String) : Option (String × Registry) :=
  g.processor.bind fun call => r.apply call.name ⟨value, call.args⟩

/-- The text for a tag whose name has a value. An empty value is not processed, and a
value that cannot be processed stays as it is. -/
def textFor (g : Tag) (r : Registry) (value : String) : String :=
  if value.isEmpty then "" else ((g.processed? r value).map Prod.fst).getD value

/-- The registry behind a tag whose name has a value. -/
def registryAfter (g : Tag) (r : Registry) (value : String) : Registry :=
  if value.isEmpty then r else ((g.processed? r value).map Prod.snd).getD r

end Tag

/-! ## One tag -/

namespace State

/-- A tag makes one evaluation, and its value is processed in the registry as it is
then. -/
theorem resolveTag_eq (s : State) (g : Tag) :
    s.resolveTag g =
      (g.textFor s.engine.registry (s.vars.evaluate g.name g.args).1,
        { engine := { s.engine with
            registry := g.registryAfter s.engine.registry (s.vars.evaluate g.name g.args).1 }
          vars := (s.vars.evaluate g.name g.args).2 }) := by
  unfold resolveTag Tag.textFor Tag.registryAfter Tag.processed?
  dsimp only [evaluate]
  split
  · rfl
  · cases g.processor with
    | none => rfl
    | some call =>
        dsimp only [process, Option.bind_some]
        cases s.engine.registry.apply call.name ⟨(s.vars.evaluate g.name g.args).1, call.args⟩ with
        | none => rfl
        | some result => rfl

theorem resolveTag_fst (s : State) (g : Tag) :
    (s.resolveTag g).1 = g.textFor s.engine.registry (s.vars.evaluate g.name g.args).1 := by
  rw [resolveTag_eq]

theorem resolveTag_vars (s : State) (g : Tag) :
    (s.resolveTag g).2.vars = (s.vars.evaluate g.name g.args).2 := by
  rw [resolveTag_eq]

/-! ## Lists of tags -/

theorem resolveTags_append_fst (s : State) (gs later : List Tag) :
    (s.resolveTags (gs ++ later)).1 =
      (s.resolveTags gs).1 ++ ((s.resolveTags gs).2.resolveTags later).1 := by
  induction gs generalizing s with
  | nil => rfl
  | cons g gs ih => exact congrArg (List.cons _) (ih (s.resolveTag g).2)

/-- There is one result for each tag, under its raw text. -/
theorem resolveTags_raw (s : State) (gs : List Tag) :
    (s.resolveTags gs).1.map Resolved.raw = gs.map Tag.raw := by
  induction gs generalizing s with
  | nil => rfl
  | cons g gs ih => exact congrArg (List.cons g.raw) (ih (s.resolveTag g).2)

theorem resolveTags_length (s : State) (gs : List Tag) :
    (s.resolveTags gs).1.length = gs.length := by
  simpa using congrArg List.length (resolveTags_raw s gs)

/-- A tag is resolved in the state that the tags in front of it leave. -/
theorem resolveTags_getElem? (s : State) (front later : List Tag) (g : Tag) :
    (s.resolveTags (front ++ g :: later)).1[front.length]? =
      some ⟨g.raw, ((s.resolveTags front).2.resolveTag g).1⟩ := by
  rw [resolveTags_append_fst, List.getElem?_append_right (by rw [resolveTags_length]),
    resolveTags_length, Nat.sub_self]
  rfl

/-- What a name stands for was called once for each tag with this name, in the order of
the tags. -/
theorem find?_resolveTags (s : State) (gs : List Tag) (name : String) :
    (s.resolveTags gs).2.vars.find? name =
      (s.vars.find? name).map fun r => r.called (Tag.callsOf name gs) := by
  induction gs generalizing s with
  | nil =>
      have hsame : (fun r : Replacement => r.called (Tag.callsOf name [])) = id :=
        funext Replacement.called_nil
      rw [hsame, Option.map_id]
      rfl
  | cons g gs ih =>
      have hstep : (s.resolveTags (g :: gs)).2 = ((s.resolveTag g).2.resolveTags gs).2 := rfl
      rw [hstep, ih, resolveTag_vars, Replacements.find?_evaluate]
      -- the first tag makes the first of the calls, if it has this name
      by_cases hname : name = g.name
      · have hcalls : Tag.callsOf name (g :: gs) = g.args :: Tag.callsOf name gs := by
          simp [Tag.callsOf, hname]
        rw [if_pos hname, hcalls, Option.map_map]
        exact congrArg (Option.map · _) (funext fun r => (r.called_cons _ _).symm)
      · have hcalls : Tag.callsOf name (g :: gs) = Tag.callsOf name gs := by
          have hne : g.name ≠ name := fun h => hname h.symm
          simp [Tag.callsOf, hne]
        rw [if_neg hname, hcalls]

/-- The text for a tag behind others depends on them through the calls that they make of
its name and through the uses that they make of the processors. -/
theorem resolveTag_behind (s : State) (front : List Tag) (g : Tag) :
    ((s.resolveTags front).2.resolveTag g).1 =
      g.textFor (s.resolveTags front).2.engine.registry
        (s.vars.valueAfter (Tag.callsOf g.name front) g.name g.args) := by
  rw [resolveTag_fst, Replacements.evaluate_fst, find?_resolveTags, Option.map_map]
  rfl

/-! ## Templates -/

/-- A template is resolved tag by tag. -/
theorem resolve_eq {s : State} (hs : s.Sound) (t : String) :
    s.resolve t = (s.tags t).2.resolveTags (Template.tags t) := by
  unfold resolve
  dsimp only
  rw [tags_fst hs]

/-- Rendering leaves the state that resolving leaves. -/
theorem render_snd (s : State) (t : String) : (s.render t).2 = (s.resolve t).2 := by
  unfold render resolve
  dsimp only
  split
  · next hempty => rw [List.isEmpty_iff.mp hempty]; rfl
  · rfl

end State

end Placeholder
