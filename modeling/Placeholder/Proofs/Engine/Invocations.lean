import Mathlib.Data.List.ReduceOption
import Placeholder.Proofs.Engine.Resolution

/-! # Invocations

Every use that an engine makes of a processor is an invocation: the name that was asked for,
the processor that was found under it, as it was then, and the use. `State.invoked` lists the
invocations of an operation and `State.log` those of a session.

The lists are read off the states that an operation passes through, so what they say is
tied to what the operation does: `Registry.Follows` says that one registry comes from another
by just these invocations. Then the count of failures has grown by the number of those that
failed, and every registered processor remembers the uses that it was put to and no others.

* `Tag.resolves_invocation?`: which invocation a tag makes, and which text it gets from it.
* `resolveTags_follows`, `perform_follows`: a list of tags, an operation.
* `failures_count_failed_invocations`: sessions.
-/

namespace Placeholder

/-! ## Processors -/

namespace Processor

/-- What a use of a processor gives: whether it failed, and a text. One that cannot fail gives
its answer. One that can fail gives its answer or, when it fails, the value. -/
inductive Gives (p : Processor) (use : Use) : Bool → String → Prop
  | infallible {answer : List Use → Use → String} (h : p.behaviour = .infallible answer) :
      Gives p use false (answer p.uses use)
  | answered {answer : List Use → Use → Except Error String} {text : String}
      (h : p.behaviour = .fallible answer) (hanswer : answer p.uses use = .ok text) :
      Gives p use false text
  | failed {answer : List Use → Use → Except Error String} {e : Error}
      (h : p.behaviour = .fallible answer) (hanswer : answer p.uses use = .error e) :
      Gives p use true use.value

theorem run_gives (p : Processor) (use : Use) :
    p.Gives use (p.run use).failed (p.run use).text := by
  unfold run answer
  cases hbehaviour : p.behaviour with
  | infallible answer => exact .infallible hbehaviour
  | fallible answer =>
      dsimp only
      cases hanswer : answer p.uses use with
      | ok text => exact .answered hbehaviour hanswer
      | error e => exact .failed hbehaviour hanswer

/-- The text of a use is the answer of the processor, or the value if it fails. -/
theorem run_text (p : Processor) (use : Use) :
    (p.run use).text = (p.answer use).toOption.getD use.value := by
  unfold run
  dsimp only
  cases p.answer use with
  | ok text => rfl
  | error e => rfl

theorem run_failed (p : Processor) (use : Use) :
    (p.run use).failed = (p.answer use).toOption.isNone := by
  unfold run
  dsimp only
  cases p.answer use with
  | ok text => rfl
  | error e => rfl

theorem run_after (p : Processor) (use : Use) :
    (p.run use).after = { p with uses := use :: p.uses } := by
  unfold run
  dsimp only
  split <;> rfl

/-- A processor after further uses, the earliest one first. -/
def used (p : Processor) (later : List Use) : Processor :=
  { p with uses := later.reverse ++ p.uses }

@[simp] theorem used_nil (p : Processor) : p.used [] = p := rfl

theorem used_append (p : Processor) (later further : List Use) :
    p.used (later ++ further) = (p.used later).used further := by
  simp [used]

theorem run_after_eq_used (p : Processor) (use : Use) : (p.run use).after = p.used [use] :=
  run_after p use

end Processor

/-- One use of a processor by its name, with the processor as it was found. -/
structure Invocation where
  name : String
  processor : Processor
  use : Use

namespace Invocation

/-- Whether the processor failed. -/
def failed (i : Invocation) : Bool := (i.processor.run i.use).failed

/-- The text that the processor gave. -/
def text (i : Invocation) : String := (i.processor.run i.use).text

theorem gives (i : Invocation) : i.processor.Gives i.use i.failed i.text :=
  i.processor.run_gives i.use

/-- The uses of a name among some invocations. -/
def usesOf (name : String) (log : List Invocation) : List Use :=
  (log.filter fun i => i.name = name).map use

@[simp] theorem usesOf_nil (name : String) : usesOf name [] = [] := rfl

theorem usesOf_append (name : String) (log further : List Invocation) :
    usesOf name (log ++ further) = usesOf name log ++ usesOf name further := by
  simp [usesOf]

end Invocation

/-! ## Registries -/

namespace Registry

open Invocation (usesOf)

theorem apply_fst (r : Registry) (name : String) (use : Use) :
    (r.apply name use).map Prod.fst = (r.find? name).map fun p => (p.run use).text := by
  rw [apply, Option.map_map]
  rfl

/-- A use of a name leaves the processors registered under other names. -/
theorem custom_record_of_ne (r : Registry) {name other : String} (outcome : Processor.Outcome)
    (hne : other ≠ name) : (r.record name outcome).custom.find? other = r.custom.find? other := by
  unfold record
  dsimp only
  split
  · exact Table.find?_insert_of_ne _ _ hne
  · rfl

/-- A use of a name replaces the processor registered under it, if there is one. -/
theorem custom_record_self (r : Registry) (name : String) (outcome : Processor.Outcome) :
    (r.record name outcome).custom.find? name =
      (r.custom.find? name).map fun _ => outcome.after := by
  unfold record Table.contains
  dsimp only
  split
  · next hcustom =>
      rcases Option.isSome_iff_exists.mp hcustom with ⟨p, hp⟩
      rw [Table.find?_insert_self, hp]
      rfl
  · next hcustom =>
      rw [Option.not_isSome_iff_eq_none.mp hcustom]
      rfl

/-- After a use of a name the other names stand for what they stood for. -/
theorem find?_record_of_ne (r : Registry) {name other : String} (outcome : Processor.Outcome)
    (hne : other ≠ name) : (r.record name outcome).find? other = r.find? other := by
  unfold find?
  rw [custom_record_of_ne r outcome hne]
  rfl

/-- After a use of a name it stands for the processor with that use, if it is a
registered one, and else for the same processor. -/
theorem find?_record_self (r : Registry) (name : String) (outcome : Processor.Outcome) :
    (r.record name outcome).find? name =
      if r.custom.contains name then some outcome.after else r.find? name := by
  unfold find? Table.contains
  rw [custom_record_self]
  cases r.custom.find? name with
  | none => rfl
  | some p => rfl

/-- The invocation that a use of a name is, if there is a processor with this name. -/
def invoke? (r : Registry) (name : String) (use : Use) : Option Invocation :=
  (r.find? name).map fun p => ⟨name, p, use⟩

theorem mem_invoke?_iff {r : Registry} {name : String} {use : Use} {i : Invocation} :
    r.invoke? name use = some i ↔
      r.find? name = some i.processor ∧ i.name = name ∧ i.use = use := by
  unfold invoke?
  constructor
  · intro h
    rcases Option.map_eq_some_iff.mp h with ⟨p, hp, rfl⟩
    exact ⟨hp, rfl, rfl⟩
  · rintro ⟨hp, rfl, rfl⟩
    rw [hp]
    rfl

/-- The registry after an invocation. -/
def after (r : Registry) (i : Invocation) : Registry := r.record i.name (i.processor.run i.use)

theorem apply_eq_invoke? (r : Registry) (name : String) (use : Use) :
    r.apply name use = (r.invoke? name use).map fun i => (i.text, r.after i) := by
  rw [apply, invoke?, Option.map_map]
  rfl

/-- A registry comes from another one by some invocations: they were made of the processors
that their names stand for, the failures among them were counted, and every registered
processor was put to the uses of its name. Nothing else has changed. -/
structure Follows (r r' : Registry) (log : List Invocation) : Prop where
  found : ∀ i ∈ log, (r.find? i.name).map Processor.behaviour = some i.processor.behaviour
  config : r'.config = r.config
  now : r'.now = r.now
  failures : r'.failures = r.failures + log.countP Invocation.failed
  custom : ∀ name, r'.custom.find? name = (r.custom.find? name).map (·.used (usesOf name log))

theorem Follows.refl (r : Registry) : r.Follows r [] where
  found i hi := by cases hi
  config := rfl
  now := rfl
  failures := rfl
  custom name := by simp

/-- Invocations change no settings, so they leave the processors that are always there. -/
theorem Follows.builtin {r r' : Registry} {log : List Invocation} (h : r.Follows r' log) :
    r'.builtin = r.builtin := by
  funext b
  unfold Registry.builtin
  rw [h.config, h.now]

/-- Invocations leave what the names stand for, but for the uses that are remembered. -/
theorem Follows.find?_behaviour {r r' : Registry} {log : List Invocation} (h : r.Follows r' log)
    (name : String) :
    (r'.find? name).map Processor.behaviour = (r.find? name).map Processor.behaviour := by
  unfold find?
  rw [h.custom, h.builtin]
  cases r.custom.find? name with
  | none => rfl
  | some p => rfl

theorem Follows.trans {r r' r'' : Registry} {log further : List Invocation}
    (h : r.Follows r' log) (h' : r'.Follows r'' further) : r.Follows r'' (log ++ further) where
  found i hi := by
    rcases List.mem_append.mp hi with hi | hi
    · exact h.found i hi
    · rw [← h.find?_behaviour]
      exact h'.found i hi
  config := h'.config.trans h.config
  now := h'.now.trans h.now
  failures := by
    rw [h'.failures, h.failures, List.countP_append, Nat.add_assoc]
  custom name := by
    rw [h'.custom, h.custom, Option.map_map, Invocation.usesOf_append]
    exact congrArg (Option.map · _) (funext fun p => (p.used_append _ _).symm)

/-- The processor of an invocation remembers it, if it is a registered one. -/
theorem follows_after {r : Registry} {i : Invocation} (h : r.find? i.name = some i.processor) :
    r.Follows (r.after i) [i] where
  found j hj := by
    rw [List.mem_singleton.mp hj, h]
    rfl
  config := rfl
  now := rfl
  failures := by
    rw [List.countP_singleton]
    unfold after record Invocation.failed
    dsimp only
    split
    · rfl
    · rfl
  custom name := by
    unfold after
    by_cases hname : name = i.name
    · -- a registered processor is the one that was found, and it has one use more
      subst hname
      have huses : usesOf i.name [i] = [i.use] := by simp [usesOf]
      rw [custom_record_self, huses, Processor.run_after_eq_used]
      cases hcustom : r.custom.find? i.name with
      | none => rfl
      | some p =>
          have hfound : r.find? i.name = some p := by
            rw [find?, hcustom]
            rfl
          have hsame : p = i.processor := Option.some.inj (hfound.symm.trans h)
          rw [hsame]
          rfl
    · have huses : usesOf name [i] = [] := by
        have hne : i.name ≠ name := fun heq => hname heq.symm
        simp [usesOf, hne]
      rw [custom_record_of_ne r _ hname, huses]
      simp

end Registry

/-! ## One tag -/

namespace Tag

/-- The invocation that a tag makes when its name has a value: none without a value,
without a processor and for a processor that is not known. -/
def invocation? (g : Tag) (r : Registry) (value : String) : Option Invocation :=
  if value.isEmpty then none
  else g.processor.bind fun call => r.invoke? call.name ⟨value, call.args⟩

/-- How a tag is resolved when its name has a value: the invocation that it makes, if any,
and its text. -/
inductive Resolves (g : Tag) (r : Registry) (value : String) : Option Invocation → String → Prop
  /-- An empty value is not processed. -/
  | empty (hvalue : value = "") : Resolves g r value none ""
  /-- Without a processor the value stays as it is. -/
  | plain (hvalue : value ≠ "") (hprocessor : g.processor = none) : Resolves g r value none value
  /-- A processor that is not known leaves the value as it is. -/
  | unknown {call : Call} (hvalue : value ≠ "") (hprocessor : g.processor = some call)
      (hfind : r.find? call.name = none) : Resolves g r value none value
  /-- A processor that is known is used once, on the value and the arguments of the tag. -/
  | processed {call : Call} {p : Processor} {failed : Bool} {text : String} (hvalue : value ≠ "")
      (hprocessor : g.processor = some call) (hfind : r.find? call.name = some p)
      (hgives : p.Gives ⟨value, call.args⟩ failed text) :
      Resolves g r value (some ⟨call.name, p, ⟨value, call.args⟩⟩) text

theorem processed?_eq (g : Tag) (r : Registry) {value : String} (hvalue : value.isEmpty = false) :
    g.processed? r value = (g.invocation? r value).map fun i => (i.text, r.after i) := by
  unfold processed? invocation?
  rw [hvalue]
  cases g.processor with
  | none => rfl
  | some call => exact r.apply_eq_invoke? call.name _

theorem textFor_eq (g : Tag) (r : Registry) (value : String) :
    g.textFor r value = ((g.invocation? r value).map Invocation.text).getD value := by
  unfold textFor
  cases hvalue : value.isEmpty with
  | true =>
      have hempty : value = "" := String.isEmpty_iff.mp hvalue
      simp [invocation?, hempty]
  | false =>
      rw [processed?_eq g r hvalue, Option.map_map]
      rfl

theorem registryAfter_eq (g : Tag) (r : Registry) (value : String) :
    g.registryAfter r value = ((g.invocation? r value).map r.after).getD r := by
  unfold registryAfter
  cases hvalue : value.isEmpty with
  | true => simp [invocation?, hvalue]
  | false =>
      rw [processed?_eq g r hvalue, Option.map_map]
      rfl

/-- A tag makes the invocation and gets the text that the rules allow. -/
theorem resolves_invocation? (g : Tag) (r : Registry) (value : String) :
    g.Resolves r value (g.invocation? r value) (g.textFor r value) := by
  rw [textFor_eq]
  unfold invocation?
  cases hvalue : value.isEmpty with
  | true =>
      have hempty : value = "" := String.isEmpty_iff.mp hvalue
      rw [hempty]
      exact .empty rfl
  | false =>
      have hne : value ≠ "" := by
        intro hempty
        rw [hempty] at hvalue
        cases hvalue
      cases hprocessor : g.processor with
      | none => exact .plain hne hprocessor
      | some call =>
          dsimp only [Option.bind_some]
          unfold Registry.invoke?
          cases hfind : r.find? call.name with
          | none => exact .unknown hne hprocessor hfind
          | some p => exact .processed hne hprocessor hfind (p.run_gives _)

theorem find?_of_invocation? {g : Tag} {r : Registry} {value : String} {i : Invocation}
    (h : g.invocation? r value = some i) : r.find? i.name = some i.processor := by
  unfold invocation? at h
  split at h
  · cases h
  · rcases Option.bind_eq_some_iff.mp h with ⟨call, -, hinvoke⟩
    rcases Registry.mem_invoke?_iff.mp hinvoke with ⟨hfind, hname, -⟩
    rw [hname]
    exact hfind

theorem registryAfter_follows (g : Tag) (r : Registry) (value : String) :
    r.Follows (g.registryAfter r value) (g.invocation? r value).toList := by
  rw [registryAfter_eq]
  cases hinvocation : g.invocation? r value with
  | none => exact .refl r
  | some i => exact Registry.follows_after (find?_of_invocation? hinvocation)

end Tag

/-- The behaviour that an operation registers under a name. -/
def Operation.registered? (name : String) : Operation → Option Behaviour
  | .register other p => if other = name then some p.behaviour else none
  | _ => none

namespace State

/-! ## Lists of tags -/

/-- What each of some tags invokes when they are resolved one after another. -/
def invocations? (s : State) : List Tag → List (Option Invocation)
  | [] => []
  | g :: gs =>
      g.invocation? s.engine.registry (s.vars.evaluate g.name g.args).1 ::
        (s.resolveTag g).2.invocations? gs

theorem resolveTag_registry (s : State) (g : Tag) :
    (s.resolveTag g).2.engine.registry =
      g.registryAfter s.engine.registry (s.vars.evaluate g.name g.args).1 := by
  rw [resolveTag_eq]

theorem resolveTags_follows (s : State) (gs : List Tag) :
    s.engine.registry.Follows (s.resolveTags gs).2.engine.registry
      (s.invocations? gs).reduceOption := by
  induction gs generalizing s with
  | nil => exact .refl _
  | cons g gs ih =>
      have hfirst := g.registryAfter_follows s.engine.registry (s.vars.evaluate g.name g.args).1
      rw [← resolveTag_registry] at hfirst
      have hall := hfirst.trans (ih (s.resolveTag g).2)
      rw [← List.reduceOption_singleton, ← List.reduceOption_append] at hall
      exact hall

theorem invocations?_length (s : State) (gs : List Tag) :
    (s.invocations? gs).length = gs.length := by
  induction gs generalizing s with
  | nil => rfl
  | cons g gs ih => exact congrArg (· + 1) (ih (s.resolveTag g).2)

theorem invocations?_append (s : State) (gs later : List Tag) :
    s.invocations? (gs ++ later) =
      s.invocations? gs ++ (s.resolveTags gs).2.invocations? later := by
  induction gs generalizing s with
  | nil => rfl
  | cons g gs ih => exact congrArg (List.cons _) (ih (s.resolveTag g).2)

/-- A tag makes its invocation in the state that the tags in front of it leave. -/
theorem invocations?_getElem? (s : State) (front later : List Tag) (g : Tag) :
    (s.invocations? (front ++ g :: later))[front.length]? =
      some (g.invocation? (s.resolveTags front).2.engine.registry
        (s.vars.valueAfter (Tag.callsOf g.name front) g.name g.args)) := by
  have hvalue : ((s.resolveTags front).2.vars.evaluate g.name g.args).1 =
      s.vars.valueAfter (Tag.callsOf g.name front) g.name g.args := by
    rw [Replacements.evaluate_fst, find?_resolveTags, Option.map_map]
    rfl
  rw [invocations?_append, List.getElem?_append_right (by rw [invocations?_length]),
    invocations?_length, Nat.sub_self, ← hvalue]
  rfl

/-! ## Templates -/

/-- What each tag of a template invokes when they are resolved one after another. -/
def invocationsFor? (s : State) (t : String) : List (Option Invocation) :=
  (s.tags t).2.invocations? (s.tags t).1

/-- What templates invoke when they are rendered one after another. -/
def invokedByAll (s : State) : List String → List Invocation
  | [] => []
  | t :: ts => (s.invocationsFor? t).reduceOption ++ (s.render t).2.invokedByAll ts

theorem tags_registry (s : State) (t : String) :
    (s.tags t).2.engine.registry = s.engine.registry :=
  Engine.tags_registry s.engine t

theorem resolve_follows (s : State) (t : String) :
    s.engine.registry.Follows (s.resolve t).2.engine.registry
      (s.invocationsFor? t).reduceOption := by
  have h := resolveTags_follows (s.tags t).2 (s.tags t).1
  rw [tags_registry] at h
  exact h

theorem renderAll_follows (s : State) (ts : List String) :
    s.engine.registry.Follows (s.renderAll ts).2.engine.registry (s.invokedByAll ts) := by
  induction ts generalizing s with
  | nil => exact .refl _
  | cons t ts ih =>
      have hfirst := s.resolve_follows t
      rw [← render_snd] at hfirst
      exact hfirst.trans (ih (s.render t).2)

/-! ## Operations -/

/-- The invocations that an operation makes, in order. -/
def invoked (s : State) : Operation → List Invocation
  | .render t => (s.invocationsFor? t).reduceOption
  | .renderAll ts => s.invokedByAll ts
  | .resolve t => (s.invocationsFor? t).reduceOption
  | .resolveTag g =>
      (g.invocation? s.engine.registry (s.vars.evaluate g.name g.args).1).toList
  | .apply name use => (s.engine.registry.invoke? name use).toList
  | .tags _ => []
  | .register _ _ => []
  | .names => []
  | .contains _ => []
  | .change _ => []

/-- An operation that registers nothing changes the registry by its invocations alone. -/
theorem perform_follows (s : State) {op : Operation} (h : ∀ name p, op ≠ .register name p) :
    s.engine.registry.Follows (s.perform op).2.engine.registry (s.invoked op) := by
  cases op with
  | render t =>
      have hresolve := s.resolve_follows t
      rw [← render_snd] at hresolve
      exact hresolve
  | renderAll ts => exact s.renderAll_follows ts
  | resolve t => exact s.resolve_follows t
  | tags t =>
      have hsame : (s.perform (.tags t)).2.engine.registry = s.engine.registry :=
        s.tags_registry t
      rw [hsame]
      exact .refl _
  | resolveTag g =>
      have htag := g.registryAfter_follows s.engine.registry (s.vars.evaluate g.name g.args).1
      rw [← resolveTag_registry] at htag
      exact htag
  | register name p => exact absurd rfl (h name p)
  | apply name use =>
      unfold perform invoked
      dsimp only
      rw [Registry.apply_eq_invoke?]
      cases hinvoke : s.engine.registry.invoke? name use with
      | none => exact .refl _
      | some i =>
          rcases Registry.mem_invoke?_iff.mp hinvoke with ⟨hfind, hname, -⟩
          rw [← hname] at hfind
          exact Registry.follows_after hfind
  | names => exact .refl _
  | contains name => exact .refl _
  | change revise => exact .refl _

/-! ## Sessions -/

/-- The invocations that a session makes, in order. -/
def log (s : State) : List Operation → List Invocation
  | [] => []
  | op :: ops => s.invoked op ++ (s.perform op).2.log ops

theorem perform_failures (s : State) (op : Operation) :
    (s.perform op).2.engine.registry.failures =
      s.engine.registry.failures + (s.invoked op).countP Invocation.failed := by
  cases op with
  | register name p => rfl
  | _ => exact (s.perform_follows (by intro name p h; cases h)).failures

theorem after_failures (s : State) (ops : List Operation) :
    (s.after ops).engine.registry.failures =
      s.engine.registry.failures + (s.log ops).countP Invocation.failed := by
  induction ops generalizing s with
  | nil => rfl
  | cons op ops ih =>
      have hrest : (s.after (op :: ops)).engine.registry.failures = _ := ih (s.perform op).2
      rw [hrest, perform_failures, log, List.countP_append, Nat.add_assoc]

/-- The behaviour that was registered last under a name. -/
def lastRegistered? (name : String) (ops : List Operation) : Option Behaviour :=
  ops.reverse.findSome? (Operation.registered? name)

theorem perform_find?_behaviour (s : State) (op : Operation) (name : String) :
    ((s.perform op).2.engine.registry.find? name).map Processor.behaviour =
      (op.registered? name).or ((s.engine.registry.find? name).map Processor.behaviour) := by
  cases op with
  | register other p =>
      unfold perform withRegistry Registry.register Registry.find? Operation.registered?
      dsimp only
      by_cases hname : other = name
      · rw [if_pos hname, hname, Table.find?_insert_self]
        rfl
      · have hne : name ≠ other := fun heq => hname heq.symm
        rw [if_neg hname, Table.find?_insert_of_ne _ _ hne]
        rfl
  | _ => exact (s.perform_follows (by intro name p h; cases h)).find?_behaviour name

theorem after_find?_behaviour (s : State) (ops : List Operation) (name : String) :
    ((s.after ops).engine.registry.find? name).map Processor.behaviour =
      (lastRegistered? name ops).or ((s.engine.registry.find? name).map Processor.behaviour) := by
  induction ops generalizing s with
  | nil => rfl
  | cons op ops ih =>
      have hrest : ((s.after (op :: ops)).engine.registry.find? name).map Processor.behaviour = _ :=
        ih (s.perform op).2
      have hlast : lastRegistered? name (op :: ops) =
          (lastRegistered? name ops).or (op.registered? name) := by
        simp [lastRegistered?, List.findSome?_append]
      rw [hrest, perform_find?_behaviour, hlast, Option.or_assoc]

/-- An invocation is of a processor with the behaviour that its name stands for. -/
theorem found_of_mem_invoked {s : State} {op : Operation} {i : Invocation}
    (hi : i ∈ s.invoked op) :
    (s.engine.registry.find? i.name).map Processor.behaviour = some i.processor.behaviour := by
  cases op with
  | register name p => cases hi
  | _ => exact (s.perform_follows (by intro name p h; cases h)).found i hi

/-- Each tag of a template makes at most one invocation, in the registry that the
invocations of the tags in front of it lead to. -/
theorem invocationsFor?_getElem? {s : State} (hs : s.Sound) {t : String} {front later : List Tag}
    {g : Tag} (hsplit : Template.tags t = front ++ g :: later) :
    ∃ r invocation text,
      s.engine.registry.Follows r ((s.invocationsFor? t).take front.length).reduceOption ∧
      (s.invocationsFor? t)[front.length]? = some invocation ∧
      (s.resolve t).1[front.length]? = some ⟨g.raw, text⟩ ∧
      g.Resolves r (s.vars.valueAfter (Tag.callsOf g.name front) g.name g.args) invocation
        text := by
  let s' := (s.tags t).2
  have hinvocations : s.invocationsFor? t = s'.invocations? (front ++ g :: later) := by
    rw [invocationsFor?, tags_fst hs, hsplit]
  have hresolve : (s.resolve t).1 = (s'.resolveTags (front ++ g :: later)).1 := by
    rw [resolve_eq hs, hsplit]
  refine ⟨(s'.resolveTags front).2.engine.registry, _, _, ?_, ?_, ?_, g.resolves_invocation? _ _⟩
  · have hfollows := s'.resolveTags_follows front
    have htake : (s.invocationsFor? t).take front.length = s'.invocations? front := by
      rw [hinvocations, invocations?_append]
      exact List.take_left' (s'.invocations?_length front)
    rw [htake, ← tags_registry s t]
    exact hfollows
  · rw [hinvocations, invocations?_getElem?]
    rfl
  · rw [hresolve, resolveTags_getElem?, resolveTag_behind]
    rfl

theorem perform_apply_answer (s : State) (name : String) (use : Use) :
    (s.perform (.apply name use)).1 =
      .applied ((s.engine.registry.invoke? name use).map Invocation.text) := by
  unfold perform
  dsimp only
  rw [Registry.apply_eq_invoke?]
  cases s.engine.registry.invoke? name use with
  | none => rfl
  | some i => rfl

/-- **The count of failures is the number of invocations that failed.** In every session:

* the failures are those among the invocations made so far;
* a name stands for what was registered last under it, and else for what is always there,
  which can fail;
* an invocation is of a processor with the behaviour that its name stands for. If that can
  fail and does, the text is the value; one that cannot fail never does;
* an operation that registers nothing makes its invocations and changes nothing else;
* using a processor by its name is one invocation, if the name is known;
* a tag by itself, and each tag of a template that is rendered or resolved, makes one
  invocation if its value is not empty and its processor is known, and else none. -/
theorem failures_count_failed_invocations (config : Config) (now : Moment) (vars : Replacements)
    (ops : List Operation) :
    let first := start config now vars
    let s := first.after ops
    s.engine.registry.failures = (first.log ops).countP Invocation.failed ∧
    (∀ name, (s.engine.registry.find? name).map Processor.behaviour =
      (lastRegistered? name ops).or ((Builtin.ofName? name).map fun b =>
        .fallible fun _ use => b.run config now use.value use.args)) ∧
    (∀ op, ∀ i ∈ s.invoked op,
      (s.engine.registry.find? i.name).map Processor.behaviour = some i.processor.behaviour ∧
      i.processor.Gives i.use i.failed i.text) ∧
    (∀ op, (∀ name p, op ≠ .register name p) →
      s.engine.registry.Follows (s.perform op).2.engine.registry (s.invoked op)) ∧
    (∀ name use,
      s.invoked (.apply name use) = (s.engine.registry.invoke? name use).toList ∧
      (s.perform (.apply name use)).1 =
        .applied ((s.engine.registry.invoke? name use).map Invocation.text)) ∧
    (∀ g, ∃ invocation, s.invoked (.resolveTag g) = invocation.toList ∧
      g.Resolves s.engine.registry (s.vars.evaluate g.name g.args).1 invocation
        (s.resolveTag g).1) ∧
    ∀ t, ∃ each : List (Option Invocation),
      s.invoked (.render t) = each.reduceOption ∧
      s.invoked (.resolve t) = each.reduceOption ∧
      each.length = (Template.tags t).length ∧
      ∀ front g later, Template.tags t = front ++ g :: later → ∃ r invocation text,
        s.engine.registry.Follows r (each.take front.length).reduceOption ∧
        each[front.length]? = some invocation ∧
        (s.resolve t).1[front.length]? = some ⟨g.raw, text⟩ ∧
        g.Resolves r (s.vars.valueAfter (Tag.callsOf g.name front) g.name g.args) invocation
          text := by
  intro first s
  -- every state of a session has a sound cache, so its tags are those of the template
  have hsound : s.Sound := after_sound (start_sound config now vars) ops
  refine ⟨?_, ?_, ?_, ?_, ?_, ?_, ?_⟩
  · have hcount := after_failures first ops
    have hstart : first.engine.registry.failures = 0 := rfl
    rw [hstart, Nat.zero_add] at hcount
    exact hcount
  · intro name
    have hstart : (first.engine.registry.find? name).map Processor.behaviour =
        (Builtin.ofName? name).map fun b =>
          .fallible fun _ use => b.run config now use.value use.args := by
      unfold Registry.find?
      rw [Option.map_or, Option.map_map]
      rfl
    rw [← hstart]
    exact after_find?_behaviour first ops name
  · intro op i hi
    exact ⟨found_of_mem_invoked hi, i.gives⟩
  · intro op hop
    exact s.perform_follows hop
  · intro name use
    exact ⟨rfl, s.perform_apply_answer name use⟩
  · intro g
    refine ⟨_, rfl, ?_⟩
    rw [resolveTag_fst]
    exact g.resolves_invocation? _ _
  · intro t
    refine ⟨s.invocationsFor? t, rfl, rfl, ?_, ?_⟩
    · rw [invocationsFor?, invocations?_length, tags_fst hsound]
    · intro front g later hsplit
      exact invocationsFor?_getElem? hsound hsplit

/-- A processor that fails and one that cannot fail hide two of those that are always there.
The first is used twice by the template, and `currency` fails too; the empty value is not
processed, and the name `none` stands for nothing. -/
theorem failures_count_failed_invocations_hidden :
    let fails : Processor := ⟨.fallible fun _ use => .error (.notANumber use.value), []⟩
    let keeps : Processor := ⟨.infallible fun _ use => use.value, []⟩
    let ops : List Operation := [.register "number" fails, .register "date" keeps,
      .render ("\x7b\x7ba|number\x7d\x7d\x7b\x7ba|number\x7d\x7d\x7b\x7be|number\x7d\x7d" ++
        "\x7b\x7ba|date\x7d\x7d\x7b\x7ba|currency\x7d\x7d\x7b\x7ba|none\x7d\x7d")]
    let vars : Replacements := ⟨[("a", .literal "x")]⟩
    let s := (start {} ⟨0, 0, 0⟩ vars).after ops
    let op : Operation := .apply "number" ⟨"7", none⟩
    s.engine.registry.failures = 3 ∧
      (∀ name p, op ≠ .register name p) ∧
      (s.perform op).2.engine.registry.failures = 4 := by
  intro fails keeps ops vars s op
  have hop : ∀ name p, op ≠ .register name p := by
    intro name p
    exact Operation.noConfusion
  rcases failures_count_failed_invocations {} ⟨0, 0, 0⟩ vars ops with ⟨hcount, -, -, hfollows, -⟩
  have hlog : ((start {} ⟨0, 0, 0⟩ vars).log ops).countP Invocation.failed = 3 := by
    decide +kernel
  have hnext : (s.invoked op).countP Invocation.failed = 1 := by
    decide +kernel
  have hthree : s.engine.registry.failures = 3 := hcount.trans hlog
  refine ⟨hthree, hop, ?_⟩
  rw [(hfollows op hop).failures, hnext]
  exact congrArg (· + 1) hthree

end State

end Placeholder
