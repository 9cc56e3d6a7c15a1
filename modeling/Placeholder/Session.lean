import Placeholder.Engine

/-! # Sessions

A session is what the owner of an engine does with it: rendering, asking for tags,
registering and using processors, and changing what the names stand for in
between. Every operation gives an answer and the state for the next one. Operations
come one after the other; an engine used by several threads at once is not covered.

The clock stands still for a session: `now` and `today` name the moment with which
its engine was set up, however many operations lie in between.
-/

namespace Placeholder

/-- One operation of a session. -/
inductive Operation where
  | render (template : String)
  | renderAll (templates : List String)
  | resolve (template : String)
  | tags (template : String)
  /-- The text for one tag, which need not stand in a template. -/
  | resolveTag (tag : Tag)
  /-- Registers a processor, one that can fail or one that cannot. -/
  | register (name : String) (processor : Processor)
  /-- Uses a processor by its name. -/
  | apply (name : String) (use : Use)
  | names
  | contains (name : String)
  /-- Changes what the names stand for. -/
  | change (revise : Replacements → Replacements)

/-- What an operation gives. -/
inductive Answer where
  | rendered (result : Rendered)
  | texts (texts : List String)
  | resolved (tags : List Resolved)
  | tags (tags : List Tag)
  | text (text : String)
  | applied (text : Option String)
  | names (names : List String)
  | known (known : Bool)
  | done
deriving DecidableEq, Repr

namespace State

/-- The state of a session before the first operation. -/
def start (config : Config) (now : Moment) (vars : Replacements) : State :=
  ⟨Engine.new config now, vars⟩

/-- The state with other processors. -/
def withRegistry (s : State) (registry : Registry) : State :=
  { s with engine := { s.engine with registry := registry } }

/-- One operation. -/
def perform (s : State) : Operation → Answer × State
  | .render template =>
      let (result, s) := s.render template
      (.rendered result, s)
  | .renderAll templates =>
      let (texts, s) := s.renderAll templates
      (.texts texts, s)
  | .resolve template =>
      let (resolved, s) := s.resolve template
      (.resolved resolved, s)
  | .tags template =>
      let (tags, s) := s.tags template
      (.tags tags, s)
  | .resolveTag tag =>
      let (text, s) := s.resolveTag tag
      (.text text, s)
  | .register name processor =>
      (.done, s.withRegistry (s.engine.registry.register name processor))
  | .apply name use =>
      match s.engine.registry.apply name use with
      | some (text, registry) => (.applied (some text), s.withRegistry registry)
      | none => (.applied none, s)
  | .names => (.names s.engine.registry.names, s)
  | .contains name => (.known (s.engine.registry.contains name), s)
  | .change revise => (.done, { s with vars := revise s.vars })

/-- The answers of a session, each with the state behind it. -/
def run (s : State) : List Operation → List (Answer × State)
  | [] => []
  | op :: ops => s.perform op :: (s.perform op).2.run ops

/-- The state behind a session. -/
def after (s : State) : List Operation → State
  | [] => s
  | op :: ops => (s.perform op).2.after ops

/-- The states that a session can lead to. -/
def Reachable (s : State) : Prop :=
  ∃ config now vars ops, s = (start config now vars).after ops

end State

end Placeholder
