import Placeholder.Engine.Cache
import Placeholder.Registry
import Placeholder.Replacements

/-! # Engines

An engine renders templates: it finds the tags, asks for their values, has them
processed and puts the results in the place of the tags. It owns the processors
and, if it is set up so, a cache of the templates it has read.

Producers, processors, the count of failures and the cache change while a
template is rendered, so every operation takes the state it begins with, an
engine with the replacements, and returns the one it ends with.
-/

namespace Placeholder

/-- The processors and the cache. -/
structure Engine where
  registry : Registry
  cache : Option Cache

namespace Engine

/-- An engine with the settings of a configuration. -/
def new (config : Config) (now : Moment) : Engine where
  registry := Registry.new config now
  cache := if config.cache.enabled then some (Cache.new config.cache.capacity) else none

/-- The tags of a template. A text without two opening braces is not
remembered. -/
def tags (e : Engine) (template : String) : List Tag × Engine :=
  if !Template.hasOpening template.toList then ([], e)
  else
    match e.cache with
    | none => (Template.tags template, e)
    | some cache =>
        match cache.find? template with
        | some tags => (tags, e)
        | none =>
            let tags := Template.tags template
            (tags, { e with cache := some (cache.add template tags) })

/-- The number of templates that are remembered. -/
def cachedTemplates (e : Engine) : Nat := e.cache.elim 0 fun c => c.templates.size

end Engine

/-- An engine and the replacements it works with. -/
structure State where
  engine : Engine
  vars : Replacements

/-- A tag as it stands in the template, and the text for it. -/
structure Resolved where
  raw : String
  text : String
deriving DecidableEq, Repr

/-- The result of rendering a template. -/
inductive Rendered where
  /-- The template has no tags and is returned as it is. -/
  | untouched (template : String)
  /-- The tags of the template were replaced. -/
  | filled (text : String)
deriving DecidableEq, Repr

/-- The text of a result. -/
def Rendered.text : Rendered → String
  | .untouched template => template
  | .filled text => text

namespace State

/-- The value of a name for one tag. -/
def evaluate (s : State) (name : String) (args : Arguments) : String × State :=
  let (value, vars) := s.vars.evaluate name args
  (value, { s with vars := vars })

/-- A value after a processor. A value whose processor is not known stays as it
is. -/
def process (s : State) (call : Call) (value : String) : String × State :=
  match s.engine.registry.apply call.name ⟨value, call.args⟩ with
  | some (text, registry) => (text, { s with engine := { s.engine with registry := registry } })
  | none => (value, s)

/-- The text for one tag. An empty value is not processed. -/
def resolveTag (s : State) (tag : Tag) : String × State :=
  let (value, s) := s.evaluate tag.name tag.args
  if value.isEmpty then ("", s)
  else
    match tag.processor with
    | none => (value, s)
    | some call => s.process call value

/-- The texts for some tags, one after another. -/
def resolveTags (s : State) : List Tag → List Resolved × State
  | [] => ([], s)
  | tag :: tags =>
      let (text, s) := s.resolveTag tag
      let (rest, s) := s.resolveTags tags
      (⟨tag.raw, text⟩ :: rest, s)

/-- The tags of a template. -/
def tags (s : State) (template : String) : List Tag × State :=
  let (tags, engine) := s.engine.tags template
  (tags, { s with engine := engine })

/-- The texts for all tags of a template, in the order of the template. -/
def resolve (s : State) (template : String) : List Resolved × State :=
  let (tags, s) := s.tags template
  s.resolveTags tags

/-- A template with its tags replaced. Every tag is resolved; tags with the same
text in the template are all replaced by what the first one of them resolved
to. -/
def render (s : State) (template : String) : Rendered × State :=
  let (tags, s) := s.tags template
  if tags.isEmpty then (.untouched template, s)
  else
    let (resolved, s) := s.resolveTags tags
    let texts := resolved.map fun r => (r.raw, r.text)
    (.filled ((Template.fill? template tags texts).getD ""), s)

/-- Templates rendered one after another. -/
def renderAll (s : State) : List String → List String × State
  | [] => ([], s)
  | template :: templates =>
      let (rendered, s) := s.render template
      let (rest, s) := s.renderAll templates
      (rendered.text :: rest, s)

end State

end Placeholder
