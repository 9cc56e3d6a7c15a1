import Placeholder.Engine
import Placeholder.Text.Quoted

/-! # Summaries

Engines and replacements in one line, for diagnostics. What a producer does
cannot be shown.
-/

namespace Placeholder

/-- The processors and the failures of a registry. -/
def Registry.summary (r : Registry) : String :=
  let names := ", ".intercalate (r.names.map Text.quoted)
  "ProcessorRegistry \x7b processors: [" ++ names ++ "], failures: " ++ toString r.failures ++ " \x7d"

/-- The registry of an engine and the number of templates it remembers. -/
def Engine.summary (e : Engine) : String :=
  "Replacer \x7b registry: " ++ e.registry.summary ++ ", cached_templates: " ++
    toString e.cachedTemplates ++ " \x7d"

/-- What a name stands for. -/
def Replacement.summary : Replacement → String
  | .literal text => "Literal(" ++ Text.quoted text ++ ")"
  | .producer _ _ => "Producer(<fn>)"

end Placeholder
