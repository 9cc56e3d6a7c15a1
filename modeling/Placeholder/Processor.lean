import Placeholder.Processor.Error
import Placeholder.Tag

/-! # Processors

A processor turns the value of a tag into another text. It may answer
differently from one use to the next: its answer is a function of the uses made
of it before and of the present one. One that can fail leaves the value as it is
when it does.

The earlier uses are those of the processor itself. Processors that share what
they remember, with one another or with producers, are not covered.
-/

namespace Placeholder

/-- One use of a processor: the value and the arguments of the tag. -/
structure Use where
  value : String
  args : Arguments
deriving DecidableEq, Repr

/-- How a processor answers, given the earlier uses, the latest one first. -/
inductive Behaviour where
  | infallible (answer : List Use → Use → String)
  | fallible (answer : List Use → Use → Except Processor.Error String)

/-- A processor with the uses made of it so far, the latest one first. -/
structure Processor where
  behaviour : Behaviour
  uses : List Use := []

namespace Processor

/-- What a use of a processor gives: a text, whether the processor failed, and
the processor as it is afterwards. -/
structure Outcome where
  text : String
  failed : Bool
  after : Processor

/-- The answer to a use, before a failure is replaced by the value. -/
def answer (p : Processor) (use : Use) : Except Processor.Error String :=
  match p.behaviour with
  | .infallible f => .ok (f p.uses use)
  | .fallible f => f p.uses use

/-- One use of a processor. A failure gives the value back. -/
def run (p : Processor) (use : Use) : Outcome :=
  let after := { p with uses := use :: p.uses }
  match p.answer use with
  | .ok text => ⟨text, false, after⟩
  | .error _ => ⟨use.value, true, after⟩

end Processor

end Placeholder
