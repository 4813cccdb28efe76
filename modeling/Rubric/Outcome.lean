import Rubric.Error
import Rubric.Event

/-! What comes of an activity: its result or the reason to stop, and the events on the way to
either. -/
namespace Rubric

/-- A result or the reason why there is none, with the events on the way, in order. -/
structure Outcome (α : Type) where
  result : Except Error α
  events : List Event

namespace Outcome

variable {α β : Type}

def fail (e : Error) : Outcome α :=
  ⟨.error e, []⟩

def map (f : α → β) (o : Outcome α) : Outcome β :=
  ⟨o.result.map f, o.events⟩

end Outcome

end Rubric
