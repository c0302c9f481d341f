import ComponentGate.Healing.Failure
import ComponentGate.Json.Value

/-!
What a run does, in the order in which it does it: questions to the generator, judgements, news to an
observer and calls of the compiler.
-/

namespace ComponentGate.Healing

/-- What a compiler makes of a source. -/
structure Compiled where
  artifact : String
  metadata : List (String × Json)
  deriving Repr, Inhabited

/-- A call of the compiler, with the directory it works in. -/
structure CompileCall where
  source : String
  directory : Option String
  deriving DecidableEq, Repr, Inhabited

inductive Event where
  /-- The generator was given an instruction; `reply` is the text it gave, if it gave one. -/
  | asked (instruction : String) (reply : Option String)
  | judged (attempt : Attempt)
  /-- The observer heard of an attempt. -/
  | told (attempt : Attempt)
  | compiled (call : CompileCall) (answer : Except CompileFault Compiled)
  deriving Repr

namespace Event

@[simp] def instruction? : Event → Option String
  | asked instruction _ => some instruction
  | _ => none

/-- What a generator answered, where the event is a question to it. -/
@[simp] def reply? : Event → Option (Option String)
  | asked _ reply => some reply
  | _ => none

@[simp] def attempt? : Event → Option Attempt
  | judged attempt => some attempt
  | _ => none

@[simp] def news? : Event → Option Attempt
  | told attempt => some attempt
  | _ => none

@[simp] def call? : Event → Option CompileCall
  | compiled call _ => some call
  | _ => none

end Event

structure Trace where
  events : List Event
  deriving Repr

namespace Trace

def empty : Trace := ⟨[]⟩

def add (trace : Trace) (event : Event) : Trace := ⟨trace.events ++ [event]⟩

/-- The attempts so far, in order. -/
def attempts (trace : Trace) : List Attempt := trace.events.filterMap Event.attempt?

/-- What the observer has heard. -/
def news (trace : Trace) : List Attempt := trace.events.filterMap Event.news?

/-- The instructions that the generator was given. -/
def instructions (trace : Trace) : List String := trace.events.filterMap Event.instruction?

def compilations (trace : Trace) : List CompileCall := trace.events.filterMap Event.call?

/-- Adds an attempt, and tells an observer of it where there is one. -/
def record (trace : Trace) (observed : Bool) (attempt : Attempt) : Trace :=
  let judged := trace.add (.judged attempt)
  if observed then judged.add (.told attempt) else judged

section Views

variable (trace : Trace) (event : Event) (observed : Bool) (attempt : Attempt)

@[simp] theorem events_add : (trace.add event).events = trace.events ++ [event] := rfl

/-- A view of a trace grows by what it shows of the new event. -/
theorem filterMap_events_add (view : Event → Option α) :
    (trace.add event).events.filterMap view = trace.events.filterMap view ++ (view event).toList := by
  rw [events_add, List.filterMap_append]
  cases shown : view event <;> simp [shown]

@[simp] theorem attempts_add :
    (trace.add event).attempts = trace.attempts ++ event.attempt?.toList :=
  trace.filterMap_events_add event Event.attempt?

@[simp] theorem news_add : (trace.add event).news = trace.news ++ event.news?.toList :=
  trace.filterMap_events_add event Event.news?

@[simp] theorem instructions_add :
    (trace.add event).instructions = trace.instructions ++ event.instruction?.toList :=
  trace.filterMap_events_add event Event.instruction?

@[simp] theorem compilations_add :
    (trace.add event).compilations = trace.compilations ++ event.call?.toList :=
  trace.filterMap_events_add event Event.call?

@[simp] theorem attempts_record :
    (trace.record observed attempt).attempts = trace.attempts ++ [attempt] := by
  cases observed <;> simp [record]

@[simp] theorem news_record :
    (trace.record observed attempt).news =
      trace.news ++ if observed then [attempt] else [] := by
  cases observed <;> simp [record]

@[simp] theorem instructions_record :
    (trace.record observed attempt).instructions = trace.instructions := by
  cases observed <;> simp [record]

@[simp] theorem compilations_record :
    (trace.record observed attempt).compilations = trace.compilations := by
  cases observed <;> simp [record]

end Views

end Trace

end ComponentGate.Healing
