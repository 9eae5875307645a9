/-!
# Events of a run

What a run tells about itself, from the inputs it loads to the declarations it writes.
-/

namespace SchemaTypes
set_option autoImplicit false

/-- How much an event matters, the most important first. -/
inductive Level where
  | warn
  | debug
  | trace
deriving DecidableEq, Repr

/-- The position of a level, counted from the most important one. -/
def Level.rank : Level → Nat
  | .warn => 0
  | .debug => 1
  | .trace => 2

/-- Something that happened during a run. -/
inductive Event where
  | loaded (input : String) (bytes : Nat)
  | scheduled (id : String)
  | seeded (document : String) (roots : Nat)
  | hoisting (schema : String) (fields : Nat)
  | discarding (schema : String)
  | emitted (declaration : String) (fields hoisted : Nat)
  | finished (document : String) (declarations : Nat)
deriving DecidableEq, Repr

namespace Event

/-- How much an event matters: only the loss of properties is a warning. -/
def level : Event → Level
  | discarding _ => .warn
  | scheduled _ => .trace
  | _ => .debug

/-- The wording of an event. -/
def message : Event → String
  | loaded .. => "loaded input"
  | scheduled _ => "scheduled"
  | seeded .. => "seeded scheduler"
  | hoisting .. => "hoisting nested object"
  | discarding _ => "schema has both additionalProperties and properties; treating it as a map"
  | emitted .. => "emitted"
  | finished .. => "generation finished"

/-- The named values of an event. -/
def fields : Event → List (String × String)
  | loaded input bytes => [("input", input), ("bytes", toString bytes)]
  | scheduled id => [("id", id)]
  | seeded document roots => [("document", document), ("roots", toString roots)]
  | hoisting schema fields => [("schema", schema), ("fields", toString fields)]
  | discarding schema => [("schema", schema)]
  | emitted declaration fields hoisted =>
    [("declaration", declaration), ("fields", toString fields), ("hoisted", toString hoisted)]
  | finished document declarations =>
    [("document", document), ("declarations", toString declarations)]

/-- The events that matter at least as much as `limit`. -/
def upTo (limit : Level) (events : List Event) : List Event :=
  events.filter fun e => e.level.rank ≤ limit.rank

end Event

end SchemaTypes
