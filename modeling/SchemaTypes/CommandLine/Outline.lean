import SchemaTypes.CommandLine.Request
import SchemaTypes.Text.Quoted

/-!
# The outline of a request

A request as an indented outline: every part stands on a line of its own, nested ones further in, and
each line ends in a comma but the last.
-/

namespace SchemaTypes.CommandLine
set_option autoImplicit false

open Text (quoted)

/-- A value as an outline. -/
inductive Outline where
  | leaf (text : String)
  | list (parts : List Outline)
  | wrapped (name : String) (part : Outline)
  | record (name : String) (fields : List (String × Outline))

namespace Outline

/-- A line at a depth. -/
def line (depth : Nat) (text : String) : String :=
  String.ofList (List.replicate (4 * depth) ' ') ++ text ++ "\n"

mutual

/-- The lines of an outline; `before` opens the first line and `after` ends the last one. -/
def lines (depth : Nat) (before after : String) : Outline → String
  | leaf text => line depth (before ++ text ++ after)
  | list [] => line depth (before ++ "[]" ++ after)
  | list parts => line depth (before ++ "[") ++ partLines (depth + 1) parts ++ line depth ("]" ++ after)
  | wrapped name part =>
    line depth (before ++ name ++ "(") ++ part.lines (depth + 1) "" "," ++ line depth (")" ++ after)
  | record name fields =>
    line depth (before ++ name ++ " \x7b") ++ fieldLines (depth + 1) fields ++ line depth ("\x7d" ++ after)

/-- The lines of the parts of a list. -/
def partLines (depth : Nat) : List Outline → String
  | [] => ""
  | part :: more => part.lines depth "" "," ++ partLines depth more

/-- The lines of the fields of a record. -/
def fieldLines (depth : Nat) : List (String × Outline) → String
  | [] => ""
  | (name, part) :: more => part.lines depth (name ++ ": ") "," ++ fieldLines depth more

end

end Outline

/-- A request as an outline. -/
def Request.outline (request : Request) : Outline :=
  let settings : Outline := .record "GenerateOut" [
    ("input_settings", .record "InputSettings" [
      ("input", .list (request.inputs.map fun input => .leaf (quoted input)))]),
    ("out", match request.out with
      | none => .leaf "None"
      | some out => .wrapped "Some" (.leaf (quoted out))),
    ("no_op", .leaf (if request.noOp then "true" else "false"))]
  let command := match request.command with
    | .go => "Go"
    | .rust => "Rust"
  .record "CommandLineInterface" [("cmd", .wrapped command settings)]

/-- The text that shows a request. -/
def Request.shown (request : Request) : String :=
  request.outline.lines 0 "" ""

end SchemaTypes.CommandLine
