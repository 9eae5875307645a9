/-!
# Requests

The arguments of a command line. A command is followed by options: inputs, of which every `--input`
takes as many as follow, one output, and a switch that only shows the request. Nothing else is accepted.
-/

namespace SchemaTypes.CommandLine
set_option autoImplicit false

/-- The dialect a command asks for. -/
inductive Command where
  | go
  | rust
deriving DecidableEq, Repr

/-- What a command line asks for. -/
structure Request where
  command : Command
  inputs : List String
  out : Option String
  noOp : Bool
deriving DecidableEq, Repr

/-- Why a command line is not run. -/
inductive Misuse where
  | helpWanted
  | commandMissing
  | unknownCommand
  | unknownArgument
  | invalidValue
  | repeatedOption
  | unwantedValue
deriving DecidableEq, Repr

/-- The status a program ends with: asking for help is no error. -/
def Misuse.exitCode : Misuse → Nat
  | helpWanted => 0
  | _ => 2

/-- The command with a given name. -/
def Command.ofName? (name : String) : Option Command :=
  if name = "go" then some .go
  else if name = "rust" then some .rust
  else none

/-- The name of the command that tells about the others. -/
def helpCommand : String := "help"

/-- An option that takes values. -/
inductive Valued where
  | input
  | out
deriving DecidableEq, Repr

/-- An option whose values are being taken, and the values so far. -/
structure Pending where
  option : Valued
  values : List String
deriving DecidableEq, Repr

/-- What the arguments read so far ask for. -/
structure Progress where
  inputs : List String := []
  out : Option String := none
  noOp : Bool := false
  pending : Option Pending := none
deriving DecidableEq, Repr

namespace Progress

/-- Takes over the values of an option. Each option but the input may be given once, and the output has
to be named. -/
def accept (progress : Progress) (option : Valued) (values : List String) : Except Misuse Progress :=
  match option, values with
  | _, [] => .error .invalidValue
  | .input, values => .ok { progress with inputs := progress.inputs ++ values, pending := none }
  | .out, value :: _ =>
    if progress.out.isSome then .error .repeatedOption
    else if value = "" then .error .invalidValue
    else .ok { progress with out := some value, pending := none }

/-- Takes over the values of the option that is pending, if there is one. -/
def settle (progress : Progress) : Except Misuse Progress :=
  match progress.pending with
  | none => .ok progress
  | some pending => progress.accept pending.option pending.values

/-- Begins an option, of which a value may be attached. -/
def begin (progress : Progress) (option : Valued) (attached : Option String) : Except Misuse Progress := do
  let settled ← progress.settle
  match attached with
  | some value => settled.accept option [value]
  | none => .ok { settled with pending := some ⟨option, []⟩ }

/-- A value without an option of its own; an output takes one only. -/
def value (progress : Progress) (value : String) : Except Misuse Progress :=
  match progress.pending with
  | some ⟨.input, values⟩ => .ok { progress with pending := some ⟨.input, values ++ [value]⟩ }
  | some ⟨.out, []⟩ => .ok { progress with pending := some ⟨.out, [value]⟩ }
  | _ => .error .unknownArgument

/-- An option by its long name. -/
def long (progress : Progress) (name : String) (attached : Option String) : Except Misuse Progress :=
  if name = "input" then progress.begin .input attached
  else if name = "out" then progress.begin .out attached
  else if name = "no-op" then
    if attached.isSome then .error .unwantedValue
    else do
      let settled ← progress.settle
      if settled.noOp then .error .repeatedOption else .ok { settled with noOp := true }
  else if name = "help" then
    if attached.isSome then .error .unwantedValue
    else do
      let _ ← progress.settle
      .error .helpWanted
  else .error .unknownArgument

/-- The value attached to a short option; an equals sign in front of it is left out. -/
def attachedValue : List Char → Option String
  | [] => none
  | '=' :: chars => some (String.ofList chars)
  | chars => some (String.ofList chars)

/-- An option by its letter, with what is attached to it. -/
def short (progress : Progress) (letter : Char) (attached : List Char) : Except Misuse Progress :=
  if letter = 'i' then progress.begin .input (attachedValue attached)
  else if letter = 'o' then progress.begin .out (attachedValue attached)
  else if letter = 'h' then do
    let _ ← progress.settle
    .error .helpWanted
  else .error .unknownArgument

end Progress

/-- The form of an argument. -/
inductive Argument where
  | separator
  | long (name : String) (attached : Option String)
  | short (letter : Char) (attached : List Char)
  | plain (text : String)
deriving DecidableEq, Repr

/-- Tells the form of an argument; a single hyphen is a plain one. -/
def Argument.ofText (text : String) : Argument :=
  match text.toList with
  | ['-', '-'] => .separator
  | '-' :: '-' :: chars =>
    .long (String.ofList (chars.takeWhile (· != '=')))
      (match chars.dropWhile (· != '=') with
        | [] => none
        | _ :: value => some (String.ofList value))
  | '-' :: letter :: attached => .short letter attached
  | _ => .plain text

/-- Reads the arguments of a command. Behind a separator nothing is accepted. -/
def readOptions (progress : Progress) : List String → Except Misuse Progress
  | [] => progress.settle
  | text :: more =>
    match Argument.ofText text with
    | .separator => if more.isEmpty then progress.settle else .error .unknownArgument
    | .long name attached => do readOptions (← progress.long name attached) more
    | .short letter attached => do readOptions (← progress.short letter attached) more
    | .plain value => do readOptions (← progress.value value) more

/-- The answer to a wish for help: on the program, on one of its commands, or on the help itself. -/
def readHelp : List String → Misuse
  | [] => .helpWanted
  | [name] => if (Command.ofName? name).isSome || name == helpCommand then .helpWanted else .unknownCommand
  | _ => .unknownCommand

/-- Reads a whole command line. Without an input the standard input is read. -/
def Request.ofArguments : List String → Except Misuse Request
  | [] => .error .commandMissing
  | text :: more =>
    match Command.ofName? text with
    | some command => do
      let progress ← readOptions {} more
      let inputs := if progress.inputs.isEmpty then ["-"] else progress.inputs
      .ok ⟨command, inputs, progress.out, progress.noOp⟩
    | none =>
      if text = helpCommand then .error (readHelp more)
      else
        match Argument.ofText text with
        | .separator =>
          match more with
          | [] => .error .commandMissing
          | next :: _ =>
            if (Command.ofName? next).isSome || next == helpCommand then .error .unknownArgument
            else .error .unknownCommand
        | .long name attached =>
          if name = "help" then .error (if attached.isSome then .unwantedValue else .helpWanted)
          else .error .unknownArgument
        | .short letter _ => .error (if letter = 'h' then .helpWanted else .unknownArgument)
        | .plain _ => .error .unknownCommand

end SchemaTypes.CommandLine
