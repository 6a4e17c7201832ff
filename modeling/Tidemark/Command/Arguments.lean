/-!
# Command lines

A command line is a sequence of options and words.  The options `--log` and `--api-key` may stand
before or after the command, `--config` and `--once` only after it; an option is given at most once
in each of the two places, and after the command it counts more.  What is wrong first decides.
-/

namespace Tidemark.Command

/-- What is to be done with the job that a file describes. -/
inductive Action where
  /-- Run the job and print its rows, either one cycle or until a request to stop. -/
  | run (once : Bool)
  /-- Show the stored watermark. -/
  | watermark
  /-- Check the description and show the first query. -/
  | validate
  deriving DecidableEq, Repr

/-- A command line that can be carried out. -/
structure Invocation where
  action : Action
  config : String
  apiKey : Option String
  log : Option String
  deriving DecidableEq, Repr

/-- What a command line asks for. -/
inductive Reading where
  | invocation (i : Invocation)
  | version
  | help
  /-- The command line makes no sense. -/
  | misuse
  deriving DecidableEq, Repr

namespace Arguments

/-! ### Items -/

/-- A part of a command line. -/
inductive Item where
  | option (name value : String)
  | flag (name : String)
  | word (s : String)
  /-- The mark after which nothing is an option. -/
  | endOfOptions
  | bad
  deriving DecidableEq, Repr

/-- The options that take a value. -/
def valued : List String := ["log", "api-key", "config"]

/-- The options that take none. -/
def flags : List String := ["once", "version", "help"]

/-- Whether an argument looks like an option, so that it is no value. -/
def looksLikeOption (a : String) : Bool :=
  match a.toList with
  | '-' :: _ :: _ => true
  | _ => false

/-- An option with its value; the path of a description must not be empty. -/
def withValue (name value : String) : Item :=
  if name = "config" ∧ value = "" then .bad else .option name value

/-- A long option, whose value may stand after an equals sign; without one it is still to come. -/
def longOption (cs : List Char) : String ⊕ Item :=
  let name := String.ofList (cs.takeWhile (· ≠ '='))
  match cs.dropWhile (· ≠ '=') with
  | [] =>
    if valued.contains name then .inl name
    else if flags.contains name then .inr (.flag name)
    else .inr .bad
  | _ :: value =>
    .inr (if valued.contains name then withValue name (String.ofList value) else .bad)

/-- The item of an argument, or the name of the option whose value is still to come. -/
def classify (a : String) : String ⊕ Item :=
  match a.toList with
  | ['-', '-'] => .inr .endOfOptions
  | '-' :: '-' :: cs => longOption cs
  | '-' :: 'V' :: _ => .inr (.flag "version")
  | '-' :: 'h' :: _ => .inr (.flag "help")
  | '-' :: _ :: _ => .inr .bad
  | _ => .inr (.word a)

/-- The items of a command line, given the option that waits for its value. -/
def items : Option String → List String → List Item
  | none, [] => []
  | some _, [] => [.bad]
  | some name, a :: rest =>
    if looksLikeOption a then [.bad] else withValue name a :: items none rest
  | none, a :: rest =>
    match classify a with
    | .inl name => items (some name) rest
    | .inr item => item :: items none rest

/-! ### Options -/

/-- The options that were given in one place. -/
structure Options where
  log : Option String := none
  apiKey : Option String := none
  config : Option String := none
  once : Bool := false
  deriving DecidableEq, Repr

namespace Options

/-- The options with one more; none if it was given before. -/
def set (o : Options) (name value : String) : Option Options :=
  if name = "log" ∧ o.log = none then some { o with log := some value }
  else if name = "api-key" ∧ o.apiKey = none then some { o with apiKey := some value }
  else if name = "config" ∧ o.config = none then some { o with config := some value }
  else none

end Options

/-- The action of a command, given whether a single cycle is asked for. -/
def action? (command : String) (once : Bool) : Option Action :=
  if command = "run" then some (.run once)
  else if command = "watermark" ∧ ¬ once then some .watermark
  else if command = "validate" ∧ ¬ once then some .validate
  else none

/-- Reads the options after a command. -/
def afterCommand (command : String) (before : Options) : List Item → Options → Reading
  | [], o => finish o
  | [.endOfOptions], o => finish o
  | .option name value :: rest, o =>
    match o.set name value with
    | none => .misuse
    | some o => afterCommand command before rest o
  | .flag name :: rest, o =>
    if name = "once" ∧ command = "run" ∧ ¬ o.once then
      afterCommand command before rest { o with once := true }
    else if name = "help" then .help
    else .misuse
  | _, _ => .misuse
where
  /-- The reading of a command line that ends here. -/
  finish (o : Options) : Reading :=
    match o.config, action? command o.once with
    | some config, some action =>
      .invocation ⟨action, config, o.apiKey.or before.apiKey, o.log.or before.log⟩
    | _, _ => .misuse

/-- Reads what follows the word that asks for help: nothing, or one command. -/
def afterHelp : List Item → Reading
  | [] => .help
  | [.word w] => if w = "help" ∨ (action? w false).isSome then .help else .misuse
  | _ => .misuse

/-- Reads the options before a command, and the command. -/
def beforeCommand : List Item → Options → Reading
  | .option name value :: rest, o =>
    if name = "config" then .misuse
    else
      match o.set name value with
      | none => .misuse
      | some o => beforeCommand rest o
  | .flag name :: _, _ =>
    if name = "version" then .version else if name = "help" then .help else .misuse
  | .word w :: rest, o =>
    if w = "help" then afterHelp rest
    else if (action? w false).isSome then afterCommand w o rest {}
    else .misuse
  | _, _ => .misuse

/-- Reads a command line. -/
def read (args : List String) : Reading :=
  beforeCommand (items none args) {}

end Arguments

end Tidemark.Command
