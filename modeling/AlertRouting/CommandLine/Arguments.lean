import AlertRouting.CommandLine.Command

/-!
# Arguments

The arguments are first divided into items, by their form alone. The items are then taken in order,
and the first that cannot be taken decides what is reported. A label in an argument of its own is
judged only when the item after it is taken.

A label is given as its name and its text, with an equals sign between them. Later equals signs
belong to the text.
-/
namespace AlertRouting.CommandLine

inductive LabelFault
  | noSeparator (argument : String)
  | badName (name : String)
deriving DecidableEq, Repr

def LabelFault.message : LabelFault → String
  | noSeparator argument => "invalid label \"" ++ argument ++ "\", expected key=value"
  | badName name => "invalid label name \"" ++ name ++ "\""

def readLabel (argument : String) : Except LabelFault (String × String) :=
  let name := String.ofList (argument.toList.takeWhile (· ≠ '='))
  match argument.toList.dropWhile (· ≠ '=') with
  | [] => .error (.noSeparator argument)
  | _ :: value => if isLabelName name then .ok (name, String.ofList value) else .error (.badName name)

inductive Flag
  | verbose | help | version | label | trace
deriving DecidableEq, Repr

namespace Flag

def name : Flag → String
  | verbose => "verbose"
  | help => "help"
  | version => "version"
  | label => "label"
  | trace => "trace"

def letter? : Flag → Option Char
  | verbose => some 'v'
  | help => some 'h'
  | version => some 'V'
  | label => some 'l'
  | trace => none

end Flag

inductive Item
  | flag (f : Flag)
  /-- A label, joined to its flag or in the argument after it. -/
  | label (text : String) (joined : Bool)
  | operand (text : String)
  /-- A flag without the value that it needs. -/
  | missingValue
  /-- An argument that has no meaning. -/
  | unknown
deriving DecidableEq, Repr

namespace Item

/-- The items of what follows two dashes, and whether the next argument is the value of a flag. -/
def ofLong (known : List Flag) (text : List Char) : List Item × Bool :=
  let name := String.ofList (text.takeWhile (· ≠ '='))
  match known.find? (·.name = name), text.dropWhile (· ≠ '=') with
  | some .label, [] => ([], true)
  | some .label, _ :: value => ([.label (String.ofList value) true], false)
  | some f, [] => ([.flag f], false)
  | _, _ => ([.unknown], false)

/-- The items of the letters that follow one dash, and whether the next argument is the value of a
flag. -/
def ofLetters (known : List Flag) : List Char → List Item × Bool
  | [] => ([], false)
  | c :: rest =>
    match known.find? (·.letter? = some c), rest with
    | none, _ => ([.unknown], false)
    | some .label, [] => ([], true)
    | some .label, '=' :: value => ([.label (String.ofList value) true], false)
    | some .label, value => ([.label (String.ofList value) true], false)
    | some f, rest =>
      let more := ofLetters known rest
      (.flag f :: more.1, more.2)

def isFlags (argument : String) : Bool :=
  match argument.toList with
  | '-' :: _ :: _ => true
  | _ => false

/-- The items of one argument, and whether the next argument is the value of a flag. -/
def ofArgument (known : List Flag) (argument : String) : List Item × Bool :=
  match argument.toList with
  | '-' :: '-' :: name => ofLong known name
  | '-' :: c :: rest => ofLetters known (c :: rest)
  | _ => ([.operand argument], false)

/-- The items of all arguments. After two dashes alone there are no more flags. -/
def ofArguments (known : List Flag) : List String → List Item
  | [] => []
  | a :: rest =>
    if a = "--" then rest.map .operand
    else
      let read := ofArgument known a
      if read.2 then
        match rest with
        | [] => read.1 ++ [.missingValue]
        | value :: rest =>
          if isFlags value then read.1 ++ [.missingValue]
          else read.1 ++ .label value false :: ofArguments known rest
      else read.1 ++ ofArguments known rest

end Item

inductive Refusal
  | usage
  | label (fault : LabelFault)
deriving DecidableEq, Repr

inductive Request
  | help
  | version
  | run (c : Command)
deriving DecidableEq, Repr

inductive Verb
  | resolve | check | outline
deriving DecidableEq, Repr

namespace Verb

def ofName? : String → Option Verb
  | "match" => some resolve
  | "check" => some check
  | "tree" => some outline
  | _ => none

def flags : Verb → List Flag
  | resolve => [.verbose, .help, .label, .trace]
  | check | outline => [.verbose, .help]

end Verb

structure Taken where
  verbosity : Nat
  path : Option String
  labels : List (String × String)
  traced : Bool
deriving DecidableEq, Repr

namespace Taken

def action (t : Taken) : Verb → Action
  | .resolve => .resolve t.labels t.traced
  | .check => .check
  | .outline => .outline

/-- Does the next item have no meaning? Only one operand has. -/
def isStuck (t : Taken) : List Item → Bool
  | .unknown :: _ => true
  | .operand _ :: _ => t.path.isSome
  | _ => false

def finish (verb : Verb) (t : Taken) : List Item → Except Refusal Request
  | [] =>
    match t.path with
    | some path => .ok (.run ⟨t.action verb, path, t.verbosity⟩)
    | none => .error .usage
  | .flag .verbose :: rest => finish verb { t with verbosity := t.verbosity + 1 } rest
  | .flag .help :: _ => .ok .help
  | .flag .trace :: rest =>
    if t.traced then .error .usage else finish verb { t with traced := true } rest
  | .label text joined :: rest =>
    if !joined && t.isStuck rest then .error .usage
    else
      match readLabel text with
      | .ok label => finish verb { t with labels := t.labels ++ [label] } rest
      | .error fault => .error (.label fault)
  | .operand path :: rest =>
    if t.path.isSome || path.isEmpty then .error .usage
    else finish verb { t with path := some path } rest
  | _ :: _ => .error .usage

end Taken

namespace Request

/-- What flags ask for that stand before the name of a command, if it is more than to be verbose. -/
def ofGeneral? : List Item → Option (Except Refusal Request)
  | [] => none
  | .flag .verbose :: rest => ofGeneral? rest
  | .flag .help :: _ => some (.ok .help)
  | .flag .version :: _ => some (.ok .version)
  | _ :: _ => some (.error .usage)

/-- Help is asked for on the program, on a command or on help itself. -/
def ofHelp : List String → Except Refusal Request
  | [] => .ok .help
  | [name] => if name = "help" ∨ (Verb.ofName? name).isSome then .ok .help else .error .usage
  | _ => .error .usage

/-- Reads the arguments, given how many times the program has been asked to be verbose. -/
def ofArguments (verbosity : Nat) : List String → Except Refusal Request
  | [] => .error .usage
  | a :: rest =>
    match Verb.ofName? a with
    | some verb => Taken.finish verb ⟨verbosity, none, [], false⟩ (Item.ofArguments verb.flags rest)
    | none =>
      if a = "help" then ofHelp rest
      else
        let items := (Item.ofArgument [.verbose, .help, .version] a).1
        match ofGeneral? items with
        | some answer => answer
        | none => ofArguments (verbosity + items.length) rest

def read (arguments : List String) : Except Refusal Request := ofArguments 0 arguments

end Request

def version : String := "amroute 0.0.2"

def usage : String := Text.lines [
  "Resolve alert notification policies from a routing tree",
  "",
  "Usage: amroute [OPTIONS] <COMMAND>",
  "",
  "Commands:",
  "  match <CONFIG>  Resolve the notification policies for a label set",
  "  check <CONFIG>  Validate a routing config",
  "  tree <CONFIG>   Print the resolved routing tree",
  "  help            Print this message",
  "",
  "Options:",
  "  -l, --label <KEY=VALUE>  Alert label, repeatable",
  "      --trace              Print the evaluation trace instead of the result",
  "  -v, --verbose...         Increase log verbosity (-v debug, -vv trace)",
  "  -h, --help               Print help",
  "  -V, --version            Print version"]

def Refusal.message : Refusal → String
  | usage => "the arguments are not understood"
  | label fault => fault.message

end AlertRouting.CommandLine
