import AlertRouting.Config.Reading
import AlertRouting.Route.Build
import AlertRouting.Route.Trace
import AlertRouting.Route.Matching

/-!
# Commands

Every command reads a configuration, builds its routes and reports on them. The first two steps are
the same for all of them, and so are the ways in which they fail.
-/
namespace AlertRouting.CommandLine

/-- What the system calls its errors in reading a file. -/
def systemError : Nat → String
  | 1 => "Operation not permitted"
  | 2 => "No such file or directory"
  | 5 => "Input/output error"
  | 13 => "Permission denied"
  | 20 => "Not a directory"
  | 21 => "Is a directory"
  | 22 => "Invalid argument"
  | 24 => "Too many open files"
  | 36 => "File name too long"
  | 40 => "Too many levels of symbolic links"
  | code => "Unknown error " ++ toString code

inductive ReadFault
  /-- The system does not hand it out. -/
  | refused (code : Nat)
  /-- The bytes are not those of a text. -/
  | notText
deriving DecidableEq, Repr

def ReadFault.message : ReadFault → String
  | refused code => systemError code ++ " (os error " ++ toString code ++ ")"
  | notText => "stream did not contain valid UTF-8"

def decodeText (bytes : ByteArray) : Except ReadFault String :=
  match String.fromUTF8? bytes with
  | some text => .ok text
  | none => .error .notText

inductive CommandError
  | unreadable (path : String) (fault : ReadFault)
  /-- The file holds no configuration. -/
  | malformed (e : ConfigError)
  /-- The configuration is refused. -/
  | invalid (e : ConfigError)
deriving DecidableEq, Repr

def CommandError.message : CommandError → String
  | unreadable path fault => "failed to read \"" ++ path ++ "\": " ++ fault.message
  | malformed e => e.message
  | invalid e => "config invalid: " ++ e.message

def fileName? (path : String) : Option String :=
  ((path.splitOn "/").filter fun part => part ≠ "" ∧ part ≠ ".").getLast?.filter (· ≠ "..")

/-- What follows the last dot of a name, unless the name starts with that dot. -/
def extension? (name : String) : Option String :=
  let ending := name.toList.reverse.takeWhile (· ≠ '.')
  match name.toList.reverse.dropWhile (· ≠ '.') with
  | [] | [_] => none
  | _ => some (String.ofList ending.reverse)

/-- A file is in JSON if its name says so, and in YAML otherwise. -/
def formatOf (path : String) : DocumentFormat :=
  match (fileName? path).bind extension? with
  | some ending => if ending.toLower = "json" then .json else .yaml
  | none => .yaml

def load [Regex.SizeLimit] (path : String) (content : Except ReadFault String) :
    Logged (Except CommandError Routes) :=
  match content with
  | .error fault => ⟨.error (.unreadable path fault), []⟩
  | .ok text =>
    match Config.read (formatOf path) text with
    | .error e => ⟨.error (.malformed e), []⟩
    | .ok c => ⟨c.build.result.mapError .invalid, c.build.log⟩

inductive Action
  /-- The policies of an alert, or the trace that leads to them. -/
  | resolve (labels : List (String × String)) (traced : Bool)
  /-- How many routes there are. -/
  | check
  /-- The outline of the routes. -/
  | outline
deriving DecidableEq, Repr

def Action.report (action : Action) (routes : Routes) : Logged String :=
  match action with
  | resolve pairs traced =>
    let labels : Labels := NameMap.ofList pairs
    if traced then ⟨(routes.trace labels).layout.pretty ++ "\n", [.matching labels.text]⟩
    else
      let found := routes.run labels
      ⟨Text.lines (found.result.map Policy.text), .matching labels.text :: found.log⟩
  | check =>
    ⟨"Config valid (" ++ toString routes.length ++ " top-level routes, depth "
      ++ toString routes.depth ++ ")\n", []⟩
  | outline => ⟨routes.outline, []⟩

structure Command where
  action : Action
  path : String
  /-- How much of what is recorded is shown. -/
  verbosity : Nat
deriving DecidableEq, Repr

/-- The report of a command, given the text of its file. -/
def Command.run [Regex.SizeLimit] (c : Command) (content : Except ReadFault String) :
    Logged (Except CommandError String) :=
  let loaded := load c.path content
  match loaded.result with
  | .error e => ⟨.error e, loaded.log⟩
  | .ok routes =>
    let report := c.action.report routes
    ⟨.ok report.result, loaded.log ++ report.log⟩

/-- What a command gives back: the exit code, what is printed, and the lines that are printed apart
from it, which are what is recorded, as far as it is asked for, and what has gone wrong. -/
structure Response where
  exit : Nat
  output : String
  notes : List String
deriving DecidableEq, Repr

def Command.respond [Regex.SizeLimit] (c : Command) (content : Except ReadFault String) : Response :=
  let outcome := c.run content
  let shown := outcome.log.filter fun e => e.level.verbosity ≤ c.verbosity
  match outcome.result with
  | .ok report => ⟨0, report, shown.map Event.line⟩
  | .error e => ⟨1, "", shown.map Event.line ++ ["error: " ++ e.message]⟩

end AlertRouting.CommandLine
