import LedgerCheck.Command
/-!
# Command lines

A command line names a command and then gives its options and paths.  The value of an option stands
in the argument after it or, with an equals sign, in the same one; an argument that starts with a
dash is no value unless it is the dash alone.  After two dashes everything is a path.

* `Scanned` — the options and paths of a command line.
* `Command.ofArguments?` — the command that a command line asks for, if it is well formed.
-/

namespace LedgerCheck

/-- How an option is given. -/
inductive OptionKind where
  | flag
  | single
  | repeated
deriving DecidableEq, Repr

/-- The options of a command. -/
abbrev OptionTable := List (String × OptionKind)

/-- The options with their values, and the paths, in the order in which they are given. -/
structure Scanned where
  options : List (String × String) := []
  paths : List String := []
deriving DecidableEq, Repr

namespace Scanned

/-- The argument starts an option, or is none of the forms that can be read. -/
def isDashed (argument : List Char) : Bool := argument.head? == some '-' && argument != ['-']

/-- The name of an option and the value attached to it. -/
def splitValue (cs : List Char) : String × Option String :=
  match cs.dropWhile (· != '=') with
  | _ :: value => (String.ofList (cs.takeWhile (· != '=')), some (String.ofList value))
  | [] => (String.ofList cs, none)

/-- Puts an option in front. -/
def withOption (name value : String) (s : Scanned) : Scanned :=
  { s with options := (name, value) :: s.options }

/-- Puts a path in front. -/
def withPath (path : String) (s : Scanned) : Scanned := { s with paths := path :: s.paths }

/-- Scans the arguments after the command.  When an option still misses its value, its name is
`pending`. -/
def scan (table : OptionTable) (pending : Option String) : List String → Option Scanned
  | [] => if pending.isSome then none else some {}
  | argument :: rest =>
    match pending with
    | some name =>
      if isDashed argument.toList then none
      else (scan table none rest).map (withOption name argument)
    | none =>
      match argument.toList with
      | '-' :: '-' :: [] => some { paths := rest }
      | '-' :: '-' :: cs =>
        match splitValue cs with
        | (name, attached) =>
          match table.lookup name, attached with
          | none, _ => none
          | some .flag, some _ => none
          | some .flag, none => (scan table none rest).map (withOption name "")
          | some _, some value => (scan table none rest).map (withOption name value)
          | some _, none => scan table (some name) rest
      | cs => if isDashed cs then none else (scan table none rest).map (withPath argument)

/-- The values given for an option. -/
def values (s : Scanned) (name : String) : List String :=
  s.options.filterMap fun option => if option.1 = name then some option.2 else none

/-- Only a repeated option is given more than once. -/
def isSingular (s : Scanned) (table : OptionTable) : Bool :=
  table.all fun (name, kind) => kind == .repeated || (s.values name).length ≤ 1

/-- The options and paths of the arguments after the command. -/
def ofArguments? (table : OptionTable) (arguments : List String) : Option Scanned :=
  (scan table none arguments).filter (·.isSingular table)

end Scanned

namespace Command

/-- The options of `results`. -/
def resultsOptions : OptionTable :=
  [("config", .repeated), ("counters", .single), ("outcome", .single), ("strict-config", .flag)]

/-- The options of `progress`. -/
def progressOptions : OptionTable := [("config", .repeated), ("counters", .single)]

/-- The options of `status`. -/
def statusOptions : OptionTable := [("url", .single)]

/-- The paths are the layers of a configuration, at least one. -/
def configHashOf? (s : Scanned) : Option Command :=
  if s.paths = [] then none else some (.configHash s.paths)

/-- A finished run is closed with at least one layer. -/
def resultsOf? (s : Scanned) : Option Command :=
  if s.paths ≠ [] ∨ s.values "config" = [] then none
  else
    some (.results (s.values "config") (s.values "counters").head? (s.values "outcome").head?
      !(s.values "strict-config").isEmpty)

/-- The progress of a check needs at least one layer and the counters. -/
def progressOf? (s : Scanned) : Option Command :=
  if s.paths ≠ [] ∨ s.values "config" = [] then none
  else (s.values "counters").head?.map (.progress (s.values "config"))

/-- A published status needs its address. -/
def statusOf? (s : Scanned) : Option Command :=
  if s.paths ≠ [] then none else (s.values "url").head?.map .status

/-- The command that a command line asks for. -/
def ofArguments? : List String → Option Command
  | [] => none
  | name :: rest =>
    if name = "config-hash" then (Scanned.ofArguments? [] rest).bind configHashOf?
    else if name = "results" then (Scanned.ofArguments? resultsOptions rest).bind resultsOf?
    else if name = "progress" then (Scanned.ofArguments? progressOptions rest).bind progressOf?
    else if name = "status" then (Scanned.ofArguments? statusOptions rest).bind statusOf?
    else none

end Command
end LedgerCheck
