import LedgerCheck.Config.Load
import LedgerCheck.Counter.Snapshot
import LedgerCheck.RunOutcome
import LedgerCheck.Text.Utf8
/-!
# Files handed over

A report is computed from files: layers of configuration, a snapshot of the counters, and the
outcome of the run.  An error names the file it is about.

* `FileReader` — the content of each file that can be read.
* `IntakeError` — why a file was not taken.
* `FileReader.config`, `FileReader.counters`, `FileReader.outcome` — what the files say.
-/

namespace LedgerCheck

/-- The content of each file that can be read. -/
abbrev FileReader := String → Option ByteArray

/-- Why a file gave no text. -/
inductive TextFault where
  | unreadable
  | notUtf8
deriving DecidableEq, Repr

namespace TextFault

/-- What follows the path in an error. -/
def detail : TextFault → String
  | unreadable => ""
  | notUtf8 => ": file must be UTF-8 text"

end TextFault

/-- Why a file was not taken. -/
inductive IntakeError where
  | config (error : ConfigError)
  | countersUnread (path : String) (fault : TextFault)
  | counters (path : String) (error : SnapshotError)
  | outcomeUnread (path : String) (fault : TextFault)
  | outcome (path : String)
  | outcomeContradictory (path : String)

namespace IntakeError

/-- The wording of the error. -/
def message : IntakeError → String
  | config error => error.message
  | countersUnread path fault => "read counters failed: " ++ path ++ fault.detail
  | counters path error => "parse counters failed: " ++ path ++ ": " ++ error.message
  | outcomeUnread path fault => "read outcome failed: " ++ path ++ fault.detail
  | outcome path => "parse outcome failed: " ++ path
  | outcomeContradictory path =>
    "outcome cannot carry both error and end_condition: " ++ path

end IntakeError

namespace FileReader

/-- The text of a file, without a byte order mark. -/
def text (files : FileReader) (path : String) : Except TextFault String :=
  match files path with
  | none => .error .unreadable
  | some content =>
    match String.fromUTF8? (Utf8.withoutMark content) with
    | some text => .ok text
    | none => .error .notUtf8

/-- The texts of the layers of a configuration.  All of them are read before any is looked at. -/
def layerTexts (files : FileReader) : List String → Except ConfigError (List String)
  | [] => .ok []
  | path :: rest =>
    match (files path).bind String.fromUTF8? with
    | none => .error (.unreadable path)
    | some text =>
      match layerTexts files rest with
      | .error e => .error e
      | .ok rest => .ok (text :: rest)

/-- The merged document of a configuration. -/
def layers (files : FileReader) (paths : List String) : Except ConfigError LoadedConfig :=
  match files.layerTexts paths with
  | .error e => .error e
  | .ok texts => LoadedConfig.ofTexts texts

/-- The settings of a configuration. -/
def config (files : FileReader) (policy : UnusedKeyPolicy) (paths : List String) :
    Except IntakeError CheckConfig :=
  match files.layers paths with
  | .error e => .error (.config e)
  | .ok c => (c.settings policy).mapError .config

/-- A snapshot of the counters. -/
def counters (files : FileReader) (path : String) : Except IntakeError Snapshot :=
  match files.text path with
  | .error fault => .error (.countersUnread path fault)
  | .ok text => (Snapshot.read text).mapError (.counters path)

/-- The outcome of a run. -/
def outcome (files : FileReader) (path : String) : Except IntakeError RunOutcome :=
  match files.text path with
  | .error fault => .error (.outcomeUnread path fault)
  | .ok text =>
    match RunOutcome.read? text with
    | none => .error (.outcome path)
    | some o => if o.isContradictory then .error (.outcomeContradictory path) else .ok o

end FileReader
end LedgerCheck
