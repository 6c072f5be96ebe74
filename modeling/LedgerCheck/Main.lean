import LedgerCheck.Command.Arguments
import LedgerCheck.Remote.Wire
import Std.Async.DNS
import Std.Async.TCP
/-!
# The command line

Runs one command: reads the files it looks at, asks the servers it asks, prints what it prints, and
saves its report.  The exit code is 0 for success, 1 for a command that failed and 2 for a command
line that is none.

Servers are asked over plain connections, and each one once: redirects are not followed, and a reply
that is one is taken for the last reply.
-/

namespace LedgerCheck

/-! ## Files -/

/-- The content of a file, if it can be read. -/
def readContent (path : String) : IO (Option ByteArray) := do
  try
    return some (← IO.FS.readBinFile path)
  catch _ =>
    return none

/-- The content of the files at the given paths. -/
def readFiles (paths : List String) : IO FileReader := do
  let contents ← paths.mapM fun path => return (path, ← readContent path)
  return fun path => (contents.lookup path).join

/-- Writes a text beside a path and moves it there, in a directory that is made if need be. -/
def saveText (path text : String) : IO Unit := do
  let directory := (Path.ofText path).directory.text
  IO.FS.createDirAll directory
  let temporary := directory ++ "/.tmp" ++ toString (← IO.monoNanosNow)
  try
    IO.FS.writeBinFile temporary text.toUTF8
    IO.FS.rename temporary path
  catch e =>
    IO.FS.removeFile temporary
    throw e

/-- Saves the report of a closed run.  Failing to save it is only mentioned. -/
def saveClosing (closing : Closing) : IO Unit := do
  if closing.savePath = "" then return
  try
    saveText closing.savePath closing.result.fileText
  catch e =>
    IO.eprintln ("unable to save results: " ++ toString e)

/-! ## Servers -/

open Std.Net Std.Async

/-- A service of a host. -/
def socketAddress (service : UInt16) : IPAddr → SocketAddress
  | .v4 host => .v4 ⟨host, service⟩
  | .v6 host => .v6 ⟨host, service⟩

/-- All that a server sends until it hangs up. -/
partial def receive (connection : TCP.Socket.Client) (received : ByteArray) : Async ByteArray := do
  match ← connection.recv? 65536 with
  | some bytes => if bytes.isEmpty then return received else receive connection (received ++ bytes)
  | none => return received

/-- Sends a request to the first host of an address that takes it, and receives what comes back. -/
def send (request : ByteArray) (address : Address) : Async ByteArray := do
  let hosts ← DNS.getAddrInfo address.host ""
  let mut failure := IO.userError "unknown host"
  for host in hosts do
    try
      let connection ← TCP.Socket.Client.mk
      connection.connect (socketAddress address.service host)
      connection.send request
      return ← receive connection .empty
    catch e =>
      failure := e
  throw failure

/-- The reply to a request, or the reason why none was received. -/
def exchange (request : Request) : IO (Except String Reply) := do
  match Address.ofUrl? request.url with
  | none => return .error ("no address of a server: " ++ request.url)
  | some address =>
    try
      let received ← (send (request.wire address) address).block
      return (Reply.ofWire? received).elim (.error "incomplete reply") .ok
    catch e =>
      return .error (toString e)

/-- A server that cannot be reached. -/
def noServer : Server := fun _ => .error "no server can be reached"

/-- The replies to the given requests. -/
def askServers (requests : List Request) : IO Server := do
  let replies ← requests.mapM fun request => return (request, ← exchange request)
  return fun request => (replies.lookup request).getD (noServer request)

/-! ## Commands -/

/-- Carries out a command and gives its exit code.  Which requests a command makes does not depend
on the replies, so they are made before it is run. -/
def runCommand (command : Command) : IO UInt32 := do
  let files ← readFiles command.paths
  let stdout ← IO.getStdout
  let coloured ← stdout.isTty
  let server ← askServers (command.run files noServer coloured).requests
  let done := command.run files server coloured
  IO.print done.stdout
  stdout.flush
  for event in done.journal.events do
    IO.eprintln (event.lineWith Binary64.debugText)
  if let some closing := done.closing then
    saveClosing closing
  match done.failure with
  | none => return 0
  | some e =>
    IO.eprintln ("Error: " ++ e.message)
    return 1

/-- How the commands are given. -/
def usage : String :=
  String.intercalate "\n"
    ["usage:",
     "  config-hash PATH...",
     "  results --config PATH... [--counters PATH] [--outcome PATH] [--strict-config]",
     "  progress --config PATH... --counters PATH",
     "  status --url URL"]

end LedgerCheck

open LedgerCheck in
/-- Runs the command that the arguments ask for. -/
def main (arguments : List String) : IO UInt32 := do
  match Command.ofArguments? arguments with
  | some command => runCommand command
  | none =>
    IO.eprintln usage
    return 2
