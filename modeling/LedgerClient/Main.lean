import LedgerClient.CommandLine.Report
import LedgerClient.Http.Relay
import Std.Time.DateTime.Timestamp

/-!
The program. It opens no connections of its own: each request is a line on the standard output, and
the reply to it is the next line of the standard input. What to send next is found by running the
command again on the replies that came so far.
-/

namespace LedgerClient.Program

def readSettings (path : String) : IO (Except String String) := do
  try
    let contents ← IO.FS.readBinFile path
    match String.fromUTF8? contents with
    | some text => return .ok text
    | none => return .error "stream did not contain valid UTF-8"
  catch
    | .noFileOrDirectory .. => return .error "No such file or directory (os error 2)"
    | error => return .error (toString error)

/-- Ids that start now, told apart by numbers that begin at random. -/
def idSource : IO IdSource := do
  let now ← Std.Time.Timestamp.now
  let nanos := now.toNanosecondsSinceUnixEpoch.toInt.toNat
  let seed ← IO.rand 0 UInt32.size
  let moment : Timestamp :=
    { seconds := UInt64.ofNat (nanos / 1000000000), nanos := UInt32.ofNat (nanos % 1000000000) }
  return { moments := fun _ => moment, draws := fun used => seed + used * 7368787, used := 0 }

def exchange (request : HttpRequest) : IO Reply := do
  let output ← IO.getStdout
  let sent ← IO.monoMsNow
  output.putStrLn request.line
  output.flush
  let reply := HttpReply.ofLine? (← (← IO.getStdin).getLine)
  return Reply.ofHttp reply (Duration.ofMillis ((← IO.monoMsNow) - sent))

partial def converse (start : Nat) (surroundings : CommandLine.Surroundings)
    (arguments : List String) : IO CommandLine.Report := do
  let report := CommandLine.run surroundings arguments
  match report.calls[surroundings.replies.length]? with
  | none => return report
  | some (call, request) =>
      let elapsed := (← IO.monoMsNow) - start
      IO.sleep (UInt32.ofNat (call.time.nanos / 1000000 - elapsed))
      let reply ← exchange request
      converse start { surroundings with replies := surroundings.replies ++ [reply] } arguments

end LedgerClient.Program

open LedgerClient Program

def main (arguments : List String) : IO UInt32 := do
  let contents ← match CommandLine.Arguments.parse arguments with
    | .ok parsed => readSettings parsed.settingsPath
    | .error _ => pure (.error "")
  let surroundings : CommandLine.Surroundings :=
    { file := fun _ => contents, replies := [], exhausted := .silent, ids := ← idSource }
  let report ← converse (← IO.monoMsNow) surroundings arguments
  IO.print report.output
  IO.eprint report.errorText
  return UInt32.ofNat report.exitCode
