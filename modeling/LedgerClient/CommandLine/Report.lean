import LedgerClient.CommandLine.Arguments
import LedgerClient.Http.Exchange
import LedgerClient.Query.Basic
import LedgerClient.Settings.Document
import LedgerClient.Settings.Validated

/-!
What the program does with its arguments: the lines it prints, the calls it makes, and how it ends.
All of it follows from the arguments, the settings file, the replies of the nodes and the source of
fresh ids.
-/

namespace LedgerClient.CommandLine

/-- What was tried, and why it failed. Each cause is followed by its own cause. -/
structure Failure where
  context : String
  causes : List String
deriving DecidableEq

namespace Failure

def indented (first : String) (text : String) : String :=
  let spaces := String.ofList ('\n' :: List.replicate first.length ' ')
  first ++ spaces.intercalate (text.splitOn "\n")

/-- Several causes are numbered from zero. -/
def numbered (number : Nat) : List String → String
  | [] => ""
  | cause :: rest =>
      let label := toString number
      let spaces := String.ofList (List.replicate (5 - label.length) ' ')
      "\n" ++ indented (spaces ++ label ++ ": ") cause ++ numbered (number + 1) rest

def text (failure : Failure) : String :=
  "Error: " ++ failure.context ++ match failure.causes with
    | [] => ""
    | [cause] => "\n\nCaused by:\n" ++ indented "    " cause
    | causes => "\n\nCaused by:" ++ numbered 0 causes

end Failure

/-! ## Commands -/

/-- The lines that a command printed, why it failed if it did, and the world after it. -/
structure Ending where
  lines : List String
  failure : Option Failure
  world : World

namespace Ending

def ofResult {α : Type} (context : String) (lines : α → List String)
    (result : Except Error α × World) : Ending :=
  match result with
  | (.ok value, world) => { lines := lines value, failure := none, world }
  | (.error error, world) =>
      { lines := [], failure := some { context, causes := error.chain }, world }

end Ending

def transferPayload (sender recipient : AccountId) (amount : Int64) : Payload :=
  .transfer (Transfers.ofEntries
    [{ account := sender, amount := Amount.negated amount }, { account := recipient, amount }])

def balance (client : Client) (world : World) (account : AccountId) : Ending :=
  Ending.ofResult "balance query failed"
    (fun found : AccountBalance => [s!"{found.account.text} {found.balance.toNat}"])
    ((Query.ofData (.balance account)).execute QueryAnswer.balance? client world)

def info (client : Client) (world : World) (account : AccountId) : Ending :=
  Ending.ofResult "info query failed" (fun found : AccountInfo => [found.inspect.lines 0])
    ((Query.ofData (.info account)).execute QueryAnswer.info? client world)

def transfer (client : Client) (world : World) (recipient : AccountId) (amount : Int64) : Ending :=
  match client.operator with
  | none =>
      let failure := { context := "transfer needs an operator in the config", causes := [] }
      { lines := [], failure := some failure, world }
  | some operator =>
      let payload := transferPayload operator.account recipient amount
      let sent := (Transaction.ofPayload payload).execute client world
      match sent.result with
      | .error error => Ending.ofResult "transfer failed" (fun _ : Unit => []) (.error error, sent.world)
      | .ok response =>
          Ending.ofResult "transfer did not succeed"
            (fun receipt => [s!"{response.id.text} {receipt.status.text}"])
            (response.successfulReceipt client sent.world)

def recordedLines (client : Client) (world : World) : List TransactionResponse → Ending
  | [] => { lines := [], failure := none, world }
  | response :: rest =>
      match response.successfulReceipt client world with
      | (.error error, world) =>
          Ending.ofResult "message was not recorded" (fun _ : Unit => []) (.error error, world)
      | (.ok receipt, world) =>
          let later := recordedLines client world rest
          let line := s!"{response.id.text} sequence {receipt.topicSequenceNumber.toNat}"
          { later with lines := line :: later.lines }

def submitMessage (client : Client) (world : World) (topic : TopicId) (message : String) : Ending :=
  let payload := .topicMessageSubmit topic (Bytes.ofText message)
  let sent := (Transaction.ofPayload payload).executeAll client world
  match sent.result with
  | .error error =>
      Ending.ofResult "message submission failed" (fun _ : Unit => []) (.error error, sent.world)
  | .ok responses => recordedLines client sent.world responses

def Command.run (command : Command) (client : Client) (world : World) : Ending :=
  match command with
  | .balance account => CommandLine.balance client world account
  | .info account => CommandLine.info client world account
  | .transfer recipient amount => CommandLine.transfer client world recipient amount
  | .submitMessage topic message => CommandLine.submitMessage client world topic message

/-! ## Runs -/

/-- What a run depends on besides its arguments: files, or why they cannot be read; the outcomes of
calls in order, and of those after them; and fresh ids. -/
structure Surroundings where
  file : String → Except String String
  replies : List Reply
  exhausted : Reply
  ids : IdSource

/-- What a run prints and how it ends, with its calls and the requests that they send. -/
structure Report where
  exitCode : Nat
  output : String
  errorText : String
  calls : List (Call × HttpRequest)

namespace Report

def failed (failure : Failure) : Report :=
  { exitCode := 1, output := "", errorText := failure.text ++ "\n", calls := [] }

def requestOf (network : Network) (call : Call) : Option (Call × HttpRequest) := do
  let node ← network.node? call.node
  match HttpRequest.ofCall node.address call.method call.request with
  | .ok request => return (call, request)
  | .error _ => none

def ofEnding (ending : Ending) : Report where
  exitCode := if ending.failure.isSome then 1 else 0
  output := String.join (ending.lines.map (· ++ "\n"))
  errorText := ending.failure.elim "" fun failure => failure.text ++ "\n"
  calls := ending.world.calls.filterMap (requestOf ending.world.network)

end Report

def setUp (surroundings : Surroundings) (path : String) : Except Failure (Client × Network) := do
  let contents ← (surroundings.file path).mapError fun cause =>
    { context := s!"failed to read {path}", causes := [cause] }
  let settings ← (Settings.ofText contents).mapError fun error =>
    { context := "failed to parse config", causes := error.chain }
  let valid ← settings.validate.mapError fun error =>
    { context := "invalid config", causes := error.chain }
  (Client.ofSettings valid).mapError fun error =>
    { context := "failed to build client", causes := error.chain }

def run (surroundings : Surroundings) (arguments : List String) : Report :=
  match Arguments.parse arguments with
  | .error error =>
      let text := if error.message = "" then "" else error.message ++ "\n"
      { exitCode := error.exitCode, output := "", errorText := text, calls := [] }
  | .ok { settingsPath, command } =>
      match setUp surroundings settingsPath with
      | .error failure => Report.failed failure
      | .ok (client, network) =>
          Report.ofEnding (command.run client
            { now := .start, network, replies := surroundings.replies
              exhausted := surroundings.exhausted, calls := [], ids := surroundings.ids })

end LedgerClient.CommandLine
