import LedgerClient.Entity.Id

/-!
The arguments of the command line: which settings to use, and what to do.
-/

namespace LedgerClient.CommandLine

inductive Command where
  | balance (account : AccountId)
  | info (account : AccountId)
  | transfer (recipient : AccountId) (amount : Int64)
  | submitMessage (topic : TopicId) (message : String)
deriving DecidableEq

structure Arguments where
  settingsPath : String
  command : Command
deriving DecidableEq

/-- Why there is nothing to do: the user asked for help, or the arguments make no sense. -/
inductive UsageError where
  | helpWanted
  | nothingGiven
  | noCommand
  | unknownCommand (name : String)
  | unexpected (argument : String)
  | noPath
  | repeatedPath
  | missingArguments
  | invalid (value name reason : String)
deriving DecidableEq

namespace UsageError

def exitCode : UsageError → Nat
  | helpWanted => 0
  | _ => 2

/-- The first line of what the user gets to read. -/
def message : UsageError → String
  | helpWanted => ""
  | nothingGiven => "Submit transactions to and query a meridian ledger"
  | noCommand => "error: 'meridian' requires a subcommand but one was not provided"
  | unknownCommand name => s!"error: unrecognized subcommand '{name}'"
  | unexpected argument => s!"error: unexpected argument '{argument}' found"
  | noPath => "error: a value is required for '--config <CONFIG>' but none was supplied"
  | repeatedPath => "error: the argument '--config <CONFIG>' cannot be used multiple times"
  | missingArguments => "error: the following required arguments were not provided:"
  | invalid value name reason => s!"error: invalid value '{value}' for '<{name}>': {reason}"

end UsageError

/-! ## Flags -/

inductive Flag where
  | short (letter : Char)
  | long (name : String) (value : Option String)

/-- A dash makes a flag of what follows it, except where nothing does. -/
def flag? (argument : String) : Option Flag :=
  match argument.toList with
  | '-' :: '-' :: rest =>
      let value := match rest.dropWhile (· != '=') with
        | [] => none
        | _ :: value => some (String.ofList value)
      some (.long (String.ofList (rest.takeWhile (· != '='))) value)
  | '-' :: letter :: _ => some (.short letter)
  | _ => none

def Flag.text : Flag → String
  | short letter => String.ofList ['-', letter]
  | long name _ => "--" ++ name

def Flag.asksForHelp : Flag → Bool
  | short letter => letter == 'h'
  | long name value => name == "help" && value.isNone

def Flag.asksForVersion : Flag → Bool
  | short letter => letter == 'V'
  | long name value => name == "version" && value.isNone

/-! ## Values -/

def readAmount (isNegative : Bool) (value : Int) : List Char → Except String Int
  | [] => .ok value
  | letter :: rest =>
      if Decimal.isDigit letter then
        let digit : Int := Decimal.value [letter]
        let next := if isNegative then value * 10 - digit else value * 10 + digit
        if Int64.maxValue.toInt < next then .error "number too large to fit in target type"
        else if next < Int64.minValue.toInt then .error "number too small to fit in target type"
        else readAmount isNegative next rest
      else .error "invalid digit found in string"

/-- A number with or without a sign. -/
def amount (text : String) : Except String Int64 := do
  let signed (isNegative : Bool) (digits : List Char) : Except String Int64 :=
    if digits.isEmpty then .error "invalid digit found in string"
    else (readAmount isNegative 0 digits).map Int64.ofInt
  match text.toList with
  | [] => throw "cannot parse integer from empty string"
  | '-' :: digits => signed true digits
  | '+' :: digits => signed false digits
  | digits => signed false digits

def entity (kind : EntityKind) (text : String) : Except String (EntityId kind) :=
  (EntityId.parse kind text).mapError IdError.message

/-- A value that is wanted, with the reading that it has to pass. -/
structure Wanted where
  name : String
  check : String → Except String Unit

def Wanted.of {α : Type} (name : String) (read : String → Except String α) : Wanted where
  name := name
  check text := (read text).map fun _ => ()

def value {α : Type} (name : String) (read : String → Except String α) (text : String) :
    Except UsageError α :=
  (read text).mapError (.invalid text name)

def checkLast (wanted : List Wanted) (taken : List String) : Except UsageError Unit :=
  match taken.getLast?, wanted[taken.length - 1]? with
  | some text, some last => value last.name last.check text
  | _, _ => .ok ()

/-- The values behind a command. Each is checked when the next one comes or when there are no more;
behind two dashes nothing is a flag. -/
def takeValues (wanted : List Wanted) (taken : List String) (noFlags : Bool) :
    List String → Except UsageError (List String)
  | [] => do
      checkLast wanted taken
      if taken.length < wanted.length then throw .missingArguments else return taken
  | argument :: rest =>
      if argument = "--" && !noFlags then takeValues wanted taken true rest
      else
        match if noFlags then none else flag? argument with
        | some flag => do
            if flag.asksForHelp then
              checkLast wanted taken
              throw .helpWanted
            else throw (.unexpected flag.text)
        | none => do
            if taken.length < wanted.length then
              checkLast wanted taken
              takeValues wanted (taken ++ [argument]) noFlags rest
            else throw (.unexpected argument)

/-! ## Commands -/

def readCommand (name : String) (rest : List String) : Except UsageError Command := do
  let account := entity .account
  let topic := entity .topic
  let any := fun text : String => (Except.ok text : Except String String)
  match name with
  | "balance" =>
      match ← takeValues [.of "ACCOUNT" account] [] false rest with
      | [given] => return .balance (← value "ACCOUNT" account given)
      | _ => throw .missingArguments
  | "info" =>
      match ← takeValues [.of "ACCOUNT" account] [] false rest with
      | [given] => return .info (← value "ACCOUNT" account given)
      | _ => throw .missingArguments
  | "transfer" =>
      match ← takeValues [.of "TO" account, .of "AMOUNT" amount] [] false rest with
      | [recipient, moved] =>
          return .transfer (← value "TO" account recipient) (← value "AMOUNT" amount moved)
      | _ => throw .missingArguments
  | "submit-message" =>
      match ← takeValues [.of "TOPIC" topic, .of "MESSAGE" any] [] false rest with
      | [given, message] => return .submitMessage (← value "TOPIC" topic given) message
      | _ => throw .missingArguments
  | _ => throw (.unknownCommand name)

def commandNames : List String :=
  ["balance", "info", "transfer", "submit-message", "help"]

def readHelp : List String → UsageError
  | [] => .helpWanted
  | name :: _ => if commandNames.contains name then .helpWanted else .unknownCommand name

/-- The arguments in front of the command, and the command. -/
def readArguments (path : Option String) : List String → Except UsageError Arguments
  | [] => .error (if path.isSome then .noCommand else .nothingGiven)
  | argument :: rest =>
      match flag? argument, rest with
      | none, rest => do
          if argument = "help" then throw (readHelp rest)
          return { settingsPath := path.getD "meridian.yaml", command := ← readCommand argument rest }
      | some (.long "" none), [] => .error (if path.isSome then .noCommand else .nothingGiven)
      | some (.long "" none), next :: _ =>
          .error (if commandNames.contains next then .unexpected next else .unknownCommand next)
      | some (.long "config" none), [] => .error .noPath
      | some (.long "config" none), next :: behind =>
          if (flag? next).isSome then .error .noPath
          else if path.isSome then .error .repeatedPath
          else if next = "" then .error .noPath
          else readArguments (some next) behind
      | some (.long "config" (some given)), rest =>
          if path.isSome then .error .repeatedPath
          else if given = "" then .error .noPath
          else readArguments (some given) rest
      | some flag, _ =>
          .error (if flag.asksForHelp || flag.asksForVersion then .helpWanted
            else .unexpected flag.text)

def Arguments.parse (arguments : List String) : Except UsageError Arguments :=
  readArguments none arguments

end LedgerClient.CommandLine
