import LedgerClient.Url.Basic

/-!
Reading URLs and resolving relative references against them. How the names of hosts are brought into
ASCII is left to whoever reads.
-/

namespace LedgerClient.Url

variable (rules : Domain.Rules)

/-- The letters of a reference without blanks around it, and without tabs and line ends in it. -/
def cleaned (text : String) : List Char :=
  let trimmed := (text.toList.dropWhile (· ≤ ' ')).reverse.dropWhile (· ≤ ' ')
  trimmed.reverse.filter fun letter => letter != '\t' && letter != '\n' && letter != '\r'

def isAsciiLetter (letter : Char) : Bool :=
  ('a' ≤ letter && letter ≤ 'z') || ('A' ≤ letter && letter ≤ 'Z')

def isSchemeLetter (letter : Char) : Bool :=
  isAsciiLetter letter || Decimal.isDigit letter || letter == '+' || letter == '-' || letter == '.'

/-- The scheme in lower case, and what follows its colon. -/
def splitScheme (letters : List Char) : Option (String × List Char) :=
  match letters, letters.dropWhile isSchemeLetter with
  | first :: _, ':' :: rest =>
      if isAsciiLetter first then
        some (String.ofList ((letters.takeWhile isSchemeLetter).map Domain.lowered), rest)
      else none
  | _, _ => none

def isSlash (web : Bool) (letter : Char) : Bool :=
  letter == '/' || (web && letter == '\\')

def isEnd (letter : Char) : Bool :=
  letter == '?' || letter == '#'

/-! ## Query and fragment -/

/-- What follows a path: a query up to a number sign, and the fragment behind it. -/
def readTail (web : Bool) (letters : List Char) : Option String × Option String :=
  let plain := if web then Percent.plainInWebQuery else Percent.plainInQuery
  let fragment := match letters.dropWhile (· != '#') with
    | [] => none
    | _ :: rest => some (Percent.encode Percent.plainInFragment rest)
  let query := match letters with
    | '?' :: rest => some (Percent.encode plain (rest.takeWhile (· != '#')))
    | _ => none
  (query, fragment)

def withTail (url : Url) (letters : List Char) : Url :=
  let tail := readTail (isWeb url.scheme) letters
  { url with query := tail.1, fragment := tail.2 }

/-! ## Paths -/

def isSingleDot (segment : String) : Bool :=
  [".", "%2e", "%2E"].contains segment

def isDoubleDot (segment : String) : Bool :=
  ["..", "%2e%2e", "%2e%2E", "%2E%2e", "%2E%2E", "%2e.", "%2E.", ".%2e", ".%2E"].contains segment

/-- The path after `names` is followed by segments: a single dot stays in place and two dots go one
up, and either at the end leaves an empty segment behind. -/
def walk (names : List String) : List String → List String
  | [] => names
  | [last] =>
      if isDoubleDot last then names.dropLast ++ [""]
      else if isSingleDot last then names ++ [""]
      else names ++ [last]
  | segment :: rest =>
      if isDoubleDot segment then walk names.dropLast rest
      else if isSingleDot segment then walk names rest
      else walk (names ++ [segment]) rest

def splitSlashes (web : Bool) : List Char → List (List Char)
  | [] => [[]]
  | letter :: rest =>
      match splitSlashes web rest with
      | [] => [[letter]]
      | first :: others =>
          if isSlash web letter then [] :: first :: others else (letter :: first) :: others

def readPath (url : Url) (names : List String) (letters : List Char) : Url :=
  let web := isWeb url.scheme
  let pieces := splitSlashes web (letters.takeWhile (!isEnd ·))
  withTail { url with path := .segments (walk names (pieces.map (Percent.encode Percent.plainInPath))) }
    (letters.dropWhile (!isEnd ·))

/-- The path after an authority or a slash at the front. On the web it is never empty. -/
def readRootedPath (url : Url) (letters : List Char) : Url :=
  match letters with
  | [] => if isWeb url.scheme then readPath url [] [] else url
  | letter :: rest =>
      if isSlash (isWeb url.scheme) letter then readPath url [] rest
      else if isEnd letter && !isWeb url.scheme then withTail url letters
      else readPath url [] letters

/-! ## Authority -/

/-- The letters before the last at sign, if there is one, and those behind it. -/
def splitUser (authority : List Char) : Option (List Char × List Char) :=
  if authority.contains '@' then
    let host := (authority.reverse.takeWhile (· != '@')).reverse
    some (authority.take (authority.length - host.length - 1), host)
  else none

/-- The first colon outside brackets divides host and port. -/
def splitPort : (inside : Bool) → List Char → List Char × Option (List Char)
  | _, [] => ([], none)
  | inside, letter :: rest =>
      if letter == ':' && !inside then ([], some rest)
      else
        let (host, port) := splitPort (letter == '[' || (inside && letter != ']')) rest
        (letter :: host, port)

def readPort (scheme : String) (digits : List Char) : Except UrlError (Option Nat) :=
  if digits.isEmpty then .ok none
  else if digits.all Decimal.isDigit && Decimal.value digits ≤ 65535 then
    .ok (if defaultPort scheme = some (Decimal.value digits) then none
      else some (Decimal.value digits))
  else .error .invalidPort

/-- Only schemes outside the web can do without a host, and then also without a port. -/
def readHost (scheme : String) (letters : List Char) : Except UrlError (Option Host × Option Nat) := do
  let (hostLetters, portLetters) := splitPort false letters
  if hostLetters.isEmpty && (isWeb scheme || portLetters.isSome) then throw .emptyHost
  let host ← Host.parse rules (isWeb scheme) hostLetters
  match portLetters with
  | none => return (some host, none)
  | some digits => return (some host, ← readPort scheme digits)

def plain (scheme : String) : Url where
  scheme := scheme
  user := ""
  password := none
  host := none
  port := none
  path := .segments []
  query := none
  fragment := none

/-- A name before a colon and a password behind it. -/
def withUser (url : Url) (letters : List Char) : Url :=
  let password := (letters.dropWhile (· != ':')).drop 1
  { url with
    user := Percent.encode Percent.plainInUser (letters.takeWhile (· != ':'))
    password := if password.isEmpty then none
      else some (Percent.encode Percent.plainInUser password) }

/-- What follows the two slashes behind a scheme. -/
def readAuthority (scheme : String) (letters : List Char) : Except UrlError Url := do
  let inAuthority := fun letter => !isSlash (isWeb scheme) letter && !isEnd letter
  let authority := letters.takeWhile inAuthority
  let rest := letters.dropWhile inAuthority
  let (url, hostLetters) ←
    match splitUser authority with
    | none => pure (plain scheme, authority)
    | some (user, host) =>
        if host.isEmpty && !(user.isEmpty && rest.isEmpty) then throw .emptyHost
        pure (withUser (plain scheme) user, host)
  let (host, port) ← readHost rules scheme hostLetters
  return readRootedPath { url with host, port } rest

/-! ## Whole references -/

def isDrive : List Char → Bool
  | [letter, mark] => isAsciiLetter letter && (mark == ':' || mark == '|')
  | _ => false

/-- The path of a file. A drive letter in front stays there, without a host; no path begins with
empty segments. -/
def readFilePath (host : String) (letters : List Char) : Url :=
  let path := letters.takeWhile (!isEnd ·)
  let pieces := splitSlashes true
    (if (path.take 1).any (isSlash true) then path.drop 1 else path)
  let encode := List.map (Percent.encode Percent.plainInPath)
  let (host, names) :=
    match pieces with
    | first :: rest =>
        if isDrive first then
          ("", String.ofList (first.take 1 ++ [':'])
            :: (if rest.isEmpty then [] else walk [] (encode rest)))
        else (host, walk [] (encode pieces))
    | [] => (host, [""])
  let named := names.dropWhile (· = "")
  withTail
    { plain "file" with
      host := some (.name host)
      path := .segments (if named.isEmpty then [""] else named) }
    (letters.dropWhile (!isEnd ·))

/-- A file may name a host other than this one; a drive letter in its place begins the path. -/
def readFile (letters : List Char) : Except UrlError Url := do
  let rest := letters.drop 2
  let inHost := fun letter => !isSlash true letter && !isEnd letter
  let host := rest.takeWhile inHost
  if letters.length < 2 || !(letters.take 2).all (isSlash true) then return readFilePath "" letters
  else if host.isEmpty || isDrive host then return readFilePath "" rest
  else
    let host := (← Host.parse rules true host).text
    return readFilePath (if host = "localhost" then "" else host) (rest.dropWhile inHost)

/-- A URL whose scheme is neither of the web nor of files. -/
def readOther (scheme : String) (letters : List Char) : Except UrlError Url :=
  match letters with
  | '/' :: '/' :: rest => readAuthority rules scheme rest
  | '/' :: rest => .ok (readPath (plain scheme) [] rest)
  | _ =>
      .ok (withTail
        { plain scheme with
          path := .opaqueText (Percent.encode Percent.plainInControls (letters.takeWhile (!isEnd ·))) }
        (letters.dropWhile (!isEnd ·)))

/-- A reference without a scheme, resolved against `base`. -/
def resolve (base : Url) (letters : List Char) : Except UrlError Url :=
  let web := isWeb base.scheme
  match base.path, letters with
  | .opaqueText _, '#' :: _ => .ok { base with fragment := (readTail web letters).2 }
  | .opaqueText _, _ => .error .relativeToOpaque
  | .segments _, [] => .ok { base with fragment := none }
  | .segments _, '?' :: _ => .ok (withTail base letters)
  | .segments _, '#' :: _ => .ok { base with fragment := (readTail web letters).2 }
  | .segments names, first :: rest =>
      if isSlash web first then
        match rest with
        | second :: _ =>
            if isSlash web second then
              readAuthority rules base.scheme
                (if web then rest.dropWhile (isSlash web) else rest.drop 1)
            else .ok (readPath base [] rest)
        | [] => .ok (readPath base [] rest)
      else .ok (readPath base names.dropLast letters)

/-- A reference, which may be relative if there is a base. On the web any number of slashes may
follow a scheme, and without two of them the rest is relative to a base of the same scheme. -/
def read (base : Option Url) (text : String) : Except UrlError Url :=
  let letters := cleaned text
  match splitScheme letters, base with
  | some (scheme, rest), _ =>
      if scheme = "file" then readFile rules rest
      else if isWeb scheme then
        match base with
        | some base =>
            if base.scheme = scheme ∧ (rest.takeWhile (isSlash true)).length < 2 then
              resolve rules base rest
            else readAuthority rules scheme (rest.dropWhile (isSlash true))
        | none => readAuthority rules scheme (rest.dropWhile (isSlash true))
      else readOther rules scheme rest
  | none, some base => resolve rules base letters
  | none, none => .error .relativeWithoutBase

def parse (text : String) (rules : Domain.Rules := .tableless) : Except UrlError Url :=
  read rules none text

def join (base : Url) (reference : String) (rules : Domain.Rules := .tableless) :
    Except UrlError Url :=
  read rules (some base) reference

end LedgerClient.Url
