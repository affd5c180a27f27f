import LedgerClient.Yaml.Token

/-!
The nodes of a document: scalars, sequences, mappings, and aliases of nodes that have an anchor.
-/

namespace LedgerClient.Yaml

/-- Anchors are numbered. An alias has the number of the anchor that its name stood for. -/
inductive Node where
  | scalar (anchor : Option Nat) (tag : Option String) (style : Style) (text : String)
  | sequence (anchor : Option Nat) (items : List Node)
  | mapping (anchor : Option Nat) (pairs : List (Node × Node))
  | alias (anchor : Nat)

def Node.nothing : Node :=
  .scalar none none .plain ""

/-- The tokens that are left, the leads of the handles of tags, and the numbers of the anchors so
far by name. -/
structure Pending where
  tokens : List Token
  leads : List (String × String)
  anchors : List (String × Nat)

abbrev Reading := StateT Pending (Except YamlError)

namespace Reading

def peek : Reading (Option Token) :=
  return (← get).tokens.head?

def advance : Reading Unit :=
  modify fun pending => { pending with tokens := pending.tokens.drop 1 }

def accepts (token : Token) : Reading Bool := do
  if (← peek) = some token then
    advance
    return true
  else return false

def expect (token : Token) : Reading Unit := do
  if !(← accepts token) then throw .unexpectedToken

def nextIsOneOf (tokens : List Token) : Reading Bool :=
  return (← peek).all tokens.contains

/-! ## Properties of nodes -/

/-- An anchor has as its number how many names there are before it. A name that is declared again
stands for the later node. -/
def declareAnchor (name : String) : Reading Nat :=
  modifyGet fun pending =>
    let number := pending.anchors.length
    (number, { pending with
      anchors := (name, number) :: pending.anchors.filter (·.1 != name) })

def anchorOf (name : String) : Reading Nat := do
  match (← get).anchors.lookup name with
  | some number => return number
  | none => throw .unknownName

def resolveTag (tag : Tag) : Reading String := do
  if tag.handle = "" then return tag.suffix
  else
    match (← get).leads.lookup tag.handle with
    | some lead => return lead ++ tag.suffix
    | none => throw .unknownName

def readAnchor : Reading (Option String) := do
  match ← peek with
  | some (.anchor name) =>
      advance
      return some name
  | _ => return none

def readTag : Reading (Option Tag) := do
  match ← peek with
  | some (.tag tag) =>
      advance
      return some tag
  | _ => return none

/-- An anchor and a tag in either order. -/
def readProperties : Reading (Option String × Option Tag) := do
  match ← readAnchor with
  | some name => return (some name, ← readTag)
  | none =>
      match ← readTag with
      | some tag => return (← readAnchor, some tag)
      | none => return (none, none)

/-! ## Nodes -/

/-- Where a node stands. Between brackets there are no blocks. As a key or value of a block the
entries of a sequence need no block of their own. -/
inductive Context where
  | block
  | blockPair
  | flow
deriving DecidableEq

mutual

def readNode : Nat → Context → Reading Node
  | 0, _ => throw .unexpectedToken
  | fuel + 1, context => do
      if let some (.alias name) ← peek then
        advance
        return .alias (← anchorOf name)
      let (name, tag) ← readProperties
      let tag ← tag.mapM resolveTag
      let anchor ← name.mapM declareAnchor
      match ← peek with
      | some (.scalar style text) =>
          advance
          return .scalar anchor tag style text
      | some .bracketStart =>
          advance
          return .sequence anchor (← readItems fuel true)
      | some .braceStart =>
          advance
          return .mapping anchor (← readFlowPairs fuel true)
      | some .sequenceStart =>
          if context = .flow then readNothing anchor tag name.isSome
          else
            advance
            let items ← readEntries fuel [.entry, .blockEnd]
            expect .blockEnd
            return .sequence anchor items
      | some .mappingStart =>
          if context = .flow then readNothing anchor tag name.isSome
          else
            advance
            return .mapping anchor (← readPairs fuel)
      | some .entry =>
          if context = .blockPair then
            return .sequence anchor (← readEntries fuel [.entry, .key, .value, .blockEnd])
          else readNothing anchor tag name.isSome
      | _ => readNothing anchor tag name.isSome

def readNothing (anchor : Option Nat) (tag : Option String) (isNamed : Bool) : Reading Node := do
  if isNamed || tag.isSome then return .scalar anchor tag .plain "" else throw .unexpectedToken

/-- A node, unless one of the tokens behind it comes at once. -/
def readOptional : Nat → Context → List Token → Reading Node
  | 0, _, _ => throw .unexpectedToken
  | fuel + 1, context, following => do
      if ← nextIsOneOf following then return .nothing else readNode fuel context

/-- The entries of a sequence, as long as each begins with its mark. -/
def readEntries : Nat → List Token → Reading (List Node)
  | 0, _ => throw .unexpectedToken
  | fuel + 1, following => do
      if ← accepts .entry then
        let item ← readOptional fuel .block following
        return item :: (← readEntries fuel following)
      else return []

def readPairs : Nat → Reading (List (Node × Node))
  | 0 => throw .unexpectedToken
  | fuel + 1 => do
      if ← accepts .blockEnd then return []
      expect .key
      let key ← readOptional fuel .blockPair [.key, .value, .blockEnd]
      let value ← readValue fuel .blockPair [.key, .value, .blockEnd]
      return (key, value) :: (← readPairs fuel)

/-- The value of a pair, which may be left out together with its colon. -/
def readValue : Nat → Context → List Token → Reading Node
  | 0, _, _ => throw .unexpectedToken
  | fuel + 1, context, following => do
      if ← accepts .value then readOptional fuel context following else return .nothing

/-- The items in square brackets, with commas between them. A single pair is an item too. -/
def readItems : Nat → (isFirst : Bool) → Reading (List Node)
  | 0, _ => throw .unexpectedToken
  | fuel + 1, isFirst => do
      if ← accepts .bracketEnd then return []
      if !isFirst then
        expect .comma
        if ← accepts .bracketEnd then return []
      let item ← if ← accepts .key then readSinglePair fuel else readNode fuel .flow
      return item :: (← readItems fuel false)

/-- A pair without braces. Where its key is left out, the token behind the mark is passed over. -/
def readSinglePair : Nat → Reading Node
  | 0 => throw .unexpectedToken
  | fuel + 1 => do
      if ← nextIsOneOf [.value, .comma, .bracketEnd] then
        advance
        let value ← readValue fuel .flow [.comma, .bracketEnd]
        return .mapping none [(.nothing, value)]
      else
        let key ← readNode fuel .flow
        let value ← readValue fuel .flow [.comma, .bracketEnd]
        return .mapping none [(key, value)]

/-- The pairs in braces, with commas between them. -/
def readFlowPairs : Nat → (isFirst : Bool) → Reading (List (Node × Node))
  | 0, _ => throw .unexpectedToken
  | fuel + 1, isFirst => do
      if ← accepts .braceEnd then return []
      if !isFirst then
        expect .comma
        if ← accepts .braceEnd then return []
      let pair ← if ← accepts .key then do
          let key ← readOptional fuel .flow [.value, .comma, .braceEnd]
          let value ← readValue fuel .flow [.comma, .braceEnd]
          pure (key, value)
        else do
          let key ← readNode fuel .flow
          pure (key, .nothing)
      return pair :: (← readFlowPairs fuel false)

end

/-! ## Documents -/

/-- The leads of handles that need no directive. -/
def standardLeads : List (String × String) :=
  [("!", "!"), ("!!", "tag:yaml.org,2002:")]

def directiveOf? : Token → Option Directive
  | .directive directive => some directive
  | _ => none

def versionsOf (directives : List Directive) : List (Nat × Nat) :=
  directives.filterMap fun
    | .version major minor => some (major, minor)
    | .handle .. => none

def leadsOf (directives : List Directive) : List (String × String) :=
  directives.filterMap fun
    | .version .. => none
    | .handle name lead => some (name, lead)

def hasRepeats : List String → Bool
  | [] => false
  | name :: rest => rest.contains name || hasRepeats rest

/-- Directives in front of a document: at most one version, which has to be 1.1 or 1.2, and each
handle at most once. The start of the document has to be marked behind them. -/
def readDirectives : Reading Unit := do
  let directives := ((← get).tokens.map directiveOf?).takeWhile Option.isSome |>.reduceOption
  if !directives.isEmpty then
    let versions := versionsOf directives
    let leads := leadsOf directives
    if 1 < versions.length || !versions.all [(1, 1), (1, 2)].contains
        || hasRepeats (leads.map Prod.fst) then
      throw .badDirective
    modify fun pending =>
      { pending with tokens := pending.tokens.drop directives.length, leads := leads ++ pending.leads }
    if (← peek) != some .documentStart then throw .unexpectedToken

def skipEnds : Reading Unit :=
  modify fun pending => { pending with tokens := pending.tokens.dropWhile (· = .documentEnd) }

def readDocument : Reading Node := do
  let fuel := 4 * (← get).tokens.length + 4
  readDirectives
  let isMarked ← accepts .documentStart
  let node ← readOptional fuel .block (if isMarked then [.documentEnd] else [])
  skipEnds
  match ← peek with
  | none => return node
  | some _ => throw .otherDocument

end Reading

/-- The node of the one document in a text. A text without any holds an empty scalar. -/
def Node.ofText (text : String) : Except YamlError Node := do
  let all ← tokens text
  let (node, _) ← Reading.readDocument.run
    { tokens := all, leads := Reading.standardLeads, anchors := [] }
  return node

end LedgerClient.Yaml
