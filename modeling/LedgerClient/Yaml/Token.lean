import LedgerClient.Yaml.Property

/-!
The tokens of a document. Brackets, commas and scalars stand in the text; where a block begins or
ends is told by indentation, and what is a key only by the colon behind it.
-/

namespace LedgerClient.Yaml

inductive Token where
  | directive (directive : Directive)
  | documentStart
  | documentEnd
  | sequenceStart
  | mappingStart
  | blockEnd
  | bracketStart
  | bracketEnd
  | braceStart
  | braceEnd
  | entry
  | comma
  | key
  | value
  | alias (name : String)
  | anchor (name : String)
  | tag (tag : Tag)
  | scalar (style : Style) (text : String)
deriving DecidableEq

/-- A place at which a key may have begun, with the number of tokens before it. A required key has to
be one: nothing else can stand where it stands. -/
structure PossibleKey where
  count : Nat
  isRequired : Bool
  index : Nat
  line : Nat
  column : Nat

/-- The state of reading tokens. `tokens` has the latest first. `indentations` are the columns of the
open blocks from the innermost out, and `keys` has the possible key of each open bracket and of the
text outside all brackets. -/
structure Layout where
  cursor : Cursor
  tokens : List Token
  indentations : List Nat
  keys : List (Option PossibleKey)
  allowsKey : Bool

namespace Layout

def start (letters : List Char) : Layout where
  cursor := Cursor.start letters
  tokens := []
  indentations := []
  keys := [none]
  allowsKey := true

def inFlow (layout : Layout) : Bool :=
  1 < layout.keys.length

/-- The first column that belongs to the innermost open block, if a line starts there. -/
def margin (layout : Layout) : Nat :=
  match layout.indentations with
  | [] => 0
  | column :: _ => column + 1

def push (layout : Layout) (token : Token) : Layout :=
  { layout with tokens := token :: layout.tokens }

def insertAt (layout : Layout) (count : Nat) (token : Token) : Layout :=
  let later := layout.tokens.length - count
  { layout with tokens := layout.tokens.take later ++ token :: layout.tokens.drop later }

/-! ## Gaps -/

/-- Skips blanks, comments and line ends. Tabs count as blanks only where no key can begin. Outside
brackets a new line may begin with a key. -/
def skipGap : Nat → Layout → Layout
  | 0, layout => layout
  | fuel + 1, layout =>
      let isSpace := fun letter =>
        letter == ' ' || (letter == '\t' && (layout.inFlow || !layout.allowsKey))
      let word := layout.cursor.skipWhile isSpace
      let word := if startsWith (· == '#') word.rest then word.skipLine else word
      if startsWith isBreak word.rest then
        skipGap fuel
          { layout with cursor := word.next, allowsKey := layout.allowsKey || !layout.inFlow }
      else { layout with cursor := word }

/-! ## Keys -/

/-- A key is written on one line and within 1024 letters. -/
def isStale (cursor : Cursor) (key : PossibleKey) : Bool :=
  key.line < cursor.line || key.index + 1024 < cursor.index

def dropStaleKeys (layout : Layout) : Except YamlError Layout :=
  let stale := fun key : Option PossibleKey => key.any (isStale layout.cursor)
  if layout.keys.any fun key => stale key && key.any (·.isRequired) then .error .keyWithoutColon
  else .ok { layout with keys := layout.keys.map fun key => if stale key then none else key }

def setKey (layout : Layout) (key : Option PossibleKey) : Layout :=
  { layout with keys := key :: layout.keys.drop 1 }

def possibleKey (layout : Layout) : Option PossibleKey :=
  layout.keys.head?.join

def dropKey (layout : Layout) : Except YamlError Layout :=
  if layout.possibleKey.any (·.isRequired) then .error .keyWithoutColon
  else .ok (layout.setKey none)

def noteKey (layout : Layout) : Except YamlError Layout := do
  if layout.allowsKey then
    let layout ← layout.dropKey
    return layout.setKey (some
      { count := layout.tokens.length
        isRequired := !layout.inFlow && layout.margin == layout.cursor.column + 1
        index := layout.cursor.index, line := layout.cursor.line, column := layout.cursor.column })
  else return layout

/-! ## Blocks -/

def openBlock (layout : Layout) (column : Nat) (count : Nat) (token : Token) : Layout :=
  if layout.inFlow || column < layout.margin then layout
  else { layout.insertAt count token with indentations := column :: layout.indentations }

/-- Closes the blocks that start at the margin or right of it. -/
def closeBlocks (layout : Layout) (margin : Nat) : Layout :=
  if layout.inFlow then layout
  else
    let closed := layout.indentations.takeWhile (margin ≤ ·)
    { layout with
      tokens := List.replicate closed.length .blockEnd ++ layout.tokens
      indentations := layout.indentations.drop closed.length }

/-! ## Tokens by their first letter -/

def take (layout : Layout) (count : Nat) (token : Token) : Layout :=
  { layout.push token with cursor := layout.cursor.skip count }

/-- A directive or a mark between documents, which closes all blocks. -/
def betweenDocuments (layout : Layout) : Except YamlError Layout := do
  return { ← (layout.closeBlocks 0).dropKey with allowsKey := false }

def openFlow (layout : Layout) (token : Token) : Except YamlError Layout := do
  let layout ← layout.noteKey
  return { layout.take 1 token with keys := none :: layout.keys, allowsKey := true }

def closeFlow (layout : Layout) (token : Token) : Except YamlError Layout := do
  let layout ← layout.dropKey
  let keys := if layout.inFlow then layout.keys.drop 1 else layout.keys
  return { layout.take 1 token with keys, allowsKey := false }

def takeComma (layout : Layout) : Except YamlError Layout := do
  return { (← layout.dropKey).take 1 .comma with allowsKey := true }

/-- An entry or a key that is written with a mark in front opens a block where none is open yet. -/
def openMarked (layout : Layout) (token : Token) : Except YamlError Layout :=
  if layout.inFlow then .ok layout
  else if layout.allowsKey then
    .ok (layout.openBlock layout.cursor.column layout.tokens.length token)
  else .error .misplacedIndicator

def takeEntry (layout : Layout) : Except YamlError Layout := do
  let layout ← (← layout.openMarked .sequenceStart).dropKey
  return { layout.take 1 .entry with allowsKey := true }

def takeKey (layout : Layout) : Except YamlError Layout := do
  let layout ← (← layout.openMarked .mappingStart).dropKey
  return { layout.take 1 .key with allowsKey := !layout.inFlow }

/-- A colon makes a key of what the possible key began, and opens a block in front of it if none is
open yet. -/
def takeValue (layout : Layout) : Except YamlError Layout := do
  match layout.possibleKey with
  | some key =>
      let layout := (layout.insertAt key.count .key).openBlock key.column key.count .mappingStart
      return { (layout.setKey none).take 1 .value with allowsKey := false }
  | none =>
      let layout ← layout.openMarked .mappingStart
      return { layout.take 1 .value with allowsKey := !layout.inFlow }

/-- What can begin a key: a property or a scalar on one line. -/
def takeNode (layout : Layout) (read : Cursor → Except YamlError (Token × Cursor)) :
    Except YamlError Layout := do
  let layout ← layout.noteKey
  let (token, cursor) ← read layout.cursor
  return { layout.push token with cursor, allowsKey := false }

def takeName (layout : Layout) (token : String → Token) : Except YamlError Layout :=
  layout.takeNode fun cursor => do
    let (name, last) ← readName cursor
    return (token name, last)

def takeTag (layout : Layout) : Except YamlError Layout :=
  layout.takeNode fun cursor => do
    let (tag, last) ← readTag layout.inFlow cursor
    return (.tag tag, last)

def takeQuoted (layout : Layout) (style : Style) (quote : Char) : Except YamlError Layout :=
  layout.takeNode fun cursor => do
    let (text, last) ← readQuoted quote cursor
    return (.scalar style (String.ofList text), last)

/-- Behind a plain scalar that was followed by a line end a key can begin. -/
def takePlain (layout : Layout) : Except YamlError Layout := do
  let layout ← layout.noteKey
  let (text, cursor, broken) ← readPlain layout.inFlow layout.margin layout.cursor
  return { layout.push (.scalar .plain (String.ofList text)) with cursor, allowsKey := broken }

def takeBlock (layout : Layout) (style : Style) : Except YamlError Layout := do
  let layout ← layout.dropKey
  let (text, cursor) ← readBlock (style = .folded) layout.margin layout.cursor
  return { layout.push (.scalar style (String.ofList text)) with cursor, allowsKey := true }

/-- Whether a plain scalar can start with a letter, given what follows it. -/
def startsPlain (inFlow : Bool) (letter : Char) (rest : List Char) : Bool :=
  if isGap letter then false
  else if letter == '-' then !startsWith isBlank rest
  else if letter == '?' || letter == ':' then !inFlow && !endsWord rest
  else !",[]\x7b\x7d#&*!|>'\"%@`".toList.contains letter

def takeToken (layout : Layout) (letter : Char) (rest : List Char) : Except YamlError Layout := do
  let isIndicator := layout.inFlow || endsWord rest
  if layout.cursor.column == 0 && letter == '%' then
    let layout ← layout.betweenDocuments
    let (directive, cursor) ← readDirective layout.cursor
    return { layout.push (.directive directive) with cursor }
  if layout.cursor.atMark ['-', '-', '-'] then
    return (← layout.betweenDocuments).take 3 .documentStart
  if layout.cursor.atMark ['.', '.', '.'] then
    return (← layout.betweenDocuments).take 3 .documentEnd
  match letter with
  | '[' => layout.openFlow .bracketStart
  | '\x7b' => layout.openFlow .braceStart
  | ']' => layout.closeFlow .bracketEnd
  | '\x7d' => layout.closeFlow .braceEnd
  | ',' => layout.takeComma
  | '*' => layout.takeName .alias
  | '&' => layout.takeName .anchor
  | '!' => layout.takeTag
  | '\'' => layout.takeQuoted .singleQuoted letter
  | '"' => layout.takeQuoted .doubleQuoted letter
  | _ =>
      if letter == '-' && endsWord rest then layout.takeEntry
      else if letter == '?' && isIndicator then layout.takeKey
      else if letter == ':' && isIndicator then layout.takeValue
      else if letter == '|' && !layout.inFlow then layout.takeBlock .literal
      else if letter == '>' && !layout.inFlow then layout.takeBlock .folded
      else if startsPlain layout.inFlow letter rest then layout.takePlain
      else throw (.unexpectedLetter letter)

def allTokens : Nat → Layout → Except YamlError (List Token)
  | 0, _ => .error .unexpectedToken
  | fuel + 1, layout => do
      let layout := layout.skipGap (layout.cursor.rest.length + 1)
      let layout ← layout.dropStaleKeys
      let layout := layout.closeBlocks (layout.cursor.column + 1)
      match layout.cursor.rest with
      | [] => return (← layout.betweenDocuments).tokens.reverse
      | letter :: rest => allTokens fuel (← layout.takeToken letter rest)

end Layout

/-- The letters of a text from which tokens are read. A mark of byte order at the very front takes up
a column. -/
def Layout.ofText (text : String) : Layout :=
  let layout := Layout.start (withFeeds text.toList)
  { layout with cursor := layout.cursor.skip (if startsWith (· == '\ufeff') text.toList then 1 else 0) }

def tokens (text : String) : Except YamlError (List Token) :=
  match text.toList.find? (!isPrintable ·) with
  | some letter => .error (.unprintable letter)
  | none => (Layout.ofText text).allTokens (text.length + 1)

end LedgerClient.Yaml
