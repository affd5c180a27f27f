import LedgerClient.Hex
import LedgerClient.Yaml.Cursor

/-!
Scalars as they are written: plain, in quotes, or as a block of lines. Each reader returns the text
that a scalar stands for and the place behind it.
-/

namespace LedgerClient.Yaml

inductive Style where
  | plain
  | singleQuoted
  | doubleQuoted
  | literal
  | folded
deriving DecidableEq

/-- A gap in a text that may run over lines. On one line it is kept. A single break becomes a space,
and of several the first is dropped; the separators of lines and paragraphs are always kept. -/
def foldedGap (gap : List Char) : List Char :=
  match gap.filter isBreak with
  | [] => gap
  | ['\n'] => [' ']
  | '\n' :: more => more
  | breaks => breaks

/-! ## Plain scalars -/

def isFlowIndicator (letter : Char) : Bool :=
  [',', '[', ']', '{', '}'].contains letter

/-- The letters up to a gap, to a colon that ends a key, and inside brackets to an indicator. -/
def plainWord (inFlow : Bool) : List Char → Except YamlError (List Char)
  | [] => .ok []
  | letter :: rest => do
      if isGap letter || (inFlow && isFlowIndicator letter) then return []
      if letter == ':' then
        if inFlow && startsWith (fun next => next == '?' || isFlowIndicator next) rest then
          throw .misplacedIndicator
        if endsWord rest then return []
      return letter :: (← plainWord inFlow rest)

/-- Whether a tab stands left of the margin in a line after the first. `column` is missing on the
first line. -/
def hasTabBefore (margin : Nat) (column : Option Nat) : List Char → Bool
  | [] => false
  | letter :: rest =>
      if isBreak letter then hasTabBefore margin (some 0) rest
      else (letter == '\t' && column.any (· < margin))
        || hasTabBefore margin (column.map (· + 1)) rest

/-- A plain scalar from the word at the cursor on, with the gap in front of it. It ends at a comment,
at the mark of a document, and outside brackets at a line that starts left of the margin. The
last part tells whether a line ended behind it. -/
def plainText (inFlow : Bool) (margin : Nat) :
    Nat → Cursor → List Char → Except YamlError (List Char × Cursor × Bool)
  | 0, cursor, gap => .ok ([], cursor, gap.any isBreak)
  | fuel + 1, cursor, gap => do
      let word ← if cursor.atDocumentMark || startsWith (· == '#') cursor.rest then pure []
        else plainWord inFlow cursor.rest
      if word.isEmpty then return ([], cursor, gap.any isBreak)
      let text := foldedGap gap ++ word
      let wordEnd := cursor.skip word.length
      let next := wordEnd.gap
      if next.isEmpty then return (text, wordEnd, false)
      if hasTabBefore margin none next then throw .tabInIndentation
      let behind := wordEnd.skip next.length
      if !inFlow && behind.column < margin then return (text, behind, next.any isBreak)
      let (more, last, broken) ← plainText inFlow margin fuel behind next
      return (text ++ more, last, broken)

def readPlain (inFlow : Bool) (margin : Nat) (cursor : Cursor) :
    Except YamlError (List Char × Cursor × Bool) :=
  plainText inFlow margin (cursor.rest.length + 1) cursor []

/-! ## Quoted scalars -/

def escapes : List (Char × Char) :=
  [('0', '\x00'), ('a', '\x07'), ('b', '\x08'), ('t', '\t'), ('\t', '\t'), ('n', '\n'),
    ('v', '\x0b'), ('f', '\x0c'), ('r', '\r'), ('e', '\x1b'), (' ', ' '), ('"', '"'), ('/', '/'),
    ('\\', '\\'), ('N', '\u0085'), ('_', '\u00a0'), ('L', '\u2028'), ('P', '\u2029')]

/-- How many hexadecimal digits follow the letter of an escape by number. -/
def escapeWidths : List (Char × Nat) :=
  [('x', 2), ('u', 4), ('U', 8)]

def hexValue? (digits : List Char) : Option Nat :=
  digits.foldlM (fun value letter => do return value * 16 + (← Hex.digitValue? letter)) 0

/-- The character for what follows a backslash, and how many letters that is. -/
def readEscape : List Char → Except YamlError (Char × Nat)
  | [] => .error .badEscape
  | letter :: rest =>
      match escapes.lookup letter, escapeWidths.lookup letter with
      | some meant, _ => .ok (meant, 1)
      | none, none => .error .badEscape
      | none, some width =>
          match hexValue? (rest.take width) with
          | some code =>
              if width ≤ rest.length && code.isValidChar then .ok (Char.ofNat code, width + 1)
              else .error .badEscape
          | none => .error .badEscape

def quotedText (quote : Char) : Nat → Cursor → Except YamlError (List Char × Cursor)
  | 0, _ => .error .endOfQuote
  | fuel + 1, cursor => do
      if cursor.atDocumentMark then throw .endOfQuote
      let continued (text : List Char) (behind : Cursor) :
          Except YamlError (List Char × Cursor) := do
        let (more, last) ← quotedText quote fuel behind
        return (text ++ more, last)
      match cursor.rest with
      | [] => throw .endOfQuote
      | letter :: rest =>
          if letter == quote then
            if quote == '\'' && startsWith (· == quote) rest then continued [quote] (cursor.skip 2)
            else return ([], cursor.next)
          else if letter == '\\' && quote == '"' then
            if startsWith isBreak rest then
              let joint := cursor.skip 2
              continued (joint.gap.filter isBreak) (joint.skip joint.gap.length)
            else
              let (meant, used) ← readEscape rest
              continued [meant] (cursor.skip (used + 1))
          else if isGap letter then
            continued (foldedGap cursor.gap) (cursor.skip cursor.gap.length)
          else continued [letter] cursor.next

def readQuoted (quote : Char) (cursor : Cursor) : Except YamlError (List Char × Cursor) :=
  quotedText quote (cursor.rest.length + 1) cursor.next

/-! ## Blocks of lines -/

/-- What becomes of the line ends behind a block: one is kept, or none, or all. -/
inductive Chomping where
  | clip
  | strip
  | keep

def Chomping.ofLetter? : Option Char → Option Chomping
  | some '+' => some keep
  | some '-' => some strip
  | _ => none

/-- The signs behind the bar of a block, in either order: what to do with the line ends, and how
much deeper than its parent the block is indented. The last part counts the signs. -/
def blockSigns (letters : List Char) : Except YamlError (Chomping × Option Nat × Nat) := do
  let depth (letter : Option Char) : Except YamlError (Option Nat) :=
    match letter with
    | none => .ok none
    | some letter =>
        if letter == '0' then .error .badHeader
        else if '1' ≤ letter && letter ≤ '9' then .ok (some (letter.toNat - '0'.toNat))
        else .ok none
  match Chomping.ofLetter? letters[0]? with
  | some chomping =>
      match ← depth letters[1]? with
      | some deeper => return (chomping, some deeper, 2)
      | none => return (chomping, none, 1)
  | none =>
      match ← depth letters[0]? with
      | none => return (.clip, none, 0)
      | some deeper =>
          match Chomping.ofLetter? letters[1]? with
          | some chomping => return (chomping, some deeper, 2)
          | none => return (.clip, some deeper, 1)

/-- The breaks of empty lines, the place where a line with content starts, and the widest
indentation on the way. An indentation that is not known takes in all spaces. -/
def emptyLines (indentation : Option Nat) :
    Nat → Cursor → Except YamlError (List Char × Cursor × Nat)
  | 0, cursor => .ok ([], cursor, cursor.column)
  | fuel + 1, cursor => do
      let spaces := (cursor.rest.takeWhile (· == ' ')).length
      let place := cursor.skip (indentation.elim spaces fun most => min spaces (most - cursor.column))
      if indentation.all (place.column < ·) && startsWith (· == '\t') place.rest then
        throw .tabInIndentation
      match place.rest with
      | [] => return ([], place, place.column)
      | letter :: _ =>
          if isBreak letter then
            let (breaks, last, widest) ← emptyLines indentation fuel place.next
            return (letter :: breaks, last, max place.column widest)
          else return ([], place, place.column)

/-- The lines of a block. `ending` is the break before this place and `breaks` are those of the empty
lines behind it. Where lines are folded, a break between two lines that start with no blank becomes
a space, or gives way to the empty lines. -/
def blockLines (folds : Bool) (indentation : Nat) :
    Nat → Cursor → (ending breaks : List Char) → (indented : Bool) →
      Except YamlError (List Char × List Char × List Char × Cursor)
  | 0, cursor, ending, breaks, _ => .ok ([], ending, breaks, cursor)
  | fuel + 1, cursor, ending, breaks, indented => do
      if cursor.column != indentation || cursor.rest.isEmpty then
        return ([], ending, breaks, cursor)
      let startsBlank := startsWith isBlank cursor.rest
      let joint := if folds && startsWith (· == '\n') ending && !indented && !startsBlank then
          (if breaks.isEmpty then [' '] else breaks)
        else ending ++ breaks
      let lineEnd := cursor.skipLine
      let line := cursor.rest.takeWhile (!isBreak ·)
      let (empty, behind, _) ← emptyLines (some indentation) (lineEnd.rest.length + 1) lineEnd.next
      let (more, tail) ← blockLines folds indentation fuel behind (lineEnd.rest.take 1) empty
        startsBlank
      return (joint ++ line ++ more, tail)

/-- The scalar behind the bar at the cursor, inside a collection with this margin. Without a sign the
first line with content gives the indentation. -/
def readBlock (folds : Bool) (margin : Nat) (cursor : Cursor) :
    Except YamlError (List Char × Cursor) := do
  let (chomping, deeper, signs) ← blockSigns (cursor.rest.drop 1)
  let header := (cursor.skip (signs + 1)).skipWhile isBlank
  let header := if startsWith (· == '#') header.rest then header.skipLine else header
  if !header.rest.isEmpty && !startsWith isBreak header.rest then throw .badHeader
  let start := header.next
  let given := deeper.map (· + (margin - 1))
  let (breaks, first, widest) ← emptyLines given (start.rest.length + 1) start
  let indentation := given.getD (max widest (max margin 1))
  let (text, ending, trailing, last) ←
    blockLines folds indentation (first.rest.length + 1) first [] breaks false
  match chomping with
  | .clip => return (text ++ ending, last)
  | .strip => return (text, last)
  | .keep => return (text ++ ending ++ trailing, last)

end LedgerClient.Yaml
