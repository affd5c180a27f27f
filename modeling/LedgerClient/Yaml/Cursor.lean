/-!
Documents in YAML are laid out in lines and columns. A cursor is a place in such a text, with what
is still to be read from there on.
-/

namespace LedgerClient

inductive YamlError where
  | unprintable (letter : Char)
  | tabInIndentation
  | unexpectedLetter (letter : Char)
  | misplacedIndicator
  | keyWithoutColon
  | endOfQuote
  | badEscape
  | badHeader
  | badProperty
  | badDirective
  | unknownName
  | unexpectedToken
  | otherDocument
  | unexpectedValue (wanted : String)
  | missingField (name : String)
  | repeatedField (name : String)
deriving DecidableEq

def YamlError.message : YamlError → String
  | unprintable _ => "a control character is not allowed"
  | tabInIndentation => "a tab stands where spaces are expected"
  | unexpectedLetter letter => "nothing starts with " ++ String.singleton letter
  | misplacedIndicator => "an entry, a key or a value is not allowed here"
  | keyWithoutColon => "a key is not followed by a colon"
  | endOfQuote => "a quoted text is not closed"
  | badEscape => "an escape is not known"
  | badHeader => "a block of text begins in a way that is not known"
  | badProperty => "an anchor, an alias or a tag is malformed"
  | badDirective => "a directive is malformed"
  | unknownName => "an alias or a tag refers to an unknown name"
  | unexpectedToken => "the parts of the document do not fit together"
  | otherDocument => "there is more than one document"
  | unexpectedValue wanted => wanted ++ " was expected"
  | missingField name => "the field " ++ name ++ " is missing"
  | repeatedField name => "the field " ++ name ++ " is given twice"

namespace Yaml

/-- A line ends at a feed or at one of the two separators of lines and paragraphs. -/
def isBreak (letter : Char) : Bool :=
  letter == '\n' || letter == '\u2028' || letter == '\u2029'

def isBlank (letter : Char) : Bool :=
  letter == ' ' || letter == '\t'

def isGap (letter : Char) : Bool :=
  isBlank letter || isBreak letter

/-- Whether a word is over: what follows is a gap, or nothing. -/
def endsWord : List Char → Bool
  | [] => true
  | letter :: _ => isGap letter

def startsWith (accepts : Char → Bool) (letters : List Char) : Bool :=
  letters.head?.any accepts

def isPrintable (letter : Char) : Bool :=
  let code := letter.toNat
  letter == '\t' || letter == '\n' || letter == '\r' || code == 0x85
    || [(0x20, 0x7e), (0xa0, 0xd7ff), (0xe000, 0xfffd), (0x10000, 0x10ffff)].any fun range =>
      range.1 ≤ code && code ≤ range.2

/-- Every carriage return, with a feed behind it or alone, and every next-line mark is a feed. -/
def withFeeds : List Char → List Char
  | [] => []
  | '\r' :: '\n' :: rest => '\n' :: withFeeds rest
  | letter :: rest =>
      (if letter == '\r' || letter == '\u0085' then '\n' else letter) :: withFeeds rest

/-- Here `index` counts the letters before this place, `line` the breaks, and `column` those since
the last of them. -/
structure Cursor where
  rest : List Char
  index : Nat
  line : Nat
  column : Nat

namespace Cursor

def start (letters : List Char) : Cursor :=
  { rest := letters, index := 0, line := 0, column := 0 }

def next (cursor : Cursor) : Cursor :=
  match cursor.rest with
  | [] => cursor
  | letter :: rest =>
      if isBreak letter then
        { rest, index := cursor.index + 1, line := cursor.line + 1, column := 0 }
      else { cursor with rest, index := cursor.index + 1, column := cursor.column + 1 }

def skip (cursor : Cursor) : Nat → Cursor
  | 0 => cursor
  | count + 1 => cursor.next.skip count

def skipWhile (cursor : Cursor) (accepts : Char → Bool) : Cursor :=
  cursor.skip (cursor.rest.takeWhile accepts).length

def skipLine (cursor : Cursor) : Cursor :=
  cursor.skipWhile (!isBreak ·)

def gap (cursor : Cursor) : List Char :=
  cursor.rest.takeWhile isGap

def atMark (cursor : Cursor) (mark : List Char) : Bool :=
  cursor.column == 0 && mark.isPrefixOf cursor.rest && endsWord (cursor.rest.drop mark.length)

/-- Three dashes or three dots at the start of a line. -/
def atDocumentMark (cursor : Cursor) : Bool :=
  cursor.atMark ['-', '-', '-'] || cursor.atMark ['.', '.', '.']

end Cursor

end Yaml

end LedgerClient
