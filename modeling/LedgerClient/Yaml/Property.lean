import LedgerClient.Text.Decimal
import LedgerClient.Yaml.Scalar

/-!
What can stand in front of a node or a document: anchors, aliases, tags and directives.
-/

namespace LedgerClient.Yaml

def isNameLetter (letter : Char) : Bool :=
  letter.isAlphanum || letter == '_' || letter == '-'

def readName (cursor : Cursor) : Except YamlError (String × Cursor) :=
  let name := cursor.next.rest.takeWhile isNameLetter
  let last := cursor.next.skip name.length
  let closes := fun letter => ['?', ':', ',', ']', '\x7d', '%', '@', '`'].contains letter
  if name.isEmpty || !(endsWord last.rest || startsWith closes last.rest) then .error .badProperty
  else .ok (String.ofList name, last)

/-! ## Tags -/

/-- A tag is a suffix under a handle. A handle without text stands for nothing. -/
structure Tag where
  handle : String
  suffix : String
deriving DecidableEq

def isTagLetter (verbatim : Bool) (letter : Char) : Bool :=
  isNameLetter letter || ";/?:@&=+$.!~*'()".toList.contains letter
    || (verbatim && [',', '[', ']'].contains letter)

def readOctet : List Char → Option (Nat × List Char)
  | '%' :: high :: low :: rest => do
      return ((← Hex.digitValue? high) * 16 + (← Hex.digitValue? low), rest)
  | _ => none

def octetsBehind (octet : Nat) : Option Nat :=
  if octet < 0x80 then some 0
  else if 0xc0 ≤ octet && octet < 0xe0 then some 1
  else if 0xe0 ≤ octet && octet < 0xf0 then some 2
  else if 0xf0 ≤ octet && octet < 0xf8 then some 3
  else none

def readOctets : Nat → List Char → Option (List Char × List Char)
  | 0, letters => some ([], letters)
  | count + 1, letters => do
      let (octet, rest) ← readOctet letters
      if 0x80 ≤ octet && octet < 0xc0 then
        let (more, last) ← readOctets count rest
        return (Char.ofNat octet :: more, last)
      else none

/-- The text of a tag, with a letter for each escaped octet, and what is behind it. -/
def tagText (verbatim : Bool) : Nat → List Char → Except YamlError (List Char × List Char)
  | 0, letters => .ok ([], letters)
  | fuel + 1, letters =>
      match letters with
      | [] => .ok ([], [])
      | letter :: rest => do
          if letter == '%' then
            let escaped : Option (List Char × List Char) := do
              let (octet, behind) ← readOctet letters
              let (inner, behind) ← readOctets (← octetsBehind octet) behind
              return (Char.ofNat octet :: inner, behind)
            match escaped with
            | none => throw .badProperty
            | some (text, behind) =>
                let (more, last) ← tagText verbatim fuel behind
                return (text ++ more, last)
          else if isTagLetter verbatim letter then
            let (more, last) ← tagText verbatim fuel rest
            return (letter :: more, last)
          else return ([], letters)

/-- The text of a tag at the cursor and the place behind it. -/
def readTagText (verbatim : Bool) (cursor : Cursor) : Except YamlError (List Char × Cursor) := do
  let (text, last) ← tagText verbatim (cursor.rest.length + 1) cursor.rest
  return (text, cursor.skip (cursor.rest.length - last.length))

/-- An exclamation mark, a name, and a second exclamation mark if there is one. -/
def readHandle (cursor : Cursor) : Except YamlError (List Char × Cursor) :=
  if startsWith (· == '!') cursor.rest then
    let name := cursor.next.rest.takeWhile isNameLetter
    let last := cursor.next.skip name.length
    if startsWith (· == '!') last.rest then .ok ('!' :: name ++ ['!'], last.next)
    else .ok ('!' :: name, last)
  else .error .badProperty

def isNamedHandle (handle : List Char) : Bool :=
  2 ≤ handle.length && handle.getLast? == some '!'

/-- The tag at the cursor: its whole text in angle brackets, a suffix under a named handle, or a
suffix of its own. The mark alone is a tag too. -/
def readTag (inFlow : Bool) (cursor : Cursor) : Except YamlError (Tag × Cursor) := do
  let (tag, last) ← (do
    if startsWith (· == '<') cursor.next.rest then
      let (text, last) ← readTagText true (cursor.skip 2)
      if text.isEmpty || !startsWith (· == '>') last.rest then throw .badProperty
      return ({ handle := "", suffix := String.ofList text }, last.next)
    else
      let (handle, behind) ← readHandle cursor
      let (text, last) ← readTagText false behind
      if isNamedHandle handle then
        if text.isEmpty then throw .badProperty
        return ({ handle := String.ofList handle, suffix := String.ofList text }, last)
      else
        let suffix := String.ofList (handle.drop 1 ++ text)
        if suffix = "" then return ({ handle := "", suffix := "!" }, last)
        else return ({ handle := "!", suffix }, last) : Except YamlError (Tag × Cursor))
  if endsWord last.rest || (inFlow && startsWith (· == ',') last.rest) then return (tag, last)
  else throw .badProperty

/-! ## Directives -/

inductive Directive where
  | version (major minor : Nat)
  | handle (name lead : String)
deriving DecidableEq

/-- A number of at most nine digits. -/
def readVersionPart (cursor : Cursor) : Except YamlError (Nat × Cursor) :=
  let digits := cursor.rest.takeWhile Decimal.isDigit
  if digits.isEmpty || 9 < digits.length then .error .badDirective
  else .ok (Decimal.value digits, cursor.skip digits.length)

def readVersion (cursor : Cursor) : Except YamlError (Directive × Cursor) := do
  let (major, point) ← readVersionPart cursor
  if !startsWith (· == '.') point.rest then throw .badDirective
  let (minor, last) ← readVersionPart point.next
  return (.version major minor, last)

def readHandleLead (cursor : Cursor) : Except YamlError (Directive × Cursor) := do
  let (name, behind) ← readHandle cursor
  if !(name == ['!'] || isNamedHandle name) || !startsWith isBlank behind.rest then
    throw .badDirective
  let (lead, last) ← readTagText true (behind.skipWhile isBlank)
  if lead.isEmpty || !endsWord last.rest then throw .badDirective
  return (.handle (String.ofList name) (String.ofList lead), last)

/-- The directive behind the percent sign at the cursor. It has its line to itself. -/
def readDirective (cursor : Cursor) : Except YamlError (Directive × Cursor) := do
  let name := cursor.next.rest.takeWhile isNameLetter
  let behind := cursor.next.skip name.length
  if !endsWord behind.rest then throw .badDirective
  let operand := behind.skipWhile isBlank
  let (directive, last) ←
    if name == "YAML".toList then readVersion operand
    else if name == "TAG".toList then readHandleLead operand
    else throw .badDirective
  let last := last.skipWhile isBlank
  let last := if startsWith (· == '#') last.rest then last.skipLine else last
  if last.rest.isEmpty || startsWith isBreak last.rest then return (directive, last.next)
  else throw .badDirective

end LedgerClient.Yaml
