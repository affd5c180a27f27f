import LedgerClient.Text.Hidden

/-!
Values laid out for a reader: a record is its name and its fields in braces, a list is bracketed,
and an optional value is `None` or `Some(...)`. The same layout is written on one line or with
each part on a line of its own.
-/

namespace LedgerClient

inductive Inspect where
  | plain (text : String)
  | record (name : String) (fields : List (String × Inspect))
  | wrapped (name : String) (item : Inspect)
  | list (items : List Inspect)

namespace Inspect

/-- A character without a shape of its own is shown by its number. -/
def escaped (letter : Char) : List Char :=
  match letter with
  | '"' => ['\\', '"']
  | '\\' => ['\\', '\\']
  | '\t' => ['\\', 't']
  | '\n' => ['\\', 'n']
  | '\r' => ['\\', 'r']
  | '\x00' => ['\\', '0']
  | _ =>
      if Text.isHidden letter then
        ['\\', 'u', '\x7b'] ++ Nat.toDigits 16 letter.toNat ++ ['\x7d']
      else [letter]

def quoted (text : String) : Inspect :=
  .plain (String.ofList (['"'] ++ text.toList.flatMap escaped ++ ['"']))

def number (value : Nat) : Inspect :=
  .plain (toString value)

def bool (value : Bool) : Inspect :=
  .plain (if value then "true" else "false")

def option {α : Type} (view : α → Inspect) : Option α → Inspect
  | none => .plain "None"
  | some item => .wrapped "Some" (view item)

def listOf {α : Type} (view : α → Inspect) (items : List α) : Inspect :=
  .list (items.map view)

def join (separator : String) : List String → String
  | [] => ""
  | [text] => text
  | text :: rest => text ++ separator ++ join separator rest

mutual

/-- The layout on one line. -/
def render : Inspect → String
  | plain text => text
  | record name fields => name ++ " \x7b " ++ join ", " (renderFields fields) ++ " \x7d"
  | wrapped name item => name ++ "(" ++ item.render ++ ")"
  | list items => "[" ++ join ", " (renderItems items) ++ "]"

def renderFields : List (String × Inspect) → List String
  | [] => []
  | (name, item) :: rest => (name ++ ": " ++ item.render) :: renderFields rest

def renderItems : List Inspect → List String
  | [] => []
  | item :: rest => item.render :: renderItems rest

end

def indentation (depth : Nat) : String :=
  String.ofList (List.replicate (4 * depth) ' ')

mutual

/-- The layout with each part on a line of its own, `depth` steps from the margin. -/
def lines (depth : Nat) : Inspect → String
  | plain text => text
  | record name fields =>
      name ++ " \x7b\n" ++ fieldLines (depth + 1) fields ++ indentation depth ++ "\x7d"
  | wrapped name item =>
      name ++ "(\n" ++ indentation (depth + 1) ++ lines (depth + 1) item ++ ",\n"
        ++ indentation depth ++ ")"
  | list [] => "[]"
  | list (item :: rest) =>
      "[\n" ++ indentation (depth + 1) ++ lines (depth + 1) item ++ ",\n"
        ++ itemLines (depth + 1) rest ++ indentation depth ++ "]"

def fieldLines (depth : Nat) : List (String × Inspect) → String
  | [] => ""
  | (name, item) :: rest =>
      indentation depth ++ name ++ ": " ++ lines depth item ++ ",\n" ++ fieldLines depth rest

def itemLines (depth : Nat) : List Inspect → String
  | [] => ""
  | item :: rest => indentation depth ++ lines depth item ++ ",\n" ++ itemLines depth rest

end

end Inspect

end LedgerClient
