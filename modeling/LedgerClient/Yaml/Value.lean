import LedgerClient.Yaml.Node

/-!
The values that the nodes of a document stand for: texts, numbers, truth values, lists and records.
What is wanted decides how a scalar is read, so that a text may look like a number.
-/

namespace LedgerClient.Yaml

mutual

/-- The nodes in a node that have an anchor, in the order in which they begin. -/
def Node.withAnchor (number : Nat) : Node → List Node
  | .scalar anchor tag style text =>
      if anchor = some number then [.scalar anchor tag style text] else []
  | .sequence anchor items =>
      (if anchor = some number then [.sequence anchor items] else [])
        ++ Node.itemsWithAnchor number items
  | .mapping anchor pairs =>
      (if anchor = some number then [.mapping anchor pairs] else [])
        ++ Node.pairsWithAnchor number pairs
  | .alias _ => []

def Node.itemsWithAnchor (number : Nat) : List Node → List Node
  | [] => []
  | item :: rest => item.withAnchor number ++ Node.itemsWithAnchor number rest

def Node.pairsWithAnchor (number : Nat) : List (Node × Node) → List Node
  | [] => []
  | (key, value) :: rest =>
      key.withAnchor number ++ value.withAnchor number ++ Node.pairsWithAnchor number rest

end

/-! ## Scalars -/

def digitsValue? (base : Nat) (digits : List Char) : Option Nat :=
  let add := fun value letter => do
    let digit ← Hex.digitValue? letter
    if digit < base then some (value * base + digit) else none
  if digits.isEmpty then none else digits.foldlM add 0

/-- A number without a sign or with a plus sign, in decimal without zeros in front, or with a lead
that tells its base. -/
def number? (letters : List Char) : Option Nat :=
  let letters := match letters with
    | '+' :: rest => rest
    | _ => letters
  match letters with
  | '0' :: 'x' :: digits => digitsValue? 16 digits
  | '0' :: 'o' :: digits => digitsValue? 8 digits
  | '0' :: 'b' :: digits => digitsValue? 2 digits
  | '0' :: _ :: _ => none
  | digits => digitsValue? 10 digits

def bool? (text : String) : Option Bool :=
  if ["true", "True", "TRUE"].contains text then some true
  else if ["false", "False", "FALSE"].contains text then some false
  else none

def isNull (text : String) : Bool :=
  ["null", "Null", "NULL", "~"].contains text

def coreTag (name : String) : String :=
  "tag:yaml.org,2002:" ++ name

/-- Whether a scalar can be more than a text: it is plain, or a block with the tag of its kind. -/
def mayBe (name : String) (tag : Option String) (style : Style) : Bool :=
  style = .plain || (style = .literal && tag = some (coreTag name))

/-! ## Documents -/

/-- A document is known by its outermost node. An alias stands for the last node that has its
anchor. -/
structure Document where
  root : Node

namespace Document

def ofText (text : String) : Except YamlError Document := do
  return { root := ← Node.ofText text }

def resolve (document : Document) : Node → Except YamlError Node
  | .alias number =>
      match (document.root.withAnchor number).getLast? with
      | some node => .ok node
      | none => .error .unknownName
  | node => .ok node

def text (document : Document) (node : Node) : Except YamlError String := do
  match ← document.resolve node with
  | .scalar _ _ _ text => return text
  | _ => throw (.unexpectedValue "a text")

def natural (document : Document) (node : Node) : Except YamlError UInt64 := do
  match ← document.resolve node with
  | .scalar _ tag style text =>
      match number? text.toList with
      | some value =>
          if mayBe "int" tag style && value < UInt64.size then return UInt64.ofNat value
          else throw (.unexpectedValue "a number")
      | none => throw (.unexpectedValue "a number")
  | _ => throw (.unexpectedValue "a number")

def bool (document : Document) (node : Node) : Except YamlError Bool := do
  match ← document.resolve node with
  | .scalar _ tag style text =>
      match bool? text with
      | some value =>
          if mayBe "bool" tag style then return value else throw (.unexpectedValue "true or false")
      | none => throw (.unexpectedValue "true or false")
  | _ => throw (.unexpectedValue "true or false")

/-- A value that may be null. A plain scalar without a tag is null if it is empty or says so. -/
def optional {α : Type} (document : Document) (read : Node → Except YamlError α) (node : Node) :
    Except YamlError (Option α) := do
  match ← document.resolve node with
  | .scalar anchor tag .plain text =>
      if tag = some (coreTag "null") then
        if isNull text then return none else throw (.unexpectedValue "null")
      else if tag = none && (text = "" || isNull text) then return none
      else return some (← read (.scalar anchor tag .plain text))
  | node => return some (← read node)

/-- The items of a sequence. A plain scalar that is empty has none. -/
def list {α : Type} (document : Document) (read : Node → Except YamlError α) (node : Node) :
    Except YamlError (List α) := do
  match ← document.resolve node with
  | .sequence _ items => items.mapM read
  | .scalar _ _ .plain "" => return []
  | _ => throw (.unexpectedValue "a sequence")

/-! ## Records -/

/-- The pairs of a mapping with a known name. Names that are not known are passed over. -/
def namedPairs (document : Document) (names : List String) :
    List (Node × Node) → Except YamlError (List (String × Node))
  | [] => .ok []
  | (key, value) :: rest => do
      let name ← document.text key
      let others ← document.namedPairs names rest
      if names.contains name then
        if (others.lookup name).isSome then throw (.repeatedField name)
        return (name, value) :: others
      else return others

/-- The fields of a record. A mapping gives them by name and a sequence by their place; a plain
scalar that is empty gives none. -/
def fields (document : Document) (names : List String) (node : Node) :
    Except YamlError (List (String × Node)) := do
  match ← document.resolve node with
  | .mapping _ pairs => document.namedPairs names pairs
  | .sequence _ items =>
      if names.length < items.length then throw (.unexpectedValue "a shorter sequence")
      else return names.zip items
  | .scalar _ _ .plain "" => return []
  | _ => throw (.unexpectedValue "a record")

end Document

/-- A field of a record, which has to be there. -/
def required {α : Type} (fields : List (String × Node)) (name : String)
    (read : Node → Except YamlError α) : Except YamlError α :=
  match fields.lookup name with
  | some node => read node
  | none => .error (.missingField name)

/-- A field of a record with the value that holds without it. -/
def withDefault {α : Type} (fields : List (String × Node)) (name : String) (otherwise : α)
    (read : Node → Except YamlError α) : Except YamlError α :=
  match fields.lookup name with
  | some node => read node
  | none => .ok otherwise

end LedgerClient.Yaml
