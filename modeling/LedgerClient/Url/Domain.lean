import LedgerClient.Entity.Id

/-!
Domain names in their ASCII form. A label with other characters is written as `xn--`, the ASCII ones
among its characters, and the places and codes of the others as numbers with digits of growing
weight.

Which characters beyond ASCII may stand in a name, and which of them count as the same, is set down
in tables of all scripts. They are no part of this library: whatever reads URLs is given the rules
for names. The rules here do without tables. Plain names they treat as all rules do. In other names
they fold the case of some alphabets, wide forms and points, but they compose no characters and
refuse none for being unassigned, for combining with those before it or for its direction.
-/

namespace LedgerClient.Domain

def splitPoints (letters : List Char) : List (List Char) :=
  EntityId.splitAll '.' letters

/-- Characters that no domain name holds: controls, blanks, those with a meaning in a URL, and those
for private use. -/
def isForbidden (letter : Char) : Bool :=
  letter ≤ ' ' || ('\x7f' ≤ letter && letter ≤ '\x9f') || letter == '\ufffd'
    || ('\ue000' ≤ letter && letter ≤ '\uf8ff')
    || ['%', '#', '/', ':', '<', '>', '?', '@', '[', '\\', ']', '^', '\x60', '\x7b', '|',
      '\x7d'].contains letter

/-- Characters that leave no trace in a name: soft hyphens, joiners of words and variation marks. -/
def isIgnored (letter : Char) : Bool :=
  let code := letter.toNat
  [0xad, 0x34f, 0x200b, 0x2060, 0x2064, 0xfeff].contains code || (0xfe00 ≤ code && code ≤ 0xfe0f)

def isWideBlank (letter : Char) : Bool :=
  let code := letter.toNat
  [0xa0, 0x202f, 0x205f, 0x3000].contains code || (0x2000 ≤ code && code ≤ 0x200a)

/-- Lower case, for ASCII and the capitals of the Latin, Greek and Cyrillic alphabets that stand at
a fixed distance from their small letters. -/
def lowered (letter : Char) : Char :=
  let code := letter.toNat
  if 'A' ≤ letter ∧ letter ≤ 'Z' then Char.ofNat (code + 32)
  else if (0xc0 ≤ code ∧ code ≤ 0xde ∧ code ≠ 0xd7) ∨ (0x391 ≤ code ∧ code ≤ 0x3ab)
      ∨ (0x410 ≤ code ∧ code ≤ 0x42f) then Char.ofNat (code + 32)
  else if 0x400 ≤ code ∧ code ≤ 0x40f then Char.ofNat (code + 80)
  else if ((0x100 ≤ code ∧ code ≤ 0x12e) ∨ (0x14a ≤ code ∧ code ≤ 0x176)) ∧ code % 2 = 0
      ∨ ((0x139 ≤ code ∧ code ≤ 0x147) ∨ (0x179 ≤ code ∧ code ≤ 0x17d)) ∧ code % 2 = 1 then
    Char.ofNat (code + 1)
  else letter

/-- The form in which names are compared: lower case, with wide forms as ASCII and the full stops of
all scripts as points. -/
def folded (letter : Char) : Char :=
  let code := letter.toNat
  if 0xff01 ≤ code ∧ code ≤ 0xff5e then lowered (Char.ofNat (code - 0xfee0))
  else if code = 0x3002 ∨ code = 0xff61 then '.'
  else if isWideBlank letter then ' '
  else lowered letter

/-! ## Writing numbers between letters -/

def punyDigit (value : Nat) : Char :=
  if value < 26 then Char.ofNat (97 + value) else Char.ofNat (22 + value)

def punyThreshold (place bias : Nat) : Nat :=
  max 1 (min 26 (place - bias))

/-- A number in digits of growing weight. Each step divides by at least ten. -/
def punyDigits : (fuel place bias value : Nat) → List Char
  | 0, _, _, _ => []
  | fuel + 1, place, bias, value =>
      let threshold := punyThreshold place bias
      if value < threshold then [punyDigit value]
      else
        punyDigit (threshold + (value - threshold) % (36 - threshold))
          :: punyDigits fuel (place + 36) bias ((value - threshold) / (36 - threshold))

def punyAdapt (delta count : Nat) (first : Bool) : Nat :=
  let delta := if first then delta / 700 else delta / 2
  let rec shrink : (fuel place delta : Nat) → Nat
    | 0, place, _ => place
    | fuel + 1, place, delta =>
        if 455 < delta then shrink fuel (place + 36) (delta / 35)
        else place + 36 * delta / (delta + 38)
  shrink delta 0 (delta + delta / count)

/-- The state between the characters that are inserted into the ASCII ones, in ascending order. -/
structure PunyState where
  output : List Char
  delta : Nat
  bias : Nat
  handled : Nat

def punyInsert (basic : Nat) (label : List Char) (state : PunyState) (code : Nat) : PunyState :=
  label.foldl (fun state letter =>
    if letter.toNat < code then { state with delta := state.delta + 1 }
    else if letter.toNat = code then
      { output := state.output ++ punyDigits 32 36 state.bias state.delta
        delta := 0
        bias := punyAdapt state.delta (state.handled + 1) (state.handled = basic)
        handled := state.handled + 1 }
    else state) state

/-- The ASCII characters of a label, then where the others belong between them. -/
def punycode (label : List Char) : List Char :=
  let plain := label.filter (·.toNat < 128)
  let others := (label.filter (128 ≤ ·.toNat)).map Char.toNat
  let codes := (others.mergeSort).eraseDups
  let start : PunyState :=
    { output := plain ++ (if plain.isEmpty then [] else ['-']), delta := 0, bias := 72
      handled := plain.length }
  let final := codes.foldl (fun (state : PunyState × Nat) code =>
    let ready := { state.1 with delta := state.1.delta + (code - state.2) * (state.1.handled + 1) }
    let done := punyInsert plain.length label ready code
    ({ done with delta := done.delta + 1 }, code + 1)) (start, 128)
  final.1.output

/-! ## Reading them -/

def punyValue? (digit : Char) : Option Nat :=
  if 'a' ≤ digit ∧ digit ≤ 'z' then some (digit.toNat - 97)
  else if Decimal.isDigit digit then some (digit.toNat - 22)
  else none

/-- Adds a number in digits of growing weight to `total`. Its last digit is below the threshold. -/
def addPuny : (place bias weight total : Nat) → List Char → Option (Nat × List Char)
  | _, _, _, _, [] => none
  | place, bias, weight, total, letter :: rest => do
      let digit ← punyValue? letter
      let total := total + digit * weight
      let threshold := punyThreshold place bias
      if digit < threshold then return (total, rest)
      else addPuny (place + 36) bias (weight * (36 - threshold)) total rest

/-- Inserts characters into `output`. Every number says how many places, counted through all codes
in ascending order, lie between a character and the one before it. -/
def unpunyFrom (basic : Nat) : (fuel : Nat) → (output : List Char) → (code place bias : Nat) →
    List Char → Option (List Char)
  | _, output, _, _, _, [] => some output
  | 0, _, _, _, _, _ => none
  | fuel + 1, output, code, place, bias, letters => do
      let (total, rest) ← addPuny 36 bias 1 place letters
      let count := output.length + 1
      let code := code + total / count
      if h : code.isValidChar then
        let here := total % count
        unpunyFrom basic fuel (output.take here ++ Char.ofNatAux code h :: output.drop here) code
          (here + 1) (punyAdapt (total - place) count (output.length = basic)) rest
      else none

/-- The characters before the last hyphen are plain. Every number takes a letter at least. -/
def unpuny? (letters : List Char) : Option (List Char) :=
  let numbers := (letters.reverse.takeWhile (· != '-')).reverse
  let plain := letters.take (letters.length - numbers.length - 1)
  unpunyFrom plain.length numbers.length plain 128 0 72 numbers

/-! ## Labels and names -/

def marker : List Char := ['x', 'n', '-', '-']

/-- A label behind the marker has to be one that could have been written so. -/
def isWritten (label : List Char) : Bool :=
  match unpuny? (label.drop 4) with
  | none => false
  | some letters =>
      letters.any (128 ≤ ·.toNat)
        && letters.all (fun letter =>
          folded letter = letter && !isIgnored letter && !isForbidden letter)
        && marker ++ punycode letters = label

def asciiLabel? (label : List Char) : Option (List Char) :=
  if label.take 4 = marker then if isWritten label then some label else none
  else if label.all (·.toNat < 128) then some label
  else some (marker ++ punycode label)

/-- The ASCII form of a domain name, in lower case, as far as it can be found without tables. -/
def asciiName? (letters : List Char) : Option (List Char) := do
  let letters := (letters.filter (!isIgnored ·)).map folded
  if letters.any isForbidden then none
  else return ['.'].intercalate (← (splitPoints letters).mapM asciiLabel?)

/-! ## Plain names -/

variable {letter : Char} {letters label : List Char}

def IsAscii (letters : List Char) : Prop :=
  ∀ letter ∈ letters, letter.toNat < 128

/-- The name is in ASCII, and none of its labels stands behind the marker. -/
structure IsPlain (letters : List Char) : Prop where
  ascii : IsAscii letters
  unmarked : ∀ label ∈ splitPoints (letters.map lowered), label.take 4 ≠ marker

theorem holds_of_ascii (holds : Char → Prop) (all : ∀ code < 128, holds (Char.ofNat code))
    (ascii : letter.toNat < 128) : holds letter := by
  rw [← Char.ofNat_toNat letter]
  exact all letter.toNat ascii

theorem isIgnored_of_ascii (ascii : letter.toNat < 128) : isIgnored letter = false :=
  holds_of_ascii (isIgnored · = false) (by decide) ascii

theorem folded_of_ascii (ascii : letter.toNat < 128) : folded letter = lowered letter :=
  holds_of_ascii (fun letter => folded letter = lowered letter) (by decide) ascii

theorem lowered_ascii (ascii : letter.toNat < 128) : (lowered letter).toNat < 128 :=
  holds_of_ascii (fun letter => (lowered letter).toNat < 128) (by decide) ascii

/-- Only letters have a case, and none of them is forbidden. -/
theorem isForbidden_lowered (ascii : letter.toNat < 128) :
    isForbidden (lowered letter) = isForbidden letter :=
  holds_of_ascii (fun letter => isForbidden (lowered letter) = isForbidden letter) (by decide) ascii

theorem any_isForbidden_lowered (ascii : IsAscii letters) :
    (letters.map lowered).any isForbidden = letters.any isForbidden := by
  rw [List.any_map, Bool.eq_iff_iff, List.any_eq_true, List.any_eq_true]
  refine exists_congr fun letter => and_congr_right fun member => ?_
  rw [Function.comp_apply, isForbidden_lowered (ascii letter member)]

theorem asciiLabel?_eq_self (ascii : IsAscii label) (unmarked : label.take 4 ≠ marker) :
    asciiLabel? label = some label := by
  have all : label.all (·.toNat < 128) = true := by simpa [IsAscii] using ascii
  rw [asciiLabel?, if_neg unmarked, if_pos all]

theorem mapM_asciiLabel? {labels : List (List Char)}
    (same : ∀ label ∈ labels, asciiLabel? label = some label) :
    labels.mapM asciiLabel? = some labels := by
  induction labels with
  | nil => rfl
  | cons label rest ih =>
      obtain ⟨here, later⟩ := List.forall_mem_cons.mp same
      rw [List.mapM_cons, here, ih later]
      rfl

/-- A plain name is refused for a forbidden letter, and for nothing else. -/
theorem asciiName?_of_isPlain (plain : IsPlain letters) :
    asciiName? letters =
      if letters.any isForbidden then none else some (letters.map lowered) := by
  have kept : letters.filter (!isIgnored ·) = letters :=
    List.filter_eq_self.mpr fun letter member => by
      rw [isIgnored_of_ascii (plain.ascii letter member), Bool.not_false]
  have lower : letters.map folded = letters.map lowered :=
    List.map_congr_left fun letter member => folded_of_ascii (plain.ascii letter member)
  have ascii : IsAscii (letters.map lowered) :=
    List.forall_mem_map.mpr fun letter member => lowered_ascii (plain.ascii letter member)
  have labels : (splitPoints (letters.map lowered)).mapM asciiLabel? =
      some (splitPoints (letters.map lowered)) := by
    refine mapM_asciiLabel? fun label member => asciiLabel?_eq_self ?_ (plain.unmarked label member)
    exact fun letter within => ascii letter ((EntityId.splitAll_apart member).2 within)
  have joined : ['.'].intercalate (splitPoints (letters.map lowered)) = letters.map lowered := by
    rw [splitPoints, EntityId.splitAll_eq, List.intercalate_splitOn]
  simp only [asciiName?, kept, lower, any_isForbidden_lowered plain.ascii, labels]
  split
  · rfl
  · exact congrArg some joined

/-! ## Rules -/

/-- How the letters of a domain name are brought into ASCII, if they make a name. Rules differ only
in what they make of names that are not plain. -/
structure Rules where
  ascii? : List Char → Option (List Char)
  plain : ∀ letters, IsPlain letters →
    ascii? letters = if letters.any isForbidden then none else some (letters.map lowered)

def Rules.tableless : Rules where
  ascii? := asciiName?
  plain _ := asciiName?_of_isPlain

end LedgerClient.Domain
