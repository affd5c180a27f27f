import LedgerClient.Entity.Id
import Mathlib.Algebra.Group.Nat.Defs
import Mathlib.Data.List.Forall2

/-!
How ids are read. Three decimal numbers with points between them are an address, and a checksum may
follow it behind a dash. Reading accepts these texts and no others, and of any other text it tells
what is wrong with it: a malformed checksum before anything about the address, and of the parts of
the address the first one that is wrong, missing or too many.
-/

namespace LedgerClient

theorem Decimal.value_eq (digits : List Char) : value digits = Nat.ofDigitChars 10 digits 0 := by
  simp only [value, Nat.ofDigitChars_eq_foldl, Nat.mul_comm]

/-- The letters a checksum may have. -/
def Checksum.Letters (letters : List Char) : Prop :=
  1 ≤ letters.length ∧ letters.length ≤ 8 ∧ ∀ letter ∈ letters, 'a' ≤ letter ∧ letter ≤ 'z'

theorem Checksum.lettered (checksum : Checksum) : Letters checksum.letters := by
  simpa [Letters] using checksum.wellFormed

theorem Checksum.parse?_letters (checksum : Checksum) :
    parse? checksum.letters = some checksum :=
  dif_pos checksum.wellFormed

theorem Checksum.parse?_malformed {letters : List Char} (malformed : ¬ Letters letters) :
    parse? letters = none :=
  dif_neg fun wellFormed => malformed (lettered ⟨letters, wellFormed⟩)

theorem Checksum.of_letters {letters : List Char} (given : Letters letters) :
    ∃ checksum : Checksum, checksum.letters = letters :=
  ⟨⟨letters, by simpa [Letters] using given⟩, rfl⟩

namespace EntityId

variable {kind : EntityKind} {id : EntityId kind} {letters part address ending : List Char}
  {parts : List (List Char)} {number : UInt64} {reason : IdErrorReason}
  {checksum : Option Checksum}

/-! ## Numbers -/

def Digits (letters : List Char) : Prop :=
  letters ≠ [] ∧ ∀ letter ∈ letters, '0' ≤ letter ∧ letter ≤ '9'

/-- Decimal digits and the number of 64 bits they stand for, whatever zeros lead them. -/
structure Numeral (letters : List Char) (number : UInt64) : Prop where
  digits : Digits letters
  value : Nat.ofDigitChars 10 letters 0 = number.toNat

inductive NumberFault : List Char → IdErrorReason → Prop
  | notDecimal {letters : List Char} (foreign : ¬ Digits letters) : NumberFault letters .notDecimal
  | outOfRange {letters : List Char} (digits : Digits letters)
      (large : 2 ^ 64 ≤ Nat.ofDigitChars 10 letters 0) : NumberFault letters .outOfRange

theorem digits_iff : Digits letters ↔
    (letters.isEmpty || !letters.all Decimal.isDigit) = false := by
  simp [Digits, Decimal.isDigit]

theorem Numeral.component (numeral : Numeral letters number) :
    component letters = .ok number := by
  have within : Decimal.value letters < UInt64.size := by
    rw [Decimal.value_eq, numeral.value]
    exact number.toNat_lt_size
  rw [EntityId.component, digits_iff.mp numeral.digits, if_neg Bool.false_ne_true, if_pos within,
    Decimal.value_eq, numeral.value, UInt64.ofNat_toNat]

theorem NumberFault.component (fault : NumberFault letters reason) :
    component letters = .error reason := by
  cases fault with
  | notDecimal foreign =>
      exact if_pos (Bool.of_not_eq_false fun digits => foreign (digits_iff.mpr digits))
  | outOfRange digits large =>
      have outside : ¬ Decimal.value letters < UInt64.size := by
        rw [Decimal.value_eq]
        exact Nat.not_lt.mpr large
      rw [EntityId.component, digits_iff.mp digits, if_neg Bool.false_ne_true, if_neg outside]

theorem numeral_or_fault (letters : List Char) :
    (∃ number, Numeral letters number) ∨ ∃ reason, NumberFault letters reason := by
  by_cases digits : Digits letters
  · rcases Nat.lt_or_ge (Nat.ofDigitChars 10 letters 0) (2 ^ 64) with within | large
    · exact .inl ⟨.ofNat _, digits, (UInt64.toNat_ofNat_of_lt' within).symm⟩
    · exact .inr ⟨_, .outOfRange digits large⟩
  · exact .inr ⟨_, .notDecimal digits⟩

theorem Numeral.not_mem (numeral : Numeral letters number) {letter : Char}
    (foreign : ¬ ('0' ≤ letter ∧ letter ≤ '9')) : letter ∉ letters :=
  fun member => foreign (numeral.digits.2 letter member)

/-! ## The parts of an address -/

/-- What is wrong with the parts of an address of which this many are still awaited. -/
inductive PartFault : (awaited : Nat) → List (List Char) → IdErrorReason → Prop
  | missing {awaited : Nat} : PartFault (awaited + 1) [] .wrongPartCount
  | extra {part : List Char} {rest : List (List Char)} : PartFault 0 (part :: rest) .wrongPartCount
  | here {awaited : Nat} {part : List Char} {rest : List (List Char)} {reason : IdErrorReason}
      (fault : NumberFault part reason) : PartFault (awaited + 1) (part :: rest) reason
  | later {awaited : Nat} {part : List Char} {rest : List (List Char)} {reason : IdErrorReason}
      {number : UInt64} (numeral : Numeral part number) (fault : PartFault awaited rest reason) :
      PartFault (awaited + 1) (part :: rest) reason

theorem ofParts_numerals {first second third : List Char} (shard : Numeral first id.shard)
    (realm : Numeral second id.realm) (num : Numeral third id.num) :
    ofParts [first, second, third] = .ok id.bare := by
  simp [ofParts, bind, Except.bind, Except.map, pure, Except.pure, shard.component,
    realm.component, num.component, ofNumbers, bare]

theorem PartFault.ofParts (fault : PartFault 3 parts reason) :
    (ofParts parts : Except IdErrorReason (EntityId kind)) = .error reason := by
  cases fault with
  | missing => rfl
  | here fault => simp [EntityId.ofParts, bind, Except.bind, Except.map, fault.component]
  | later first fault =>
    cases fault with
    | missing => simp [EntityId.ofParts, bind, Except.bind, Except.map, first.component]
    | here fault =>
        simp [EntityId.ofParts, bind, Except.bind, Except.map, first.component, fault.component]
    | later second fault =>
      cases fault with
      | missing =>
          simp [EntityId.ofParts, bind, Except.bind, Except.map, first.component, second.component]
      | here fault =>
          simp [EntityId.ofParts, bind, Except.bind, Except.map, first.component, second.component,
            fault.component]
      | later third fault =>
        cases fault with
        | extra =>
          simp [EntityId.ofParts, bind, Except.bind, Except.map, first.component, second.component,
            third.component]

theorem numerals_or_fault (awaited : Nat) (parts : List (List Char)) :
    (∃ numbers : List UInt64, numbers.length = awaited ∧ List.Forall₂ Numeral parts numbers) ∨
      ∃ reason, PartFault awaited parts reason := by
  induction awaited generalizing parts with
  | zero =>
      cases parts with
      | nil => exact .inl ⟨[], rfl, .nil⟩
      | cons part rest => exact .inr ⟨_, .extra⟩
  | succ awaited ih =>
      cases parts with
      | nil => exact .inr ⟨_, .missing⟩
      | cons part rest =>
          rcases numeral_or_fault part with ⟨number, numeral⟩ | ⟨reason, fault⟩
          · rcases ih rest with ⟨numbers, counted, numerals⟩ | ⟨reason, fault⟩
            · exact .inl ⟨number :: numbers, congrArg (· + 1) counted, .cons numeral numerals⟩
            · exact .inr ⟨reason, .later numeral fault⟩
          · exact .inr ⟨reason, .here fault⟩

/-! ## Points and dashes -/

theorem splitAll_joined (nonempty : parts ≠ []) (apart : ∀ part ∈ parts, '.' ∉ part) :
    splitAll '.' (['.'].intercalate parts) = parts := by
  rw [splitAll_eq, List.splitOn_intercalate '.' apart nonempty]

/-- What may follow an address: nothing, or a dash and a checksum. -/
inductive Ending : List Char → Option Checksum → Prop
  | bare : Ending [] none
  | dashed (checksum : Checksum) : Ending ('-' :: checksum.letters) (some checksum)

theorem takeWhile_undashed (undashed : '-' ∉ address) (rest : List Char) :
    (address ++ rest).takeWhile (· != '-') = address ++ rest.takeWhile (· != '-') :=
  List.takeWhile_append_of_pos fun _ member => bne_iff_ne.mpr fun dash => undashed (dash ▸ member)

theorem dropWhile_undashed (undashed : '-' ∉ address) (rest : List Char) :
    (address ++ rest).dropWhile (· != '-') = rest.dropWhile (· != '-') :=
  List.dropWhile_append_of_pos fun _ member => bne_iff_ne.mpr fun dash => undashed (dash ▸ member)

theorem parseLetters_ok (undashed : '-' ∉ address) (ends : Ending ending id.checksum)
    (read : ofParts (splitAll '.' address) = .ok id.bare) :
    parseLetters (address ++ ending) = .ok id := by
  obtain ⟨shard, realm, num, checksum⟩ := id
  rw [parseLetters, takeWhile_undashed undashed, dropWhile_undashed undashed]
  cases ends with
  | bare => simpa [bare] using read
  | dashed checksum => simp [checksum.parse?_letters, read, bare]

theorem parseLetters_error (undashed : '-' ∉ address) (ends : Ending ending checksum)
    (failed : (ofParts (splitAll '.' address) : Except _ (EntityId kind)) = .error reason) :
    (parseLetters (address ++ ending) : Except _ (EntityId kind)) = .error reason := by
  rw [parseLetters, takeWhile_undashed undashed, dropWhile_undashed undashed]
  cases ends with
  | bare => simpa using failed
  | dashed checksum => simp [checksum.parse?_letters, failed]

theorem parseLetters_malformed {suffix : List Char} (undashed : '-' ∉ address)
    (malformed : ¬ Checksum.Letters suffix) :
    (parseLetters (address ++ '-' :: suffix) : Except _ (EntityId kind)) =
      .error .malformedChecksum := by
  rw [parseLetters, takeWhile_undashed undashed, dropWhile_undashed undashed]
  simp [Checksum.parse?_malformed malformed]

/-! ## Texts of ids -/

/-- Three numbers with points between them, and the checksum behind a dash if there is one. -/
inductive Written : List Char → EntityId kind → Prop
  | text {first second third ending : List Char} {id : EntityId kind}
      (shard : Numeral first id.shard) (realm : Numeral second id.realm)
      (num : Numeral third id.num) (ends : Ending ending id.checksum) :
      Written (['.'].intercalate [first, second, third] ++ ending) id

/-- What is wrong with a text. A malformed checksum is reported whatever the address is like. -/
inductive Fault : List Char → IdErrorReason → Prop
  | checksum {address suffix : List Char} (undashed : '-' ∉ address)
      (malformed : ¬ Checksum.Letters suffix) : Fault (address ++ '-' :: suffix) .malformedChecksum
  | address {parts : List (List Char)} {ending : List Char} {checksum : Option Checksum}
      {reason : IdErrorReason} (nonempty : parts ≠ [])
      (apart : ∀ part ∈ parts, '.' ∉ part ∧ '-' ∉ part) (ends : Ending ending checksum)
      (fault : PartFault 3 parts reason) : Fault (['.'].intercalate parts ++ ending) reason

theorem undashed_joined (apart : ∀ part ∈ parts, '.' ∉ part ∧ '-' ∉ part) :
    '-' ∉ ['.'].intercalate parts := by
  induction parts with
  | nil => exact List.not_mem_nil
  | cons part rest ih =>
      have later := ih fun part member => apart part (List.mem_cons_of_mem _ member)
      cases rest with
      | nil => simpa using (apart part List.mem_cons_self).2
      | cons next rest =>
          rw [List.intercalate_cons_cons]
          simpa [later] using (apart part List.mem_cons_self).2

theorem Numeral.apart (numeral : Numeral letters number) : '.' ∉ letters ∧ '-' ∉ letters :=
  ⟨numeral.not_mem (by decide), numeral.not_mem (by decide)⟩

theorem Written.parseLetters (written : Written letters id) : parseLetters letters = .ok id := by
  obtain @⟨first, second, third, _, _, shard, realm, num, ends⟩ := written
  have apart : ∀ part ∈ [first, second, third], '.' ∉ part ∧ '-' ∉ part := by
    simpa using ⟨shard.apart, realm.apart, num.apart⟩
  apply parseLetters_ok (undashed_joined apart) ends
  rw [splitAll_joined (List.cons_ne_nil _ _) fun part member => (apart part member).1]
  exact ofParts_numerals shard realm num

theorem Fault.parseLetters (fault : Fault letters reason) :
    (parseLetters letters : Except _ (EntityId kind)) = .error reason := by
  cases fault with
  | checksum undashed malformed => exact parseLetters_malformed undashed malformed
  | address nonempty apart ends fault =>
      apply parseLetters_error (undashed_joined apart) ends
      rw [splitAll_joined nonempty fun part member => (apart part member).1]
      exact fault.ofParts

/-!
## Every text is one or the other

Texts of ids are read and faults are reported, as shown above. Here every text is found to be one or
the other, so that the converses need no look at how the reading goes.
-/

/-- The parts of an address, and what follows them from the first dash on. -/
structure Divided (letters : List Char) (parts : List (List Char)) (ending : List Char) : Prop where
  whole : letters = ['.'].intercalate parts ++ ending
  nonempty : parts ≠ []
  apart : ∀ part ∈ parts, '.' ∉ part ∧ '-' ∉ part
  dash : ∀ letter ∈ ending.head?, letter = '-'

theorem exists_divided (letters : List Char) : ∃ parts ending, Divided letters parts ending := by
  have undashed : ∀ {address ending}, '-' ∉ address → (∀ letter ∈ ending.head?, letter = '-') →
      Divided (address ++ ending) (splitAll '.' address) ending := fun undashed dash =>
    { whole := by rw [splitAll_eq, List.intercalate_splitOn]
      nonempty := splitAll_eq '.' _ ▸ List.splitOn_ne_nil '.' _
      apart := fun part member =>
        (splitAll_apart member).imp_right fun within dashed => undashed (within dashed)
      dash }
  by_cases dashed : '-' ∈ letters
  · obtain ⟨address, suffix, rfl, first⟩ := List.eq_append_cons_of_mem dashed
    exact ⟨_, _, undashed first (by simp)⟩
  · exact ⟨_, [], letters.append_nil ▸ undashed dashed (by simp)⟩

theorem ending_or_malformed (dash : ∀ letter ∈ ending.head?, letter = '-') :
    (∃ checksum, Ending ending checksum) ∨
      ∃ suffix, ending = '-' :: suffix ∧ ¬ Checksum.Letters suffix := by
  cases ending with
  | nil => exact .inl ⟨_, .bare⟩
  | cons letter suffix =>
      obtain rfl : letter = '-' := dash letter rfl
      by_cases given : Checksum.Letters suffix
      · obtain ⟨checksum, rfl⟩ := Checksum.of_letters given
        exact .inl ⟨_, .dashed checksum⟩
      · exact .inr ⟨suffix, rfl, given⟩

theorem Divided.faulty (divided : Divided letters parts ending) (fault : PartFault 3 parts reason) :
    ∃ reason, Fault letters reason := by
  obtain ⟨rfl, nonempty, apart, dash⟩ := divided
  rcases ending_or_malformed dash with ⟨checksum, ends⟩ | ⟨suffix, rfl, malformed⟩
  · exact ⟨_, .address nonempty apart ends fault⟩
  · exact ⟨_, .checksum (undashed_joined apart) malformed⟩

theorem written_or_fault (letters : List Char) :
    (∃ id : EntityId kind, Written letters id) ∨ ∃ reason, Fault letters reason := by
  obtain ⟨parts, ending, divided⟩ := exists_divided letters
  rcases numerals_or_fault 3 parts with ⟨numbers, counted, numerals⟩ | ⟨reason, fault⟩
  · obtain ⟨rfl, nonempty, apart, dash⟩ := divided
    rcases ending_or_malformed dash with ⟨checksum, ends⟩ | ⟨suffix, rfl, malformed⟩
    · obtain ⟨shard, realm, num, rfl⟩ := List.length_eq_three.mp counted
      rcases numerals with _ | ⟨first, _ | ⟨second, _ | ⟨third, _ | _⟩⟩⟩
      exact .inl ⟨{ shard, realm, num, checksum }, .text first second third ends⟩
    · exact .inr ⟨_, .checksum (undashed_joined apart) malformed⟩
  · exact .inr (divided.faulty fault)

/-! ## Reading -/

/-- What no id is written with: more or fewer than three parts, a part that is empty or has a letter
other than the ten digits (a sign, a space, a digit of another script), a second dash. -/
inductive Stray : List Char → Prop
  | count {letters ending : List Char} {parts : List (List Char)}
      (divided : Divided letters parts ending) (count : parts.length ≠ 3) : Stray letters
  | part {letters part ending : List Char} {parts : List (List Char)}
      (divided : Divided letters parts ending) (member : part ∈ parts) (foreign : ¬ Digits part) :
      Stray letters
  | dash {letters : List Char} (further : 1 < letters.count '-') : Stray letters

theorem Numeral.all_digits {numbers : List UInt64} (numerals : List.Forall₂ Numeral parts numbers)
    (member : part ∈ parts) : Digits part := by
  induction numerals with
  | nil => exact absurd member List.not_mem_nil
  | cons numeral _ ih =>
      rcases List.mem_cons.mp member with rfl | later
      · exact numeral.digits
      · exact ih later

theorem Stray.faulty (stray : Stray letters) : ∃ reason, Fault letters reason := by
  cases stray with
  | count divided count =>
      rcases numerals_or_fault 3 _ with ⟨numbers, counted, numerals⟩ | ⟨reason, fault⟩
      · exact absurd (numerals.length_eq.trans counted) count
      · exact divided.faulty fault
  | part divided member foreign =>
      rcases numerals_or_fault 3 _ with ⟨numbers, counted, numerals⟩ | ⟨reason, fault⟩
      · exact absurd (Numeral.all_digits numerals member) foreign
      · exact divided.faulty fault
  | dash further =>
      have dashed : '-' ∈ letters := List.count_pos_iff.mp (Nat.zero_lt_of_lt further)
      obtain ⟨address, suffix, rfl, first⟩ := List.eq_append_cons_of_mem dashed
      have second : '-' ∈ suffix := by
        simpa [List.count_append, List.count_eq_zero_of_not_mem first] using further
      refine ⟨_, .checksum first fun given => ?_⟩
      exact absurd (given.2.2 _ second) (by decide)

/-- What reading a text gives: the id that it is written as, or else its fault. -/
structure Reads (kind : EntityKind) (given : String) : Prop where
  accepted (id : EntityId kind) : parse kind given = .ok id ↔ Written given.toList id
  refused (error : IdError) : parse kind given = .error error ↔
    error.kind = kind ∧ error.given = given ∧ Fault given.toList error.reason
  rejected : Stray given.toList → ∃ reason, parse kind given = .error { kind, given, reason }

theorem Written.parse {given : String} (written : Written given.toList id) :
    parse kind given = .ok id := by
  rw [EntityId.parse, written.parseLetters]

theorem Fault.parse {given : String} (kind : EntityKind) (fault : Fault given.toList reason) :
    parse kind given = .error { kind, given, reason } := by
  rw [EntityId.parse, fault.parseLetters]

/-- Reading accepts what an id is written as, for the numbers and the checksum that stand there, and
reports the fault of everything else. -/
theorem parse_reads (kind : EntityKind) (given : String) : Reads kind given where
  accepted id := by
    refine ⟨fun read => ?_, Written.parse⟩
    rcases written_or_fault given.toList with ⟨other, written⟩ | ⟨reason, fault⟩
    · rw [written.parse] at read
      exact Except.ok.inj read ▸ written
    · rw [fault.parse] at read
      nomatch read
  refused error := by
    constructor
    · intro read
      rcases @written_or_fault kind given.toList with ⟨id, written⟩ | ⟨reason, fault⟩
      · rw [written.parse] at read
        nomatch read
      · rw [fault.parse] at read
        obtain rfl := Except.error.inj read
        exact ⟨rfl, rfl, fault⟩
    · rintro ⟨rfl, rfl, fault⟩
      exact fault.parse error.kind
  rejected stray := by
    obtain ⟨reason, fault⟩ := stray.faulty
    exact ⟨reason, fault.parse kind⟩

example : parse .account "0.0.x-ABCDE" =
    .error { kind := .account, given := "0.0.x-ABCDE", reason := .malformedChecksum } := by
  decide +kernel

end EntityId

end LedgerClient
