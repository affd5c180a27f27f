import LedgerClient.Proofs.Entity.Parsing

/-!
How ids are shown. The text of an id is read as its three numbers, and with the checksum of a ledger
behind it as the id with this checksum, which is valid on that ledger.
-/

namespace LedgerClient

namespace Checksum

/-! ## The checksum of an address -/

theorem length_lettersOf (count value : Nat) : (lettersOf count value).length = count := by
  induction count generalizing value with
  | zero => rfl
  | succ count ih => rw [lettersOf, List.length_append, ih, List.length_singleton]

theorem lower_letter {digit : Nat} (small : digit < 26) :
    'a' ≤ Char.ofNat (97 + digit) ∧ Char.ofNat (97 + digit) ≤ 'z' := by
  have all : ∀ digit : Fin 26, 'a' ≤ Char.ofNat (97 + digit) ∧ Char.ofNat (97 + digit) ≤ 'z' := by
    decide
  exact all ⟨digit, small⟩

theorem lower_lettersOf {count value : Nat} {letter : Char}
    (member : letter ∈ lettersOf count value) : 'a' ≤ letter ∧ letter ≤ 'z' := by
  induction count generalizing value with
  | zero => exact absurd member List.not_mem_nil
  | succ count ih =>
      rcases List.mem_append.mp member with higher | lowest
      · exact ih higher
      · obtain rfl := List.mem_singleton.mp lowest
        exact lower_letter (Nat.mod_lt _ (by decide))

/-- The letters that belong behind an address are those of a checksum. -/
theorem exists_expected (ledger : LedgerId) (address : String) :
    ∃ checksum : Checksum, checksum.letters.length = 5 ∧ checksum.text = expected ledger address := by
  have length := length_lettersOf 5 (number ledger (Bytes.ofText address))
  obtain ⟨checksum, letters⟩ := of_letters ⟨by rw [length]; decide, by rw [length]; decide,
    fun _ member => lower_lettersOf member⟩
  exact ⟨checksum, letters ▸ length, congrArg String.ofList letters⟩

end Checksum

namespace EntityId

variable {kind : EntityKind} {id : EntityId kind} {ledger : LedgerId} {checksum : Checksum}

/-- The id with this checksum behind it, and nothing else changed. -/
def marked (id : EntityId kind) (checksum : Checksum) : EntityId kind :=
  { id with checksum := some checksum }

/-! ## Texts of ids -/

theorem Numeral.ofNumber (number : UInt64) : Numeral (Nat.toDigits 10 number.toNat) number where
  digits := ⟨Nat.toDigits_ne_nil, fun _ member => by
    simpa [Char.isDigit, Char.le_def] using
      Nat.isDigit_of_mem_toDigits (by decide) (by decide) member⟩
  value := Nat.ofDigitChars_ten_toDigits

theorem toList_text (id : EntityId kind) : id.text.toList =
    ['.'].intercalate [Nat.toDigits 10 id.shard.toNat, Nat.toDigits 10 id.realm.toNat,
      Nat.toDigits 10 id.num.toNat] := by
  have joined : id.text = toString id.shard.toNat ++ "." ++ toString id.realm.toNat ++ "." ++
    toString id.num.toNat := rfl
  simp [joined, List.intercalate]

theorem textWithChecksum_eq (belongs : checksum.text = Checksum.expected ledger id.text) :
    id.textWithChecksum ledger = id.text ++ "-" ++ checksum.text :=
  belongs ▸ rfl

theorem written_text (id : EntityId kind) : Written id.text.toList id.bare := by
  have plain : Written (id.text.toList ++ []) id.bare :=
    toList_text id ▸ .text (.ofNumber _) (.ofNumber _) (.ofNumber _) .bare
  rwa [List.append_nil] at plain

theorem written_textWithChecksum (belongs : checksum.text = Checksum.expected ledger id.text) :
    Written (id.textWithChecksum ledger).toList (id.marked checksum) := by
  have shown : (id.textWithChecksum ledger).toList = id.text.toList ++ '-' :: checksum.letters := by
    simp [textWithChecksum_eq belongs, Checksum.text]
  rw [shown, toList_text]
  exact .text (.ofNumber _) (.ofNumber _) (.ofNumber _) (.dashed checksum)

/-- This checksum stands behind the id where it is shown with the one of the ledger: five lower-case
letters, with which the id is read back and is valid. -/
structure Shows (ledger : LedgerId) (id : EntityId kind) (checksum : Checksum) : Prop where
  five : checksum.letters.length = 5
  lower : ∀ letter ∈ checksum.letters, 'a' ≤ letter ∧ letter ≤ 'z'
  shown : id.textWithChecksum ledger = id.text ++ "-" ++ checksum.text
  read : parse kind (id.textWithChecksum ledger) = .ok (id.marked checksum)
  same : (id.marked checksum).same id
  valid : (id.marked checksum).validateChecksum ledger = .ok ()

/-- On every ledger, what is shown of an id is read back. -/
theorem text_readsBack (ledger : LedgerId) (id : EntityId kind) :
    parse kind id.text = .ok (ofNumbers id.shard id.realm id.num) ∧
      ∃ checksum, Shows ledger id checksum := by
  refine ⟨(written_text id).parse, ?_⟩
  obtain ⟨checksum, five, belongs⟩ := Checksum.exists_expected ledger id.text
  exact ⟨checksum, {
    five
    lower := checksum.lettered.2.2
    shown := textWithChecksum_eq belongs
    read := (written_textWithChecksum belongs).parse
    same := decide_eq_true rfl
    valid := if_pos belongs }⟩

end EntityId

end LedgerClient
