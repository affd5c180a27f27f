import LedgerClient.Wire.Encoding
import Mathlib.Algebra.Group.Nat.Defs

/-!
What a reader that succeeded must have read. A reader is canonical for a way of writing when every
value it reads is written back as the very bytes it was read from; readers that are put together
from canonical ones are canonical too. What all values that a reader yields have in common is found
along the reader in the same way, whatever the bytes are.
-/

namespace LedgerClient

namespace Bytes

theorem ofLittleEndian_lt (bytes : Bytes) : ofLittleEndian bytes < 256 ^ bytes.length := by
  induction bytes with
  | nil => simp [ofLittleEndian]
  | cons byte rest ih =>
      have low := byte.toNat_lt
      simp only [ofLittleEndian, List.foldr_cons, List.length_cons] at ih ⊢
      rw [Nat.pow_succ]
      omega

theorem littleEndian_ofLittleEndian (bytes : Bytes) :
    littleEndian bytes.length (ofLittleEndian bytes) = bytes := by
  induction bytes with
  | nil => rfl
  | cons byte rest ih =>
      have low := byte.toNat_lt
      have value : ofLittleEndian (byte :: rest) = byte.toNat + 256 * ofLittleEndian rest := rfl
      have high : (byte.toNat + 256 * ofLittleEndian rest) / 256 = ofLittleEndian rest := by omega
      have first : UInt8.ofNat (byte.toNat + 256 * ofLittleEndian rest) = byte := by
        apply UInt8.toNat_inj.mp
        simp only [UInt8.toNat_ofNat']
        omega
      rw [value, List.length_cons, littleEndian, high, first, ih]

theorem ofBigEndian_lt (bytes : Bytes) : ofBigEndian bytes < 256 ^ bytes.length := by
  simpa [ofBigEndian] using ofLittleEndian_lt bytes.reverse

theorem bigEndian_ofBigEndian {size : Nat} {bytes : Bytes} (length : bytes.length = size) :
    bigEndian size (ofBigEndian bytes) = bytes := by
  have reversed := littleEndian_ofLittleEndian bytes.reverse
  rw [List.length_reverse, length] at reversed
  rw [bigEndian, ofBigEndian, reversed, List.reverse_reverse]

theorem ofText_of_text? {bytes : Bytes} {text : String} (read : text? bytes = some text) :
    ofText text = bytes := by
  unfold text? at read
  simp only [String.fromUTF8?] at read
  split at read
  · simp only [Option.some.injEq] at read
    subst read
    rfl
  · contradiction

end Bytes

namespace Reader

variable {α β : Type} {bytes rest : Bytes}

theorem run_bind_eq_ok {reader : Reader α} {next : α → Reader β} {value : β} :
    (reader >>= next).run bytes = (.ok value, rest) ↔
      ∃ first middle, reader.run bytes = (.ok first, middle) ∧
        (next first).run middle = (.ok value, rest) := by
  constructor
  · intro read
    cases taken : reader.run bytes with
    | mk outcome middle =>
        cases outcome with
        | error error => simp [run_bind_error taken] at read
        | ok first => exact ⟨first, middle, rfl, run_bind_ok taken ▸ read⟩
  · rintro ⟨first, middle, taken, read⟩
    rw [run_bind_ok taken, read]

theorem run_pure_eq_ok {given value : α} :
    (Pure.pure given : Reader α).run bytes = (.ok value, rest) ↔ given = value ∧ bytes = rest := by
  simp [run_pure]

theorem run_fail_ne_ok {error : DecodeError} {value : α} :
    (fail error : Reader α).run bytes ≠ (.ok value, rest) := by
  simp [run_fail]

theorem run_take_eq_ok {count : Nat} {taken : Bytes}
    (read : (take count).run bytes = (.ok taken, rest)) :
    taken.length = count ∧ bytes = taken ++ rest := by
  simp only [run, take] at read
  split at read
  · rename_i size
    simp only [Prod.mk.injEq, Except.ok.injEq] at read
    obtain ⟨rfl, rfl⟩ := read
    exact ⟨size, (List.take_append_drop count bytes).symm⟩
  · simp at read

/-- Whatever is read is written back as the bytes it was read from. -/
def Canonical (reader : Reader α) (encode : α → Bytes) : Prop :=
  ∀ ⦃bytes value rest⦄, reader.run bytes = (.ok value, rest) → bytes = encode value ++ rest

theorem Canonical.decode {reader : Reader α} {encode : α → Bytes}
    (canonical : reader.Canonical encode) {value : α} (read : reader.decode bytes = .ok value) :
    encode value = bytes := by
  unfold Reader.decode at read
  split at read
  · contradiction
  · rename_i taken
    cases read
    simpa using (canonical taken).symm
  · contradiction

/-- Every value that is read, from whatever bytes, is of this sort. -/
def Yields (reader : Reader α) (sort : α → Prop) : Prop :=
  ∀ ⦃bytes value rest⦄, reader.run bytes = (.ok value, rest) → sort value

variable {reader : Reader α} {sort : α → Prop} {result : β → Prop}

theorem yields_pure {value : α} (holds : sort value) :
    (Pure.pure value : Reader α).Yields sort := by
  intro bytes read rest done
  obtain ⟨rfl, -⟩ := run_pure_eq_ok.mp done
  exact holds

theorem yields_fail {error : DecodeError} : (fail error : Reader α).Yields sort :=
  fun _ _ _ read => absurd read run_fail_ne_ok

theorem Yields.bind {next : α → Reader β} (first : reader.Yields sort)
    (later : ∀ value, sort value → (next value).Yields result) :
    (reader >>= next).Yields result := by
  intro bytes value rest read
  obtain ⟨taken, middle, took, done⟩ := run_bind_eq_ok.mp read
  exact later taken (first took) done

theorem Yields.mono {wider : α → Prop} (yields : reader.Yields sort)
    (weaker : ∀ value, sort value → wider value) : reader.Yields wider :=
  fun _ value _ read => weaker value (yields read)

theorem Yields.decode (yields : reader.Yields sort) {value : α}
    (read : reader.decode bytes = .ok value) : sort value := by
  unfold Reader.decode at read
  split at read
  · contradiction
  · rename_i taken
    cases read
    exact yields taken
  · contradiction

end Reader

end LedgerClient
