/-!
Byte strings, and the fixed-size numbers written into them. The wire format writes numbers with
the most significant byte first; signatures write them the other way round.
-/

namespace LedgerClient

abbrev Bytes := List UInt8

namespace Bytes

/-- The lowest `size` bytes of `value`, least significant first. -/
def littleEndian : (size value : Nat) → Bytes
  | 0, _ => []
  | size + 1, value => UInt8.ofNat value :: littleEndian size (value / 256)

def ofLittleEndian (bytes : Bytes) : Nat :=
  bytes.foldr (fun byte value => byte.toNat + 256 * value) 0

@[simp] theorem length_littleEndian (size value : Nat) :
    (littleEndian size value).length = size := by
  induction size generalizing value with
  | zero => rfl
  | succ size ih => simp [littleEndian, ih]

/-- The lowest `size` bytes of `value`, most significant first. -/
def bigEndian (size value : Nat) : Bytes :=
  (littleEndian size value).reverse

def ofBigEndian (bytes : Bytes) : Nat :=
  ofLittleEndian bytes.reverse

@[simp] theorem length_bigEndian (size value : Nat) : (bigEndian size value).length = size := by
  simp [bigEndian]

def ofText (text : String) : Bytes :=
  text.toByteArray.data.toList

def text? (bytes : Bytes) : Option String :=
  String.fromUTF8? ⟨bytes.toArray⟩

@[simp] theorem text?_ofText (text : String) : text? (ofText text) = some text := by
  exact dif_pos text.isValidUTF8

end Bytes

end LedgerClient
