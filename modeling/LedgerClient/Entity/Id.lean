import LedgerClient.Entity.Checksum
import LedgerClient.Text.Decimal

/-!
Entity ids `shard.realm.num`. Accounts, files, topics and schedules are entities of different
kinds, and their ids are values of different types. A checksum may follow a written id; it is kept
for validation and is no part of the id's identity.
-/

namespace LedgerClient

inductive EntityKind where
  | account
  | file
  | topic
  | schedule
deriving DecidableEq

namespace EntityKind

def name : EntityKind → String
  | account => "account"
  | file => "file"
  | topic => "topic"
  | schedule => "schedule"

def typeName : EntityKind → String
  | account => "AccountId"
  | file => "FileId"
  | topic => "TopicId"
  | schedule => "ScheduleId"

end EntityKind

structure EntityId (kind : EntityKind) where
  shard : UInt64
  realm : UInt64
  num : UInt64
  checksum : Option Checksum
deriving DecidableEq

abbrev AccountId := EntityId .account
abbrev FileId := EntityId .file
abbrev TopicId := EntityId .topic
abbrev ScheduleId := EntityId .schedule

inductive IdErrorReason where
  | malformedChecksum
  | wrongPartCount
  | notDecimal
  | outOfRange
deriving DecidableEq

def IdErrorReason.text : IdErrorReason → String
  | malformedChecksum => "malformed checksum"
  | wrongPartCount => "expected shard.realm.num"
  | notDecimal => "components must be decimal digits"
  | outOfRange => "component out of range"

structure IdError where
  kind : EntityKind
  given : String
  reason : IdErrorReason
deriving DecidableEq

def IdError.message (error : IdError) : String :=
  s!"invalid {error.kind.name} id \x60{error.given}\x60: {error.reason.text}"

namespace EntityId

variable {kind : EntityKind}

def ofNumbers (shard realm num : UInt64) : EntityId kind :=
  { shard, realm, num, checksum := none }

instance : Inhabited (EntityId kind) := ⟨ofNumbers 0 0 0⟩

/-- The id without the checksum it was written with. Ids are the same entity when these agree. -/
def bare (id : EntityId kind) : EntityId kind :=
  { id with checksum := none }

def same (left right : EntityId kind) : Bool :=
  left.bare = right.bare

theorem same_iff {left right : EntityId kind} :
    left.same right = true ↔ left.bare = right.bare :=
  decide_eq_true_iff

theorem same_refl (id : EntityId kind) : id.same id = true :=
  same_iff.mpr rfl

theorem same_comm (left right : EntityId kind) : left.same right = right.same left :=
  decide_eq_decide.mpr eq_comm

theorem same_congr {left right : EntityId kind} (alike : left.same right = true)
    (other : EntityId kind) : left.same other = right.same other := by
  rw [same, same, same_iff.mp alike]

theorem eq_of_same {left right : EntityId kind} (alike : left.same right = true)
    (marked : left.checksum = right.checksum) : left = right := by
  obtain ⟨shard, realm, num, -⟩ := EntityId.mk.inj (same_iff.mp alike)
  cases left
  cases right
  simp_all

def compare (left right : EntityId kind) : Ordering :=
  (Ord.compare left.shard.toNat right.shard.toNat).then
    ((Ord.compare left.realm.toNat right.realm.toNat).then
      (Ord.compare left.num.toNat right.num.toNat))

/-- The same ids in ascending order, each entity once and as it was first given. -/
def ascending (ids : List (EntityId kind)) : List (EntityId kind) :=
  (ids.mergeSort fun left right => (compare left right).isLE).foldr (fun id rest =>
    match rest with
    | next :: others => if id.same next then id :: others else id :: rest
    | [] => [id]) []

def text (id : EntityId kind) : String :=
  s!"{id.shard.toNat}.{id.realm.toNat}.{id.num.toNat}"

def textWithChecksum (ledger : LedgerId) (id : EntityId kind) : String :=
  s!"{id.text}-{Checksum.expected ledger id.text}"

def validateChecksum (ledger : LedgerId) (id : EntityId kind) : Except ChecksumMismatch Unit :=
  Checksum.validate ledger id.text (id.checksum.map Checksum.text)

def inspect (id : EntityId kind) : Inspect :=
  .record kind.typeName [("shard", .number id.shard.toNat), ("realm", .number id.realm.toNat),
    ("num", .number id.num.toNat), ("checksum", .option Checksum.inspect id.checksum)]

def splitAll (separator : Char) : List Char → List (List Char)
  | [] => [[]]
  | letter :: rest =>
      match splitAll separator rest with
      | [] => [[letter]]
      | first :: others =>
          if letter = separator then [] :: first :: others else (letter :: first) :: others

theorem splitAll_eq (separator : Char) (letters : List Char) :
    splitAll separator letters = letters.splitOn separator := by
  induction letters with
  | nil => rfl
  | cons letter rest ih =>
      obtain ⟨first, others, split⟩ :=
        List.exists_cons_of_ne_nil (List.splitOn_ne_nil separator rest)
      rw [splitAll, ih, List.splitOn_cons_eq_if_modifyHead, split]
      by_cases same : letter = separator <;> simp [same]

theorem splitAll_apart {separator : Char} {letters part : List Char}
    (member : part ∈ splitAll separator letters) :
    separator ∉ part ∧ part ⊆ letters := by
  induction letters generalizing part with
  | nil =>
      obtain rfl := List.mem_singleton.mp member
      exact ⟨List.not_mem_nil, List.nil_subset _⟩
  | cons letter rest ih =>
      obtain ⟨first, others, split⟩ :=
        List.exists_cons_of_ne_nil (splitAll_eq separator rest ▸ List.splitOn_ne_nil separator rest)
      rw [splitAll, split] at member
      rw [split] at ih
      dsimp only at member
      by_cases same : letter = separator
      · rw [if_pos same] at member
        rcases List.mem_cons.mp member with rfl | member
        · exact ⟨List.not_mem_nil, List.nil_subset _⟩
        · exact (ih member).imp_right (List.subset_cons_of_subset letter)
      · rw [if_neg same] at member
        rcases List.mem_cons.mp member with rfl | member
        · obtain ⟨apart, within⟩ := ih List.mem_cons_self
          exact ⟨List.not_mem_cons_of_ne_of_not_mem (Ne.symm same) apart,
            List.cons_subset_cons letter within⟩
        · exact (ih (List.mem_cons_of_mem _ member)).imp_right (List.subset_cons_of_subset letter)

/-- One number of an id: any run of digits whose value fits in 64 bits. -/
def component (digits : List Char) : Except IdErrorReason UInt64 :=
  if digits.isEmpty || !digits.all Decimal.isDigit then .error .notDecimal
  else if Decimal.value digits < UInt64.size then .ok (UInt64.ofNat (Decimal.value digits))
  else .error .outOfRange

/-- The parts are looked at from left to right, and the first one that is wrong or missing is what
is reported. -/
def ofParts (parts : List (List Char)) : Except IdErrorReason (EntityId kind) := do
  let next (parts : List (List Char)) : Except IdErrorReason (UInt64 × List (List Char)) :=
    match parts with
    | [] => .error .wrongPartCount
    | part :: rest => (component part).map (·, rest)
  let (shard, rest) ← next parts
  let (realm, rest) ← next rest
  let (num, rest) ← next rest
  if rest.isEmpty then return ofNumbers shard realm num else .error .wrongPartCount

/-- The first dash ends the address, and what follows it is the checksum, which is read first. -/
def parseLetters (letters : List Char) : Except IdErrorReason (EntityId kind) :=
  let address := letters.takeWhile (· != '-')
  match letters.dropWhile (· != '-') with
  | [] => ofParts (splitAll '.' address)
  | _ :: suffix =>
      match Checksum.parse? suffix with
      | none => .error .malformedChecksum
      | some checksum => do
          let id : EntityId kind ← ofParts (splitAll '.' address)
          return { id with checksum := some checksum }

def parse (kind : EntityKind) (given : String) : Except IdError (EntityId kind) :=
  match parseLetters given.toList with
  | .ok id => .ok id
  | .error reason => .error { kind, given, reason }

end EntityId

end LedgerClient
