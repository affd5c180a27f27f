import LedgerClient.Proofs.Outcomes
import LedgerClient.Url.Reference
import Mathlib.Data.List.TakeWhile

/-!
Paths of URLs. The path of a URL of the web begins with a slash and has its names between slashes,
however it was written. A reference of plain names takes the place of the last of them, and is left
out of nothing.
-/

namespace LedgerClient

namespace Url

variable {web : Bool} {letters : List Char} {names pieces : List String} {url : Url}
  {scheme : String} {rules : Domain.Rules}

/-! ## Names between slashes -/

/-- The name can stand between slashes. -/
def IsName (name : String) : Prop :=
  '/' ∉ name.toList

theorem splitSlashes_ne_nil (web : Bool) (letters : List Char) : splitSlashes web letters ≠ [] := by
  cases letters with
  | nil => exact List.cons_ne_nil _ _
  | cons letter rest =>
      unfold splitSlashes
      split
      · exact List.cons_ne_nil _ _
      · split <;> exact List.cons_ne_nil _ _

theorem splitSlashes_apart : ∀ piece ∈ splitSlashes web letters, '/' ∉ piece := by
  induction letters with
  | nil => simp [splitSlashes]
  | cons letter rest ih =>
      unfold splitSlashes
      split
      · rename_i none
        exact absurd none (splitSlashes_ne_nil web rest)
      · rename_i first others pieces
        rw [pieces] at ih
        obtain ⟨firstApart, othersApart⟩ := List.forall_mem_cons.mp ih
        split
        · exact List.forall_mem_cons.mpr ⟨List.not_mem_nil, ih⟩
        · rename_i plain
          refine List.forall_mem_cons.mpr ⟨?_, othersApart⟩
          have different : '/' ≠ letter := by
            rintro rfl
            exact plain rfl
          exact fun member => (List.mem_cons.mp member).elim different firstApart

theorem upperDigit_ne_slash {value : Nat} (digit : value < 16) : Percent.upperDigit value ≠ '/' := by
  have all : ∀ value < 16, Percent.upperDigit value ≠ '/' := by decide
  exact all value digit

/-- Escapes are written without slashes. -/
theorem isName_encode (plain : Char → Bool) (apart : '/' ∉ letters) :
    IsName (Percent.encode plain letters) := by
  rw [IsName, Percent.encode, String.toList_ofList, List.mem_flatMap]
  rintro ⟨letter, member, written⟩
  split at written
  · exact apart (List.mem_singleton.mp written ▸ member)
  · obtain ⟨byte, -, escaped⟩ := List.mem_flatMap.mp written
    have small := byte.toNat_lt
    have high : Percent.upperDigit (byte.toNat / 16) ≠ '/' := upperDigit_ne_slash (by omega)
    have low : Percent.upperDigit (byte.toNat % 16) ≠ '/' := upperDigit_ne_slash (by omega)
    simp [Percent.escapeByte, high.symm, low.symm] at escaped

theorem walk_ne_nil (names : List String) (some : pieces ≠ []) : walk names pieces ≠ [] := by
  fun_induction walk names pieces with
  | case1 => exact absurd rfl some
  | case2 | case3 | case4 => simp
  | case5 _ _ _ more _ ih | case6 _ _ _ more _ _ ih | case7 _ _ _ more _ _ ih => exact ih more

theorem isName_append {last : String} (known : ∀ name ∈ names, IsName name) (ends : IsName last) :
    ∀ name ∈ names ++ [last], IsName name :=
  List.forall_mem_append.mpr ⟨known, List.forall_mem_singleton.mpr ends⟩

theorem isName_empty : IsName "" :=
  List.not_mem_nil

theorem walk_isName (known : ∀ name ∈ names, IsName name) (given : ∀ piece ∈ pieces, IsName piece) :
    ∀ name ∈ walk names pieces, IsName name := by
  have without {names : List String} (known : ∀ name ∈ names, IsName name) :
      ∀ name ∈ names.dropLast, IsName name :=
    fun name member => known name ((List.dropLast_sublist names).subset member)
  fun_induction walk names pieces with
  | case1 => exact known
  | case2 => exact isName_append (without known) isName_empty
  | case3 => exact isName_append known isName_empty
  | case4 => exact isName_append known (given _ (List.mem_singleton_self _))
  | case5 _ _ _ _ _ ih => exact ih (without known) (List.forall_mem_cons.mp given).2
  | case6 _ _ _ _ _ _ ih => exact ih known (List.forall_mem_cons.mp given).2
  | case7 _ _ _ _ _ _ ih =>
      obtain ⟨first, others⟩ := List.forall_mem_cons.mp given
      exact ih (isName_append known first) others

/-! ## Parsed URLs -/

/-- The path has names, all of them between slashes. -/
def Rooted (url : Url) : Prop :=
  ∃ names, url.path = .segments names ∧ names ≠ [] ∧ ∀ name ∈ names, IsName name

theorem readPath_rooted (url : Url) (letters : List Char) : (readPath url [] letters).Rooted := by
  refine ⟨_, rfl, walk_ne_nil [] ?_, walk_isName nofun ?_⟩
  · simpa using splitSlashes_ne_nil _ _
  · intro piece member
    obtain ⟨letters, split, rfl⟩ := List.mem_map.mp member
    exact isName_encode _ (splitSlashes_apart _ split)

theorem readRootedPath_rooted (isWeb : isWeb url.scheme = true) (letters : List Char) :
    (readRootedPath url letters).Rooted := by
  unfold readRootedPath
  simp only [isWeb, Bool.not_true, Bool.and_false]
  split
  · exact readPath_rooted url []
  · split
    · exact readPath_rooted url _
    · exact readPath_rooted url _

theorem readRootedPath_scheme (url : Url) (letters : List Char) :
    (readRootedPath url letters).scheme = url.scheme := by
  unfold readRootedPath
  split
  · split <;> rfl
  · split
    · rfl
    · split <;> rfl

/-- What stands behind the two slashes has the path that comes last in it. -/
theorem readAuthority_eq_ok (read : readAuthority rules scheme letters = .ok url) :
    ∃ (bare : Url) (rest : List Char), bare.scheme = scheme ∧ url = readRootedPath bare rest := by
  have finish {named : Url} {found : Except UrlError (Option Host × Option Nat)} {rest : List Char}
      (same : named.scheme = scheme)
      (read : (found >>= fun place =>
        pure (readRootedPath { named with host := place.1, port := place.2 } rest)) = .ok url) :
      ∃ (bare : Url) (rest : List Char), bare.scheme = scheme ∧ url = readRootedPath bare rest := by
    obtain ⟨place, -, made⟩ := bind_eq_ok.mp read
    cases made
    exact ⟨{ named with host := place.1, port := place.2 }, rest, same, rfl⟩
  unfold readAuthority at read
  dsimp only at read
  -- with or without a user in front, the path is what is read last
  split at read
  · exact finish rfl read
  · split at read
    · cases read
    · exact finish rfl read

theorem readFile_scheme (read : readFile rules letters = .ok url) : url.scheme = "file" := by
  unfold readFile at read
  dsimp only at read
  split at read
  · cases read
    rfl
  · split at read
    · cases read
      rfl
    · obtain ⟨host, -, made⟩ := bind_eq_ok.mp read
      cases made
      rfl

theorem readOther_scheme (read : readOther rules scheme letters = .ok url) :
    url.scheme = scheme := by
  unfold readOther at read
  split at read
  · obtain ⟨bare, rest, same, rfl⟩ := readAuthority_eq_ok read
    rw [readRootedPath_scheme, same]
  · cases read
    rfl
  · cases read
    rfl

theorem isWeb_of_isHttp (http : url.isHttp = true) : isWeb url.scheme = true := by
  rcases isHttp_iff.mp http with same | same <;> rw [same] <;> rfl

theorem parse_rooted {text : String} (parsed : parse text rules = .ok url)
    (http : url.isHttp = true) : url.Rooted := by
  have web := isWeb_of_isHttp http
  unfold parse Url.read at parsed
  dsimp only at parsed
  -- only a scheme of the web is one for HTTP, so files and other schemes are ruled out by it
  split at parsed
  · rename_i scheme rest _ _
    split at parsed
    · rename_i file
      rw [isHttp, readFile_scheme parsed] at http
      cases http
    · split at parsed
      · rename_i isWeb
        obtain ⟨bare, behind, rfl, rfl⟩ := readAuthority_eq_ok parsed
        exact readRootedPath_rooted isWeb behind
      · rename_i other
        rw [readOther_scheme parsed] at web
        exact absurd web other
  · rename_i absent
    cases absent
  · cases parsed

/-! ## References of plain names -/

/-- The text is a name in a path as it is. -/
structure IsPlain (text : String) : Prop where
  letters : ∀ letter ∈ text.toList,
    Percent.plainInPath letter = true ∧ letter ≠ '/' ∧ letter ≠ '\\'
  notSingleDot : isSingleDot text = false
  notDoubleDot : isDoubleDot text = false

theorem isPlain_iff {text : String} : IsPlain text ↔
    text.toList.all (fun letter => Percent.plainInPath letter && letter != '/' && letter != '\\') ∧
      isSingleDot text = false ∧ isDoubleDot text = false := by
  have letters : text.toList.all
      (fun letter => Percent.plainInPath letter && letter != '/' && letter != '\\') ↔
      ∀ letter ∈ text.toList, Percent.plainInPath letter = true ∧ letter ≠ '/' ∧ letter ≠ '\\' := by
    simp [and_assoc]
  rw [letters]
  exact ⟨fun plain => ⟨plain.letters, plain.notSingleDot, plain.notDoubleDot⟩,
    fun ⟨letters, notSingleDot, notDoubleDot⟩ => ⟨letters, notSingleDot, notDoubleDot⟩⟩

instance (text : String) : Decidable (IsPlain text) :=
  decidable_of_iff _ isPlain_iff.symm

theorem visible_of_plainInPath {letter : Char} (plain : Percent.plainInPath letter = true) :
    ¬ letter ≤ ' ' := by
  intro low
  simp only [Percent.plainInPath, Percent.isPrintableBut, Bool.and_eq_true, decide_eq_true_iff]
    at plain
  obtain rfl : letter = ' ' := Char.le_antisymm low plain.1.1
  simp at plain

theorem not_isEnd_of_plainInPath {letter : Char} (plain : Percent.plainInPath letter = true) :
    isEnd letter = false := by
  by_contra ends
  simp only [isEnd, Bool.not_eq_false, Bool.or_eq_true, beq_iff_eq] at ends
  rcases ends with rfl | rfl <;> cases plain

theorem cleaned_eq {text : String} (visible : ∀ letter ∈ text.toList, ¬ letter ≤ ' ') :
    cleaned text = text.toList := by
  have kept {letters : List Char} (visible : ∀ letter ∈ letters, ¬ letter ≤ ' ') :
      letters.dropWhile (· ≤ ' ') = letters :=
    List.dropWhile_eq_self_iff.mpr fun some =>
      by simpa using visible letters[0] (List.getElem_mem some)
  have reversed : ∀ letter ∈ text.toList.reverse, ¬ letter ≤ ' ' :=
    fun letter member => visible letter (List.mem_reverse.mp member)
  rw [cleaned, kept visible, kept reversed, List.reverse_reverse, List.filter_eq_self]
  intro letter member
  have high := visible letter member
  simp only [Bool.and_eq_true, bne_iff_ne, ne_eq]
  refine ⟨⟨?_, ?_⟩, ?_⟩ <;> rintro rfl <;> exact high (by decide)

theorem splitScheme_eq_none {first rest : List Char}
    (schemeLetters : ∀ letter ∈ first, isSchemeLetter letter = true) :
    splitScheme (first ++ '/' :: rest) = none := by
  have ends : (first ++ '/' :: rest).dropWhile isSchemeLetter = '/' :: rest := by
    rw [List.dropWhile_append_of_pos schemeLetters]
    rfl
  unfold splitScheme
  rw [ends]
  split
  · rename_i colon
    cases colon
  · rfl

/-- Letters other than slashes go in front of the first piece. -/
theorem splitSlashes_append {first rest piece : List Char} {others : List (List Char)}
    (apart : ∀ letter ∈ first, isSlash web letter = false)
    (split : splitSlashes web rest = piece :: others) :
    splitSlashes web (first ++ rest) = (first ++ piece) :: others := by
  induction first with
  | nil => exact split
  | cons letter first ih =>
      obtain ⟨plain, apart⟩ := List.forall_mem_cons.mp apart
      simp [splitSlashes, ih apart, plain]

theorem splitSlashes_pair {first second : List Char}
    (firstApart : ∀ letter ∈ first, isSlash web letter = false)
    (secondApart : ∀ letter ∈ second, isSlash web letter = false) :
    splitSlashes web (first ++ '/' :: second) = [first, second] := by
  have ends : splitSlashes web [] = [[]] := rfl
  have behind : splitSlashes web second = [second] := by
    simpa using splitSlashes_append secondApart ends
  have between : splitSlashes web ('/' :: second) = [[], second] := by
    simp [splitSlashes, behind, isSlash]
  simpa using splitSlashes_append firstApart between

theorem encode_eq {plain : Char → Bool} (stay : ∀ letter ∈ letters, plain letter = true) :
    Percent.encode plain letters = String.ofList letters := by
  have each : letters.flatMap (fun letter =>
      if plain letter then [letter]
      else (Bytes.ofText (String.singleton letter)).flatMap Percent.escapeByte) = letters := by
    induction letters with
    | nil => rfl
    | cons letter rest ih =>
        obtain ⟨here, later⟩ := List.forall_mem_cons.mp stay
        rw [List.flatMap_cons, ih later, if_pos here, List.singleton_append]
  rw [Percent.encode, each]

variable {first second : String}

theorem IsPlain.apart (plain : IsPlain first) : ∀ letter ∈ first.toList, isSlash web letter = false := by
  intro letter member
  obtain ⟨-, slash, backslash⟩ := plain.letters letter member
  simp [isSlash, slash, backslash]

theorem walk_pair (names : List String) (plainFirst : IsPlain first) (plainSecond : IsPlain second) :
    walk names [first, second] = names ++ [first, second] := by
  simp [walk, plainFirst.notSingleDot, plainFirst.notDoubleDot, plainSecond.notSingleDot,
    plainSecond.notDoubleDot]

theorem readPath_pair (url : Url) (names : List String) (plainFirst : IsPlain first)
    (plainSecond : IsPlain second) :
    readPath url names (first.toList ++ '/' :: second.toList) =
      { url with path := .segments (names ++ [first, second]), query := none, fragment := none } := by
  have whole {text : String} (plain : IsPlain text) : ∀ letter ∈ text.toList,
      (!isEnd letter) = true := by
    intro letter member
    rw [not_isEnd_of_plainInPath (plain.letters letter member).1, Bool.not_false]
  have inside : ∀ letter ∈ first.toList ++ '/' :: second.toList, (!isEnd letter) = true :=
    List.forall_mem_append.mpr
      ⟨whole plainFirst, List.forall_mem_cons.mpr ⟨rfl, whole plainSecond⟩⟩
  have encoded {text : String} (plain : IsPlain text) :
      Percent.encode Percent.plainInPath text.toList = text := by
    rw [encode_eq fun letter member => (plain.letters letter member).1, String.ofList_toList]
  have pieces : (splitSlashes (isWeb url.scheme) (first.toList ++ '/' :: second.toList)).map
      (Percent.encode Percent.plainInPath) = [first, second] := by
    rw [splitSlashes_pair plainFirst.apart plainSecond.apart, List.map_cons, List.map_singleton,
      encoded plainFirst, encoded plainSecond]
  have all : (first.toList ++ '/' :: second.toList).takeWhile (!isEnd ·) =
      first.toList ++ '/' :: second.toList := List.takeWhile_eq_self_iff.mpr inside
  have rest : (first.toList ++ '/' :: second.toList).dropWhile (!isEnd ·) = [] :=
    List.dropWhile_eq_nil_iff.mpr inside
  unfold readPath
  dsimp only
  rw [all, rest, pieces, walk_pair names plainFirst plainSecond]
  rfl

theorem resolve_segments {base : Url} {names : List String} {head : Char} {tail : List Char}
    (path : base.path = .segments names) (inside : isEnd head = false)
    (relative : isSlash (isWeb base.scheme) head = false) :
    resolve rules base (head :: tail) = .ok (readPath base names.dropLast (head :: tail)) := by
  have notEnd : head ≠ '?' ∧ head ≠ '#' := by simpa [isEnd] using inside
  simp [resolve, path, notEnd, relative]

/-- Two plain names take the place of the last name in the path of the base. -/
theorem join_pair {base : Url} {names : List String} (path : base.path = .segments names)
    (some : first ≠ "") (schemeLetters : ∀ letter ∈ first.toList, isSchemeLetter letter = true)
    (plainFirst : IsPlain first) (plainSecond : IsPlain second) :
    base.join (first ++ "/" ++ second) rules =
      .ok { base with
        path := .segments (names.dropLast ++ [first, second]), query := none, fragment := none } := by
  have letters : (first ++ "/" ++ second).toList = first.toList ++ '/' :: second.toList := by
    simp
  have visible {text : String} (plain : IsPlain text) : ∀ letter ∈ text.toList, ¬ letter ≤ ' ' :=
    fun letter member => visible_of_plainInPath (plain.letters letter member).1
  have clean : cleaned (first ++ "/" ++ second) = first.toList ++ '/' :: second.toList := by
    rw [cleaned_eq, letters]
    rw [letters]
    exact List.forall_mem_append.mpr
      ⟨visible plainFirst, List.forall_mem_cons.mpr ⟨by decide, visible plainSecond⟩⟩
  unfold join Url.read
  dsimp only
  -- the slash ends the letters of a scheme, so that no colon can follow them
  rw [clean, splitScheme_eq_none schemeLetters]
  dsimp only
  rw [← readPath_pair base names.dropLast plainFirst plainSecond]
  cases shape : first.toList with
  | nil => exact absurd (String.toList_eq_nil_iff.mp shape) some
  | cons head tail =>
      have member : head ∈ first.toList := shape ▸ List.mem_cons_self
      exact resolve_segments path
        (not_isEnd_of_plainInPath (plainFirst.letters head member).1) (plainFirst.apart head member)

end Url

end LedgerClient
