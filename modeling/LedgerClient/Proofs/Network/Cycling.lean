import LedgerClient.Proofs.Network.Rotating
import LedgerClient.Proofs.Transaction.Obtainable
import Mathlib.Data.List.Rotate

/-!
How a rotation shares out its picks while no candidate gets better or worse. In as many picks as there
are healthy candidates each of them is picked once, in cyclic order from the rotation's place on, and
the next round goes the same way. Where no candidate is healthy, it is always the first of those that
are healthy again as soon as any.
-/

namespace LedgerClient

namespace Rotation

variable {rotation : Rotation} {remaining : AccountId → Duration} {nodes : List AccountId}
  {place start : Nat} {earlier later : List Nat}

/-- The rotation behind the candidate at a place. -/
def behind (rotation : Rotation) (place : Nat) : Rotation :=
  { rotation with next := (place + 1) % rotation.nodes.length }

/-- Picks in a row return the candidates at these places, and leave the second rotation. -/
inductive Takes (remaining : AccountId → Duration) : Rotation → List Nat → Rotation → Prop
  | nil (rotation : Rotation) : Takes remaining rotation [] rotation
  | cons {rotation after : Rotation} {place : Nat} {rest : List Nat} {node : AccountId}
      (candidate : rotation.nodes[place]? = some node)
      (selected : rotation.select remaining = some (node, rotation.behind place))
      (later : Takes remaining (rotation.behind place) rest after) :
      Takes remaining rotation (place :: rest) after

/-! ## One pick -/

theorem places_eq_rotate (rotation : Rotation) :
    rotation.places = (List.range rotation.nodes.length).rotate rotation.next := by
  apply List.ext_getElem
  · simp [places]
  · intro place inside _
    simp [places, List.getElem_rotate, Nat.add_comm]

/-- Behind a place, those that came before it and then the place itself are last. -/
theorem places_behind (split : rotation.places = earlier ++ place :: later) :
    (rotation.behind place).places = later ++ (earlier ++ [place]) := by
  let all := List.range rotation.nodes.length
  have size : all.length = rotation.nodes.length := List.length_range
  have here : place = (rotation.next + earlier.length) % rotation.nodes.length := by
    have length : earlier.length < rotation.places.length := by simp [split]
    have found : rotation.places[earlier.length] = place := by simp [split]
    rw [← found]
    simp [places]
  have whole : rotation.places = (earlier ++ [place]) ++ later := by simp [split]
  calc (rotation.behind place).places
    _ = all.rotate ((place + 1) % rotation.nodes.length) := places_eq_rotate _
    _ = all.rotate (rotation.next + (earlier ++ [place]).length) := by
        rw [here, Nat.mod_add_mod, ← size, List.rotate_mod, List.length_append,
          List.length_singleton, Nat.add_assoc]
    _ = rotation.places.rotate (earlier ++ [place]).length := by
        rw [← List.rotate_rotate, places_eq_rotate]
    _ = later ++ (earlier ++ [place]) := by rw [whole, List.rotate_append_length_eq]

/-- The places of the healthy candidates in the order in which their turns come. -/
def turns (rotation : Rotation) (remaining : AccountId → Duration) : List Nat :=
  rotation.places.filter fun place => waitAt rotation.nodes remaining place = 0

theorem turns_behind (next : rotation.turns remaining = place :: later) :
    (rotation.behind place).turns remaining = later ++ [place] := by
  obtain ⟨resting, rest, split, passed, healthy, rfl⟩ := List.filter_eq_cons_iff.mp next
  have none : resting.filter (fun place => waitAt rotation.nodes remaining place = 0) = [] :=
    List.filter_eq_nil_iff.mpr passed
  change ((rotation.behind place).places.filter
    fun place => waitAt rotation.nodes remaining place = 0) = _
  rw [places_behind split, List.filter_append, List.filter_append, none, List.nil_append,
    List.filter_cons, if_pos healthy, List.filter_nil]

theorem mem_turns_iff : place ∈ rotation.turns remaining ↔
    HealthyAt rotation.nodes remaining place := by
  rw [turns, places_eq_rotate, List.mem_filter, List.mem_rotate, List.mem_range]
  constructor
  · rintro ⟨inside, healthy⟩
    exact (healthyAt_iff inside).mpr (by simpa using healthy)
  · intro healthy
    have inside : place < rotation.nodes.length := by
      obtain ⟨node, found, -⟩ := healthy
      exact (List.getElem?_eq_some_iff.mp found).1
    exact ⟨inside, by simpa using (healthyAt_iff inside).mp healthy⟩

/-- The first whose turn it is is picked, or else the first of those that wait the least. -/
theorem pick_turns (rotation : Rotation) (remaining : AccountId → Duration) :
    rotation.pick remaining = (rotation.turns remaining).head?.or
      (leastPlace (waitAt rotation.nodes remaining) (List.range rotation.nodes.length)) := by
  rw [pick_eq, ← List.head?_filter]
  rfl

theorem select_of_pick {node : AccountId} (picked : rotation.pick remaining = some place)
    (found : rotation.nodes[place]? = some node) :
    rotation.select remaining = some (node, rotation.behind place) := by
  simp [select, picked, found, behind]

theorem select_turns (next : rotation.turns remaining = place :: later) :
    ∃ node, rotation.nodes[place]? = some node ∧
      rotation.select remaining = some (node, rotation.behind place) := by
  have healthy : place ∈ rotation.turns remaining := next ▸ List.mem_cons_self
  obtain ⟨node, found, -⟩ := mem_turns_iff.mp healthy
  have picked : rotation.pick remaining = some place := by
    rw [pick_turns, next, List.head?_cons, Option.some_or]
  exact ⟨node, found, select_of_pick picked found⟩

/-! ## Rounds -/

/-- The candidates whose turn it is are picked in their order, and then have the last turns. -/
theorem takes_turns (order : rotation.turns remaining = earlier ++ later) :
    ∃ after, Takes remaining rotation earlier after ∧
      after.turns remaining = later ++ earlier := by
  induction earlier generalizing rotation later with
  | nil => exact ⟨rotation, .nil rotation, by rw [order, List.nil_append, List.append_nil]⟩
  | cons place rest ih =>
      obtain ⟨node, found, selected⟩ := select_turns order
      have onward : (rotation.behind place).turns remaining = rest ++ (later ++ [place]) := by
        rw [← List.append_assoc]
        exact turns_behind order
      obtain ⟨after, taken, last⟩ := ih onward
      exact ⟨after, .cons found selected taken, by simpa using last⟩

theorem takes_exists (nonempty : rotation.nodes ≠ []) (remaining : AccountId → Duration)
    (count : Nat) : ∃ places after, Takes remaining rotation places after ∧
      places.length = count ∧ after.nodes = rotation.nodes := by
  induction count generalizing rotation with
  | zero => exact ⟨[], rotation, .nil rotation, rfl, rfl⟩
  | succ count ih =>
      obtain ⟨node, next, selected, -⟩ := select_mem remaining nonempty
      obtain ⟨place, picks, rfl⟩ := select_picks selected
      have onward : (rotation.behind place).nodes ≠ [] := nonempty
      obtain ⟨places, after, taken, rfl, kept⟩ := ih onward
      exact ⟨place :: places, after, .cons picks.candidate selected taken, rfl, kept⟩

/-- These are the places of all healthy candidates, each once and in cyclic order from `start` on. -/
structure Round (nodes : List AccountId) (remaining : AccountId → Duration) (start : Nat)
    (turns : List Nat) : Prop where
  once : turns.Nodup
  mem_iff (place : Nat) : place ∈ turns ↔ HealthyAt nodes remaining place
  cyclic : turns.Sublist ((List.range nodes.length).rotate start)

theorem round_turns (rotation : Rotation) (remaining : AccountId → Duration) :
    Round rotation.nodes remaining rotation.next (rotation.turns remaining) where
  once := by
    rw [turns, places_eq_rotate]
    exact (List.nodup_rotate.mpr List.nodup_range).filter _
  mem_iff _ := mem_turns_iff
  cyclic := by
    rw [turns, places_eq_rotate]
    exact List.filter_sublist

/-! ## Waiting -/

/-- The first place of those whose candidates are healthy again as soon as any. -/
structure Soonest (nodes : List AccountId) (remaining : AccountId → Duration) (place : Nat) :
    Prop where
  inside : place < nodes.length
  least : ∀ other < nodes.length, waitAt nodes remaining place ≤ waitAt nodes remaining other
  first : ∀ other < place, waitAt nodes remaining place < waitAt nodes remaining other

theorem leastPlace_split {measure : Nat → Nat} {places : List Nat}
    (least : leastPlace measure places = some place) :
    ∃ before after, places = before ++ place :: after ∧
      ∀ other ∈ before, measure place < measure other := by
  induction places generalizing place with
  | nil => cases least
  | cons first rest ih =>
      rw [leastPlace] at least
      split at least
      · cases least
        exact ⟨[], rest, rfl, List.forall_mem_nil _⟩
      · rename_i other later
        split at least
        · rename_i smaller
          cases least
          obtain ⟨before, after, rfl, shorter⟩ := ih later
          refine ⟨first :: before, after, rfl, ?_⟩
          exact List.forall_mem_cons.mpr ⟨smaller, shorter⟩
        · cases least
          exact ⟨[], rest, rfl, List.forall_mem_nil _⟩

theorem soonest_leastPlace
    (least : leastPlace (waitAt nodes remaining) (List.range nodes.length) = some place) :
    Soonest nodes remaining place := by
  obtain ⟨member, smallest⟩ := leastPlace_le least
  obtain ⟨before, after, split, shorter⟩ := leastPlace_split least
  refine ⟨List.mem_range.mp member, fun other inside => smallest other (List.mem_range.mpr inside),
    fun other lower => shorter other ?_⟩
  -- a range ascends, and so what is below the place stands before it
  have ascending := List.pairwise_lt_range (n := nodes.length)
  rw [split] at ascending
  have listed : other ∈ List.range nodes.length :=
    List.mem_range.mpr (Nat.lt_trans lower (List.mem_range.mp member))
  rw [split, List.mem_append, List.mem_cons] at listed
  rcases listed with earlier | rfl | later
  · exact earlier
  · exact absurd lower (Nat.lt_irrefl _)
  · have above := (List.pairwise_cons.mp (List.pairwise_append.mp ascending).2.1).1 other later
    omega

theorem select_resting (nonempty : rotation.nodes ≠ []) (resting : rotation.turns remaining = []) :
    ∃ place node, Soonest rotation.nodes remaining place ∧ rotation.nodes[place]? = some node ∧
      rotation.select remaining = some (node, rotation.behind place) := by
  have places : List.range rotation.nodes.length ≠ [] := by simpa using nonempty
  obtain ⟨place, -, least⟩ := leastPlace_mem (waitAt rotation.nodes remaining) places
  have soonest := soonest_leastPlace least
  have found := List.getElem?_eq_getElem soonest.inside
  have picked : rotation.pick remaining = some place := by
    rw [pick_turns, resting, List.head?_nil, Option.none_or, least]
  exact ⟨place, _, soonest, found, select_of_pick picked found⟩

/-! ## Any picks in a row -/

/-- Whatever was picked before, the next picks return each healthy candidate once in cyclic order,
and if there is none, the next pick returns the one that is healthy again first. -/
theorem takes_cycles (nonempty : rotation.nodes ≠ []) (remaining : AccountId → Duration)
    (count : Nat) :
    ∃ before reached turns after, Takes remaining rotation before reached ∧
      before.length = count ∧ Round rotation.nodes remaining reached.next turns ∧
      Takes remaining reached turns after ∧
      (turns = [] → ∃ place, Soonest rotation.nodes remaining place ∧
        Takes remaining reached [place] (reached.behind place)) := by
  obtain ⟨before, reached, taken, length, same⟩ := takes_exists nonempty remaining count
  obtain ⟨after, round, -⟩ := takes_turns (List.append_nil (reached.turns remaining)).symm
  refine ⟨before, reached, reached.turns remaining, after, taken, length,
    same ▸ round_turns reached remaining, round, fun resting => ?_⟩
  obtain ⟨place, node, soonest, found, selected⟩ := select_resting (same ▸ nonempty) resting
  exact ⟨place, same ▸ soonest, .cons found selected (.nil _)⟩

end Rotation

namespace Sample

/-- Three candidates, the last of which is to be picked next. -/
def rounds : Rotation where
  nodes := [node, .ofNumbers 0 0 4, .ofNumbers 0 0 5]
  next := 2

/-- The second one is to be left alone for a while. -/
def secondRests (account : AccountId) : Duration :=
  if account = .ofNumbers 0 0 4 then Duration.ofMillis 500 else Duration.zero

theorem rounds_cycles :
    rounds.nodes ≠ [] ∧ ∃ before reached turns after,
      Rotation.Takes secondRests rounds before reached ∧ before.length = 3 ∧
      Rotation.Round rounds.nodes secondRests reached.next turns ∧
      Rotation.Takes secondRests reached turns after ∧
      (turns = [] → ∃ place, Rotation.Soonest rounds.nodes secondRests place ∧
        Rotation.Takes secondRests reached [place] (reached.behind place)) := by
  have nonempty : rounds.nodes ≠ [] := by decide
  exact ⟨nonempty, Rotation.takes_cycles nonempty secondRests 3⟩

example : rounds.turns secondRests = [2, 0] := by decide +kernel

end Sample

end LedgerClient
