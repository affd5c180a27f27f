import LedgerClient.Proofs.Network.Selection
import Mathlib.Data.List.Nodup

/-!
Where a rotation goes on. It picks the first healthy candidate from its place on, and one that is
healthy again as soon as any if none is. Once the wait for a picked node is over, the node is
healthy.
-/

namespace LedgerClient

/-! ## Waiting for a node -/

namespace Instant

theorem le_iff {left right : Instant} : left ≤ right ↔ left.nanos ≤ right.nanos := Iff.rfl

/-- A timer is never early. -/
theorem reaches_wakeFrom (now moment : Instant) : moment ≤ wakeFrom now moment := by
  unfold wakeFrom
  by_cases passed : moment ≤ now
  · simp only [if_pos passed]
    exact passed
  · simp only [if_neg passed]
    simp only [le_iff, millisecond] at passed ⊢
    omega

theorem reaches_wakeAfter {now : Instant} {duration : Duration}
    (representable : (now.after duration).isRepresentable) :
    now.after duration ≤ now.wakeAfter duration := by
  simp only [wakeAfter, due, if_pos representable]
  exact reaches_wakeFrom now _

theorem remainingAt_passed {moment now : Instant} (passed : moment ≤ now) :
    moment.remainingAt now = Duration.zero := by
  rw [le_iff] at passed
  simp only [remainingAt, Duration.zero, Nat.sub_eq_zero_of_le passed]

end Instant

/-- The clock can tell when the node may be asked again. -/
def Health.Recovers (health : Health) : Prop :=
  ∀ last, health.lastFailure = some last → (last.after health.delay).isRepresentable

theorem Health.remaining_eligibleFrom {health : Health} (recovers : health.Recovers)
    (now : Instant) : health.remaining (health.eligibleFrom now) = Duration.zero := by
  unfold eligibleFrom
  cases failed : health.lastFailure with
  | none => simp only [remaining, failed]
  | some last =>
      have representable := recovers last failed
      simp only [remaining, failed, if_pos representable]
      apply Instant.remainingAt_passed
      by_cases passed : last.after health.delay ≤ now
      · exact Nat.le_trans passed (Instant.le_wakeFrom now _)
      · -- The whole wait is representable, so the timer is set for the end of it.
        have exact : now.after ((last.after health.delay).remainingAt now) =
            last.after health.delay := by
          rw [Instant.le_iff] at passed
          rw [Instant.isRepresentable] at representable
          have short : (last.after health.delay).nanos - now.nanos ≤ Duration.longest.nanos := by
            simp only [Duration.longest, UInt64.size] at representable ⊢
            omega
          simp only [Instant.after, Instant.remainingAt, Duration.nanos_ofNanos,
            Instant.mk.injEq] at passed short ⊢
          omega
        have reached := Instant.reaches_wakeAfter (exact.symm ▸ representable)
        rw [exact] at reached
        exact reached

/-- The clock can tell when the account's node may be asked again. -/
def Network.Recovers (network : Network) (account : AccountId) : Prop :=
  ∀ node, network.node? account = some node → node.health.Recovers

theorem Network.remaining_wakeAfter {network : Network} {account : AccountId}
    (recovers : network.Recovers account) (now : Instant) :
    network.remaining account (now.wakeAfter (network.remaining account now)) =
      Duration.zero := by
  cases known : network.node? account with
  | none => simp only [remaining, known]
  | some node =>
      simp only [remaining, known]
      exact Health.remaining_eligibleFrom (recovers node known) now

/-! ## Picking a node -/

namespace Rotation

variable {nodes : List AccountId} {remaining : AccountId → Duration} {start place : Nat}
  {node : AccountId}

/-- A healthy candidate is at this place. -/
def HealthyAt (nodes : List AccountId) (remaining : AccountId → Duration) (place : Nat) : Prop :=
  ∃ node, nodes[place]? = some node ∧ remaining node = Duration.zero

/-- The first place with a healthy candidate, counted cyclically from `start`. -/
def FirstHealthy (nodes : List AccountId) (remaining : AccountId → Duration) (start place : Nat) :
    Prop :=
  ∃ offset, offset < nodes.length ∧ place = (start + offset) % nodes.length ∧
    HealthyAt nodes remaining place ∧
    ∀ earlier, earlier < offset → ¬ HealthyAt nodes remaining ((start + earlier) % nodes.length)

/-- The candidate that is picked from `start` on, and its place. -/
structure Picks (nodes : List AccountId) (remaining : AccountId → Duration) (start place : Nat)
    (node : AccountId) : Prop where
  candidate : nodes[place]? = some node
  healthy : (∃ other ∈ nodes, remaining other = Duration.zero) →
    FirstHealthy nodes remaining start place
  resting : (∀ other ∈ nodes, remaining other ≠ Duration.zero) →
    ∀ other ∈ nodes, remaining node ≤ remaining other

theorem leastPlace_le {measure : Nat → Nat} {places : List Nat}
    (least : leastPlace measure places = some place) :
    place ∈ places ∧ ∀ other ∈ places, measure place ≤ measure other := by
  induction places generalizing place with
  | nil => cases least
  | cons first rest ih =>
      cases later : leastPlace measure rest with
      | none =>
          have empty : rest = [] := by
            apply Classical.byContradiction
            intro nonempty
            obtain ⟨_, _, found⟩ := leastPlace_mem measure nonempty
            simp [found] at later
          simp only [leastPlace, later, Option.some.injEq] at least
          subst least empty
          simp
      | some other =>
          obtain ⟨member, smallest⟩ := ih later
          by_cases smaller : measure other < measure first
          · simp only [leastPlace, later, if_pos smaller, Option.some.injEq] at least
            subst least
            refine ⟨List.mem_cons_of_mem _ member, ?_⟩
            intro candidate among
            rcases List.mem_cons.mp among with rfl | among
            · omega
            · exact smallest candidate among
          · simp only [leastPlace, later, if_neg smaller, Option.some.injEq] at least
            subst least
            refine ⟨List.mem_cons_self, ?_⟩
            intro candidate among
            rcases List.mem_cons.mp among with rfl | among
            · omega
            · have := smallest candidate among
              omega

/-- How long the candidate at a place is still to be left alone. -/
def waitAt (nodes : List AccountId) (remaining : AccountId → Duration) (place : Nat) : Nat :=
  match nodes[place]? with
  | some node => (remaining node).nanos
  | none => 0

theorem healthyAt_iff (inside : place < nodes.length) :
    HealthyAt nodes remaining place ↔ waitAt nodes remaining place = 0 := by
  have candidate := List.getElem?_eq_getElem inside
  simp only [HealthyAt, waitAt, candidate, Option.some.injEq, exists_eq_left']
  exact ⟨fun same => same ▸ rfl, fun same => Duration.ext_nanos same⟩

/-- A cyclic walk over the places comes to each of them. -/
theorem exists_offset (start : Nat) (inside : place < nodes.length) :
    ∃ offset, offset < nodes.length ∧ (start + offset) % nodes.length = place := by
  have below : start % nodes.length < nodes.length := Nat.mod_lt _ (by omega)
  by_cases ahead : start % nodes.length ≤ place
  · refine ⟨place - start % nodes.length, by omega, ?_⟩
    rw [← Nat.mod_add_mod, Nat.add_sub_cancel' ahead, Nat.mod_eq_of_lt inside]
  · refine ⟨place + nodes.length - start % nodes.length, by omega, ?_⟩
    rw [← Nat.mod_add_mod, Nat.add_sub_cancel' (by omega), Nat.add_mod_right,
      Nat.mod_eq_of_lt inside]

theorem find_places {rotation : Rotation} {waits : Nat → Bool}
    (found : rotation.places.find? waits = some place) :
    ∃ offset, offset < rotation.nodes.length ∧
      place = (rotation.next + offset) % rotation.nodes.length ∧ waits place = true ∧
      ∀ earlier, earlier < offset →
        waits ((rotation.next + earlier) % rotation.nodes.length) = false := by
  simp only [places, List.find?_map, Option.map_eq_some_iff, List.find?_range_eq_some,
    List.mem_range, Function.comp_apply] at found
  obtain ⟨offset, ⟨here, inside, before⟩, rfl⟩ := found
  exact ⟨offset, inside, rfl, here, fun earlier less => by simpa using before earlier less⟩

theorem find_places_none {rotation : Rotation} {waits : Nat → Bool}
    (none : rotation.places.find? waits = none) (inside : place < rotation.nodes.length) :
    waits place = false := by
  obtain ⟨offset, less, rfl⟩ := exists_offset rotation.next inside
  have passed := List.find?_eq_none.mp none _
    (List.mem_map.mpr ⟨offset, List.mem_range.mpr less, rfl⟩)
  simpa using passed

theorem pick_eq (rotation : Rotation) (remaining : AccountId → Duration) :
    rotation.pick remaining =
      (rotation.places.find? fun place => waitAt rotation.nodes remaining place = 0).or
        (leastPlace (waitAt rotation.nodes remaining) (List.range rotation.nodes.length)) := by
  let least := leastPlace (waitAt rotation.nodes remaining) (List.range rotation.nodes.length)
  unfold pick
  dsimp only
  split
  · rename_i found
    exact (congrArg (Option.or · least) found).symm
  · rename_i none
    exact (congrArg (Option.or · least) none).symm

theorem pick_picks {rotation : Rotation} (picked : rotation.pick remaining = some place)
    (candidate : rotation.nodes[place]? = some node) :
    Picks rotation.nodes remaining rotation.next place node := by
  have positive : 0 < rotation.nodes.length := by
    obtain ⟨inside, -⟩ := List.getElem?_eq_some_iff.mp candidate
    omega
  rw [pick_eq] at picked
  cases found : rotation.places.find? fun place =>
      waitAt rotation.nodes remaining place = 0 with
  | some first =>
      rw [found, Option.some_or] at picked
      cases picked
      obtain ⟨offset, less, same, here, before⟩ := find_places found
      have inside : place < rotation.nodes.length := same ▸ Nat.mod_lt _ positive
      have healthy : HealthyAt rotation.nodes remaining place :=
        (healthyAt_iff inside).mpr (by simpa using here)
      refine ⟨candidate, fun _ => ⟨offset, less, same, healthy, ?_⟩, ?_⟩
      · intro earlier sooner
        rw [healthyAt_iff (Nat.mod_lt _ positive)]
        simpa using before earlier sooner
      · intro resting
        obtain ⟨other, there, free⟩ := healthy
        exact absurd free (resting other (List.mem_of_getElem? there))
  | none =>
      rw [found, Option.none_or] at picked
      obtain ⟨-, least⟩ := leastPlace_le picked
      refine ⟨candidate, ?_, ?_⟩
      · rintro ⟨other, member, free⟩
        obtain ⟨inside, there⟩ := List.getElem?_of_mem member
        obtain ⟨less, -⟩ := List.getElem?_eq_some_iff.mp there
        have waiting := find_places_none found less
        have healthy := (healthyAt_iff less).mp ⟨other, there, free⟩
        simp [healthy] at waiting
      · intro _ other member
        obtain ⟨inside, there⟩ := List.getElem?_of_mem member
        obtain ⟨less, -⟩ := List.getElem?_eq_some_iff.mp there
        have shortest := least inside (List.mem_range.mpr less)
        simp only [waitAt, candidate, there] at shortest
        exact shortest

theorem select_picks {rotation after : Rotation}
    (selected : rotation.select remaining = some (node, after)) :
    ∃ place, Picks rotation.nodes remaining rotation.next place node ∧
      after = { rotation with next := (place + 1) % rotation.nodes.length } := by
  simp only [select, Option.bind_eq_bind, Option.bind_eq_some_iff] at selected
  obtain ⟨place, picked, found, candidate, given⟩ := selected
  cases given
  exact ⟨place, pick_picks picked candidate, rfl⟩

/-- Behind a candidate that was picked before, it is itself the last to come. -/
theorem offset_of_behind {previous offset : Nat} (inside : previous < nodes.length)
    (less : offset < nodes.length)
    (around : ((previous + 1) % nodes.length + offset) % nodes.length = previous) :
    offset = nodes.length - 1 := by
  rw [Nat.mod_add_mod] at around
  by_cases short : previous + 1 + offset < nodes.length
  · rw [Nat.mod_eq_of_lt short] at around
    omega
  · rw [Nat.mod_eq_sub_mod (by omega), Nat.mod_eq_of_lt (by omega)] at around
    omega

/-- While another candidate is healthy, the one that was picked before is not picked again. -/
theorem Picks.another {previous : Nat} {last other : AccountId} (distinct : nodes.Nodup)
    (before : nodes[previous]? = some last)
    (picks : Picks nodes remaining ((previous + 1) % nodes.length) place node)
    (member : other ∈ nodes) (different : other ≠ last)
    (free : remaining other = Duration.zero) : node ≠ last := by
  rintro rfl
  obtain ⟨inside, there⟩ := List.getElem?_eq_some_iff.mp before
  obtain ⟨offset, less, same, -, passed⟩ := picks.healthy ⟨other, member, free⟩
  obtain ⟨here, atPlace⟩ := List.getElem?_eq_some_iff.mp picks.candidate
  have again : place = previous := (List.Nodup.getElem_inj_iff distinct).mp (atPlace.trans there.symm)
  have last := offset_of_behind inside less (same.symm.trans again)
  obtain ⟨position, found⟩ := List.getElem?_of_mem member
  obtain ⟨within, atPosition⟩ := List.getElem?_eq_some_iff.mp found
  obtain ⟨sooner, short, walked⟩ :=
    exists_offset ((previous + 1) % nodes.length) within
  have earlier : sooner < offset := by
    by_cases equal : sooner = offset
    · subst equal
      have collided : position = previous := walked.symm.trans (same.symm.trans again)
      subst collided
      exact absurd (atPosition.symm.trans there) different
    · omega
  exact passed sooner earlier ⟨other, walked ▸ found, free⟩

end Rotation

end LedgerClient
