import LedgerClient.Network.Basic
import LedgerClient.Proofs.Outcomes
import Mathlib.Data.List.Forall2

/-!
Which nodes a request is tried at. A network that answers the question for candidates at all gives
at least one, each of them under the account the network knows it by, and a rotation over candidates
always finds one to pick.
-/

namespace LedgerClient

namespace Rotation

variable {rotation : Rotation}

theorem leastPlace_mem (measure : Nat → Nat) {places : List Nat} (nonempty : places ≠ []) :
    ∃ place ∈ places, leastPlace measure places = some place := by
  induction places with
  | nil => exact absurd rfl nonempty
  | cons place rest ih =>
      cases rest with
      | nil => exact ⟨place, by simp, rfl⟩
      | cons next others =>
          obtain ⟨least, member, found⟩ := ih (by simp)
          rw [leastPlace, found]
          by_cases smaller : measure least < measure place
          · exact ⟨least, List.mem_cons_of_mem _ member, by simp [smaller]⟩
          · exact ⟨place, by simp, by simp [smaller]⟩

theorem pick_lt (remaining : AccountId → Duration) (nonempty : rotation.nodes ≠ []) :
    ∃ place, place < rotation.nodes.length ∧ rotation.pick remaining = some place := by
  have positive : 0 < rotation.nodes.length := List.length_pos_iff.mpr nonempty
  simp only [pick]
  split
  · rename_i place found
    have member := List.mem_of_find?_eq_some found
    obtain ⟨offset, _, rfl⟩ := List.mem_map.mp member
    exact ⟨_, Nat.mod_lt _ positive, rfl⟩
  · have places : List.range rotation.nodes.length ≠ [] := by simpa using nonempty
    exact (leastPlace_mem _ places).imp fun place least =>
      ⟨List.mem_range.mp least.1, least.2⟩

theorem select_mem (remaining : AccountId → Duration) (nonempty : rotation.nodes ≠ []) :
    ∃ node after, rotation.select remaining = some (node, after) ∧ node ∈ rotation.nodes ∧
      after.nodes = rotation.nodes := by
  obtain ⟨place, inside, picked⟩ := pick_lt remaining nonempty
  refine ⟨rotation.nodes[place], { rotation with next := (place + 1) % rotation.nodes.length },
    ?_, List.getElem_mem inside, rfl⟩
  simp [select, picked, List.getElem?_eq_getElem inside]

end Rotation

namespace Network

variable {network : Network} {nodes chosen : List AccountId} {now : Instant}

/-- The account by which the network knows a node that is asked for. -/
def lookup (network : Network) (account : AccountId) : Except ConfigurationError AccountId :=
  match network.node? account with
  | none => .error (.unknownNode account)
  | some node => .ok node.account

theorem explicit_eq_mapM (network : Network) (chosen : List AccountId) :
    network.explicit chosen = chosen.mapM network.lookup := by
  induction chosen with
  | nil => rfl
  | cons account rest ih =>
      rw [List.mapM_cons, explicit, lookup]
      cases network.node? account with
      | none => rfl
      | some node => rw [ih]; rfl

theorem lookup_exists {account id : AccountId} (found : network.lookup id = .ok account) :
    ∃ node ∈ network.nodes, node.account = account ∧ account.same id = true := by
  unfold lookup at found
  split at found
  · cases found
  · rename_i node known
    cases found
    have matched := List.find?_some known
    exact ⟨node, List.mem_of_find?_eq_some known, rfl, matched⟩

theorem explicit_same (found : network.explicit chosen = .ok nodes) :
    List.Forall₂ (fun node listed => node.same listed = true) nodes chosen := by
  rw [explicit_eq_mapM] at found
  refine (mapM_eq_ok found).flip.imp fun account id known => ?_
  obtain ⟨-, -, -, same⟩ := lookup_exists known
  exact same

/-- A candidate for chosen nodes is one of them, perhaps written differently. -/
theorem candidates_chosen (found : (network.candidates (some chosen) now).1 = .ok nodes) :
    ∀ node ∈ nodes, ∃ listed ∈ chosen, listed.same node = true := by
  intro node member
  simp only [candidates] at found
  split at found
  · contradiction
  · rename_i accounts given
    cases given
    have matched := explicit_same found
    obtain ⟨place, inside, rfl⟩ := List.getElem_of_mem member
    have inChosen : place < chosen.length := matched.length_eq ▸ inside
    have same := matched.get inside inChosen
    exact ⟨chosen[place], List.getElem_mem inChosen,
      EntityId.same_iff.mpr (EntityId.same_iff.mp same).symm⟩
  · contradiction

theorem candidates_ne_nil {choice : Option (List AccountId)}
    (found : (network.candidates choice now).1 = .ok nodes) : nodes ≠ [] := by
  simp only [candidates] at found
  split at found
  · simp at found
  · rename_i accounts given
    intro none
    subst none
    cases explicit_same found
    exact given rfl
  · split at found
    · simp at found
    · rename_i nonempty
      obtain rfl := by simpa using found
      simpa using nonempty

end Network

end LedgerClient
