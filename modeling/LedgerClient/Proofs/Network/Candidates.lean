import LedgerClient.Proofs.Network.Selection
import Mathlib.Data.List.Nodup
import Mathlib.Data.List.Pairwise
import Mathlib.Data.List.Rotate

/-!
The nodes of a network and the order in which it offers them. Of several declarations of an account
the last one stands, in its place. A request that leaves the choice to the network is offered all
nodes, those that may be asked first, and otherwise in cyclic order from the cursor on; one that names
its nodes is offered exactly these.
-/

namespace LedgerClient

namespace Network

variable {declared rest : List (AccountId × Url)} {given first second : AccountId × Url}
  {nodes : List Node} {least most : Duration} {network : Network} {now : Instant}
  {accounts chosen : List AccountId} {account id : AccountId} {cause : ConfigurationError}

/-! ## Declared nodes -/

/-- This is the last declaration of its account. -/
def Stands (declared : List (AccountId × Url)) (given : AccountId × Url) : Prop :=
  ∃ earlier later, declared = earlier ++ given :: later ∧ ∀ other ∈ later, ¬ other.1.same given.1

/-- The declarations that stand, in their order. -/
def lasting (declared : List (AccountId × Url)) : List (AccountId × Url) :=
  declared.pwFilter fun given other => ¬ other.1.same given.1

theorem lasting_cons (given : AccountId × Url) (rest : List (AccountId × Url)) :
    lasting (given :: rest) =
      if rest.any (·.1.same given.1) then lasting rest else given :: lasting rest := by
  have followed : (∀ other ∈ lasting rest, ¬ other.1.same given.1) ↔
      ¬ rest.any (·.1.same given.1) := by
    rw [List.any_eq_true, not_exists]
    simp only [not_and]
    -- a declaration is dropped only for a later one of its account, which stands for it
    refine List.forall_mem_pwFilter ?_ given rest
    intro first second third apart
    by_contra alike
    push Not at alike
    exact apart ((EntityId.same_congr alike.2 first.1).trans alike.1)
  split
  · rename_i replaced
    exact List.pwFilter_cons_of_neg fun alone => followed.mp alone replaced
  · rename_i stands
    exact List.pwFilter_cons_of_pos (followed.mpr stands)

theorem stands_cons_iff : Stands (first :: rest) given ↔
    first = given ∧ (∀ other ∈ rest, ¬ other.1.same given.1) ∨ Stands rest given := by
  constructor
  · rintro ⟨earlier, later, split, last⟩
    cases earlier with
    | nil =>
        cases split
        exact .inl ⟨rfl, last⟩
    | cons head earlier =>
        cases split
        exact .inr ⟨earlier, later, rfl, last⟩
  · rintro (⟨rfl, last⟩ | ⟨earlier, later, rfl, last⟩)
    · exact ⟨[], rest, rfl, last⟩
    · exact ⟨first :: earlier, later, rfl, last⟩

theorem mem_lasting_iff : given ∈ lasting declared ↔ Stands declared given := by
  induction declared with
  | nil =>
      refine ⟨nofun, ?_⟩
      rintro ⟨earlier, later, split, -⟩
      cases (List.append_eq_nil_iff.mp split.symm).2
  | cons first rest ih =>
      rw [lasting_cons, stands_cons_iff, ← ih]
      by_cases replaced : rest.any (·.1.same first.1)
      · obtain ⟨other, member, same⟩ := List.any_eq_true.mp replaced
        rw [if_pos replaced]
        refine (or_iff_right ?_).symm
        rintro ⟨rfl, last⟩
        exact last other member same
      · rw [if_neg replaced, List.mem_cons]
        have last : ∀ other ∈ rest, ¬ other.1.same first.1 := fun other member same =>
          replaced (List.any_eq_true.mpr ⟨other, member, same⟩)
        refine or_congr_left ⟨?_, fun stands => stands.1.symm⟩
        rintro rfl
        exact ⟨rfl, last⟩

theorem exists_stands (member : given ∈ declared) :
    ∃ last, Stands declared last ∧ last.1.same given.1 := by
  induction declared generalizing given with
  | nil => cases member
  | cons first rest ih =>
      have later {other : AccountId × Url} (among : other ∈ rest) :
          ∃ last, Stands (first :: rest) last ∧ last.1.same other.1 :=
        (ih among).imp fun last found => ⟨stands_cons_iff.mpr (.inr found.1), found.2⟩
      rcases List.mem_cons.mp member with rfl | among
      · by_cases last : ∀ other ∈ rest, ¬ other.1.same given.1
        · exact ⟨given, stands_cons_iff.mpr (.inl ⟨rfl, last⟩), EntityId.same_refl _⟩
        · push Not at last
          obtain ⟨other, among, same⟩ := last
          obtain ⟨last, stands, alike⟩ := later among
          exact ⟨last, stands, (EntityId.same_congr alike given.1).trans same⟩
      · exact later among

theorem lasting_sublist_append (earlier later : List (AccountId × Url)) :
    (lasting later).Sublist (lasting (earlier ++ later)) := by
  induction earlier with
  | nil => exact List.Sublist.refl _
  | cons first earlier ih =>
      rw [List.cons_append, lasting_cons]
      split
      · exact ih
      · exact ih.cons first

/-- A declaration keeps its place among those that stand. -/
theorem pair_sublist_lasting {earlier later : List (AccountId × Url)}
    (last : ∀ other ∈ later, ¬ other.1.same first.1) (stands : Stands later second) :
    [first, second].Sublist (lasting (earlier ++ first :: later)) := by
  refine List.Sublist.trans ?_ (lasting_sublist_append earlier (first :: later))
  have alone : ¬ later.any (·.1.same first.1) := by simpa using last
  rw [lasting_cons, if_neg alone]
  exact (List.singleton_sublist.mpr (mem_lasting_iff.mpr stands)).cons_cons first

/-- A node of which nothing is known yet. -/
def fresh (least most : Duration) (given : AccountId × Url) : Node where
  account := given.1
  address := given.2
  health := Health.make least most

theorem foldl_declare (declared : List (AccountId × Url)) (nodes : List Node) :
    declared.foldl (declare least most) nodes =
      nodes.filter (fun node => !declared.any (·.1.same node.account))
        ++ (lasting declared).map (fresh least most) := by
  induction declared generalizing nodes with
  | nil => simp [lasting]
  | cons given rest ih =>
      -- dropped for this declaration or for one of the rest, which is the same as for one of both
      have kept : (nodes.filter (!·.account.same given.1)).filter
            (fun node => !rest.any (·.1.same node.account)) =
          nodes.filter fun node => !(given :: rest).any (·.1.same node.account) := by
        rw [List.filter_filter]
        apply List.filter_congr
        intro node _
        rw [List.any_cons, EntityId.same_comm given.1, Bool.not_or, Bool.and_comm]
      rw [List.foldl_cons, ih, lasting_cons, declare, List.filter_append, kept, List.append_assoc]
      by_cases replaced : rest.any (·.1.same given.1)
      · simp [replaced]
      · simp [replaced, fresh]

/-- The accounts of the nodes with their addresses. -/
def addresses (network : Network) : List (AccountId × Url) :=
  network.nodes.map fun node => (node.account, node.address)

theorem addresses_updateHealth (network : Network) (account : AccountId) (change : Health → Health) :
    (network.updateHealth account change).addresses = network.addresses := by
  rw [addresses, addresses, updateHealth, List.map_map]
  apply List.map_congr_left
  intro node _
  simp only [Function.comp_apply]
  split <;> rfl

/-- What a network has of its declarations. -/
structure Declares (declared : List (AccountId × Url)) (least most : Duration)
    (network : Network) : Prop where
  complete : ∀ given ∈ declared, ∃ node ∈ network.nodes, node.account.same given.1
  once : (network.nodes.map (·.account.bare)).Nodup
  mem_iff (given : AccountId × Url) : given ∈ network.addresses ↔ Stands declared given
  ordered : ∀ earlier first later second, declared = earlier ++ first :: later →
    (∀ other ∈ later, ¬ other.1.same first.1) → Stands later second →
      [first, second].Sublist network.addresses
  untried : ∀ node ∈ network.nodes, node.health = Health.make least most

theorem addresses_fresh (network : Network)
    (made : network.nodes = (lasting declared).map (fresh least most)) :
    network.addresses = lasting declared := by
  rw [addresses, made, List.map_map]
  exact List.map_id _

theorem declares_of_nodes (made : network.nodes = (lasting declared).map (fresh least most)) :
    Declares declared least most network where
  complete given member := by
    obtain ⟨last, stands, same⟩ := exists_stands member
    exact ⟨fresh least most last,
      made ▸ List.mem_map_of_mem (mem_lasting_iff.mpr stands), same⟩
  once := by
    rw [made, List.map_map, List.Nodup, List.pairwise_map]
    refine (List.pairwise_pwFilter declared).imp ?_
    intro first second apart same
    exact apart (EntityId.same_iff.mpr same.symm)
  mem_iff given := by rw [addresses_fresh network made, mem_lasting_iff]
  ordered := by
    rintro earlier first later second rfl last stands
    rw [addresses_fresh network made]
    exact pair_sublist_lasting last stands
  untried node member := by
    rw [made] at member
    obtain ⟨given, -, rfl⟩ := List.mem_map.mp member
    rfl

theorem ofDeclarations_declares (ledger : LedgerId) (nonempty : declared ≠ [])
    (within : least ≤ most) : ∃ network, ofDeclarations ledger declared least most = .ok network ∧
      Declares declared least most network := by
  refine ⟨{ ledger, nodes := declared.foldl (declare least most) [], cursor := 0 }, ?_,
    declares_of_nodes (foldl_declare declared [])⟩
  rw [ofDeclarations, if_pos within, if_neg (by simpa using nonempty)]

theorem ofDeclarations_ledger {ledger : LedgerId}
    (built : ofDeclarations ledger declared least most = .ok network) : network.ledger = ledger := by
  unfold ofDeclarations at built
  split at built
  · split at built
    · cases built
    · cases built
      rfl
  · cases built

/-! ## Offered nodes -/

/-- An order in which the nodes are offered when the choice is left to the network. -/
structure Prefers (network : Network) (now : Instant) (ordered : List Node) : Prop where
  all : ordered.Perm network.nodes
  healthyFirst : ordered.Pairwise fun node other =>
    other.health.isHealthy now → node.health.isHealthy now
  cyclic (healthy : Bool) : (ordered.filter (·.health.isHealthy now == healthy)).Sublist
    (network.nodes.rotate network.cursor.toNat)

/-- The nodes that may be asked, and then the others. -/
def preferred (network : Network) (now : Instant) : List Node :=
  network.rotated.filter (·.health.isHealthy now) ++
    network.rotated.filter (!·.health.isHealthy now)

theorem rotated_eq_rotate (network : Network) :
    network.rotated = network.nodes.rotate network.cursor.toNat :=
  List.rotate_eq_drop_append_take_mod.symm

theorem prefers_preferred (network : Network) (now : Instant) :
    network.Prefers now (network.preferred now) where
  all := by
    -- the two groups together are the rotation, which is the nodes in another order
    refine (List.filter_append_perm _ _).trans ?_
    rw [rotated_eq_rotate]
    exact List.rotate_perm _ _
  healthyFirst := by
    refine List.pairwise_append.mpr ⟨?_, ?_, ?_⟩
    · exact List.pairwise_of_forall_mem_list fun node member _ _ _ => (List.mem_filter.mp member).2
    · refine List.pairwise_of_forall_mem_list fun node _ other member healthy => ?_
      simp [healthy] at member
    · exact fun node member _ _ _ => (List.mem_filter.mp member).2
  cyclic healthy := by
    rw [← rotated_eq_rotate, preferred, List.filter_append, List.filter_filter, List.filter_filter]
    cases healthy <;> simp

theorem candidates_unchosen (nonempty : network.nodes ≠ []) (now : Instant) :
    network.candidates none now = (.ok ((network.preferred now).map (·.account)),
      { network with cursor := network.cursor + 1 }) := by
  have some : ¬ (network.preferred now).isEmpty := by
    rw [List.isEmpty_iff]
    intro none
    exact nonempty (List.nil_perm.mp (none ▸ (network.prefers_preferred now).all))
  exact if_neg some

/-- A node of the network has this account. -/
def Knows (network : Network) (account : AccountId) : Prop :=
  ∃ node ∈ network.nodes, node.account.same account

theorem lookup_eq_error_iff : network.lookup id = .error cause ↔
    ¬ network.Knows id ∧ cause = .unknownNode id := by
  cases found : network.lookup id with
  | ok account =>
      obtain ⟨node, member, rfl, same⟩ := lookup_exists found
      have known : network.Knows id := ⟨node, member, same⟩
      simp [known]
  | error reported =>
      unfold lookup at found
      split at found
      · rename_i none
        cases found
        have unknown : ¬ network.Knows id := by
          rintro ⟨node, member, same⟩
          exact List.find?_eq_none.mp none node member same
        simp [unknown, eq_comm]
      · cases found

theorem knows_iff : network.Knows id ↔ ∃ account, network.lookup id = .ok account := by
  cases found : network.lookup id with
  | ok account =>
      obtain ⟨node, member, rfl, same⟩ := lookup_exists found
      exact ⟨fun _ => ⟨node.account, rfl⟩, fun _ => ⟨node, member, same⟩⟩
  | error cause => simp [(lookup_eq_error_iff.mp found).1]

theorem lookup_eq_ok_iff (once : (network.nodes.map (·.account.bare)).Nodup) :
    network.lookup id = .ok account ↔
      ∃ node ∈ network.nodes, node.account = account ∧ account.same id := by
  refine ⟨lookup_exists, ?_⟩
  rintro ⟨node, member, rfl, same⟩
  obtain ⟨account, found⟩ := knows_iff.mp ⟨node, member, same⟩
  obtain ⟨other, among, rfl, alike⟩ := lookup_exists found
  have bare : node.account.bare = other.account.bare :=
    (EntityId.same_iff.mp same).trans (EntityId.same_iff.mp alike).symm
  rw [found, List.inj_on_of_nodup_map once member among bare]

theorem candidates_listed (nonempty : chosen ≠ []) (now : Instant) :
    network.candidates (some chosen) now = (network.explicit chosen, network) := by
  cases chosen with
  | nil => exact absurd rfl nonempty
  | cons account rest => rfl

/-- What a network offers at a moment. -/
structure Offers (network : Network) (now : Instant) : Prop where
  unchosen : ∃ ordered, network.Prefers now ordered ∧ network.candidates none now =
    (.ok (ordered.map (·.account)), { network with cursor := network.cursor + 1 })
  empty : network.candidates (some []) now = (.error .noNodes, network)
  listed_iff (chosen : List AccountId) (nonempty : chosen ≠ []) (accounts : List AccountId) :
    network.candidates (some chosen) now = (.ok accounts, network) ↔
      List.Forall₂ (fun account id => ∃ node ∈ network.nodes,
        node.account = account ∧ account.same id) accounts chosen
  unknown_iff (chosen : List AccountId) (nonempty : chosen ≠ []) (cause : ConfigurationError) :
    network.candidates (some chosen) now = (.error cause, network) ↔
      ∃ before id after, chosen = before ++ id :: after ∧ (∀ other ∈ before, network.Knows other) ∧
        ¬ network.Knows id ∧ cause = .unknownNode id

theorem offers_of_once (nonempty : network.nodes ≠ [])
    (once : (network.nodes.map (·.account.bare)).Nodup) (now : Instant) :
    network.Offers now where
  unchosen := ⟨network.preferred now, network.prefers_preferred now,
    candidates_unchosen nonempty now⟩
  empty := rfl
  listed_iff chosen nonempty accounts := by
    rw [candidates_listed nonempty, Prod.mk.injEq, explicit_eq_mapM]
    simp only [and_true, mapM_eq_ok_iff, lookup_eq_ok_iff once]
    exact ⟨List.Forall₂.flip, List.Forall₂.flip⟩
  unknown_iff chosen nonempty cause := by
    rw [candidates_listed nonempty, Prod.mk.injEq, explicit_eq_mapM]
    simp only [and_true, mapM_eq_error_iff, lookup_eq_error_iff, knows_iff]

/-- Whatever becomes of the health of the nodes and wherever the cursor stands, a network that was
made of declarations offers the nodes that they gave it. -/
theorem ofDeclarations_offers (ledger : LedgerId) (nonempty : declared ≠ [])
    (within : least ≤ most) : ∃ built, ofDeclarations ledger declared least most = .ok built ∧
      Declares declared least most built ∧
      ∀ network : Network, network.addresses = built.addresses → ∀ now, network.Offers now := by
  obtain ⟨built, made, declares⟩ := ofDeclarations_declares ledger nonempty within
  refine ⟨built, made, declares, fun network same now => ?_⟩
  have accounts (network : Network) : network.nodes.map (·.account.bare) =
      network.addresses.map (·.1.bare) := by
    rw [addresses, List.map_map]
    rfl
  have some : network.nodes ≠ [] := by
    obtain ⟨given, member⟩ := List.exists_mem_of_ne_nil declared nonempty
    obtain ⟨node, known, -⟩ := declares.complete given member
    have listed : (node.account, node.address) ∈ network.addresses :=
      same ▸ List.mem_map_of_mem known
    rintro none
    simp [addresses, none] at listed
  exact offers_of_once some (accounts network ▸ same ▸ accounts built ▸ declares.once) now

end Network

namespace Sample

/-- The first account is declared again, at another address. -/
def declarations : List (AccountId × Url) :=
  [(.ofNumbers 0 0 3, .plain "http"), (.ofNumbers 0 0 4, .plain "http"),
    (.ofNumbers 0 0 3, .plain "https")]

/-- A failure is noted and the cursor is anywhere. -/
theorem declarations_offered :
    declarations ≠ [] ∧ Duration.ofMillis 250 ≤ Duration.ofMillis 8000 ∧
      ∃ built, Network.ofDeclarations .testnet declarations (.ofMillis 250) (.ofMillis 8000) =
          .ok built ∧
        Network.Declares declarations (.ofMillis 250) (.ofMillis 8000) built ∧
        ∀ (cursor : UInt64) (failed now : Instant),
          Network.Offers { built.recordFailure (.ofNumbers 0 0 4) failed with cursor } now := by
  have nonempty : declarations ≠ [] := by decide
  have within : Duration.ofMillis 250 ≤ Duration.ofMillis 8000 := by decide
  obtain ⟨built, made, declares, offers⟩ :=
    Network.ofDeclarations_offers .testnet nonempty within
  refine ⟨nonempty, within, built, made, declares, fun cursor failed now => ?_⟩
  refine offers _ ?_ now
  exact Network.addresses_updateHealth built (.ofNumbers 0 0 4) (·.recordFailure failed)

example : (Network.ofDeclarations .testnet declarations (.ofMillis 250) (.ofMillis 8000)).toOption.map
    Network.addresses = some [(.ofNumbers 0 0 4, .plain "http"), (.ofNumbers 0 0 3, .plain "https")] := by
  decide +kernel

end Sample

end LedgerClient
