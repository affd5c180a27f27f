import LedgerClient.Error
import LedgerClient.Network.Health

/-!
The nodes of a ledger, the order in which a request tries them, and the rotation among them.
-/

namespace LedgerClient

structure Node where
  account : AccountId
  address : Url
  health : Health
deriving DecidableEq

/-- The `cursor` counts the requests that left the choice of nodes to the network, and starts again
from zero after 2⁶⁴ of them. -/
structure Network where
  ledger : LedgerId
  nodes : List Node
  cursor : UInt64
deriving DecidableEq

namespace Network

/-- A node that is declared again gives up its place to the later declaration. -/
def declare (least most : Duration) (nodes : List Node) (declared : AccountId × Url) : List Node :=
  nodes.filter (!·.account.same declared.1)
    ++ [{ account := declared.1, address := declared.2, health := Health.make least most }]

def ofDeclarations (ledger : LedgerId) (declared : List (AccountId × Url)) (least most : Duration) :
    Except ConfigurationError Network :=
  if least ≤ most then
    if declared.isEmpty then .error .noNodes
    else .ok { ledger, nodes := declared.foldl (declare least most) [], cursor := 0 }
  else .error (.backoffRange least most)

def node? (network : Network) (account : AccountId) : Option Node :=
  network.nodes.find? (·.account.same account)

def updateHealth (network : Network) (account : AccountId) (change : Health → Health) : Network :=
  { network with
    nodes := network.nodes.map fun node =>
      if node.account.same account then { node with health := change node.health } else node }

def recordFailure (network : Network) (account : AccountId) (now : Instant) : Network :=
  network.updateHealth account (·.recordFailure now)

def recordSuccess (network : Network) (account : AccountId) : Network :=
  network.updateHealth account Health.recordSuccess

def remaining (network : Network) (account : AccountId) (now : Instant) : Duration :=
  match network.node? account with
  | some node => node.health.remaining now
  | none => Duration.zero

def isHealthy (network : Network) (account : AccountId) (now : Instant) : Bool :=
  network.remaining account now = Duration.zero

/-- The nodes from the cursor on, and then those before it. -/
def rotated (network : Network) : List Node :=
  let start := network.cursor.toNat % network.nodes.length
  network.nodes.drop start ++ network.nodes.take start

/-- The declared accounts of the nodes that are asked for, all of which the network has to know. -/
def explicit (network : Network) : List AccountId → Except ConfigurationError (List AccountId)
  | [] => .ok []
  | account :: rest =>
      match network.node? account with
      | none => .error (.unknownNode account)
      | some node => do return node.account :: (← explicit network rest)

/-- Where to send a request, in this order. Without an explicit choice every request starts one node
further on, and nodes that are to be left alone come last. -/
def candidates (network : Network) (chosen : Option (List AccountId)) (now : Instant) :
    Except ConfigurationError (List AccountId) × Network :=
  match chosen with
  | some [] => (.error .noNodes, network)
  | some accounts => (network.explicit accounts, network)
  | none =>
      let healthy := fun node : Node => node.health.isHealthy now
      let ordered := network.rotated.filter healthy ++ network.rotated.filter (!healthy ·)
      if ordered.isEmpty then (.error .noNodes, { network with cursor := network.cursor + 1 })
      else (.ok (ordered.map Node.account), { network with cursor := network.cursor + 1 })

end Network

/-- Candidates for one request and the place from which the next one is picked. -/
structure Rotation where
  nodes : List AccountId
  next : Nat
deriving DecidableEq

namespace Rotation

def ofNodes (nodes : List AccountId) : Rotation :=
  { nodes, next := 0 }

def places (rotation : Rotation) : List Nat :=
  (List.range rotation.nodes.length).map fun offset =>
    (rotation.next + offset) % rotation.nodes.length

def leastPlace (measure : Nat → Nat) : List Nat → Option Nat
  | [] => none
  | place :: rest =>
      match leastPlace measure rest with
      | none => some place
      | some other => if measure other < measure place then some other else some place

/-- The first healthy candidate in cyclic order, or the one that is healthy again first. -/
def pick (rotation : Rotation) (remaining : AccountId → Duration) : Option Nat :=
  let measure := fun place =>
    match rotation.nodes[place]? with
    | some node => (remaining node).nanos
    | none => 0
  match rotation.places.find? fun place => measure place = 0 with
  | some place => some place
  | none => leastPlace measure (List.range rotation.nodes.length)

/-- The picked candidate and the rotation behind it. -/
def select (rotation : Rotation) (remaining : AccountId → Duration) :
    Option (AccountId × Rotation) := do
  let place ← rotation.pick remaining
  let node ← rotation.nodes[place]?
  return (node, { rotation with next := (place + 1) % rotation.nodes.length })

end Rotation

end LedgerClient
