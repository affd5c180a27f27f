import LedgerClient.Network.Basic

/-!
What a client acts upon: a clock, the nodes with their health, a channel to them, and a source of
fresh transaction ids. The channel is known by the replies that are still to come and by the calls
that were made. Everything a client does is a function from a world to a result and the world after
it.
-/

namespace LedgerClient

/-- What becomes of one call: after some time bytes come back or the call fails, or nothing is ever
heard again. -/
inductive Reply where
  | answered (bytes : Bytes) (delay : Duration := Duration.zero)
  | failed (error : TransportError) (delay : Duration := Duration.zero)
  | silent
deriving DecidableEq

namespace Reply

def delay? : Reply → Option Duration
  | answered _ delay | failed _ delay => some delay
  | silent => none

/-- What is heard of a reply by those who wait for it as long as `patience` lasts. -/
def within (reply : Reply) (patience : Duration) : Reply :=
  match reply.delay? with
  | some delay => if delay ≤ patience then reply else silent
  | none => silent

/-- When a call that was sent at some moment is over: with the reply, if one comes, and otherwise
when the patience is at its end. -/
def overAt (reply : Reply) (sent : Instant) (patience : Duration) : Instant :=
  let givenUp := sent.wakeAfter patience
  match reply.delay? with
  | some delay => if sent.after delay ≤ givenUp then sent.after delay else givenUp
  | none => givenUp

theorem within_inTime {reply : Reply} {delay patience : Duration}
    (takes : reply.delay? = some delay) (inTime : delay ≤ patience) :
    reply.within patience = reply := by
  simp only [within, takes, if_pos inTime]

theorem within_late {reply : Reply} {delay patience : Duration}
    (takes : reply.delay? = some delay) (late : ¬ delay ≤ patience) :
    reply.within patience = silent := by
  simp only [within, takes, if_neg late]

theorem le_overAt (reply : Reply) (sent : Instant) (patience : Duration) :
    sent ≤ reply.overAt sent patience := by
  have onward := Instant.le_wakeFrom sent (sent.due patience)
  unfold overAt
  split
  · dsimp only
    split
    · exact Nat.le_add_right _ _
    · exact onward
  · exact onward

/-- Nobody waits for longer than the patience lasts. -/
theorem overAt_le (reply : Reply) (sent : Instant) (patience : Duration) :
    reply.overAt sent patience ≤ sent.wakeAfter patience := by
  unfold overAt
  split
  · dsimp only
    split
    · assumption
    · exact Nat.le_refl _
  · exact Nat.le_refl _

end Reply

structure Call where
  time : Instant
  node : AccountId
  method : Method
  request : Bytes
deriving DecidableEq

/-- The moments and draws that fresh ids are made from, and how many of them were used. -/
structure IdSource where
  moments : Nat → Timestamp
  draws : Nat → Nat
  used : Nat

/-- The `replies` come in order, and `exhausted` once there are none. Calls are listed as they were
made, and with each for how long its reply was waited for at most, unless the caller hung up. -/
structure World where
  now : Instant
  network : Network
  replies : List Reply
  exhausted : Reply
  calls : List Call
  waits : List (Option Duration) := []
  ids : IdSource

namespace World

/-- Makes a call, and tells what will be heard of it. -/
def call (world : World) (node : AccountId) (method : Method) (request : Bytes)
    (patience : Duration) : Reply × World :=
  let made := { time := world.now, node, method, request : Call }
  let world := { world with
    calls := world.calls ++ [made]
    waits := world.waits ++ [some patience] }
  match world.replies with
  | reply :: replies => (reply.within patience, { world with replies })
  | [] => (world.exhausted.within patience, world)

/-- The last call is given up before anything is heard. -/
def hangUp (world : World) : World :=
  { world with waits := world.waits.dropLast ++ [none] }

/-- A pause is broken off at `limit`, and with it the call, if there is one in the pause. -/
def breakOff (world : World) (calling : Bool) (limit : Instant) : World :=
  let world := if calling then world.hangUp else world
  { world with now := limit }

def generateId (world : World) (payer : AccountId) : TransactionId × World :=
  let source := world.ids
  (TransactionId.generate payer (source.moments source.used) (source.draws source.used),
    { world with ids := { source with used := source.used + 1 } })

def recordFailure (world : World) (node : AccountId) : World :=
  { world with network := world.network.recordFailure node world.now }

def recordSuccess (world : World) (node : AccountId) : World :=
  { world with network := world.network.recordSuccess node }

/-- Where to send a request. Asking without a choice moves the network's cursor. -/
def candidates (world : World) (chosen : Option (List AccountId)) :
    Except ConfigurationError (List AccountId) × World :=
  let (accounts, network) := world.network.candidates chosen world.now
  (accounts, { world with network })

end World

end LedgerClient
