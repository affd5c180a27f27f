import LedgerClient.Message.Signed
import LedgerClient.Message.Receipt

/-!
Questions to nodes and their answers. A question goes out under a header that says whether the
answer or only its price is wanted, and that carries the payment of a question that is not free.
-/

namespace LedgerClient

inductive ResponseType where
  | answerOnly
  | costAnswer
deriving DecidableEq

instance : Wire ResponseType where
  encode
    | .answerOnly => [0]
    | .costAnswer => [1]
  size _ := 1
  read := do
    let tag ← (Wire.read : Reader UInt8)
    if tag = 0 then return .answerOnly
    else if tag = 1 then return .costAnswer
    else Reader.fail (.invalidEnum tag)

structure QueryHeader where
  payment : Option SignedTransaction
  responseType : ResponseType
deriving DecidableEq

instance : Wire QueryHeader where
  encode header := Wire.encode header.payment ++ Wire.encode header.responseType
  size header := Wire.size header.payment + Wire.size header.responseType
  read := do
    let payment ← (Wire.read : Reader (Option SignedTransaction))
    let responseType ← (Wire.read : Reader ResponseType)
    return { payment, responseType }

inductive QueryData where
  | receipt (id : TransactionId)
  | balance (account : AccountId)
  | info (account : AccountId)
deriving DecidableEq

def QueryData.bare : QueryData → QueryData
  | receipt id => receipt id.bare
  | balance account => balance account.bare
  | info account => info account.bare

instance : Wire QueryData where
  encode
    | .receipt id => 0 :: Wire.encode id
    | .balance account => 1 :: Wire.encode account
    | .info account => 2 :: Wire.encode account
  size
    | .receipt id => 1 + Wire.size id
    | .balance account => 1 + Wire.size account
    | .info account => 1 + Wire.size account
  read := do
    let tag ← (Wire.read : Reader UInt8)
    if tag = 0 then
      let id ← (Wire.read : Reader TransactionId)
      return .receipt id
    else if tag = 1 then
      let account ← (Wire.read : Reader AccountId)
      return .balance account
    else if tag = 2 then
      let account ← (Wire.read : Reader AccountId)
      return .info account
    else Reader.fail (.invalidEnum tag)

structure QueryRequest where
  header : QueryHeader
  data : QueryData
deriving DecidableEq

def QueryRequest.bare (request : QueryRequest) : QueryRequest :=
  { request with data := request.data.bare }

instance : Wire QueryRequest where
  encode request := Wire.encode request.header ++ Wire.encode request.data
  size request := Wire.size request.header + Wire.size request.data
  read := do
    let header ← (Wire.read : Reader QueryHeader)
    let data ← (Wire.read : Reader QueryData)
    return { header, data }

structure AccountBalance where
  account : AccountId
  balance : UInt64
deriving DecidableEq

def AccountBalance.bare (balance : AccountBalance) : AccountBalance :=
  { balance with account := balance.account.bare }

instance : Wire AccountBalance where
  encode answer := Wire.encode answer.account ++ Wire.encode answer.balance
  size answer := Wire.size answer.account + Wire.size answer.balance
  read := do
    let account ← (Wire.read : Reader AccountId)
    let balance ← (Wire.read : Reader UInt64)
    return { account, balance }

structure AccountInfo where
  account : AccountId
  key : PublicKey
  balance : UInt64
  deleted : Bool
  memo : String
deriving DecidableEq

namespace AccountInfo

def bare (info : AccountInfo) : AccountInfo :=
  { info with account := info.account.bare }

def inspect (info : AccountInfo) : Inspect :=
  .record "AccountInfo" [("account_id", info.account.inspect),
    ("key", .plain (Hex.encode info.key.bytes)), ("balance", .number info.balance.toNat),
    ("deleted", .bool info.deleted), ("memo", .quoted info.memo)]

end AccountInfo

instance : Wire AccountInfo where
  encode info := Wire.encode info.account ++ Wire.encode info.key ++ Wire.encode info.balance
    ++ Wire.encode info.deleted ++ Wire.encodeText info.memo
  size info := Wire.size info.account + Wire.size info.key + Wire.size info.balance
    + Wire.size info.deleted + Wire.textSize info.memo
  read := do
    let account ← (Wire.read : Reader AccountId)
    let key ← (Wire.read : Reader PublicKey)
    let balance ← (Wire.read : Reader UInt64)
    let deleted ← (Wire.read : Reader Bool)
    let memo ← Wire.readText TransactionData.longestMemo
    return { account, key, balance, deleted, memo }

inductive QueryAnswer where
  | receipt (receipt : Receipt)
  | balance (balance : AccountBalance)
  | info (info : AccountInfo)
deriving DecidableEq

def QueryAnswer.bare : QueryAnswer → QueryAnswer
  | receipt answer => receipt answer.bare
  | balance answer => balance answer.bare
  | info answer => info answer.bare

instance : Wire QueryAnswer where
  encode
    | .receipt answer => 0 :: Wire.encode answer
    | .balance answer => 1 :: Wire.encode answer
    | .info answer => 2 :: Wire.encode answer
  size
    | .receipt answer => 1 + Wire.size answer
    | .balance answer => 1 + Wire.size answer
    | .info answer => 1 + Wire.size answer
  read := do
    let tag ← (Wire.read : Reader UInt8)
    if tag = 0 then
      let answer ← (Wire.read : Reader Receipt)
      return .receipt answer
    else if tag = 1 then
      let answer ← (Wire.read : Reader AccountBalance)
      return .balance answer
    else if tag = 2 then
      let answer ← (Wire.read : Reader AccountInfo)
      return .info answer
    else Reader.fail (.invalidEnum tag)

/-- A node's reply. There is no answer when the node refused or only its price was asked for. -/
structure QueryResponse where
  precheck : Status
  cost : UInt64
  answer : Option QueryAnswer
deriving DecidableEq

def QueryResponse.bare (response : QueryResponse) : QueryResponse :=
  { response with answer := response.answer.map QueryAnswer.bare }

instance : Wire QueryResponse where
  encode response := Wire.encode response.precheck ++ Wire.encode response.cost
    ++ Wire.encode response.answer
  size response := Wire.size response.precheck + Wire.size response.cost
    + Wire.size response.answer
  read := do
    let precheck ← (Wire.read : Reader Status)
    let cost ← (Wire.read : Reader UInt64)
    let answer ← (Wire.read : Reader (Option QueryAnswer))
    return { precheck, cost, answer }

end LedgerClient
