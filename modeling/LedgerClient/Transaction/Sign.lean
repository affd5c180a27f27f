import LedgerClient.Transaction.Freeze

/-!
Signatures on a frozen transaction.
-/

namespace LedgerClient.Transaction

def remembers (transaction : Transaction) (key : PublicKey) : Bool :=
  transaction.signers.any fun signer => signer.key = key

/-- Signs every body and remembers the signer. A key signs once. -/
def signWith (transaction : Transaction) (signer : Signer) : Except Error Transaction :=
  if transaction.isSealed then .error .isSealed
  else
    match transaction.frozen with
    | none => .error .notFrozen
    | some frozen =>
        .ok { transaction with
          signers :=
            if transaction.remembers signer.key then transaction.signers
            else transaction.signers ++ [signer]
          frozen := some (frozen.signWith signer) }

/-- Puts a signature made elsewhere on one body, after checking it. -/
def addSignature (transaction : Transaction) (chunk : Nat) (node : AccountId)
    (pair : SignaturePair) : Except Error Transaction :=
  if transaction.isSealed then .error .isSealed
  else
    match transaction.frozen with
    | none => .error .notFrozen
    | some frozen =>
        match frozen.place? node with
        | none => .error (.configuration (.unknownNode node))
        | some place =>
            match frozen.chunks[chunk]? with
            | none => .error (.missingField "chunk")
            | some bodies =>
                match bodies.signed[place]? with
                | none => .error (.missingField "chunk")
                | some signed =>
                    if pair.verifies signed.body then
                      let bodies :=
                        { bodies with signed := bodies.signed.set place (signed.add pair) }
                      .ok { transaction with
                        frozen := some { frozen with chunks := frozen.chunks.set chunk bodies } }
                    else .error .invalidSignature

/-- No signature is taken any more. -/
def close (transaction : Transaction) : Except Error Transaction :=
  if transaction.isFrozen then .ok { transaction with isSealed := true } else .error .notFrozen

/-- The client's operator signs what it pays for, unless the transaction is sealed. -/
def signWithOperator (transaction : Transaction) (client : Client) : Except Error Transaction :=
  match client.operator, transaction.id with
  | some operator, some id =>
      if id.payer.same operator.account && !transaction.isSealed then
        transaction.signWith operator.signer
      else .ok transaction
  | _, _ => .ok transaction

end LedgerClient.Transaction
