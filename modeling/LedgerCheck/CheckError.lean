import LedgerCheck.Json.Printer
import LedgerCheck.Json.Record
/-!
# Errors that end a check run

An error is classified once, when it is handed over: by the part of the run it comes from, and for
storage errors by the kind of damage.  The verdicts depend on the class alone.

* `StorageKind`, `ErrorClass` — the classification.
* `CheckError` — a class and a message; `CheckError.text` is what is shown to people.
* `ErrorClass.isRequestFailure`, … — which test a class counts against.
* `CheckError.toJson`, `CheckError.ofDocument?` — the form in which errors are handed over.
-/

namespace LedgerCheck

/-- What went wrong in the storage of balances or blocks. -/
inductive StorageKind where
  | negativeBalance
  | invalidLiveBalance
  | balancePruned
  | blockNil
  | accountMissing
  | invalidChangeValue
  | invalidValue
  | headBlockNotFound
  | blockNotFound
  | duplicateBlockHash
  | duplicateTransactionHash
  | database
deriving DecidableEq, Repr

namespace StorageKind

/-- Every kind. -/
def all : List StorageKind :=
  [negativeBalance, invalidLiveBalance, balancePruned, blockNil, accountMissing,
    invalidChangeValue, invalidValue, headBlockNotFound, blockNotFound, duplicateBlockHash,
    duplicateTransactionHash, database]

/-- The name of a kind in documents. -/
def name : StorageKind → String
  | negativeBalance => "negative_balance"
  | invalidLiveBalance => "invalid_live_balance"
  | balancePruned => "balance_pruned"
  | blockNil => "block_nil"
  | accountMissing => "account_missing"
  | invalidChangeValue => "invalid_change_value"
  | invalidValue => "invalid_value"
  | headBlockNotFound => "head_block_not_found"
  | blockNotFound => "block_not_found"
  | duplicateBlockHash => "duplicate_block_hash"
  | duplicateTransactionHash => "duplicate_transaction_hash"
  | database => "database"

/-- The wording of a kind. -/
def text : StorageKind → String
  | negativeBalance => "negative balance"
  | invalidLiveBalance => "invalid live balance"
  | balancePruned => "balance pruned"
  | blockNil => "block nil"
  | accountMissing => "account missing"
  | invalidChangeValue => "invalid change value"
  | invalidValue => "invalid value"
  | headBlockNotFound => "head block not found"
  | blockNotFound => "block not found"
  | duplicateBlockHash => "duplicate block hash"
  | duplicateTransactionHash => "duplicate transaction hash"
  | database => "database error"

/-- The kind with a given name in documents. -/
def ofName? (s : String) : Option StorageKind := all.find? (·.name == s)

/-- The kind concerns the computing or storing of account balances. -/
def isBalance : StorageKind → Bool
  | negativeBalance | invalidLiveBalance | balancePruned | blockNil | accountMissing
  | invalidChangeValue | invalidValue => true
  | headBlockNotFound | blockNotFound | duplicateBlockHash | duplicateTransactionHash
  | database => false

end StorageKind

/-- The part of the run that an error comes from. -/
inductive ErrorClass where
  | fetch
  | networkNotSupported
  | networkStatus
  | fetchBlock
  | assertion
  | syncer
  | storage (kind : StorageKind)
  | reconciliation
  | other
deriving DecidableEq, Repr

namespace ErrorClass

/-- The name of a class in documents. -/
def name : ErrorClass → String
  | fetch => "fetch"
  | networkNotSupported => "network_not_supported"
  | networkStatus => "network_status"
  | fetchBlock => "fetch_block"
  | assertion => "assertion"
  | syncer => "syncer"
  | storage _ => "storage"
  | reconciliation => "reconciliation"
  | other => "other"

/-- What is said of a class before the message; nothing of an unclassified error. -/
def introduction : ErrorClass → Option String
  | fetch => some "fetch failed"
  | networkNotSupported => some "network not supported"
  | networkStatus => some "unable to get network status"
  | fetchBlock => some "unable to fetch block"
  | assertion => some "response assertion failed"
  | syncer => some "syncer failed"
  | storage kind => some kind.text
  | reconciliation => some "reconciliation failure"
  | other => none

/-- The storage kind of a storage error. -/
def storageKind? : ErrorClass → Option StorageKind
  | storage kind => some kind
  | _ => none

/-! ## What a class counts against -/

/-- The node did not service a request. -/
def isRequestFailure : ErrorClass → Bool
  | fetch | networkNotSupported | networkStatus | fetchBlock => true
  | _ => false

/-- A response was malformed. -/
def isAssertionFailure : ErrorClass → Bool
  | assertion => true
  | _ => false

/-- The syncer failed.  It is the syncer that reads the network status and fetches blocks, so these
count against syncing as well as against servicing requests. -/
def isSyncerFailure : ErrorClass → Bool
  | syncer | networkStatus | fetchBlock => true
  | _ => false

/-- Account balances could not be computed or stored. -/
def isBalanceStorageFailure : ErrorClass → Bool
  | storage kind => kind.isBalance
  | _ => false

/-- A computed balance did not match the live one. -/
def isReconciliationFailure : ErrorClass → Bool
  | reconciliation => true
  | _ => false

end ErrorClass

/-- The error that ended a check run. -/
structure CheckError where
  cause : ErrorClass
  message : String
deriving DecidableEq, Repr

namespace CheckError

/-- The wording of an error; an unclassified error speaks for itself. -/
def text (e : CheckError) : String :=
  match e.cause.introduction with
  | some introduction => introduction ++ ": " ++ e.message
  | none => e.message

/-! ## Documents -/

/-- The document of an error: its class, for a storage error its kind, and its message. -/
def toJson (e : CheckError) : Json :=
  .object <| ("class", .string e.cause.name) ::
    (match e.cause with
      | .storage kind => [("kind", .string kind.name)]
      | _ => []) ++ [("message", .string e.message)]

/-- The fields that follow the class of an error. -/
def contentRecord (storage : Bool) : Record :=
  if storage then ⟨["kind", "message"], 2, false⟩ else ⟨["message"], 1, false⟩

/-- The kind of a storage error: its name alone, or an object with nothing under the name. -/
def kind? : Document → Option StorageKind
  | .string s => s.bind StorageKind.ofName?
  | .object [(name, .null)] => name.bind StorageKind.ofName?
  | .object [(name, .object [])] => name.bind StorageKind.ofName?
  | _ => none

/-- The class without content that has a given name. -/
def plainClass? (name : String) : Option ErrorClass :=
  [.fetch, .networkNotSupported, .networkStatus, .fetchBlock, .assertion, .syncer,
    .reconciliation, .other].find? (·.name == name)

/-- The error of a class, from the fields that follow the class. -/
def ofContent? (name : String) (content : Document) : Option CheckError := do
  match ← (contentRecord (name == "storage")).ofDocument? content with
  | [some kind, some message] =>
    some ⟨.storage (← kind? kind), ← message.string?⟩
  | [some message] => some ⟨← plainClass? name, ← message.string?⟩
  | _ => none

/-- The error that a document describes, where the document stands `depth` containers above the
deepest level allowed.  The class is taken first, and the other fields are read as plain values
before they are looked at. -/
def ofDocumentWithin? (depth : Nat) (d : Document) : Option CheckError := do
  match d with
  | .array (name :: content) =>
    let name ← name.string?
    let _ ← (Document.array content).toJsonWithin? depth
    ofContent? name (.array content)
  | .object fields =>
    let named ← Record.named? fields
    let classes := named.filter (·.1 == "class")
    let content := fields.filter fun field => !(field.1 == some "class")
    let _ ← (Document.object content).toJsonWithin? depth
    match classes with
    | [(_, name)] => ofContent? (← name.string?) (.object content)
    | _ => none
  | _ => none

/-- The error that a text describes. -/
def read? (text : String) : Option CheckError :=
  (Document.read? text).bind (ofDocumentWithin? Document.depthLimit)

end CheckError
end LedgerCheck
