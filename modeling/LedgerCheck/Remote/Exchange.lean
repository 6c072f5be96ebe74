import LedgerCheck.Json.Bytes
import LedgerCheck.Json.Printer
import LedgerCheck.Json.Record
import LedgerCheck.Text.Blank
/-!
# Exchanges with a server

A request goes out and a reply comes back, or the server cannot be reached.  Every reply is
classified by its status and body alone.

* `Request`, `Reply`, `Server` — an exchange; a server is what it answers to each request.
* `FetchError` — why a request brought nothing of use.
* `Reply.classify` — what a reply to a request for a document of some kind amounts to.
-/

namespace LedgerCheck

/-- What a request asks for. -/
inductive Method where
  | get
  | post
deriving DecidableEq, Repr

namespace Method

/-- The word for a method. -/
def name : Method → String
  | get => "GET"
  | post => "POST"

end Method

/-- A request. -/
structure Request where
  method : Method
  url : String
  body : String := ""
deriving DecidableEq, Repr

/-- A reply that was received in full. -/
structure Reply where
  status : Nat
  body : ByteArray

/-- What a server answers to each request: the last reply, after the client has followed redirects,
or the reason why none was received. -/
abbrev Server := Request → Except String Reply

/-! ## Errors -/

/-- Why a request brought nothing of use. -/
inductive FetchError where
  | transport (message : String)
  | api (status : Nat) (code : Option Int64) (message : String)
  | decode (message : String)
deriving DecidableEq

namespace FetchError

/-- The wording of the error. -/
def message : FetchError → String
  | transport message => "transport error: " ++ message
  | api status code message =>
    "api error status=" ++ String.ofList (Nat.toDigits 10 status) ++
      (match code with
        | some code => " code=" ++ String.ofList (integerChars code.toInt)
        | none => "") ++ ": " ++ message
  | decode message => "decode error: " ++ message

/-- The error with a note at the end of its message. -/
def withNote (note : String) : FetchError → FetchError
  | transport message => transport (message ++ ": " ++ note)
  | api status code message => api status code (message ++ ": " ++ note)
  | decode message => decode (message ++ ": " ++ note)

end FetchError

/-! ## Replies -/

/-- What the body of an unsuccessful reply says about the failure. -/
structure ApiFault where
  code : Option Int64 := none
  message : Option String := none

namespace ApiFault

/-- The fields of the body; an object may lack either. -/
def record : Record := ⟨["code", "message"], 2, false⟩

/-- What a document says about a failure. -/
def ofDocument? (d : Document) : Option ApiFault := do
  match ← record.ofDocument? d with
  | [code, message] =>
    some
      { code := ← Document.optional Document.int64? code
        message := ← Document.optional Document.string? message }
  | _ => none

end ApiFault

namespace Reply

/-- The reply reports a success. -/
def isSuccess (r : Reply) : Bool := 200 ≤ r.status && r.status < 300

/-- The body as a text without blanks around it. -/
def text (r : Reply) : String :=
  String.ofList (trimBlanks (Utf8.mendedText r.body).toList)

/-- What an unsuccessful reply says; a body that does not describe the failure is quoted whole. -/
def fault (r : Reply) : FetchError :=
  let fault := ((Document.ofBytes? r.body).bind ApiFault.ofDocument?).getD {}
  .api r.status fault.code (fault.message.getD r.text)

/-- What a reply to a request for a document amounts to. -/
def classify {α : Type} (read : Document → Option α) (r : Reply) : Except FetchError α :=
  if r.isSuccess then
    match (Document.ofBytes? r.body).bind read with
    | some value => .ok value
    | none => .error (.decode "unexpected response body")
  else .error r.fault

end Reply
end LedgerCheck
