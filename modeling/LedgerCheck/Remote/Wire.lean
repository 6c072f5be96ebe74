import LedgerCheck.Remote.Address
import LedgerCheck.Remote.Exchange
/-!
# Exchanges on the wire

A request is written as lines and a body, and a reply is read from the bytes that came until the
server hung up.  A line of the reply says how it went, further lines describe the body, and an
empty line stands before it.

* `Request.wire` — the bytes of a request.
* `Reply.ofWire?` — the reply in the bytes that were received; nothing if some are missing.
-/

namespace LedgerCheck

/-! ## Requests -/

namespace Request

/-- The lines in front of the body.  The server is asked to hang up after its reply. -/
def headLines (r : Request) (a : Address) : List String :=
  [r.method.name ++ " " ++ a.target ++ " HTTP/1.1", "host: " ++ a.hostText, "accept: */*",
    "connection: close"] ++
    match r.method with
    | .get => []
    | .post =>
      ["content-type: application/json",
        "content-length: " ++ String.ofList (Nat.toDigits 10 r.body.utf8ByteSize)]

/-- The bytes of a request. -/
def wire (r : Request) (a : Address) : ByteArray :=
  (String.intercalate "\r\n" (r.headLines a) ++ "\r\n\r\n" ++ r.body).toUTF8

end Request

/-! ## Replies -/

/-- The lines in front of a body. -/
structure Head where
  status : Nat
  fields : List (String × String)
deriving DecidableEq, Repr

namespace Head

/-- The status in the first line. -/
def status? (line : List Char) : Option Nat :=
  if ['H', 'T', 'T', 'P', '/', '1', '.'].isPrefixOf line then
    let digits := ((line.dropWhile (· ≠ ' ')).drop 1).take 3
    if digits.length = 3 then Digits.natural? 10 digits else none
  else none

/-- The name and the value in a further line.  Names are compared in small letters. -/
def field (line : List Char) : String × String :=
  (String.ofList ((line.takeWhile (· ≠ ':')).map Char.toLower),
    String.ofList (trimBlanks ((line.dropWhile (· ≠ ':')).drop 1)))

/-- The head that lines spell. -/
def ofLines? : List (List Char) → Option Head
  | [] => none
  | first :: rest => (status? first).map (⟨·, rest.map field⟩)

/-- The value of the first field of a name. -/
def field? (h : Head) (name : String) : Option String := h.fields.lookup name

end Head

/-- A line without the return that may stand at its end, given in reverse. -/
def lineOfReverse : List Char → List Char
  | '\r' :: line => line.reverse
  | line => line.reverse

/-- The lines up to an empty one, and the bytes after that.  `line` is what came of the current
line, in reverse. -/
def takeLines (line : List Char) : List UInt8 → Option (List (List Char) × List UInt8)
  | [] => none
  | b :: rest =>
    if b = 10 then
      match lineOfReverse line with
      | [] => some ([], rest)
      | line => (takeLines [] rest).map fun (lines, rest) => (line :: lines, rest)
    else takeLines (Char.ofNat b.toNat :: line) rest

/-- What comes next in a body that is sent in chunks. -/
inductive Chunking where
  | size (line : List Char)
  | data (left : Nat)
deriving DecidableEq, Repr

namespace Chunking

/-- The size in the line before a chunk, behind which a remark may stand. -/
def size? (line : List Char) : Option Nat :=
  Digits.natural? 16 ((line.takeWhile (· ≠ ';')).takeWhile (!isBlank ·))

/-- The bytes of all chunks up to an empty one.  The end of a line stands behind each chunk. -/
def payload : Chunking → List UInt8 → Option (List UInt8)
  | _, [] => none
  | .size line, b :: rest =>
    if b = 10 then
      match size? (lineOfReverse line) with
      | none => none
      | some 0 => some []
      | some n => payload (.data n) rest
    else payload (.size (Char.ofNat b.toNat :: line)) rest
  | .data 0, b :: rest => if b = 10 then payload (.size []) rest else payload (.data 0) rest
  | .data (n + 1), b :: rest => (payload (.data n) rest).map (b :: ·)

end Chunking

namespace Head

/-- The body behind a head: in chunks, of an announced length, or all that came. -/
def body? (h : Head) (bytes : List UInt8) : Option (List UInt8) :=
  if (h.field? "transfer-encoding").map (·.toLower) = some "chunked" then
    Chunking.payload (.size []) bytes
  else
    match h.field? "content-length" with
    | none => some bytes
    | some length => do
      let n ← Digits.natural? 10 length.toList
      if bytes.length < n then none else some (bytes.take n)

end Head

namespace Reply

/-- The reply in the bytes that were received. -/
def ofWire? (bytes : ByteArray) : Option Reply := do
  let (lines, rest) ← takeLines [] bytes.toList
  let head ← Head.ofLines? lines
  let body ← head.body? rest
  some ⟨head.status, ⟨body.toArray⟩⟩

end Reply
end LedgerCheck
