import LedgerCheck.Storage.Path
import LedgerCheck.Text.Digits
/-!
# Addresses of servers

An address names a host, the number of a service there, and the target that is asked for.  Only
plain connections are made, so its scheme is `http`.  Blanks around an address and line breaks in it
do not count, a backslash is as good as a slash before the query, and dots among the segments of the
path are resolved.

* `Address.ofUrl?` — the parts of an address.
* `Address.targetChars` — the target, in characters that may stand in the line of a request.
-/

namespace LedgerCheck

/-- Where a request goes. -/
structure Address where
  host : String
  service : UInt16
  target : String
deriving DecidableEq, Repr

namespace Address

/-! ## Host and service -/

/-- The number of the service if an address names none. -/
def defaultService : UInt16 := 80

/-- What stands in front of every address, whose letters may be capitals. -/
def scheme : List Char := ['h', 't', 't', 'p', ':']

/-- The character separates the parts of an address. -/
def isSlash (c : Char) : Bool := c == '/' || c == '\\'

/-- The text after the scheme and the slashes behind it. -/
def afterScheme? (cs : List Char) : Option (List Char) :=
  if (cs.take scheme.length).map Char.toLower = scheme then
    some ((cs.drop scheme.length).dropWhile isSlash)
  else none

/-- The service after the host: a colon and a number, which may both be missing, or the number
alone. -/
def service? : List Char → Option UInt16
  | [] => some defaultService
  | [':'] => some defaultService
  | ':' :: digits => do
    let n ← Digits.natural? 10 digits
    if n < UInt16.size then some (UInt16.ofNat n) else none
  | _ => none

/-- The host and the service.  A host that holds colons itself stands in brackets. -/
def hostAndService? (cs : List Char) : Option (List Char × UInt16) :=
  let (host, rest) :=
    match cs with
    | '[' :: inner => ((inner.takeWhile (· ≠ ']')), (inner.dropWhile (· ≠ ']')).drop 1)
    | _ => (cs.takeWhile (· ≠ ':'), cs.dropWhile (· ≠ ':'))
  if host.isEmpty || host.contains '@' then none
  else (service? rest).map (host.map Char.toLower, ·)

/-! ## Targets -/

/-- The visible characters that may not stand in a path. -/
def pathExceptions : List Char := ['"', '<', '>', '?', '^', '\x60', '\x7b', '\x7d']

/-- The visible characters that may not stand in a query. -/
def queryExceptions : List Char := ['"', '\'', '<', '>']

/-- A character that stands for itself, or its bytes in hexadecimal digits. -/
def encoded (exceptions : List Char) (c : Char) : List Char :=
  if 0x20 < c.toNat && c.toNat < 0x7f && !(exceptions.contains c) then [c]
  else c.toString.toUTF8.toList.flatMap fun b =>
    '%' :: (Digits.padded 16 2 b.toNat).map Char.toUpper

/-- A segment with its dots written as such. -/
def plainDots : List Char → List Char
  | '%' :: '2' :: 'e' :: rest => '.' :: plainDots rest
  | '%' :: '2' :: 'E' :: rest => '.' :: plainDots rest
  | c :: rest => c :: plainDots rest
  | [] => []

/-- The segments of a path after those that were resolved, given in reverse.  A dot stays where it
is and two dots go back; at the end they name a directory, after which nothing stands. -/
def resolved (before : List (List Char)) : List (List Char) → List (List Char)
  | [] => before.reverse
  | segment :: rest =>
    let stays := plainDots segment == ['.']
    let goesBack := plainDots segment == ['.', '.']
    let before :=
      if goesBack then before.drop 1 else if stays then before else segment :: before
    resolved (if rest.isEmpty && (stays || goesBack) then [] :: before else before) rest

/-- The target after the host: the path and the query.  What only its reader looks at is left
out. -/
def targetChars (cs : List Char) : List Char :=
  let cs := cs.takeWhile (· ≠ '#')
  let path := (cs.takeWhile (· ≠ '?')).map fun c => if isSlash c then '/' else c
  let segments := resolved [] ((Path.splitSlashes path).drop 1)
  let shown := (if segments.isEmpty then [[]] else segments).flatMap fun segment =>
    '/' :: segment.flatMap (encoded pathExceptions)
  match cs.dropWhile (· ≠ '?') with
  | '?' :: query => shown ++ '?' :: query.flatMap (encoded queryExceptions)
  | _ => shown

/-! ## Addresses -/

/-- The text without controls and spaces at its ends, and without breaks and tabs. -/
def cleaned (cs : List Char) : List Char :=
  let isOuter (c : Char) : Bool := c.toNat ≤ 0x20
  (((cs.dropWhile isOuter).reverse.dropWhile isOuter).reverse).filter fun c =>
    !(['\t', '\n', '\r'].contains c)

/-- The parts of an address. -/
def ofUrl? (url : String) : Option Address := do
  let cs ← afterScheme? (cleaned url.toList)
  let inHost (c : Char) : Bool := !(isSlash c || c == '?' || c == '#')
  let (host, service) ← hostAndService? (cs.takeWhile inHost)
  some ⟨String.ofList host, service, String.ofList (targetChars (cs.dropWhile inHost))⟩

/-- The host as it stands in an address, with its service unless that is the usual one. -/
def hostText (a : Address) : String :=
  (if a.host.toList.contains ':' then "[" ++ a.host ++ "]" else a.host) ++
    if a.service = defaultService then ""
    else ":" ++ String.ofList (Nat.toDigits 10 a.service.toNat)

end Address
end LedgerCheck
