import ClauseSharing.Config
import ClauseSharing.Redis.Ipv6
import ClauseSharing.Store
import ClauseSharing.Text.Percent
import ClauseSharing.Text.Utf8

/-! # Addresses

Which addresses of a server lead anywhere at all. The name of a machine stands at the start of an
address as it was given, so it may bring parts of its own with it: credentials before `@`, a port
after a colon, a path after `/`, a query after `?`, and after `#` a fragment that nobody reads. An
address is read part by part first, and what its parts say is checked after that, in a fixed order.
Whether a server is there is another question. -/

namespace ClauseSharing.Redis

/-- Why an address leads nowhere. -/
inductive AddressError where
  /-- The parts cannot be told apart, or one of them has a form that it cannot have. -/
  | unreadable
  /-- No machine is named. -/
  | noHost
  /-- The path is not the number of a database. -/
  | notDatabase
  /-- The name of the user is no text. -/
  | userNotText
  /-- The password is no text. -/
  | passwordNotText
  /-- The query asks for a version of the protocol that there is not. -/
  | unknownProtocol (version : String)
deriving DecidableEq

namespace AddressError

/-- The wording of a refusal. -/
def message : AddressError → String
  | unreadable => "Redis URL did not parse- InvalidClientConfig"
  | noHost => "Missing hostname- InvalidClientConfig"
  | notDatabase => "Invalid database number- InvalidClientConfig"
  | userNotText => "Username is not valid UTF-8 string- InvalidClientConfig"
  | passwordNotText => "Password is not valid UTF-8 string- InvalidClientConfig"
  | unknownProtocol version => "Invalid protocol version - InvalidClientConfig: " ++ version

end AddressError

/-- The parts of an address that say where a server is and how to talk to it, as they are written.
Parts that are not there are empty. -/
structure Address where
  user : List Char
  password : List Char
  host : List Char
  /-- The segments of the path, from the root on. -/
  path : List (List Char)
  query : List Char
deriving DecidableEq

namespace Address

/-- The characters that an address ignores wherever they stand. -/
def ignored : List Char := ['\t', '\n', '\r']

/-- The characters that the name of a machine cannot have. -/
def forbiddenInHost : List Char :=
  ['\x00', '\t', '\n', '\r', ' ', '#', '/', ':', '<', '>', '?', '@', '[', '\\', ']', '^', '|']

/-- Whether a path, a query or a fragment starts with a character. -/
def startsPath (char : Char) : Bool := char = '/' || char = '?' || char = '#'

/-- Whether a query or a fragment starts with a character. -/
def startsQuery (char : Char) : Bool := char = '?' || char = '#'

/-- The name of a machine, and what follows it from the first colon on. Between brackets a colon
belongs to the name. -/
def cutHost (inBrackets : Bool) : List Char → List Char × List Char
  | [] => ([], [])
  | char :: rest =>
    if char = ':' && !inBrackets then ([], char :: rest)
    else
      let (host, after) := cutHost (char = '[' || inBrackets && char ≠ ']') rest
      (char :: host, after)

/-- Whether a machine can be named so, or left without a name. -/
def isHost : List Char → Bool
  | '[' :: rest => rest.getLast? = some ']' && Ipv6.isAddress rest.dropLast
  | host => host.all fun char => !forbiddenInHost.contains char

/-- What follows a port, which is a colon and the digits of a number of sixteen bits, possibly none.
Where neither the end nor a backslash follows, it is not a port. -/
def afterPort? : List Char → Option (List Char)
  | [] => some []
  | _ :: rest =>
    let after := rest.dropWhile Char.isDigit
    if Nat.ofDigitChars 10 (rest.takeWhile Char.isDigit) 0 ≤ 65535 &&
        (after.isEmpty || after.head? = some '\\') then
      some after
    else none

/-- The number of dots that a segment consists of, where a dot may be written by its code. -/
def dotCount? : List Char → Option Nat
  | [] => some 0
  | '.' :: rest => (dotCount? rest).map (· + 1)
  | '%' :: '2' :: 'e' :: rest => (dotCount? rest).map (· + 1)
  | '%' :: '2' :: 'E' :: rest => (dotCount? rest).map (· + 1)
  | _ => none

/-- Whether a segment names a drive, which is never left. -/
def isDrive : List Char → Bool
  | letter :: mark :: rest =>
    letter.isAlpha && (mark = ':' || mark = '|') && (rest.isEmpty || rest.head? = some '\\')
  | _ => false

/-- One segment further, where the last segment so far comes first: a dot stays at the place, and
two dots lead out of the last segment. -/
def step (walked : List (List Char)) (segment : List Char) : List (List Char) :=
  match dotCount? segment with
  | some 1 => walked
  | some 2 => if walked.head?.any isDrive then walked else walked.tail
  | _ => segment :: walked

/-- The segments of a path. -/
def segments (path : List Char) : List (List Char) :=
  ((Text.parts '/' path).foldl step []).reverse

/-- The credentials and what follows them, where the part of an address that names a machine has a
sign for them. That sign alone is refused. -/
def cutCredentials? (authority : List Char) : Option (List Char × List Char) :=
  match Text.cutLast '@' authority with
  | none => some ([], authority)
  | some ([], []) => none
  | some (credentials, place) => some (credentials, place)

/-- The address that follows the scheme and its two slashes. Without a machine there can be neither
credentials nor a port. -/
def read? (text : List Char) : Option Address := do
  let text := text.filter fun char => !ignored.contains char
  let (credentials, place) ← cutCredentials? (text.takeWhile fun char => !startsPath char)
  let (user, password) := (Text.cutFirst ':' credentials).getD (credentials, [])
  let (host, port) := cutHost false place
  guard (isHost host)
  guard (!host.isEmpty || port.isEmpty && user.isEmpty && password.isEmpty)
  let afterPort ← afterPort? port
  let behind := afterPort ++ text.dropWhile fun char => !startsPath char
  let afterPath := behind.dropWhile fun char => !startsQuery char
  return {
    user, password, host
    path := segments (behind.takeWhile fun char => !startsQuery char)
    query := match afterPath with
      | '?' :: query => query.takeWhile (· ≠ '#')
      | _ => [] }

/-- The bytes that the characters of credentials mean. -/
def bytesOf (chars : List Char) : List UInt8 :=
  Percent.decode (Utf8.encode (String.ofList chars))

/-- A name or a value of a query. A plus sign stands for a space. -/
def queryText (chars : List Char) : String :=
  Utf8.decodeMended (bytesOf (chars.map fun char => if char = '+' then ' ' else char))

/-- The names and values of a query. -/
def queryPairs (query : List Char) : List (String × String) :=
  ((Text.parts '&' query).filter fun pair => !pair.isEmpty).map fun pair =>
    let (name, value) := (Text.cutFirst '=' pair).getD (pair, [])
    (queryText name, queryText value)

/-- Whether a path names a database: it has one segment, a signed integer of sixty-four bits, or
none, not counting empty ones. -/
def namesDatabase (path : List (List Char)) : Bool :=
  match path.filter fun segment => !segment.isEmpty with
  | [] => true
  | [segment] => (Ranged.ofText? (String.ofList segment) : Option Long).isSome
  | _ => false

/-- The versions of the protocol that can be asked for. -/
def protocols : List String := ["2", "resp2", "3", "resp3"]

/-- The version of the protocol that a query asks for. The last of several requests counts. -/
def protocol? (query : List Char) : Option String :=
  ((queryPairs query).reverse.find? fun (name, _) => name = "protocol").map Prod.snd

/-- Checks what the parts of an address say. -/
def check (address : Address) : Except AddressError Unit := do
  if address.host.isEmpty then throw .noHost
  if !namesDatabase address.path then throw .notDatabase
  if !Utf8.isText (bytesOf address.user) then throw .userNotText
  if !Utf8.isText (bytesOf address.password) then throw .passwordNotText
  match protocol? address.query with
  | some version => if protocols.contains version then pure () else throw (.unknownProtocol version)
  | none => pure ()

end Address

/-- Checks the address of a store. -/
def checkAddress (settings : StoreSettings) : Except StoreError Unit :=
  let outcome := match Address.read? settings.place.toList with
    | some address => address.check
    | none => .error .unreadable
  outcome.mapError fun reason => .connection reason.message

end ClauseSharing.Redis
