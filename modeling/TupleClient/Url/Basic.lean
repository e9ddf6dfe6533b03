import TupleClient.Text.Blank
import TupleClient.Url.Host

/-!
# Addresses

An address has a scheme. The well-known schemes name a host, then perhaps a port, a path and a
query; a part that follows a hash sign is for the reader of the answer and is not sent. In these
schemes a backslash stands for a slash.

What a request asks for is the target: the path in a normal form, in which dots do not lead back,
followed by the query. Characters that may not be sent are percent-encoded.

## Main definitions

* `Url.parse` — the address that a text is
* `Url.checkAuthority` — the part that names the host
* `Url.targetOf` — the normal form of a path and a query
-/

namespace TupleClient

/-- An address as far as requests need it. -/
structure Url where
  /-- The scheme in small letters. -/
  scheme : String
  /-- What a request asks for. Only addresses for the network are requested; of others it is all
  that follows the scheme. -/
  target : String
deriving DecidableEq

namespace Url

/-! ### The scheme -/

/-- Whether a character may stand in a scheme after its first letter. -/
def isSchemeChar (c : Char) : Bool := c.isAlphanum || c == '+' || c == '-' || c == '.'

/-- The scheme at the beginning of an address, in small letters, and what follows its colon. -/
def cutScheme? (cs : List Char) : Option (String × List Char) :=
  let scheme := cs.takeWhile isSchemeChar
  match scheme.head?, cs.dropWhile isSchemeChar with
  | some first, ':' :: rest =>
    if first.isAlpha then some (String.ofList (scheme.map Char.toLower), rest) else none
  | _, _ => none

/-- The schemes that name a host on the network. -/
def networkSchemes : List String := ["http", "https", "ws", "wss", "ftp"]

/-! ### The host and the port -/

/-- The host at the beginning of a text. It ends at a colon that is not in brackets. -/
def cutHost (inBrackets : Bool) : List Char → List Char × List Char
  | [] => ([], [])
  | c :: rest =>
    if c = ':' && !inBrackets then ([], c :: rest)
    else
      let (host, port) := cutHost (c = '[' || (inBrackets && c ≠ ']')) rest
      (c :: host, port)

/-- A port is a number of 16 bits, or nothing. A backslash ends it. -/
def checkPort (cs : List Char) : Except UrlError Unit :=
  let port := cs.takeWhile (· ≠ '\\')
  if port.all Char.isDigit && (digits? 10 port).all (· < twoTo 16) then .ok ()
  else .error .invalidPort

/-- Whether a host may be left out: only where the scheme is not for the network, no port follows,
and the credentials before it, which end at an at sign, are empty too. An at sign alone has to end
the address. -/
def mayLackHost (network followed : Bool) (credentials port : List Char) : Bool :=
  !network && port.isEmpty &&
    (credentials.isEmpty || credentials == [':', '@'] || (credentials == ['@'] && !followed))

/-- What is between the slashes and the path: perhaps credentials and an at sign, then the host,
then perhaps a colon and the port. Of several at signs the last one counts. -/
def checkAuthority (network followed : Bool) (authority : List Char) : Except UrlError Unit :=
  let server := (authority.reverse.takeWhile (· ≠ '@')).reverse
  let credentials := authority.take (authority.length - server.length)
  let (host, port) := cutHost false server
  if host.isEmpty then
    if mayLackHost network followed credentials port then .ok () else .error .emptyHost
  else
    match if network then checkHost host else checkOpaqueHost host with
    | .error e => .error e
    | .ok () => checkPort (port.drop 1)

/-! ### The target -/

/-- Whether a segment is named as drives are. -/
def isDrive : List Char → Bool
  | [letter, mark] => letter.isAlpha && (mark == ':' || mark == '|')
  | _ => false

/-- Whether a segment stands for the segments before it. -/
def isHere (segment : List Char) : Bool :=
  [".", "%2e"].contains (String.ofList (segment.map Char.toLower))

/-- Whether a segment stands for the segments before it without the last one. -/
def isAbove (segment : List Char) : Bool :=
  ["..", ".%2e", "%2e.", "%2e%2e"].contains (String.ofList (segment.map Char.toLower))

/-- The characters of a path that are percent-encoded, besides those that always are. -/
def pathReserved : List Char := " \"#<>?^`\x7b\x7d".toList

/-- The characters of a query that are percent-encoded, besides those that always are. -/
def queryReserved : List Char := " \"#<>'".toList

/-- Segments without the last one, unless that is a drive. -/
def above (segments : List (List Char)) : List (List Char) :=
  match segments.getLast? with
  | some last => if isDrive last then segments else segments.dropLast
  | none => []

/-- Segments in normal form, of which some are done: none of them leads back. A path that ends by
leading back, or by staying where it is, ends in a slash. -/
def normalize (done : List (List Char)) : List (List Char) → List (List Char)
  | [] => done
  | segment :: rest =>
    -- A last segment that leads back leaves an empty segment, which is the final slash.
    let closing := if rest.isEmpty then [[]] else []
    normalize
      (if isAbove segment then above done ++ closing
        else if isHere segment then done ++ closing
        else done ++ [percentEncode pathReserved segment]) rest

/-- The target of a path and a query. A path starts with a slash, even if it is empty. -/
def targetOf (rest : List Char) : String :=
  let rest := rest.takeWhile (· ≠ '#')
  let path := rest.takeWhile (· ≠ '?')
  let query := rest.dropWhile (· ≠ '?')
  let segments := normalize [] ((Text.splitAt (fun c => c = '/' || c = '\\')) (path.drop 1))
  String.ofList (segments.flatMap ('/' :: ·) ++
    match query with
    | [] => []
    | mark :: query => mark :: percentEncode queryReserved query)

/-! ### Whole addresses -/

/-- Whether a character ends the part that names the host. -/
def endsAuthority (network : Bool) (c : Char) : Bool :=
  c = '/' || c = '?' || c = '#' || (network && c = '\\')

/-- Whether a character is a slash or stands for one. -/
def isSlash (c : Char) : Bool := c = '/' || c = '\\'

/-- An address of a scheme for the network. Any number of slashes may precede the host. -/
def parseNetwork (scheme : String) (rest : List Char) : Except UrlError Url :=
  -- Every slash before the host is passed over, whether there are two of them or not.
  let rest := rest.dropWhile isSlash
  let after := rest.dropWhile (!endsAuthority true ·)
  match checkAuthority true (!after.isEmpty) (rest.takeWhile (!endsAuthority true ·)) with
  | .error e => .error e
  | .ok () => .ok ⟨scheme, targetOf after⟩

/-- An address of a file. It names a host only after two slashes, and a drive is not a host. -/
def parseFile (rest : List Char) : Except UrlError Url :=
  let address : Url := ⟨"file", String.ofList rest⟩
  match rest with
  | a :: b :: rest =>
    let host := rest.takeWhile (!endsAuthority true ·)
    if isSlash a && isSlash b && !host.isEmpty && !isDrive host then
      match checkHost host with
      | .error e => .error e
      | .ok () => .ok address
    else .ok address
  | _ => .ok address

/-- An address of any other scheme. It names a host only after two slashes. -/
def parseOther (scheme : String) (rest : List Char) : Except UrlError Url :=
  let address : Url := ⟨scheme, String.ofList rest⟩
  match rest with
  | '/' :: '/' :: rest =>
    let after := rest.dropWhile (!endsAuthority false ·)
    match checkAuthority false (!after.isEmpty) (rest.takeWhile (!endsAuthority false ·)) with
    | .error e => .error e
    | .ok () => .ok address
  | _ => .ok address

/-- The address that a text is. Blanks and controls at its ends do not count, and neither do tabs
and ends of lines within. -/
def parse (text : String) : Except UrlError Url :=
  let cs := (Text.trimList (·.toNat ≤ 0x20) text.toList).filter
    fun c => !(c == '\t' || c == '\n' || c == '\r')
  match cutScheme? cs with
  | none => .error .relative
  | some (scheme, rest) =>
    if networkSchemes.contains scheme then parseNetwork scheme rest
    else if scheme = "file" then parseFile rest
    else parseOther scheme rest

end Url

end TupleClient
