import TupleClient.Number.Power
import TupleClient.Text.Hex
import TupleClient.Url.Domain
import TupleClient.Url.Encoding

/-!
# Hosts

The host of an address is a domain, an address of four numbers, or an address of eight numbers in
brackets. A domain whose last part looks like a number has to be an address of four numbers.

## Main definitions

* `UrlError` — why a text is not an address
* `Url.checkDomain`, `Url.checkFourNumbers`, `Url.checkEightNumbers` — the three kinds of hosts
* `Url.checkHost` — a host of one of the well-known schemes
* `Url.checkOpaqueHost` — a host of any other scheme
-/

namespace TupleClient

/-- Why a text is not an address. -/
inductive UrlError where
  | relative
  | emptyHost
  | invalidPort
  | invalidFourNumbers
  | invalidEightNumbers
  | invalidDomain
  | invalidDomainCharacter
deriving DecidableEq

/-- The text of an error. -/
def UrlError.message : UrlError → String
  | relative => "relative URL without a base"
  | emptyHost => "empty host"
  | invalidPort => "invalid port number"
  | invalidFourNumbers => "invalid IPv4 address"
  | invalidEightNumbers => "invalid IPv6 address"
  | invalidDomain => "invalid international domain name"
  | invalidDomainCharacter => "invalid domain character"

namespace Url

/-- The value of digits in a base, unless one of them is not a digit of it. -/
def digits? (base : Nat) (cs : List Char) : Option Nat :=
  cs.foldlM (fun n c => (Text.hexValue? c).bind fun d =>
    if d < base then some (base * n + d) else none) 0

/-! ### Addresses of four numbers -/

/-- A number of an address: in base 16 after `0x`, in base 8 after a zero, in base 10 otherwise. -/
def addressNumber? : List Char → Option Nat
  | [] => none
  | '0' :: 'x' :: rest => digits? 16 rest
  | '0' :: 'X' :: rest => digits? 16 rest
  | '0' :: d :: rest => digits? 8 (d :: rest)
  | cs => digits? 10 cs

/-- The parts of a domain, without the empty one that a final dot makes. -/
def domainParts (domain : List Char) : List (List Char) :=
  let parts := Text.splitAt (· = '.') domain
  if parts.getLast? = some [] then parts.dropLast else parts

/-- Whether the last part of a domain looks like a number. -/
def endsInNumber (domain : List Char) : Bool :=
  match (domainParts domain).getLast? with
  | some last => (!last.isEmpty && last.all Char.isDigit) || (addressNumber? last).isSome
  | none => false

/-- Up to four numbers, of which all but the last are bytes and the last fills what is left. -/
def checkFourNumbers (domain : List Char) : Except UrlError Unit :=
  let parts := domainParts domain
  match parts.mapM addressNumber? with
  | none => .error .invalidFourNumbers
  | some numbers =>
    match numbers.getLast? with
    | none => .error .invalidFourNumbers
    | some last =>
      -- The last number takes the place of all the bytes that are not given.
      if 4 < numbers.length || numbers.dropLast.any (255 < ·) ||
          twoTo (8 * (5 - numbers.length)) ≤ last then
        .error .invalidFourNumbers
      else .ok ()

/-! ### Addresses of eight numbers -/

/-- One of the four bytes at the end of an address of eight numbers: no needless zero in front. -/
def isPlainByte (cs : List Char) : Bool :=
  !cs.isEmpty && cs.all Char.isDigit && (cs.head? != some '0' || cs.length == 1) &&
    (match digits? 10 cs with
      | some n => n ≤ 255
      | none => false)

/-- One of the numbers of an address of eight: one to four hexadecimal digits. -/
def isGroup (cs : List Char) : Bool :=
  !cs.isEmpty && cs.length ≤ 4 && (digits? 16 cs).isSome

/-- How many of the eight numbers the parts between colons stand for. Only the last part of an
address may be four bytes, which stand for two numbers. -/
def groupCount? (mayEndInBytes : Bool) : List (List Char) → Option Nat
  | [] => some 0
  | [part] =>
    if isGroup part then some 1
    else
      let bytes := Text.splitAt (· = '.') part
      if mayEndInBytes && bytes.length = 4 && bytes.all isPlainByte then some 2 else none
  | part :: rest =>
    if isGroup part then (groupCount? mayEndInBytes rest).map (· + 1) else none

/-- The two sides of the first pair of colons, if there is one. -/
def cutAtGap : List Char → Option (List Char × List Char)
  | ':' :: ':' :: rest => some ([], rest)
  | c :: rest => (cutAtGap rest).map fun (left, right) => (c :: left, right)
  | [] => none

/-- The parts between colons, none for an empty text. -/
def groups (cs : List Char) : List (List Char) :=
  if cs.isEmpty then [] else Text.splitAt (· = ':') cs

/-- Eight numbers between colons. One pair of colons may stand for any number of zeros. -/
def checkEightNumbers (cs : List Char) : Except UrlError Unit :=
  let valid : Bool := match cutAtGap cs with
    | some (left, right) =>
      match groupCount? false (groups left), groupCount? true (groups right) with
      | some a, some b => a + b ≤ 7
      | _, _ => false
    | none => groupCount? true (groups cs) == some 8
  if valid then .ok () else .error .invalidEightNumbers

/-! ### Hosts -/

/-- A domain folded, unless it is none. -/
def checkDomain (bytes : List Nat) : Except UrlError (List Char) :=
  match (Utf8.decode? bytes).bind fun s => foldDomain? s.toList with
  | some folded => .ok folded
  | none => .error .invalidDomain

/-- A host of one of the well-known schemes. -/
def checkHost (cs : List Char) : Except UrlError Unit :=
  match cs with
  | '[' :: rest =>
    if rest.getLast? = some ']' then checkEightNumbers rest.dropLast
    else .error .invalidEightNumbers
  | _ =>
    match checkDomain (percentDecode (Utf8.encode (String.ofList cs))) with
    | .error e => .error e
    | .ok domain =>
      if domain.isEmpty then .error .emptyHost
      -- A last part that is a number makes the whole host an address of numbers.
      else if endsInNumber domain then checkFourNumbers domain
      else .ok ()

/-- A host of any other scheme. -/
def checkOpaqueHost (cs : List Char) : Except UrlError Unit :=
  match cs with
  | '[' :: rest =>
    if rest.getLast? = some ']' then checkEightNumbers rest.dropLast
    else .error .invalidEightNumbers
  | _ =>
    if cs.any fun c => c.toNat = 0 || " #/:<>?@[\\]^|".toList.contains c then
      .error .invalidDomainCharacter
    else .ok ()

end Url

end TupleClient
