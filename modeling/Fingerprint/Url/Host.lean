import Fingerprint.Text.Utf8
import Fingerprint.Text.Words
import Fingerprint.Url.DomainName

/-!
Which hosts an address may name: domain names, IPv4 and IPv6 addresses, and the opaque hosts of
schemes without rules of their own.
-/

namespace Fingerprint.Url

/-! ### Percent encoding -/

/-- The bytes of a text with percent-encoded ones decoded; the bound is the number of characters. -/
def percentDecode : Nat → List Char → List UInt8
  | 0, _ => []
  | _ + 1, [] => []
  | fuel + 1, c :: rest =>
    match c, rest with
    | '%', high :: low :: after =>
      match Text.hexValue? high, Text.hexValue? low with
      | some high, some low => UInt8.ofNat (high * 16 + low) :: percentDecode fuel after
      | _, _ => Text.encodeChar c ++ percentDecode fuel rest
    | _, _ => Text.encodeChar c ++ percentDecode fuel rest

/-! ### IPv4 -/

/-- What a part of an IPv4 address is: no number, a number beyond 32 bits, or a number. -/
inductive Ipv4Part where
  | other
  | huge
  | number (value : Nat)
deriving DecidableEq, Repr, Inhabited

def valueInBase? (base : Nat) (digits : List Char) : Option Nat :=
  digits.foldlM (fun value c => do
    let digit ← (Text.hexValue? c).filter (· < base)
    return value * base + digit) 0

/-- Reads a part written in base 10, in base 8 with a leading zero, or in base 16 with `0x`. -/
def ipv4Part (text : List Char) : Ipv4Part :=
  let (base, digits) := match text with
    | '0' :: 'x' :: rest | '0' :: 'X' :: rest => (16, rest)
    | '0' :: c :: rest => (8, c :: rest)
    | _ => (10, text)
  if text.isEmpty then .other
  else match valueInBase? base digits with
    | none => .other
    | some value => if value < 1 <<< 32 then .number value else .huge

/-- The parts of a domain name without the empty one behind a dot at its end. -/
def labels (domain : List Char) : List (List Char) :=
  let parts := domain.splitOn '.'
  if parts.getLast? = some [] then parts.dropLast else parts

/-- Whether the last label of a domain name makes it an IPv4 address. -/
def endsInNumber (domain : List Char) : Bool :=
  match (labels domain).getLast? with
  | none => false
  | some last => (!last.isEmpty && last.all Char.isDigit) || ipv4Part last ≠ .other

/-- Whether the parts are numbers of which the last fills the bytes that the others leave. -/
def isIpv4 (domain : List Char) : Bool :=
  let parts := labels domain
  let numbers := parts.filterMap fun part =>
    match ipv4Part part with
    | .number value => some value
    | _ => none
  parts.length ≤ 4 && numbers.length == parts.length &&
    numbers.dropLast.all (· < 256) &&
    numbers.getLast?.any (· < 1 <<< (8 * (5 - parts.length)))

/-! ### IPv6 -/

/-- Whether a text is four decimal numbers below 256 without leading zeros. -/
def isDottedQuad (text : List Char) : Bool :=
  let parts := text.splitOn '.'
  parts.length == 4 && parts.all fun part =>
    !part.isEmpty && part.length ≤ 3 && part.all Char.isDigit &&
    !(part.length > 1 && part.head? == some '0') &&
    (valueInBase? 10 part).any (· < 256)

/-- The number of 16-bit pieces that a text between colons stands for. -/
def ipv6Pieces? (isLast : Bool) (text : List Char) : Option Nat :=
  if !text.isEmpty && text.length ≤ 4 && (valueInBase? 16 text).isSome then some 1
  else if isLast && isDottedQuad text then some 2
  else none

/-- The number of pieces of parts separated by single colons. -/
def ipv6Count? (mayEndDotted : Bool) : List (List Char) → Option Nat
  | [] => some 0
  | [last] => ipv6Pieces? mayEndDotted last
  | part :: rest => do return (← ipv6Pieces? false part) + (← ipv6Count? mayEndDotted rest)

/-- The parts before and after the first `::`, if there is one. -/
def splitDoubleColon : List Char → List Char × Option (List Char)
  | [] => ([], none)
  | ':' :: ':' :: rest => ([], some rest)
  | c :: rest =>
    let (before, after) := splitDoubleColon rest
    (c :: before, after)

def colonParts (text : List Char) : List (List Char) :=
  if text.isEmpty then [] else text.splitOn ':'

/-- Whether a text without its brackets is an IPv6 address. -/
def isIpv6 (text : List Char) : Bool :=
  match splitDoubleColon text with
  | (whole, none) => ipv6Count? true (colonParts whole) == some 8
  | (before, some after) =>
    match ipv6Count? false (colonParts before), ipv6Count? true (colonParts after) with
    | some front, some back => front + back ≤ 7
    | _, _ => false

/-! ### Hosts -/

/-- Whether a text is a domain name or an IPv4 address. -/
def isDomain (text : List Char) : Bool :=
  let chars := (Text.decodeLossy (percentDecode text.length text)).toList
  match DomainName.read? (chars.map Char.toNat) with
  | none => false
  | some plain =>
    let plain := plain.map Char.ofNat
    !plain.isEmpty && (!endsInNumber plain || isIpv4 plain)

def opaqueForbidden : List Char :=
  [ '\x00', '\t', '\n', '\r', ' ', '#', '/', ':', '<', '>', '?', '@', '[', '\\', ']', '^', '|' ]

/-- The text between brackets, if a host is written in them. -/
def bracketed? (host : List Char) : Option (Option (List Char)) :=
  match host with
  | '[' :: rest => some (if rest.getLast? = some ']' then some rest.dropLast else none)
  | _ => none

/-- Whether a host is valid where domain names are expected. -/
def isHost (host : List Char) : Bool :=
  match bracketed? host with
  | some inner => inner.any isIpv6
  | none => isDomain host

/-- Whether a host is valid for a scheme that leaves hosts as they are. -/
def isOpaqueHost (host : List Char) : Bool :=
  match bracketed? host with
  | some inner => inner.any isIpv6
  | none => host.all (!opaqueForbidden.contains ·)

end Fingerprint.Url
