import CallWatch.Url.Domain

/-!
# Hosts in URLs

The host of a URL with a special scheme is an IPv6 address in brackets, an IPv4 address, or a
domain name.  A name whose last label looks like a number must be an IPv4 address.  Other schemes
take any text without separators for a host.
-/

namespace CallWatch.Url

/-- Why a text is no URL. -/
inductive Fault where
  | relative
  | emptyHost
  | invalidDomain
  | invalidPort
  | invalidIpv4
  | invalidIpv6
  | invalidCharacter
  deriving DecidableEq, Repr

/-- The wording of a refusal. -/
def Fault.message : Fault → String
  | .relative => "relative URL without a base"
  | .emptyHost => "empty host"
  | .invalidDomain => "invalid international domain name"
  | .invalidPort => "invalid port number"
  | .invalidIpv4 => "invalid IPv4 address"
  | .invalidIpv6 => "invalid IPv6 address"
  | .invalidCharacter => "invalid domain character"

/-! ### IPv4 -/

/-- The value of a digit in a base. -/
def digitValue? (base : Nat) (c : Char) : Option Nat :=
  (Hex.digitValue? c).filter (· < base)

/-- The number that digits in a base spell. -/
def natOfDigits? (base : Nat) (cs : List Char) : Option Nat :=
  cs.foldlM (fun n c => (digitValue? base c).map (base * n + ·)) 0

/-- The number that a part of an IPv4 address spells: hexadecimal behind `0x`, octal behind a
zero, decimal otherwise. -/
def ipv4Part? : List Char → Option Nat
  | [] => none
  | '0' :: 'x' :: rest => natOfDigits? 16 rest
  | '0' :: 'X' :: rest => natOfDigits? 16 rest
  | '0' :: rest => natOfDigits? 8 rest
  | cs => natOfDigits? 10 cs

/-- The labels without an empty last one. -/
def withoutRoot (parts : List (List Char)) : List (List Char) :=
  if 1 < parts.length ∧ parts.getLast? = some [] then parts.dropLast else parts

/-- Whether the last label of a name looks like a number. -/
def endsInNumber (name : List Char) : Bool :=
  match (withoutRoot (labels name)).getLast? with
  | none | some [] => false
  | some last => last.all Char.isDigit || (ipv4Part? last).isSome

/-- Whether numbers are the parts of an IPv4 address: all but the last are bytes, and the last
fills the bytes that are left. -/
def isIpv4 (parts : List (List Char)) : Bool :=
  match parts.mapM ipv4Part? with
  | none => false
  | some numbers =>
    numbers.length ≤ 4 && numbers.dropLast.all (· < 256)
      && numbers.getLast?.all (· < Nat.pow 256 (5 - numbers.length))

/-! ### IPv6 -/

/-- Whether a text is a number from 0 to 255 without leading zeros. -/
def isByte (cs : List Char) : Bool :=
  !cs.isEmpty && cs.all Char.isDigit && (cs.length = 1 || cs.head? != some '0')
    && (natOfDigits? 10 cs).any (· < 256)

/-- Whether a text is four bytes with dots between them. -/
def isDotted (cs : List Char) : Bool :=
  (labels cs).length = 4 && (labels cs).all isByte

/-- Whether a text ends an IPv6 address of which `count` groups were read; `isShort` says whether
a double colon stood among them for the missing ones. -/
def isIpv6Rest : (fuel count : Nat) → (isShort : Bool) → List Char → Bool
  | 0, _, _, _ => false
  | _ + 1, count, isShort, [] => isShort || count = 8
  | fuel + 1, count, isShort, ':' :: rest =>
    -- the second colon of two, which may stand for missing groups once
    count < 8 && !isShort && isIpv6Rest fuel (count + 1) true rest
  | fuel + 1, count, isShort, cs =>
    let digits := (cs.take 4).takeWhile fun c => (Hex.digitValue? c).isSome
    count < 8 &&
      match cs.drop digits.length with
      | [] => isIpv6Rest fuel (count + 1) isShort []
      | ':' :: rest => !rest.isEmpty && isIpv6Rest fuel (count + 1) isShort rest
      -- four bytes take the place of the last two groups
      | '.' :: _ => count ≤ 6 && isDotted cs && (isShort || count = 6)
      | _ => false

/-- Whether a text is an IPv6 address. -/
def isIpv6 (cs : List Char) : Bool :=
  match cs with
  | [] | [_] => false
  | ':' :: ':' :: rest => isIpv6Rest (cs.length + 1) 1 true rest
  | ':' :: _ => false
  | _ => isIpv6Rest (cs.length + 1) 0 false cs

/-- Checks a host that starts with a bracket. -/
def checkBracketed (host : List Char) : Except Fault Unit :=
  if host.getLast? = some ']' ∧ isIpv6 (host.drop 1).dropLast then .ok ()
  else .error .invalidIpv6

/-! ### Hosts -/

/-- Checks the host of a URL with a special scheme. -/
def checkHost (host : List Char) : Except Fault Unit :=
  if host.head? = some '[' then checkBracketed host
  else
    match domain? host with
    | none => .error .invalidDomain
    | some [] => .error .emptyHost
    | some name =>
      if endsInNumber name ∧ !isIpv4 (withoutRoot (labels name)) then .error .invalidIpv4
      else .ok ()

/-- Checks the host of a URL with another scheme. -/
def checkOpaqueHost (host : List Char) : Except Fault Unit :=
  if host.head? = some '[' then checkBracketed host
  else if host.any fun c => "\x00\t\n\r #/:<>?@[\\]^|".contains c then .error .invalidCharacter
  else .ok ()

end CallWatch.Url
