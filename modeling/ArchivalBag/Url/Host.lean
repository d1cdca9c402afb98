import ArchivalBag.Url.Domain
import ArchivalBag.Url.Ipv4
import ArchivalBag.Url.Ipv6
import ArchivalBag.Url.Percent

/-!
# Hosts

The host of a URL with a special scheme is a domain or an address; a domain whose last label is a
number has to be an IPv4 address. With any other scheme the host is taken as it is written.

* `Host.read`: the host of a special scheme.
* `Host.readVerbatim`: the host of any other scheme.
* `Host.text`: the written form.
-/

namespace ArchivalBag.Url

open Text

/-- Why a text is not a URL. -/
inductive Fault where
  | noScheme
  | emptyHost
  | badPort
  | badIpv4
  | badIpv6
  | badDomain
  | badHostCharacter
  deriving DecidableEq, Repr

/-- The wording of a fault. -/
def Fault.message : Fault → String
  | .noScheme => "relative URL without a base"
  | .emptyHost => "empty host"
  | .badPort => "invalid port number"
  | .badIpv4 => "invalid IPv4 address"
  | .badIpv6 => "invalid IPv6 address"
  | .badDomain => "invalid international domain name"
  | .badHostCharacter => "invalid domain character"

/-- Who a URL asks. -/
inductive Host where
  /-- A name: a domain in its ASCII form, or the text written where a host stands; it may be empty. -/
  | name (text : List Char)
  | ipv4 (address : UInt32)
  | ipv6 (pieces : List Nat)
  deriving DecidableEq, Repr

namespace Host

/-- The written form of a host. -/
def text : Host → List Char
  | .name t => t
  | .ipv4 a => Ipv4.text a
  | .ipv6 ps => '[' :: Ipv6.text ps ++ [']']

/-- The address in brackets. -/
def readBrackets (cs : List Char) : Except Fault Host :=
  match cs.getLast? with
  | some ']' =>
    match Ipv6.read? cs.dropLast with
    | some ps => .ok (.ipv6 ps)
    | none => .error .badIpv6
  | _ => .error .badIpv6

/-- The host of a special scheme. -/
def read : List Char → Except Fault Host
  | '[' :: r => readBrackets r
  | cs =>
    match Domain.toAscii? (Percent.decode cs) with
    | none => .error .badDomain
    | some d =>
      if d.isEmpty then .error .emptyHost
      else if Ipv4.endsInNumber d then
        match Ipv4.read? d with
        | some a => .ok (.ipv4 a)
        | none => .error .badIpv4
      else .ok (.name d)

/-- Characters that do not stand in a host of any scheme. -/
def isForbidden (c : Char) : Bool :=
  c.toNat == 0 || " #/:<>?@[\\]^|\t\n\r".toList.contains c

/-- The host of a scheme that is not special. -/
def readVerbatim : List Char → Except Fault Host
  | '[' :: r => readBrackets r
  | cs =>
    if cs.any isForbidden then .error .badHostCharacter
    else .ok (.name (Percent.encode Percent.isControl cs))

end Host

end ArchivalBag.Url
