import Payable.Foundation.IpTexts

namespace Payable.Net
open IpTexts (number)

-- An IPv4 address by its octets.
structure Octets where
  first : Nat
  second : Nat
  third : Nat
  fourth : Nat
  deriving DecidableEq

-- The patterns of this file hold only characters that no other character is lowered to.
def normalize (value : List Char) : List Char :=
  let opened := if value.head? = some '[' then value.tail else value
  let closed := if opened.getLast? = some ']' then opened.dropLast else opened
  closed.map Char.toLower

def isHex (c : Char) : Bool := c.isDigit || 'a' ≤ c && c ≤ 'f'

def isOctal (c : Char) : Bool := '0' ≤ c && c ≤ '7'

def digitValue (c : Char) : Nat := JsonText.hexValue c

-- Number.parseInt of text that a pattern has matched.
def parseInt (digits : List Char) (base : Nat) : Nat := number base (digits.map digitValue)

-- One or more characters of a class, to the end.
def isAll (class_ : Char → Bool) (text : List Char) : Bool := !text.isEmpty && text.all class_

def parseUint (part : List Char) : Option Nat :=
  if (['0','x'].isPrefixOf? part).any (isAll isHex) then some (parseInt (part.drop 2) 16)
  else if (['0'].isPrefixOf? part).any (isAll isOctal) then some (parseInt (part.drop 1) 8)
  else if isAll Char.isDigit part then some (parseInt part 10)
  else none

def parseIpv4 (host : List Char) : Option Octets :=
  if host.contains '.' then
    match (host.splitOn '.').map parseUint with
    | [some first,some second,some third,some fourth] =>
      if 255 < first || 255 < second || 255 < third || 255 < fourth then none else some ⟨first,second,third,fourth⟩
    | _ => none
  else
    match parseUint host with
    | none => none
    | some value =>
      if 0xffffffff < value then none
      else some ⟨value / 2 ^ 24 % 256,value / 2 ^ 16 % 256,value / 2 ^ 8 % 256,value % 256⟩

def isReservedDocumentationIpv4 (first second third : Nat) : Bool :=
  if first = 192 && second = 0 && (third = 0 || third = 2) then true
  else if first = 198 && second = 51 && third = 100 then true
  else first = 203 && second = 0 && third = 113

def isBlockedIpv4 (octets : Octets) : Bool :=
  if octets.first = 0 || octets.first = 10 || octets.first = 127 then true
  else if octets.first ≥ 224 then true
  else if octets.first = 169 && octets.second = 254 then true
  else if octets.first = 192 && octets.second = 168 then true
  else if octets.first = 172 && octets.second ≥ 16 && octets.second ≤ 31 then true
  else if octets.first = 100 && octets.second ≥ 64 && octets.second ≤ 127 then true
  else if octets.first = 198 && (octets.second = 18 || octets.second = 19) then true
  else isReservedDocumentationIpv4 octets.first octets.second octets.third

-- The prefix of both patterns of embeddedIpv4.
def afterPrefix (host : List Char) : Option (List Char) :=
  ("::ffff:".toList.isPrefixOf? host).or ("64:ff9b::".toList.isPrefixOf? host)

def isDotted (rest : List Char) : Bool :=
  (rest.splitOn '.').length = 4 && (rest.splitOn '.').all (isAll Char.isDigit)

def isShortHex (text : List Char) : Bool := isAll isHex text && text.length ≤ 4

def embeddedIpv4 (host : List Char) : Option Octets :=
  match afterPrefix host with
  | none => none
  | some rest =>
    if isDotted rest then parseIpv4 rest
    else
      match rest.splitOn ':' with
      | [first,second] =>
        if isShortHex first && isShortHex second then
          let high := parseInt first 16
          let low := parseInt second 16
          some ⟨high / 2 ^ 8 % 256,high % 256,low / 2 ^ 8 % 256,low % 256⟩
        else none
      | _ => none

-- Seven groups "0" and a group that ends in 1 after zeros.
def isWrittenOutLoopback (host : List Char) : Bool :=
  ("0:0:0:0:0:0:0:".toList.isPrefixOf? host).any fun rest => rest.dropWhile (· == '0') == ['1']

def localPrefixes : List (List Char) :=
  ["fc".toList,"fd".toList,"fe8".toList,"fe9".toList,"fea".toList,"feb".toList]

def isBlockedIpv6 (host : List Char) : Bool :=
  let zoneless := host.takeWhile (· ≠ '%')
  if zoneless = "::1".toList || zoneless = "::".toList || isWrittenOutLoopback zoneless then true
  else
    match embeddedIpv4 zoneless with
    | some embedded => isBlockedIpv4 embedded
    | none => localPrefixes.any (·.isPrefixOf zoneless)

def isBlockedIp (address : String) : Bool :=
  let host := normalize address.toList
  match parseIpv4 host with
  | some ipv4 => isBlockedIpv4 ipv4
  | none => isBlockedIpv6 host

def isBlockedHostname (hostname : String) : Bool :=
  let host := normalize hostname.toList
  if host = "localhost".toList || ".localhost".toList.isSuffixOf host then true
  else isBlockedIp (String.ofList host)

-- resolveTarget of the delivery service: the addresses that the hostname has resolved to, if
-- it has, when none of them is blocked.
def resolveTarget (hostname : String) (resolved : Option (List String)) : Option (List String) :=
  if isBlockedHostname hostname then none
  else
    match resolved with
    | none => none
    | some addresses => if addresses.isEmpty || addresses.any isBlockedIp then none else some addresses

end Payable.Net
