import CryptoScanner.Python.IpAddress
import CryptoScanner.Python.Number

/-!
# Texts of addresses and networks

Which texts `ipaddress.ip_address` and `ipaddress.ip_network` accept, and the address that a text
stands for.  The tests for acceptance do not evaluate the parts of an IPv6 address.
-/

namespace CryptoScanner.Python

def isHexDigit (c : Char) : Bool :=
  c.isDigit || ('a' ≤ c && c ≤ 'f') || ('A' ≤ c && c ≤ 'F')

/-! ## 1. Addresses -/

/-- `_BaseV4._parse_octet` -/
def isOctet (text : List Char) : Bool :=
  text ≠ [] && text.all Char.isDigit && decide (text.length ≤ 3) &&
    (text == ['0'] || text.head? ≠ some '0') && decide (natOfDigits text ≤ 255)

/-- `IPv4Address(text)`; a text with a slash has a part that is no octet. -/
def isIpv4Text (text : List Char) : Bool :=
  let octets := text.splitOn '.'
  octets.length == 4 && octets.all isOctet

/-- `_BaseV6._parse_hextet` -/
def isHextet (text : List Char) : Bool :=
  text ≠ [] && text.all isHexDigit && decide (text.length ≤ 4)

/-- A last part with dots is an IPv4 address and counts as two parts, which stand for its halves. -/
def expandDotted (parts : List (List Char)) : Option (List (List Char)) :=
  match parts.getLast? with
  | none => some parts
  | some last =>
      if '.' ∈ last then
        if isIpv4Text last then some (parts.dropLast ++ [['0'], ['0']]) else none
      else some parts

/-- The positions of the empty parts other than the first and the last. -/
def skips (parts : List (List Char)) : List Nat :=
  (List.range (parts.length - 1)).filter fun i => 0 < i && parts[i]? == some []

/-- The parts where the part at `skip` stands for a run of zeroes. -/
def isSkipped (parts : List (List Char)) (skip : Nat) : Bool :=
  let leading := parts.head? == some []
  let trailing := parts.getLast? == some []
  let high := if leading then skip - 1 else skip
  let low := if trailing then parts.length - skip - 2 else parts.length - skip - 1
  (!leading || high == 0) && (!trailing || low == 0) && decide (high + low < 8) &&
    (parts.take high).all isHextet && (parts.drop (parts.length - low)).all isHextet

/-- `_BaseV6._ip_int_from_string` -/
def isIpv6Body (text : List Char) : Bool :=
  let parts := text.splitOn ':'
  decide (3 ≤ parts.length) &&
    match expandDotted parts with
    | none => false
    | some parts =>
        decide (parts.length ≤ 9) &&
          match skips parts with
          | [] => parts.length == 8 && parts.all isHextet
          | [skip] => isSkipped parts skip
          | _ => false

/-- `IPv6Address(text)`; the scope id after the percent sign is not empty and has none itself. -/
def isIpv6Text (text : List Char) : Bool :=
  !text.contains '/' &&
    match text.splitOn '%' with
    | [address] => isIpv6Body address
    | [address, scopeId] => scopeId ≠ [] && isIpv6Body address
    | _ => false

/-- `ip_address(text)` returns. -/
def isIpAddress (text : List Char) : Bool := isIpv4Text text || isIpv6Text text

/-! ## 2. Networks -/

def isPrefixLength (max : Nat) (text : List Char) : Bool :=
  text ≠ [] && text.all Char.isDigit && decide (natOfDigits text ≤ max)

def ipv4Value (text : List Char) : Nat :=
  (text.splitOn '.').foldl (fun n octet => n * 256 + natOfDigits octet) 0

/-- `_prefix_from_ip_string`: a netmask or a hostmask. -/
def isMask (text : List Char) : Bool :=
  isIpv4Text text && (List.range 33).any fun n =>
    ipv4Value text == 2 ^ 32 - 2 ^ n || ipv4Value text == 2 ^ n - 1

/-- `ip_network(text, strict=False)` returns. -/
def isIpNetwork (text : List Char) : Bool :=
  match text.splitOn '/' with
  | [address] => isIpAddress address
  | [address, mask] =>
      (isIpv4Text address && (isPrefixLength 32 mask || isMask mask)) ||
        (isIpv6Text address && isPrefixLength 128 mask)
  | _ => false

theorem not_mask_of_digits {text : List Char} (h : text.all Char.isDigit = true) :
    isMask text = false := by
  have hdot : '.' ∉ text := by
    intro hmem
    have hdigit := List.all_eq_true.mp h '.' hmem
    exact absurd hdigit (by decide)
  rw [isMask, isIpv4Text, List.splitOn_eq_singleton hdot]
  rfl

theorem isIpNetwork_slash {address bits : List Char} (haddress : '/' ∉ address)
    (hne : bits ≠ []) (hbits : bits.all Char.isDigit = true) :
    isIpNetwork (address ++ '/' :: bits) =
      ((isIpv4Text address && decide (natOfDigits bits ≤ 32)) ||
        (isIpv6Text address && decide (natOfDigits bits ≤ 128))) := by
  have hslash : '/' ∉ bits := by
    intro hmem
    have hdigit := List.all_eq_true.mp hbits '/' hmem
    exact absurd hdigit (by decide)
  have hsplit : (address ++ '/' :: bits).splitOn '/' = [address, bits] := by
    rw [List.splitOn_append_cons_self_of_not_mem haddress, List.splitOn_eq_singleton hslash]
  rw [isIpNetwork, hsplit]
  simp only [isPrefixLength, hbits, hne, not_mask_of_digits hbits, ne_eq, not_false_eq_true,
    decide_true, Bool.true_and, Bool.or_false]

/-! ## 3. The address of a text -/

def hexValue (text : List Char) : Nat :=
  text.foldl (fun n c =>
    16 * n + (if c.isDigit then c.toNat - '0'.toNat else c.toLower.toNat - 'a'.toNat + 10)) 0

/-- The eight hextets of the parts between colons, of which an empty one stands for a run of
zeroes; a last part with dots counts as two. -/
def hextetValues (parts : List (List Char)) : List Nat :=
  let groups := parts.flatMap fun part =>
    if '.' ∈ part then [ipv4Value part / 2 ^ 16, ipv4Value part % 2 ^ 16]
    else if part = [] then [] else [hexValue part]
  let before := (parts.takeWhile (· ≠ [])).length
  -- a leading pair of colons has an empty part before the run
  groups.take before ++ List.replicate (8 - groups.length) 0 ++ groups.drop before

def ipv6Value (text : List Char) : Nat :=
  (hextetValues ((text.takeWhile (· ≠ '%')).splitOn ':')).foldl (fun n hextet => 2 ^ 16 * n + hextet)
    0

/-- `ip_address(text)`, without the scope id of an IPv6 address. -/
def ipAddress? (text : List Char) : Option IpAddress :=
  if isIpv4Text text then some (.v4 (Fin.ofNat (2 ^ 32) (ipv4Value text)))
  else if isIpv6Text text then some (.v6 (Fin.ofNat (2 ^ 128) (ipv6Value text)))
  else none

/-- `_split_scope_id`: what stands behind the percent sign of an IPv6 address. -/
def ipScopeId (text : List Char) : Option (List Char) :=
  match text.splitOn '%' with
  | [_, scopeId] => some scopeId
  | _ => none

/-! ## 4. The network of a text -/

/-- An address, the prefix length and the scope id, of which an IPv4 network has none. -/
structure IpNetwork where
  networkAddress : IpAddress
  prefixlen : Nat
  scopeId : Option (List Char)
  deriving DecidableEq, Repr

/-- `int(address) & int(netmask)` -/
def maskedValue (bits value prefixlen : Nat) : Nat := value - value % 2 ^ (bits - prefixlen)

/-- `_prefix_from_ip_string`; all ones and all zeroes are netmasks. -/
def prefixOfMask (value : Nat) : Nat :=
  match (List.range 33).find? fun n => value == 2 ^ 32 - 2 ^ n with
  | some hostBits => 32 - hostBits
  | none => 32 - ((List.range 33).find? fun n => value == 2 ^ n - 1).getD 0

def ipv4Network (address : List Char) (prefixlen : Nat) : IpNetwork :=
  ⟨.v4 (Fin.ofNat (2 ^ 32) (maskedValue 32 (ipv4Value address) prefixlen)), prefixlen, none⟩

def ipv6Network (address : List Char) (prefixlen : Nat) : IpNetwork :=
  let masked := maskedValue 128 (ipv6Value address) prefixlen
  ⟨.v6 (Fin.ofNat (2 ^ 128) masked), prefixlen,
    if masked = ipv6Value address then ipScopeId address else none⟩

def ipNetwork? (text : List Char) : Option IpNetwork :=
  match text.splitOn '/' with
  | [address] =>
      if isIpv4Text address then some (ipv4Network address 32)
      else if isIpv6Text address then some (ipv6Network address 128)
      else none
  | [address, mask] =>
      if isIpv4Text address && isPrefixLength 32 mask then
        some (ipv4Network address (natOfDigits mask))
      else if isIpv4Text address && isMask mask then
        some (ipv4Network address (prefixOfMask (ipv4Value mask)))
      else if isIpv6Text address && isPrefixLength 128 mask then
        some (ipv6Network address (natOfDigits mask))
      else none
  | _ => none

/-- The texts that are accepted are those that stand for a network. -/
theorem ipNetwork?_isSome (text : List Char) : (ipNetwork? text).isSome = isIpNetwork text := by
  unfold ipNetwork? isIpNetwork
  split
  · rw [isIpAddress]
    grind
  · grind
  · rfl

theorem ipAddress?_isSome (text : List Char) : (ipAddress? text).isSome = isIpAddress text := by
  unfold ipAddress? isIpAddress
  grind

end CryptoScanner.Python
