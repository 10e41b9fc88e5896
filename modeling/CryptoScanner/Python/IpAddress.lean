import Mathlib.Algebra.GroupWithZero.Nat

/-!
# IP addresses and the address classes of Python's `ipaddress`

An address is its integer value; the class tests are membership in the networks that the standard
library lists.
-/

namespace CryptoScanner.Python

instance neZero_v4 : NeZero (2 ^ 32) := ⟨by decide⟩

instance neZero_v6 : NeZero (2 ^ 128) := ⟨by decide⟩

inductive IpAddress where
  | v4 (ip : Fin (2 ^ 32))
  | v6 (ip : Fin (2 ^ 128))
  deriving DecidableEq, Repr

/-- `ip` lies in the network of `bits`-bit addresses that starts at `base` and has a prefix of
`prefixlen` bits. -/
def inNetwork (bits ip base prefixlen : Nat) : Bool :=
  ip / 2 ^ (bits - prefixlen) == base / 2 ^ (bits - prefixlen)

/-- The address written `a.b.c.d`. -/
def dotted (a b c d : Nat) : Nat := ((a * 256 + b) * 256 + c) * 256 + d

def inV4Network (ip : Nat) (network : Nat × Nat) : Bool :=
  inNetwork 32 ip network.1 network.2

def inV6Network (ip : Nat) (network : Nat × Nat) : Bool :=
  inNetwork 128 ip network.1 network.2

def v4PrivateNetworks : List (Nat × Nat) :=
  [(dotted 0 0 0 0, 8), (dotted 10 0 0 0, 8), (dotted 127 0 0 0, 8), (dotted 169 254 0 0, 16),
    (dotted 172 16 0 0, 12), (dotted 192 0 0 0, 24), (dotted 192 0 0 170, 31),
    (dotted 192 0 2 0, 24), (dotted 192 168 0 0, 16), (dotted 198 18 0 0, 15),
    (dotted 198 51 100 0, 24), (dotted 203 0 113 0, 24), (dotted 240 0 0 0, 4),
    (dotted 255 255 255 255, 32)]

def v4PrivateNetworksExceptions : List (Nat × Nat) :=
  [(dotted 192 0 0 9, 32), (dotted 192 0 0 10, 32)]

def v6PrivateNetworks : List (Nat × Nat) :=
  [(1, 128), (0, 128), (0xffff00000000, 96), (0x64ff9b0001 * 2 ^ 80, 48), (0x100 * 2 ^ 112, 64),
    (0x2001 * 2 ^ 112, 23), (0x20010db8 * 2 ^ 96, 32), (0x2002 * 2 ^ 112, 16),
    (0xfc00 * 2 ^ 112, 7), (0xfe80 * 2 ^ 112, 10)]

def v6PrivateNetworksExceptions : List (Nat × Nat) :=
  [(0x20010001 * 2 ^ 96 + 1, 128), (0x20010001 * 2 ^ 96 + 2, 128), (0x20010003 * 2 ^ 96, 32),
    (0x200100040112 * 2 ^ 80, 48), (0x20010020 * 2 ^ 96, 28), (0x20010030 * 2 ^ 96, 28)]

def isPrivateV4 (ip : Nat) : Bool :=
  v4PrivateNetworks.any (inV4Network ip) && v4PrivateNetworksExceptions.all (!inV4Network ip ·)

namespace IpAddress

def ipv4Mapped (ip : Nat) : Option Nat :=
  if ip / 2 ^ 32 = 0xffff then some (ip % 2 ^ 32) else none

def isPrivate : IpAddress → Bool
  | .v4 ip => isPrivateV4 ip
  | .v6 ip =>
      match ipv4Mapped ip with
      | some mapped => isPrivateV4 mapped
      | none =>
          v6PrivateNetworks.any (inV6Network ip) &&
            v6PrivateNetworksExceptions.all (!inV6Network ip ·)

def isLoopback : IpAddress → Bool
  | .v4 ip => inV4Network ip (dotted 127 0 0 0, 8)
  | .v6 ip => ip.val == 1

def isLinkLocal : IpAddress → Bool
  | .v4 ip => inV4Network ip (dotted 169 254 0 0, 16)
  | .v6 ip => inV6Network ip (0xfe80 * 2 ^ 112, 10)

end IpAddress

end CryptoScanner.Python
