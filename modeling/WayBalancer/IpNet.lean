import WayBalancer.IpAddr
/-!
# IpNet — address ranges

`canonicalize_ip` of `crates/net-core/src/lib.rs`, and the ranges of the `ipnet` crate as the code uses them: an address with
a prefix length, holding the addresses of its own family from the first to the last one with that prefix.
-/
namespace WayBalancer

/-- `Ipv6Addr::to_ipv4_mapped`: an address `::ffff:a.b.c.d` is the IPv4 address in it. -/
def canonicalizeIp : IpAddr → IpAddr
  | .v4 a b c d   => .v4 a b c d
  | .v6 segments  =>
    match segments.toList with
    | [0, 0, 0, 0, 0, 0xffff, high, low] => .v4 (high >>> 8).toUInt8 high.toUInt8 (low >>> 8).toUInt8 low.toUInt8
    | _                                  => .v6 segments

example : canonicalizeIp (.v6 #v[0, 0, 0, 0, 0, 0xffff, 0x0a00, 0x0102]) = .v4 10 0 1 2 := by decide

inductive IpNet
  | v4 (a b c d : UInt8) (prefixLen : Fin 33)
  | v6 (segments : Vector UInt16 8) (prefixLen : Fin 129)
deriving DecidableEq, Repr

namespace IpNet

def numberV4 (a b c d : UInt8) : ℕ := ((a.toNat * 256 + b.toNat) * 256 + c.toNat) * 256 + d.toNat

def numberV6 (segments : Vector UInt16 8) : ℕ := segments.toList.foldl (fun n s => n * 65536 + s.toNat) 0

/-- From the network's first address to its last, with `hostBits` bits left to the host. -/
def inRange (hostBits net ip : ℕ) : Bool :=
  let network := net / 2 ^ hostBits * 2 ^ hostBits
  decide (network ≤ ip) && decide (ip ≤ network + (2 ^ hostBits - 1))

def contains : IpNet → IpAddr → Bool
  | .v4 a b c d prefixLen, .v4 a' b' c' d'   => inRange (32 - prefixLen.val) (numberV4 a b c d) (numberV4 a' b' c' d')
  | .v6 segments prefixLen, .v6 segments'    => inRange (128 - prefixLen.val) (numberV6 segments) (numberV6 segments')
  | _, _                                     => false

end IpNet

end WayBalancer
