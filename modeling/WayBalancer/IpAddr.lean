import WayBalancer.Text
/-!
# IpAddr — addresses and how they print

`std::net::IpAddr` and its `Display`: dotted decimal for IPv4; for IPv6 the mapped form `::ffff:a.b.c.d`, or lower-case
hexadecimal groups with the first longest run of two or more zero groups written `::`.
-/
namespace WayBalancer

open Str

inductive IpAddr
  | v4 (a b c d : UInt8)
  | v6 (segments : Vector UInt16 8)
deriving DecidableEq, Repr

structure ZeroSpan where
  start : Nat
  len : Nat

/-- The first longest run of zero groups, from group `i` on with the current and the longest run so far. -/
def longestZeroSpan : Nat → ZeroSpan → ZeroSpan → List UInt16 → ZeroSpan
  | _, _, longest, [] => longest
  | i, current, longest, s :: rest =>
    if s = 0 then
      let current := ⟨if current.len = 0 then i else current.start, current.len + 1⟩
      longestZeroSpan (i + 1) current (if longest.len < current.len then current else longest) rest
    else longestZeroSpan (i + 1) ⟨0, 0⟩ longest rest

def hexGroups (l : List UInt16) : Text :=
  List.intercalate (lit ":") (l.map (fun s => Nat.toDigits 16 s.toNat))

def showV4 (a b c d : UInt8) : Text :=
  List.intercalate (lit ".") ([a, b, c, d].map (fun o => Nat.toDigits 10 o.toNat))

def showV6 (l : List UInt16) : Text :=
  match l with
  | [0, 0, 0, 0, 0, 0xffff, x, y] =>
    lit "::ffff:" ++ showV4 (x.toNat / 256).toUInt8 (x.toNat % 256).toUInt8 (y.toNat / 256).toUInt8 (y.toNat % 256).toUInt8
  | _ =>
    let z := longestZeroSpan 0 ⟨0, 0⟩ ⟨0, 0⟩ l
    if 1 < z.len then hexGroups (l.take z.start) ++ lit "::" ++ hexGroups (l.drop (z.start + z.len)) else hexGroups l

def IpAddr.toText : IpAddr → Text
  | .v4 a b c d => showV4 a b c d
  | .v6 segments => showV6 segments.toList

end WayBalancer
