import WayBalancer.IpAddr
/-!
# IpParse — addresses read from text

`IpAddr::from_str` of the standard library: four decimal octets without leading zeros, or up to eight groups of at most
four hexadecimal digits with at most one `::`, the last two groups also as an IPv4 address.  A reader takes what it can
from the front of the text and gives back the rest; the whole text has to be taken.
-/
namespace WayBalancer

open Str

def toDigit (radix : ℕ) (c : Char) : Option ℕ :=
  let value :=
    if c.isDigit then c.toNat - 48
    else if 'a' ≤ c ∧ c ≤ 'f' then c.toNat - 87
    else if 'A' ≤ c ∧ c ≤ 'F' then c.toNat - 55
    else radix
  if value < radix then some value else none

/-- A number of at most `maxDigits` digits and at most `limit`. -/
def readNumber (radix maxDigits limit : ℕ) (allowZeroPrefix : Bool) (s : Text) : Option (ℕ × Text) :=
  let digits := s.takeWhile (fun c => (toDigit radix c).isSome)
  let value := digits.foldl (fun n c => n * radix + (toDigit radix c).getD 0) 0
  if digits.isEmpty || decide (maxDigits < digits.length) || decide (limit < value) then none
  else if !allowZeroPrefix && digits.head? = some '0' && decide (1 < digits.length) then none
  else some (value, s.drop digits.length)

def readGivenChar (expected : Char) : Text → Option Text
  | []        => none
  | c :: rest => if c = expected then some rest else none

/-- `read_separator`: the separator stands before every element but the first. -/
def readSeparated {α : Type} (separator : Char) (index : ℕ) (read : Text → Option (α × Text)) (s : Text) :
    Option (α × Text) :=
  if 0 < index then (readGivenChar separator s).bind read else read s

def readOctet (s : Text) : Option (UInt8 × Text) := (readNumber 10 3 255 false s).map (fun p => (p.1.toUInt8, p.2))

def readIpv4Addr (s : Text) : Option ((UInt8 × UInt8 × UInt8 × UInt8) × Text) := do
  let (a, s) ← readOctet s
  let (b, s) ← readSeparated '.' 1 readOctet s
  let (c, s) ← readSeparated '.' 2 readOctet s
  let (d, s) ← readSeparated '.' 3 readOctet s
  pure ((a, b, c, d), s)

def readGroup (s : Text) : Option (UInt16 × Text) := (readNumber 16 4 65535 true s).map (fun p => (p.1.toUInt16, p.2))

/-- Up to `left` more groups from group `index` on; whether an IPv4 address ended them. -/
def readGroups : (left index : ℕ) → Text → List UInt16 × Bool × Text
  | 0, _, s            => ([], false, s)
  | left + 1, index, s =>
    match if 0 < left then readSeparated ':' index readIpv4Addr s else none with
    | some ((a, b, c, d), rest) => ([a.toUInt16 * 256 + b.toUInt16, c.toUInt16 * 256 + d.toUInt16], true, rest)
    | none =>
      match readSeparated ':' index readGroup s with
      | none               => ([], false, s)
      | some (group, rest) =>
        let (groups, endsV4, rest) := readGroups left (index + 1) rest
        (group :: groups, endsV4, rest)

def readIpv6Addr (s : Text) : Option (List UInt16 × Text) :=
  let (head, headV4, s) := readGroups 8 0 s
  if head.length = 8 then some (head, s)
  else if headV4 then none
  else do
    let s ← readGivenChar ':' s
    let s ← readGivenChar ':' s
    let (tail, _, s) := readGroups (8 - (head.length + 1)) 0 s
    pure (head ++ List.replicate (8 - head.length - tail.length) 0 ++ tail, s)

def parseIpAddr (s : Text) : Option IpAddr :=
  match readIpv4Addr s with
  | some ((a, b, c, d), []) => some (.v4 a b c d)
  | some _                  => none
  | none =>
    match readIpv6Addr s with
    | some (segments, []) => if h : segments.length = 8 then some (.v6 ⟨segments.toArray, h⟩) else none
    | _                   => none

example : parseIpAddr (lit "203.0.113.7") = some (.v4 203 0 113 7) ∧ parseIpAddr (lit "203.0.113.07") = none ∧
    parseIpAddr (lit "2001:db8::7") = some (.v6 #v[0x2001, 0xdb8, 0, 0, 0, 0, 0, 7]) ∧
    parseIpAddr (lit "::ffff:10.0.1.2") = some (.v6 #v[0, 0, 0, 0, 0, 0xffff, 0x0a00, 0x0102]) ∧
    parseIpAddr (lit "1:2:3:4:5:6:7::") = some (.v6 #v[1, 2, 3, 4, 5, 6, 7, 0]) := by decide +kernel

end WayBalancer
