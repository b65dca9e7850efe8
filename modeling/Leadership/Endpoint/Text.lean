import Leadership.Endpoint
import Leadership.Text.Digits

/-!
# Endpoints as text

`Endpoint.ofText?` reads the usual forms, `a.b.c.d:port` and `[groups]:port`, and
nothing else; `Endpoint.text` writes one canonical form.  In a version 6 address
two colons stand for at least one group of zeros, and the last two groups may be
written as a version 4 address.
-/

namespace Leadership

open Leadership.Text

namespace Endpoint

/-! ### Reading -/

/-- A number in decimal or hexadecimal digits, below a bound. -/
def readNumber (base bound : Nat) (text : List Char) : Option (Nat × List Char) :=
  let (digits, rest) := spanDigits base text
  if digits.isEmpty then none
  else if ofDigits base digits < bound then some (ofDigits base digits, rest)
  else none

/-- A given character in front. -/
def readMark (mark : Char) : List Char → Option (List Char)
  | [] => none
  | character :: rest => if character = mark then some rest else none

/-- One to three decimal digits up to 255, without a leading zero unless it is alone. -/
def readOctet (text : List Char) : Option (UInt8 × List Char) :=
  match spanDigits 10 text with
  | ('0' :: _ :: _, _) => none
  | (digits, _) =>
      if digits.length ≤ 3 then
        (readNumber 10 256 text).map (fun (number, rest) => (UInt8.ofNat number, rest))
      else
        none

def readAddress4 (text : List Char) : Option (Address4 × List Char) := do
  let (first, rest) ← readOctet text
  let (second, rest) ← readMark '.' rest >>= readOctet
  let (third, rest) ← readMark '.' rest >>= readOctet
  let (fourth, rest) ← readMark '.' rest >>= readOctet
  return (⟨first, second, third, fourth⟩, rest)

/-- One to four hexadecimal digits. -/
def readGroup (text : List Char) : Option (UInt16 × List Char) :=
  if (spanDigits 16 text).1.length ≤ 4 then
    (readNumber 16 UInt16.size text).map (fun (number, rest) => (UInt16.ofNat number, rest))
  else
    none

/-- Two octets as one group. -/
def groupOf (high low : UInt8) : UInt16 :=
  UInt16.ofNat (high.toNat * 256 + low.toNat)

/--
As many groups as there are, up to `room`, each behind a colon except the first.
A version 4 address may stand where two groups have room, and is the last thing
read; the flag tells whether there was one.
-/
def readGroups : (room : Nat) → (leads : Bool) → List Char → (List UInt16 × Bool) × List Char
  | 0, _, text => (([], false), text)
  | room + 1, leads, text =>
      let start := if leads then some text else readMark ':' text
      match if 0 < room then start >>= readAddress4 else none with
      | some (address, rest) =>
          (([groupOf address.first address.second, groupOf address.third address.fourth], true),
            rest)
      | none =>
          match start >>= readGroup with
          | some (group, rest) =>
              let ((groups, dotted), rest) := readGroups room false rest
              ((group :: groups, dotted), rest)
          | none => (([], false), text)

/--
Eight groups, or two colons with the groups before and behind them; a version 4
address may stand only at the end.
-/
def readAddress6 (text : List Char) : Option (Address6 × List Char) :=
  let ((head, dotted), rest) := readGroups 8 true text
  if head.length = 8 then
    (Address6.ofGroups? head).map (·, rest)
  else if dotted then
    none
  else
    match rest with
    | ':' :: ':' :: rest =>
        let ((tail, _), rest) := readGroups (7 - head.length) true rest
        let zeros := List.replicate (8 - head.length - tail.length) 0
        (Address6.ofGroups? (head ++ zeros ++ tail)).map (·, rest)
    | _ => none

/-- A scope, which is zero when it is not written. -/
def readScope (text : List Char) : UInt32 × List Char :=
  match readMark '%' text >>= readNumber 10 UInt32.size with
  | some (number, rest) => (UInt32.ofNat number, rest)
  | none => (0, text)

/-- A port, in as many digits as one likes. -/
def readPort (text : List Char) : Option (UInt16 × List Char) := do
  let (number, rest) ← readMark ':' text >>= readNumber 10 UInt16.size
  return (UInt16.ofNat number, rest)

def read4 (text : List Char) : Option (Endpoint × List Char) := do
  let (address, rest) ← readAddress4 text
  let (port, rest) ← readPort rest
  return (.v4 address port, rest)

def read6 (text : List Char) : Option (Endpoint × List Char) := do
  let rest ← readMark '[' text
  let (address, rest) ← readAddress6 rest
  let (scope, rest) := readScope rest
  let rest ← readMark ']' rest
  let (port, rest) ← readPort rest
  return (.v6 address scope port, rest)

/-- The endpoint that a whole text names. -/
def ofText? (text : String) : Option Endpoint :=
  match read4 text.toList <|> read6 text.toList with
  | some (endpoint, []) => some endpoint
  | _ => none

/-! ### Writing -/

def writeAddress4 (address : Address4) : List Char :=
  digitsOf 10 address.first.toNat ++ '.' :: digitsOf 10 address.second.toNat ++
    '.' :: digitsOf 10 address.third.toNat ++ '.' :: digitsOf 10 address.fourth.toNat

def writeGroup (group : UInt16) : List Char :=
  digitsOf 16 group.toNat

/-- Groups with a colon between each two. -/
def writeGroups : List UInt16 → List Char
  | [] => []
  | [group] => writeGroup group
  | group :: groups => writeGroup group ++ ':' :: writeGroups groups

/-- The number of zero groups from a place on. -/
def zerosFrom (groups : List UInt16) (place : Nat) : Nat :=
  ((groups.drop place).takeWhile (· == 0)).length

/-- The place and the length of the longest run of zero groups, the first of equals. -/
def longestZeros (groups : List UInt16) : Nat × Nat :=
  (List.range groups.length).foldl
    (fun best place =>
      if best.2 < zerosFrom groups place then (place, zerosFrom groups place) else best)
    (0, 0)

/-- The octets of a version 4 address that is written as a version 6 one, if this is one. -/
def mapped? : List UInt16 → Option Address4
  | [0, 0, 0, 0, 0, 0xffff, high, low] =>
      some ⟨(high >>> 8).toUInt8, high.toUInt8, (low >>> 8).toUInt8, low.toUInt8⟩
  | _ => none

/--
Two colons stand for the longest run of at least two zero groups.  An address
that only carries one of version 4 shows it with dots.
-/
def writeAddress6 (address : Address6) : List Char :=
  match mapped? address.groups with
  | some inner => "::ffff:".toList ++ writeAddress4 inner
  | none =>
      let (place, length) := longestZeros address.groups
      if 2 ≤ length then
        writeGroups (address.groups.take place) ++ ':' :: ':' ::
          writeGroups (address.groups.drop (place + length))
      else
        writeGroups address.groups

def writeScope (scope : UInt32) : List Char :=
  if scope = 0 then [] else '%' :: digitsOf 10 scope.toNat

def write : Endpoint → List Char
  | .v4 address port => writeAddress4 address ++ ':' :: digitsOf 10 port.toNat
  | .v6 address scope port =>
      '[' :: writeAddress6 address ++ writeScope scope ++ ']' :: ':' :: digitsOf 10 port.toNat

def text (endpoint : Endpoint) : String :=
  String.ofList endpoint.write

end Endpoint

end Leadership
