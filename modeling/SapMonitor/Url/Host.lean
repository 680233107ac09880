import SapMonitor.Decimal.Integer
import SapMonitor.Url.Error
import SapMonitor.Url.Idna

/-!
# Hosts

A host is a domain name or an address.  A name whose last part is a number is
read as an IPv4 address, in the older notations too; brackets hold an IPv6
address.
-/

namespace SapMonitor.Url

/-- A host.  Domains are in lower case; opaque hosts belong to schemes without
domains. -/
inductive Host where
  | domain (name : String)
  | ipv4 (address : Nat)
  | ipv6 (pieces : List Nat)
  | opaqueName (name : String)
  deriving DecidableEq

/-! ## IPv4 addresses -/

/-- The digits of a number in a base up to sixteen. -/
def readDigits? (base : Nat) (cs : List Char) : Option Nat :=
  cs.foldl (fun acc c => do
    let n ← acc
    let d ← Text.hexDigit? c
    if d < base then some (base * n + d) else none) (some 0)

/-- A part of an IPv4 address: decimal, octal after a zero, hexadecimal after
`0x`. -/
def ipv4Part? : List Char → Option Nat
  | [] => none
  | '0' :: 'x' :: cs => readDigits? 16 cs
  | '0' :: 'X' :: cs => readDigits? 16 cs
  | '0' :: c :: cs => readDigits? 8 (c :: cs)
  | cs => readDigits? 10 cs

/-- The parts of a name without the empty one after a final dot. -/
def nameParts (cs : List Char) : List (List Char) :=
  let parts := Text.splitOnChar '.' cs
  if 1 < parts.length && parts.getLast? = some [] then parts.dropLast else parts

/-- Whether the last part of a name is a number, so that the whole has to be
an address. -/
def endsInNumber (cs : List Char) : Bool :=
  match (nameParts cs).getLast? with
  | none => false
  | some last =>
    (!last.isEmpty && last.all Char.isDigit) || (ipv4Part? last).isSome

/-- The address of parts, the last of which fills the remaining bytes. -/
def ipv4OfParts (parts : List Nat) : Option Nat :=
  match parts.reverse with
  | [] => none
  | last :: front =>
    if 3 < front.length || Nat.pow 256 (4 - front.length) ≤ last || front.any (255 < ·) then none
    else
      some (front.reverse.zipIdx.foldl (fun sum (n, i) => sum + n * Nat.pow 256 (3 - i)) last)

/-- The IPv4 address written by a name. -/
def readIpv4 (cs : List Char) : Except UrlError Nat :=
  match ((nameParts cs).mapM ipv4Part?).bind ipv4OfParts with
  | some n => .ok n
  | none => .error .invalidIpv4

/-- The four numbers of an IPv4 address. -/
def ipv4Text (n : Nat) : String :=
  toString (n / 16777216 % 256) ++ "." ++ toString (n / 65536 % 256) ++ "." ++
    toString (n / 256 % 256) ++ "." ++ toString (n % 256)

/-! ## IPv6 addresses -/

/-- A group of one to four hexadecimal digits. -/
def ipv6Group? (cs : List Char) : Option Nat :=
  if cs.isEmpty || 4 < cs.length then none else readDigits? 16 cs

/-- A decimal byte without leading zeros. -/
def decimalByte? (cs : List Char) : Option Nat :=
  if 1 < cs.length && cs.head? = some '0' then none
  else (Decimal.readNat? cs).filter (· < 256)

/-- The groups between colons; the last one may be an IPv4 address, which
makes two groups. -/
def ipv6Groups? : List (List Char) → Option (List Nat)
  | [] => some []
  | [last] =>
    if last.contains '.' then do
      let bytes ← (Text.splitOnChar '.' last).mapM decimalByte?
      match bytes with
      | [a, b, c, d] => some [a * 256 + b, c * 256 + d]
      | _ => none
    else (ipv6Group? last).map fun n => [n]
  | g :: gs => do
    let n ← ipv6Group? g
    let ns ← ipv6Groups? gs
    return n :: ns

/-- The text before and after the first pair of colons. -/
def splitDoubleColon? : List Char → Option (List Char × List Char)
  | ':' :: ':' :: rest => some ([], rest)
  | c :: rest => (splitDoubleColon? rest).map fun (a, b) => (c :: a, b)
  | [] => none

/-- The groups of one side of an address. -/
def ipv6Side? (cs : List Char) : Option (List Nat) :=
  if cs.isEmpty then some [] else ipv6Groups? (Text.splitOnChar ':' cs)

/-- The eight pieces of an IPv6 address; a pair of colons stands for at least
one zero piece. -/
def readIpv6 (cs : List Char) : Except UrlError (List Nat) :=
  let pieces := match splitDoubleColon? cs with
    | some (a, b) => do
      if a.contains '.' then none
      else
        let left ← ipv6Side? a
        let right ← ipv6Side? b
        if 7 < left.length + right.length then none
        else some (left ++ List.replicate (8 - left.length - right.length) 0 ++ right)
    | none => do
      let all ← ipv6Groups? (Text.splitOnChar ':' cs)
      if all.length = 8 then some all else none
  match pieces with
  | some ps => .ok ps
  | none => .error .invalidIpv6

/-- The length of the run of zeros at the front. -/
def zeroRun (ps : List Nat) : Nat :=
  (ps.takeWhile (· = 0)).length

/-- The longest run of at least two zero pieces, the first of several: its
place and length. -/
def longestZeroRun (ps : List Nat) : Option (Nat × Nat) :=
  let runs := (List.range ps.length).map fun i => (i, zeroRun (ps.drop i))
  let best := runs.foldl (fun b r => if b.2 < r.2 then r else b) (0, 0)
  if 1 < best.2 then some best else none

/-- Groups with colons between them. -/
def groupText : List Nat → String
  | [] => ""
  | [n] => String.ofList (Nat.toDigits 16 n)
  | n :: ns => String.ofList (Nat.toDigits 16 n) ++ ":" ++ groupText ns

/-- An IPv6 address with its longest run of zeros shortened. -/
def ipv6Text (ps : List Nat) : String :=
  match longestZeroRun ps with
  | none => groupText ps
  | some (i, n) => groupText (ps.take i) ++ "::" ++ groupText (ps.drop (i + n))

/-! ## Reading and showing -/

/-- What may not stand in a host of a scheme without domains. -/
def isForbiddenInHost (c : Char) : Bool :=
  ['\x00', '\t', '\n', '\r', ' ', '#', '/', ':', '<', '>', '?', '@', '[', '\\', ']', '^',
    '|'].contains c

namespace Host

/-- The host of a scheme with domains. -/
def read (idna : Idna) (cs : List Char) : Except UrlError Host :=
  match cs with
  | '[' :: rest =>
    if rest.getLast? = some ']' then (readIpv6 rest.dropLast).map .ipv6
    else .error .invalidIpv6
  | cs =>
    match idna.domain? (decodeBytes cs) with
    | none => .error .invalidDomain
    | some name =>
      if name.isEmpty then .error .emptyHost
      else if endsInNumber name then (readIpv4 name).map .ipv4
      else .ok (.domain (String.ofList name))

/-- The host of a scheme without domains. -/
def readOpaque (cs : List Char) : Except UrlError Host :=
  match cs with
  | '[' :: rest =>
    if rest.getLast? = some ']' then (readIpv6 rest.dropLast).map .ipv6
    else .error .invalidIpv6
  | cs =>
    if cs.any isForbiddenInHost then .error .invalidDomainCharacter
    else .ok (.opaqueName (String.ofList (encode isControl cs)))

/-- The host as a URL shows it. -/
def text : Host → String
  | domain name => name
  | ipv4 n => ipv4Text n
  | ipv6 ps => "[" ++ ipv6Text ps ++ "]"
  | opaqueName name => name

/-- Whether the host is an address and not a name. -/
def isAddress : Host → Bool
  | ipv4 _ | ipv6 _ => true
  | _ => false

/-- Whether the host is shown as an empty text. -/
def isEmpty : Host → Bool
  | domain name | opaqueName name => name.isEmpty
  | _ => false

end Host

end SapMonitor.Url
