/-!
# Addresses

Numeric addresses with a port, such as `127.0.0.1:8080` and `[::1]:8080`, read from and written as
text. The two notations differ in what they allow: numbers between dots have no leading zeros and at
most three digits, groups between colons have at most four hexadecimal digits, two colons in a row
stand for one or more groups of zeros, and the last two groups may be written with dots.
-/

namespace HttpRoutes

/-- The address of a machine: four bytes, or eight groups of sixteen bits. -/
inductive IpAddress
  | v4 (bytes : List Nat)
  | v6 (groups : List Nat)
deriving DecidableEq, Repr

/-- The address of a machine, and a port there. -/
structure SocketAddress where
  ip : IpAddress
  port : Nat
deriving DecidableEq, Repr

namespace Address

/-! ## Numbers -/

/-- The value of a digit, if it is one in the given base. -/
def digit? (base : Nat) (c : Char) : Option Nat :=
  let n :=
    if '0' ≤ c ∧ c ≤ '9' then c.toNat - '0'.toNat
    else if 'a' ≤ c ∧ c ≤ 'z' then c.toNat - 'a'.toNat + 10
    else if 'A' ≤ c ∧ c ≤ 'Z' then c.toNat - 'A'.toNat + 10
    else 36
  if n < base then some n else none

/-- The digits at the start of a text, and the text behind them. -/
def spanDigits (base : Nat) : List Char → List Nat × List Char
  | [] => ([], [])
  | c :: rest =>
    match digit? base c with
    | none => ([], c :: rest)
    | some d =>
      let r := spanDigits base rest
      (d :: r.1, r.2)

/-- What a number may look like. -/
structure NumberShape where
  base : Nat
  maxDigits : Option Nat
  leadingZero : Bool
  /-- The first number that is too big. -/
  bound : Nat

/-- The number at the start of a text. All digits there belong to it. -/
def readNumber (shape : NumberShape) (cs : List Char) : Option (Nat × List Char) :=
  let (digits, rest) := spanDigits shape.base cs
  let n := digits.foldl (fun n d => shape.base * n + d) 0
  if digits.isEmpty then none
  else if shape.maxDigits.any (· < digits.length) then none
  else if !shape.leadingZero && digits.head? == some 0 && 1 < digits.length then none
  else if shape.bound ≤ n then none
  else some (n, rest)

/-- A byte between dots. -/
def byteShape : NumberShape := ⟨10, some 3, false, 1 <<< 8⟩

/-- A group between colons. -/
def groupShape : NumberShape := ⟨16, some 4, true, 1 <<< 16⟩

/-- A port. -/
def portShape : NumberShape := ⟨10, none, true, 1 <<< 16⟩

/-- The number of a network interface. -/
def scopeShape : NumberShape := ⟨10, none, true, 1 <<< 32⟩

/-- Take one character off a text. -/
def readChar (c : Char) : List Char → Option (List Char)
  | d :: rest => if c = d then some rest else none
  | [] => none

/-! ## Machines -/

/-- So many bytes with dots between them. -/
def readBytes : Nat → List Char → Option (List Nat × List Char)
  | 0, cs => some ([], cs)
  | 1, cs => do
    let (n, rest) ← readNumber byteShape cs
    return ([n], rest)
  | count + 2, cs => do
    let (n, rest) ← readNumber byteShape cs
    let (ns, rest) ← readBytes (count + 1) (← readChar '.' rest)
    return (n :: ns, rest)

/-- Four bytes with dots between them. -/
def readV4 (cs : List Char) : Option (List Nat × List Char) := readBytes 4 cs

/-- Groups read from a text: whether the last two were written with dots, and what follows. -/
structure GroupRun where
  groups : List Nat
  dotted : Bool
  rest : List Char

/-- As many groups as there are, but no more than `room`, with colons between them. `first` says
that no colon comes before the next one. -/
def readGroups (first : Bool) : Nat → List Char → GroupRun
  | 0, cs => ⟨[], false, cs⟩
  | room + 1, cs =>
    match if first then some cs else readChar ':' cs with
    | none => ⟨[], false, cs⟩
    | some inner =>
      match if 0 < room then readV4 inner else none with
      | some ([a, b, c, d], rest) => ⟨[256 * a + b, 256 * c + d], true, rest⟩
      | _ =>
        match readNumber groupShape inner with
        | none => ⟨[], false, cs⟩
        | some (n, rest) =>
          let more := readGroups false room rest
          ⟨n :: more.groups, more.dotted, more.rest⟩

/-- Eight groups, some of which may be left out between two colons in a row. -/
def readV6 (cs : List Char) : Option (List Nat × List Char) :=
  let head := readGroups true 8 cs
  let size := head.groups.length
  if size = 8 then some (head.groups, head.rest)
  else if head.dotted then none
  else do
    let rest ← readChar ':' (← readChar ':' head.rest)
    let tail := readGroups true (7 - size) rest
    let zeros := List.replicate (8 - size - tail.groups.length) 0
    return (head.groups ++ zeros ++ tail.groups, tail.rest)

/-! ## Ports -/

/-- A colon and a port. -/
def readPort (cs : List Char) : Option (Nat × List Char) := do
  readNumber portShape (← readChar ':' cs)

/-- Skip a percent sign and the number of an interface. -/
def skipScope (cs : List Char) : List Char :=
  match (readChar '%' cs).bind (readNumber scopeShape) with
  | some (_, rest) => rest
  | none => cs

/-- An address with dots and a port. -/
def readSocketV4 (cs : List Char) : Option (SocketAddress × List Char) := do
  let (bytes, rest) ← readV4 cs
  let (port, rest) ← readPort rest
  return (⟨.v4 bytes, port⟩, rest)

/-- An address in brackets and a port. -/
def readSocketV6 (cs : List Char) : Option (SocketAddress × List Char) := do
  let (groups, rest) ← readV6 (← readChar '[' cs)
  let (port, rest) ← readPort (← readChar ']' (skipScope rest))
  return (⟨.v6 groups, port⟩, rest)

/-- What has been read, if nothing is left. -/
def whole? {α : Type} : Option (α × List Char) → Option α
  | some (a, []) => some a
  | _ => none

end Address

/-- The address and port that a text writes. -/
def SocketAddress.ofText? (text : String) : Option SocketAddress :=
  Address.whole? ((Address.readSocketV4 text.toList).or (Address.readSocketV6 text.toList))

namespace IpAddress

/-- The address that a text writes, without brackets. -/
def ofText? (text : String) : Option IpAddress :=
  ((Address.whole? (Address.readV4 text.toList)).map .v4).or
    ((Address.whole? (Address.readV6 text.toList)).map .v6)

/-- Bytes with dots between them. -/
def dotted (bytes : List Nat) : String := ".".intercalate (bytes.map toString)

/-- Groups with colons between them. -/
def coloned (groups : List Nat) : String :=
  ":".intercalate (groups.map fun n => String.ofList (Nat.toDigits 16 n))

/-- The start and the length of the longest run of zeros; of several the first. -/
def longestZeros (groups : List Nat) : Nat × Nat :=
  let runs := (List.range groups.length).map fun i =>
    (i, ((groups.drop i).takeWhile (· = 0)).length)
  runs.foldl (fun best run => if best.2 < run.2 then run else best) (0, 0)

/-- The address as it is written. -/
def text : IpAddress → String
  | v4 bytes => dotted bytes
  | v6 [0, 0, 0, 0, 0, 0xFFFF, a, b] => "::ffff:" ++ dotted [a / 256, a % 256, b / 256, b % 256]
  | v6 groups =>
    let (start, size) := longestZeros groups
    if 1 < size then coloned (groups.take start) ++ "::" ++ coloned (groups.drop (start + size))
    else coloned groups

/-- Whether four bytes are an address that every machine has: any address, the machine itself, or
everybody at once. -/
def isLocalV4 (bytes : List Nat) : Bool :=
  bytes = [0, 0, 0, 0] || bytes.head? = some 127 || bytes = [255, 255, 255, 255] ||
    bytes.head?.any fun b => 224 ≤ b && b < 240

/-- Whether the address is one that every machine has. Four bytes may be written as groups. -/
def isLocal : IpAddress → Bool
  | v4 bytes => isLocalV4 bytes
  | v6 [0, 0, 0, 0, 0, 0xFFFF, a, b] => isLocalV4 [a / 256, a % 256, b / 256, b % 256]
  | v6 groups => groups = [0, 0, 0, 0, 0, 0, 0, 0] || groups = [0, 0, 0, 0, 0, 0, 0, 1]

end IpAddress

end HttpRoutes
