import HttpRoutes.Text.Hex
import HttpRoutes.Toml.Value

/-!
# Numbers and times in TOML

What can begin with a digit or a sign: whole numbers of 64 bits in four bases, fractions, and
times. Four digits and a hyphen can only begin a date, two digits and a colon only a time of day.
Digits may have single underscores between them.
-/

namespace HttpRoutes.Toml

/-- Whether a character is a digit in base ten. -/
def isDecimal (c : Char) : Bool := '0' ≤ c && c ≤ '9'

/-- Whether a character is a digit in base eight. -/
def isOctal (c : Char) : Bool := '0' ≤ c && c ≤ '7'

/-- Whether a character is a digit in base two. -/
def isBinary (c : Char) : Bool := c = '0' || c = '1'

/-- The number that digits write in a base. -/
def numberOf (base : Nat) (digits : List Char) : Nat :=
  digits.foldl (fun n c => base * n + Text.hexValue c) 0

/-! ## Whole numbers and fractions -/

/-- The digits that follow a digit, each behind an underscore or not, and what follows them. An
underscore needs a digit behind it. -/
def moreDigits (isDigit : Char → Bool) (underscore : Bool) :
    List Char → Option (List Char × List Char)
  | [] => if underscore then none else some ([], [])
  | c :: rest =>
    if isDigit c then (moreDigits isDigit false rest).map fun r => (c :: r.1, r.2)
    else if underscore then none
    else if c = '_' then moreDigits isDigit true rest
    else some ([], c :: rest)

/-- One or more digits and what follows them. -/
def someDigits (isDigit : Char → Bool) : List Char → Option (List Char × List Char)
  | c :: rest =>
    if isDigit c then (moreDigits isDigit false rest).map fun r => (c :: r.1, r.2) else none
  | [] => none

/-- A whole number without a sign: a zero, or digits that do not begin with one. -/
def wholeDigits : List Char → Option (List Char × List Char)
  | '0' :: rest => some (['0'], rest)
  | cs => someDigits isDecimal cs

/-- Take a sign off a text; true stands for minus. -/
def takeSign : List Char → Bool × List Char
  | '-' :: rest => (true, rest)
  | '+' :: rest => (false, rest)
  | cs => (false, cs)

/-- A whole number, if 64 bits can hold it. -/
def integer? (n : Int) : Option Value :=
  if -0x8000000000000000 ≤ n ∧ n < 0x8000000000000000 then some (.integer n) else none

/-- The least number that is nearer to infinity than to any fraction of 64 bits. -/
def fractionBound : Nat := 1 <<< 1024 - 1 <<< 970

/-- Whether `digits` times ten to the power of `exponent` is beyond all fractions of 64 bits. -/
def isTooBig (digits : List Char) (exponent : Int) : Bool :=
  let n := numberOf 10 digits
  if n = 0 then false
  else if 400 ≤ exponent then true
  else if exponent + digits.length < 0 then false
  else if 0 ≤ exponent then fractionBound ≤ n * Nat.pow 10 exponent.toNat
  else fractionBound * Nat.pow 10 (-exponent).toNat ≤ n

/-- The digits behind a point, if there is a point. -/
def readPoint : List Char → Option (List Char × List Char)
  | '.' :: rest => someDigits isDecimal rest
  | cs => some ([], cs)

/-- The power of ten, if one is given. -/
def readExponent : List Char → Option (Int × List Char)
  | c :: rest =>
    if c = 'e' ∨ c = 'E' then
      let (negative, rest) := takeSign rest
      (someDigits isDecimal rest).map fun r =>
        let n : Int := numberOf 10 r.1
        (if negative then -n else n, r.2)
    else some (0, c :: rest)
  | [] => some (0, [])

/-- What a text goes on with, behind the given start. -/
def behind? (start : String) (cs : List Char) : Option (List Char) :=
  if start.toList.isPrefixOf cs then some (cs.drop start.toList.length) else none

/-- Infinity and what is not a number. -/
def readSpecial (cs : List Char) : Option (Value × List Char) :=
  ((behind? "inf" cs).or (behind? "nan" cs)).map fun rest => (.fraction, rest)

/-- A number in base ten. -/
def readDecimal (cs : List Char) : Option (Value × List Char) := do
  let (negative, unsigned) := takeSign cs
  let (whole, rest) ← wholeDigits unsigned
  match rest with
  | c :: _ =>
    if c = '.' ∨ c = 'e' ∨ c = 'E' then
      let (places, rest) ← readPoint rest
      let (exponent, rest) ← readExponent rest
      if !negative && isTooBig (whole ++ places) (exponent - places.length) then none
      else return (.fraction, rest)
    else
      let n : Int := numberOf 10 whole
      return (← integer? (if negative then -n else n), rest)
  | [] =>
    let n : Int := numberOf 10 whole
    return (← integer? (if negative then -n else n), rest)

/-- A number in another base, whose mark has been read. -/
def readInBase (base : Nat) (isDigit : Char → Bool) (cs : List Char) :
    Option (Value × List Char) := do
  let (digits, rest) ← someDigits isDigit cs
  return (← integer? (numberOf base digits), rest)

/-- A number. -/
def readNumber (cs : List Char) : Option (Value × List Char) :=
  match cs with
  | '0' :: 'x' :: rest => readInBase 16 Text.isHexDigit rest
  | '0' :: 'o' :: rest => readInBase 8 isOctal rest
  | '0' :: 'b' :: rest => readInBase 2 isBinary rest
  | _ => (readSpecial (takeSign cs).2).or (readDecimal cs)

/-! ## Times -/

/-- A number of exactly two digits between two bounds. -/
def readTwo (low high : Nat) : List Char → Option (Nat × List Char)
  | a :: b :: rest =>
    let n := numberOf 10 [a, b]
    if isDecimal a && isDecimal b && low ≤ n && n ≤ high then some (n, rest) else none
  | _ => none

/-- Take one character off a text. -/
def expect (c : Char) : List Char → Option (List Char)
  | d :: rest => if c = d then some rest else none
  | [] => none

/-- How many days a month has. -/
def daysIn (year month : Nat) : Nat :=
  let leap := year % 4 = 0 ∧ (year % 100 ≠ 0 ∨ year % 400 = 0)
  if month = 2 then if leap then 29 else 28
  else if [4, 6, 9, 11].contains month then 30
  else 31

/-- Month and day behind a year and a hyphen. -/
def readMonthDay (year : Nat) (cs : List Char) : Option (List Char) := do
  let (month, rest) ← readTwo 1 12 cs
  let (_, rest) ← readTwo 1 (daysIn year month) (← expect '-' rest)
  return rest

/-- The parts of a second, if they are given. -/
def readParts : List Char → Option (List Char)
  | '.' :: rest =>
    if (rest.head?.map isDecimal).getD false then some (rest.dropWhile isDecimal) else none
  | cs => some cs

/-- Minutes and seconds behind an hour and a colon. -/
def readMinutes (cs : List Char) : Option (List Char) := do
  let (_, rest) ← readTwo 0 59 cs
  let (_, rest) ← readTwo 0 60 (← expect ':' rest)
  readParts rest

/-- The distance to universal time, if it is given. -/
def readOffset : List Char → Option (List Char)
  | [] => some []
  | c :: rest =>
    if c = 'Z' ∨ c = 'z' then some rest
    else if c = '+' ∨ c = '-' then do
      let (_, rest) ← readTwo 0 23 rest
      let (_, rest) ← readTwo 0 59 (← expect ':' rest)
      return rest
    else some (c :: rest)

/-- The rest of a date: a time of day may follow, behind a letter or a blank. A blank that no time
follows is left. -/
def readTimeOfDate (cs : List Char) : Option (List Char) :=
  match cs with
  | c :: rest =>
    if c = 'T' ∨ c = 't' ∨ c = ' ' then
      match (readTwo 0 23 rest).bind fun r => expect ':' r.2 with
      | some rest => (readMinutes rest).bind readOffset
      | none => some cs
    else some cs
  | [] => some []

/-- A value that begins with a digit or a sign. -/
def readNumberOrTime (cs : List Char) : Option (Value × List Char) :=
  match cs with
  | a :: b :: ':' :: rest =>
    if isDecimal a && isDecimal b then
      if numberOf 10 [a, b] ≤ 23 then (readMinutes rest).map fun rest => (.time, rest) else none
    else readNumber cs
  | a :: b :: c :: d :: '-' :: rest =>
    if [a, b, c, d].all isDecimal then
      ((readMonthDay (numberOf 10 [a, b, c, d]) rest).bind readTimeOfDate).map fun rest =>
        (.time, rest)
    else readNumber cs
  | _ => readNumber cs

end HttpRoutes.Toml
