import Pagecraft.Calendar.Date
import Pagecraft.Number.Power
import Pagecraft.Text.Blank

/-! Instants in universal time, to the nanosecond, as RFC 3339 writes them. Reading is lenient
about blanks and the width of numbers; what is written always has one form. -/
namespace Pagecraft

/-- A date, the second of that day, and nanoseconds. A leap second is the second before it with
a thousand million nanoseconds or more. -/
structure Instant where
  date : Date
  second : Nat
  nano : Nat
deriving DecidableEq, Repr

namespace Instant

def isValid (instant : Instant) : Bool :=
  instant.date.isValid && instant.second < 86400 && instant.nano < 2000000000

def epoch : Instant := ⟨⟨1970, 1, 1⟩, 0, 0⟩

def fractionText (nano : Nat) : Text :=
  if nano = 0 then []
  else if nano % 1000000 = 0 then '.' :: Text.ofNatPadded 3 (nano / 1000000)
  else if nano % 1000 = 0 then '.' :: Text.ofNatPadded 6 (nano / 1000)
  else '.' :: Text.ofNatPadded 9 nano

def text (instant : Instant) : Text :=
  let leap := instant.nano / 1000000000
  instant.date.text ++ 'T' :: Text.ofNatPadded 2 (instant.second / 3600) ++
    ':' :: Text.ofNatPadded 2 (instant.second / 60 % 60) ++
    ':' :: Text.ofNatPadded 2 (instant.second % 60 + leap) ++
    fractionText (instant.nano % 1000000000) ++ ['Z']

def number? (width : Nat) (t : Text) : Option (Nat × Text) :=
  let t := Text.trimStart t
  let digits := (t.take width).takeWhile Char.isDigit
  (Text.toNat? digits).map fun n => (n, t.drop digits.length)

def year? (t : Text) : Option (Int × Text) :=
  let signed (rest : Text) : Option (Nat × Text) :=
    if rest.head?.any Char.isDigit then number? rest.length rest else none
  match Text.trimStart t with
  | '-' :: rest => (signed rest).map fun (n, rest) => (-n, rest)
  | '+' :: rest => (signed rest).map fun (n, rest) => (n, rest)
  | t => (number? 4 t).map fun (n, rest) => (n, rest)

def after? (separator : Char) (t : Text) : Option Text :=
  Text.dropMark? [separator] (Text.trimStart t)

def date? (t : Text) : Option (Date × Text) := do
  let (year, t) ← year? t
  let (month, t) ← number? 2 (← after? '-' t)
  let (day, t) ← number? 2 (← after? '-' t)
  let date : Date := ⟨year, month, day⟩
  if date.isValid then some (date, t) else none

/-- The nanoseconds of a fraction; digits past the ninth are dropped. -/
def fraction? (t : Text) : Option (Nat × Text) :=
  match t with
  | '.' :: rest =>
    let digits := rest.takeWhile Char.isDigit
    let first := digits.take 9
    (Text.toNat? first).map fun n => (n * tenTo (9 - first.length), rest.dropWhile Char.isDigit)
  | _ => some (0, t)

def time? (t : Text) : Option (Nat × Nat × Text) := do
  let (hour, t) ← number? 2 t
  let (minute, t) ← number? 2 (← after? ':' t)
  let (second, t) ← number? 2 (← after? ':' t)
  let (nano, t) ← fraction? t
  if hour < 24 ∧ minute < 60 ∧ second ≤ 60 then
    let (second, leap) := if second = 60 then (59, 1000000000) else (second, 0)
    some (3600 * hour + 60 * minute + second, leap + nano, t)
  else none

def pair? : Text → Option (Nat × Text)
  | a :: b :: rest => (Text.toNat? [a, b]).map fun n => (n, rest)
  | _ => none

def offset? (t : Text) : Option (Int × Text) :=
  let amount (rest : Text) : Option (Nat × Text) := do
    let (hours, rest) ← pair? rest
    let (minutes, rest) ← pair? (rest.dropWhile fun c => c == ':' || isBlank c)
    if hours < 24 ∧ minutes < 60 then some (3600 * hours + 60 * minutes, rest) else none
  if Text.lower (t.take 3) = "utc".toList then some (0, t.drop 3)
  else match t with
    | 'Z' :: rest | 'z' :: rest => some (0, rest)
    | '+' :: rest => (amount rest).map fun (n, rest) => (n, rest)
    | '-' :: rest | '\u2212' :: rest => (amount rest).map fun (n, rest) => (-n, rest)
    | _ => none

def ofLocal? (date : Date) (second nano : Nat) (offset : Int) : Option Instant :=
  let shifted := (second : Int) - offset
  let date :=
    if shifted < 0 then date.previous else if 86400 ≤ shifted then date.next else date
  if date.isValid then some ⟨date, (shifted % 86400).toNat, nano⟩ else none

def ofText? (t : Text) : Option Instant := do
  let (date, t) ← date? t
  let t ← match t with
    | 'T' :: rest | 't' :: rest | ' ' :: rest => some rest
    | _ => none
  let (second, nano, t) ← time? t
  let (offset, rest) ← offset? (Text.trimStart t)
  if Text.allBlank rest then ofLocal? date second nano offset else none

end Instant
end Pagecraft
