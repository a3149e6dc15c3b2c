import SchemaIntake.Toml.Basic
import SchemaIntake.Toml.Lexical

/-!
# Numbers and times of TOML

## Main definitions

* `Toml.readDigits isDigit t` — digits, with single underscores between them.
* `Toml.readNumber t` — an integer of 64 bits or a number with a fraction or an exponent.
* `Toml.overflows digits places` — whether a number is too large for a double.
* `Toml.readTime t` — a date, a time of day or both.
-/

namespace SchemaIntake

open Text

namespace Toml

/-! ### Integers -/

/-- Digits with single underscores between them, read without the underscores. -/
def readDigits (isDigit : Char → Bool) (t : Text) : Option (Text × Text) :=
  let run := t.takeWhile fun c => isDigit c || c == '_'
  let groups := cutWhere (fun (_ : Unit) _ => ()) (fun _ c => c == '_') () run
  if groups.any (·.isEmpty) then none else some (groups.flatten, t.drop run.length)

/-- The decimal digits before the point: zero, or digits that do not start with one. -/
def readWhole (t : Text) : Option (Text × Text) :=
  (readDigits isDigit t).filter fun r => r.1 = ['0'] || r.1.head? != some '0'

/-- The value of digits in some base. -/
def valueIn (base : Nat) (digits : Text) : Nat :=
  digits.foldl (fun n c => n * base + (hexValue? c).getD 0) 0

/-- A positive integer in a base other than ten, of which the two characters that name the base
have just been passed. -/
def readInBase (base : Nat) (t : Text) : Option (Toml × Text) :=
  (readDigits (fun c => (hexValue? c).any (· < base)) t).bind fun r =>
    let n := valueIn base r.1
    if n < Nat.pow 2 63 then some (.integer n, r.2) else none

/-- The integer of 64 bits with a given sign and given digits. -/
def integerOf? (negative : Bool) (digits : Text) : Option Int :=
  let n := valueIn 10 digits
  if negative then if n ≤ Nat.pow 2 63 then some (-(n : Int)) else none
  else if n < Nat.pow 2 63 then some n else none

/-! ### Numbers with a fraction or an exponent -/

/-- The fraction, if there is one, as its digits. -/
def readFraction : Text → Option (Text × Text)
  | '.' :: rest => readDigits isDigit rest
  | t => some ([], t)

/-- The exponent, if there is one. -/
def readExponent : Text → Option (Int × Text)
  | [] => some (0, [])
  | c :: rest =>
    if c = 'e' || c = 'E' then
      match rest with
      | '-' :: after => (readDigits isDigit after).map fun r => (-(valueIn 10 r.1 : Int), r.2)
      | '+' :: after => (readDigits isDigit after).map fun r => ((valueIn 10 r.1 : Int), r.2)
      | _ => (readDigits isDigit rest).map fun r => ((valueIn 10 r.1 : Int), r.2)
    else some (0, c :: rest)

/-- Whether the number that has these digits, with the point after so many of them, is rounded
to infinity as a double: this happens from the middle between the largest double and the power
of two above it.  The point matters for 309 places only: with more the number is too large,
with fewer it is not. -/
def overflows (digits : Text) (places : Int) : Bool :=
  let zeros := (digits.takeWhile (· = '0')).length
  let digits := digits.drop zeros
  let places := places - zeros
  if digits.isEmpty || places < 309 then false
  else if 309 < places then true
  else (Nat.pow 2 1024 - Nat.pow 2 970) * Nat.pow 10 digits.length ≤
    valueIn 10 digits * Nat.pow 10 309

/-- The part of a text that stands before the rest of it. -/
def before (t rest : Text) : Text := t.take (t.length - rest.length)

/-- A decimal number whose sign has just been passed. -/
def readDecimal (negative : Bool) (t : Text) : Option (Toml × Text) := do
  let (whole, afterWhole) ← readWhole t
  let (fraction, afterFraction) ← readFraction afterWhole
  let (exponent, rest) ← readExponent afterFraction
  if rest.length = afterWhole.length then
    (integerOf? negative whole).map fun i => (.integer i, rest)
  else if !negative && overflows (whole ++ fraction) (whole.length + exponent) then none
  else
    let sign := if negative then ['-'] else []
    some (.float (sign ++ before t rest), rest)

/-- A number whose sign has just been passed: an infinity, no number, or a decimal number. -/
def readUnsigned (negative : Bool) (t : Text) : Option (Toml × Text) :=
  let sign := if negative then ['-'] else []
  match t with
  | 'i' :: 'n' :: 'f' :: rest => some (.float (sign ++ "inf".toList), rest)
  | 'n' :: 'a' :: 'n' :: rest => some (.float (sign ++ "nan".toList), rest)
  | _ => readDecimal negative t

def readNumber (t : Text) : Option (Toml × Text) :=
  match t with
  | '0' :: 'x' :: rest => readInBase 16 rest
  | '0' :: 'o' :: rest => readInBase 8 rest
  | '0' :: 'b' :: rest => readInBase 2 rest
  | '-' :: rest => readUnsigned true rest
  | '+' :: rest => readUnsigned false rest
  | _ => readUnsigned false t

/-! ### Dates and times -/

/-- The number that exactly so many decimal digits write. -/
def readFixed (width : Nat) (t : Text) : Option (Nat × Text) :=
  let digits := t.take width
  if digits.length = width && digits.all isDigit then some (valueIn 10 digits, t.drop width)
  else none

/-- What follows a given character. -/
def after? (c : Char) : Text → Option Text
  | [] => none
  | d :: rest => if d = c then some rest else none

/-- The number of days of a month in the Gregorian calendar. -/
def daysIn (year month : Nat) : Nat :=
  if month = 2 then
    if year % 4 = 0 && (year % 100 != 0 || year % 400 = 0) then 29 else 28
  else if month = 4 || month = 6 || month = 9 || month = 11 then 30
  else 31

/-- What follows a date. -/
def afterDate? (t : Text) : Option Text := do
  let (year, t) ← readFixed 4 t
  let (month, t) ← (after? '-' t).bind (readFixed 2)
  let (day, t) ← (after? '-' t).bind (readFixed 2)
  if 1 ≤ month && month ≤ 12 && 1 ≤ day && day ≤ daysIn year month then some t else none

/-- What follows a fraction of a second, if there is one. -/
def afterFraction (t : Text) : Text :=
  match t with
  | '.' :: rest => if rest.head?.any isDigit then rest.dropWhile isDigit else t
  | _ => t

/-- What follows an hour and a minute. -/
def afterMinute? (t : Text) : Option Text := do
  let (hour, t) ← readFixed 2 t
  let (minute, t) ← (after? ':' t).bind (readFixed 2)
  if hour < 24 && minute < 60 then some t else none

/-- What follows a time of day.  A minute may have a leap second. -/
def afterClock? (t : Text) : Option Text := do
  let t ← afterMinute? t
  let (second, t) ← (after? ':' t).bind (readFixed 2)
  if second ≤ 60 then some (afterFraction t) else none

/-- What follows the distance from universal time, if there is one. -/
def afterOffset (t : Text) : Text :=
  match t with
  | 'Z' :: rest => rest
  | 'z' :: rest => rest
  | '+' :: rest => (afterMinute? rest).getD t
  | '-' :: rest => (afterMinute? rest).getD t
  | _ => t

/-- What follows a date, a time of day or both. -/
def afterTime? (t : Text) : Option Text :=
  match afterDate? t with
  | none => afterClock? t
  | some rest =>
    match rest with
    | [] => some []
    | c :: clock =>
      if c = 'T' || c = 't' || c = ' ' then
        match afterClock? clock with
        | some rest => some (afterOffset rest)
        | none => some rest
      else some rest

/-- A date, a time of day or both. -/
def readTime (t : Text) : Option (Toml × Text) :=
  (afterTime? t).map fun rest => (.time (before t rest), rest)

end Toml

end SchemaIntake
