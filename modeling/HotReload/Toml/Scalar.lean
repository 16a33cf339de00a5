import HotReload.Toml.Basic
import HotReload.Value.Parser

/-!
# Numbers, dates and times in TOML

All of these stay on one line. Digits may be grouped by single underscores. Integers fit 64 bits with
sign; other numbers are rounded once, and a positive one must be finite. Dates are checked against
the calendar.

A text that only starts like one of them may still hold a shorter one in front of something else, or
it is malformed: after a mark such as a decimal point, an `e`, an underscore or the first hyphen of a
date there is no way back.
-/

namespace HotReload.Toml

/-- A number, date or time breaks off after a mark that more of it must follow. -/
structure Malformed where

/-- The outcome of looking for something at the start of a text: what is there, nothing, or a malformed
start of it. -/
abbrev Scan (α : Type) := OptionT (Except Malformed) α

/-- Finds a malformed start. -/
def malformed : Scan α :=
  .mk (.error ⟨⟩)

/-- Turns absence into a malformed start. -/
def required (scan : Scan α) : Scan α :=
  scan <|> malformed

/-! ## Digits -/

/-- Reads digits that single underscores may separate; the underscores are dropped. -/
def groupedDigits (isDigit : Char → Bool) : List Char → Scan (List Char × List Char)
  | c :: rest => if isDigit c then go [c] rest else failure
  | [] => failure
where
  /-- Reads on after a digit; `acc` holds the digits read so far, latest first. -/
  go (acc : List Char) : List Char → Scan (List Char × List Char)
    | '_' :: c :: rest => if isDigit c then go (c :: acc) rest else malformed
    | ['_'] => malformed
    | c :: rest => if isDigit c then go (c :: acc) rest else return (acc.reverse, c :: rest)
    | [] => return (acc.reverse, [])

/-- Reads a sign: whether it is a minus sign. -/
def sign : List Char → Bool × List Char
  | '-' :: rest => (true, rest)
  | '+' :: rest => (false, rest)
  | cs => (false, cs)

/-- Reads the digits of a whole number, which has no leading zero. -/
def wholeDigits : List Char → Scan (List Char × List Char)
  | '0' :: rest => return (['0'], rest)
  | cs => groupedDigits Char.isDigit cs

/-! ## Integers -/

def isHexDigit (c : Char) : Bool :=
  (Value.hexDigit? c).isSome

/-- Reads a number in a base other than ten, after its mark. -/
def baseInteger (base : Nat) (isDigit : Char → Bool) (cs : List Char) :
    Scan (Toml.Value × List Char) :=
  required do
    let (digits, rest) ← groupedDigits isDigit cs
    let n := digits.foldl (fun n c => base * n + (Value.hexDigit? c).getD 0) 0
    if n < 0x8000000000000000 then return (.int n, rest) else failure

def integer (cs : List Char) : Scan (Toml.Value × List Char) :=
  match cs with
  | '0' :: 'x' :: rest => baseInteger 16 isHexDigit rest
  | '0' :: 'o' :: rest => baseInteger 8 (fun c => '0' ≤ c && c ≤ '7') rest
  | '0' :: 'b' :: rest => baseInteger 2 (fun c => c == '0' || c == '1') rest
  | cs => do
    let (negative, cs) := sign cs
    let (digits, rest) ← wholeDigits cs
    let size : Int := Nat.ofDigitChars 10 digits 0
    let n := if negative then -size else size
    if -0x8000000000000000 ≤ n ∧ n < 0x8000000000000000 then return (.int n, rest)
    else malformed

/-! ## Other numbers -/

def exponent : List Char → Scan (Int × List Char)
  | c :: rest =>
    if c = 'e' ∨ c = 'E' then do
      let (negative, rest) := sign rest
      let (digits, rest) ← required (groupedDigits Char.isDigit rest)
      let size : Int := Nat.ofDigitChars 10 digits 0
      return (if negative then -size else size, rest)
    else failure
  | [] => failure

/-- The number with the given digits, scaled by a power of ten. Only a negative one may be infinite. -/
def scaledFloat (negative : Bool) (digits : List Char) (exponent : Int) : Scan Toml.Value :=
  match Binary64.ofDecimal? (Nat.ofDigitChars 10 digits 0) exponent with
  | some magnitude => return .float (some (.ofMagnitude negative magnitude))
  | none => if negative then return .float none else malformed

/-- Reads a number with fraction or exponent, or the words for infinity and no number. -/
def float (cs : List Char) : Scan (Toml.Value × List Char) :=
  let (negative, cs) := sign cs
  match cs with
  | 'i' :: 'n' :: 'f' :: rest => return (.float none, rest)
  | 'n' :: 'a' :: 'n' :: rest => return (.float none, rest)
  | cs => do
    let (whole, cs) ← wholeDigits cs
    match cs with
    | '.' :: cs =>
      let (fraction, cs) ← required (groupedDigits Char.isDigit cs)
      let (exponent, cs) ← exponent cs <|> return (0, cs)
      return (← scaledFloat negative (whole ++ fraction) (exponent - fraction.length), cs)
    | cs =>
      let (exponent, cs) ← exponent cs
      return (← scaledFloat negative whole exponent, cs)

/-! ## Dates and times -/

/-- Reads a number of exactly `count` digits within bounds. -/
def fixedDigits (count low high : Nat) (cs : List Char) : Scan (Nat × List Char) :=
  let digits := cs.take count
  let n := Nat.ofDigitChars 10 digits 0
  if digits.length = count ∧ digits.all Char.isDigit ∧ low ≤ n ∧ n ≤ high then
    return (n, cs.drop count)
  else failure

def mark (want : Char) : List Char → Scan (List Char)
  | c :: rest => if c = want then return rest else failure
  | [] => failure

/-- The number of days of a month. -/
def daysIn (year month : Nat) : Nat :=
  let leap := year % 4 = 0 ∧ (year % 100 ≠ 0 ∨ year % 400 = 0)
  if month = 2 then (if leap then 29 else 28)
  else if month = 4 ∨ month = 6 ∨ month = 9 ∨ month = 11 then 30
  else 31

/-- A number in decimal, filled up with zeros to a width. -/
def padded (width n : Nat) : List Char :=
  let digits := Nat.toDigits 10 n
  List.replicate (width - digits.length) '0' ++ digits

def date (cs : List Char) : Scan (List Char × List Char) := do
  let (year, cs) ← fixedDigits 4 0 9999 cs
  let cs ← mark '-' cs
  required do
    let (month, cs) ← fixedDigits 2 1 12 cs
    let cs ← mark '-' cs
    let (day, cs) ← fixedDigits 2 1 (daysIn year month) cs
    return (padded 4 year ++ ['-'] ++ padded 2 month ++ ['-'] ++ padded 2 day, cs)

/-- Reads the fraction of a second after its point and gives it in normal form: at most nine digits,
without zeros at the end. -/
def secondFraction (cs : List Char) : Scan (List Char × List Char) :=
  match cs with
  | '.' :: cs =>
    match cs.takeWhile Char.isDigit with
    | [] => failure
    | digits =>
      let kept := ((digits.take 9).reverse.dropWhile (· == '0')).reverse
      return (if kept.isEmpty then [] else '.' :: kept, cs.dropWhile Char.isDigit)
  | _ => failure

def time (cs : List Char) : Scan (List Char × List Char) := do
  let (hour, cs) ← fixedDigits 2 0 23 cs
  let cs ← mark ':' cs
  required do
    let (minute, cs) ← fixedDigits 2 0 59 cs
    let cs ← mark ':' cs
    let (second, cs) ← fixedDigits 2 0 60 cs
    let (fraction, cs) ← secondFraction cs <|> return ([], cs)
    return (padded 2 hour ++ [':'] ++ padded 2 minute ++ [':'] ++ padded 2 second ++ fraction, cs)

/-- Reads an offset from universal time. -/
def offset : List Char → Scan (List Char × List Char)
  | [] => failure
  | c :: rest =>
    if c = 'Z' ∨ c = 'z' then return (['Z'], rest)
    else if c = '+' ∨ c = '-' then required do
      let (hour, rest) ← fixedDigits 2 0 23 rest
      let rest ← mark ':' rest
      let (minute, rest) ← fixedDigits 2 0 59 rest
      let direction := if hour = 0 ∧ minute = 0 then '+' else c
      return (direction :: padded 2 hour ++ [':'] ++ padded 2 minute, rest)
    else failure

/-- Reads the time that may follow a date, after a `T` or a blank. -/
def timeAfterDate : List Char → Scan (List Char × List Char)
  | [] => failure
  | c :: rest =>
    if c = 'T' ∨ c = 't' ∨ c = ' ' then do
      let (clock, rest) ← time rest
      let (offset, rest) ← offset rest <|> return ([], rest)
      return ('T' :: clock ++ offset, rest)
    else failure

/-- Reads a date and the time that may follow it. -/
def dateWithTime (cs : List Char) : Scan (List Char × List Char) := do
  let (date, rest) ← date cs
  let (time, rest) ← timeAfterDate rest <|> return ([], rest)
  return (date ++ time, rest)

/-- Reads a date, a date with a time, or a time. -/
def dateTime (cs : List Char) : Scan (Toml.Value × List Char) := do
  let (moment, rest) ← dateWithTime cs <|> time cs
  return (.dateTime (.ofList moment), rest)

def numeric (cs : List Char) : Scan (Toml.Value × List Char) :=
  dateTime cs <|> float cs <|> integer cs

end HotReload.Toml
