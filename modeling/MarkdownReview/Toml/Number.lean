import MarkdownReview.Settings.Basic
import MarkdownReview.Toml.Quoted
/-!
TOML numbers: whole ones in four bases, decimal ones with a fraction or an exponent, and the three
special ones. Single underscores may stand between digits.
-/

namespace MarkdownReview.Toml

/-- The digits ahead of which the first has been read, underscores left out. -/
def moreDigits (isDigit : Char → Bool) : Text → Text × Text
  | '_' :: d :: rest =>
    if isDigit d then
      let (digits, rest) := moreDigits isDigit rest
      (d :: digits, rest)
    else ([], '_' :: d :: rest)
  | d :: rest =>
    if isDigit d then
      let (digits, rest) := moreDigits isDigit rest
      (d :: digits, rest)
    else ([], d :: rest)
  | [] => ([], [])

def readDigits (isDigit : Char → Bool) : Reader Text
  | d :: rest =>
    if isDigit d then
      let (digits, rest) := moreDigits isDigit rest
      some (d :: digits, rest)
    else none
  | [] => none

def numberIn (base : Nat) (digits : Text) : Nat :=
  digits.foldl (fun value d => value * base + (hexDigit? d).getD 0) 0

def isHexDigit (c : Char) : Bool := (hexDigit? c).isSome

def isDigitBelow (bound : Nat) (c : Char) : Bool := (hexDigit? c).any (· < bound)

def readBased : Reader Nat
  | '0' :: 'x' :: rest => (readDigits isHexDigit rest).map fun (ds, rest) => (numberIn 16 ds, rest)
  | '0' :: 'b' :: rest =>
    (readDigits (isDigitBelow 2) rest).map fun (ds, rest) => (numberIn 2 ds, rest)
  | '0' :: 'o' :: rest =>
    (readDigits (isDigitBelow 8) rest).map fun (ds, rest) => (numberIn 8 ds, rest)
  | _ => none

def readSign : Text → Bool × Text
  | '-' :: rest => (true, rest)
  | '+' :: rest => (false, rest)
  | text => (false, text)

def readWhole : Reader Text
  | '0' :: rest => some (['0'], rest)
  | text => readDigits Char.isDigit text

def readFraction : Text → Text × Text
  | '.' :: rest =>
    match readDigits Char.isDigit rest with
    | some found => found
    | none => ([], '.' :: rest)
  | text => ([], text)

def readExponent (text : Text) : Option (Int × Text) :=
  match text with
  | c :: rest =>
    if c = 'e' ∨ c = 'E' then
      let (negative, rest) := readSign rest
      (readDigits Char.isDigit rest).map fun (digits, rest) =>
        (if negative then -(numberIn 10 digits : Int) else numberIn 10 digits, rest)
    else none
  | [] => none

/-- The float nearest to `mantissa * 10 ^ exponent`. Beyond these bounds on the place of the first
digit the answer is infinity or zero whatever the digits are. -/
def nearestFloat (mantissa : Nat) (exponent : Int) : Float :=
  let size := (Text.decimal mantissa).length + exponent
  if mantissa = 0 ∨ size < -330 then 0.0
  else if size > 310 then 1.0 / 0.0
  else Float.ofScientific mantissa (exponent < 0) exponent.natAbs

def signed (negative : Bool) (x : Float) : Float := if negative then -x else x

def readDecimal (text : Text) : Option (Value × Text) :=
  let (negative, rest) := readSign text
  match readWhole rest with
  | none => none
  | some (whole, rest) =>
    let (fraction, rest) := readFraction rest
    match readExponent rest with
    | some (exponent, rest) =>
      let mantissa := numberIn 10 (whole ++ fraction)
      some (.float (signed negative (nearestFloat mantissa (exponent - fraction.length))), rest)
    | none =>
      if fraction.isEmpty then
        let n : Int := numberIn 10 whole
        some (.int (if negative then -n else n), rest)
      else
        let mantissa := numberIn 10 (whole ++ fraction)
        some (.float (signed negative (nearestFloat mantissa (-fraction.length))), rest)

def readSpecial (text : Text) : Option (Value × Text) :=
  let (negative, rest) := readSign text
  match rest with
  | 'i' :: 'n' :: 'f' :: rest => some (.float (signed negative (1.0 / 0.0)), rest)
  | 'n' :: 'a' :: 'n' :: rest => some (.float (0.0 / 0.0), rest)
  | _ => none

def readNumber (text : Text) : Option (Value × Text) :=
  match readBased text with
  | some (n, rest) => some (.int n, rest)
  | none =>
    match readDecimal text with
    | some found => some found
    | none => readSpecial text

/-!
TOML dates and times. Digits past the sixth of a part of a second are read and dropped.
-/

def readField (width least most : Nat) : Reader Nat := fun text =>
  let digits := text.take width
  if digits.length = width ∧ digits.all Char.isDigit then
    let n := numberIn 10 digits
    if least ≤ n ∧ n ≤ most then some (n, text.drop width) else none
  else none

def readChar (c : Char) : Text → Option Text
  | d :: rest => if d = c then some rest else none
  | [] => none

def readDate (text : Text) : Option (Date × Text) := do
  let (year, text) ← readField 4 0 9999 text
  let text ← readChar '-' text
  let (month, text) ← readField 2 1 12 text
  let text ← readChar '-' text
  let (day, text) ← readField 2 1 31 text
  some (⟨year, month, day⟩, text)

def microsOf (digits : Text) : Nat :=
  numberIn 10 ((digits ++ List.replicate 6 '0').take 6)

def readMicros : Text → Nat × Text
  | '.' :: rest =>
    let digits := rest.takeWhile Char.isDigit
    if digits.isEmpty then (0, '.' :: rest) else (microsOf digits, rest.dropWhile Char.isDigit)
  | text => (0, text)

def readTime (text : Text) : Option (TimeOfDay × Text) := do
  let (hour, text) ← readField 2 0 23 text
  let text ← readChar ':' text
  let (minute, text) ← readField 2 0 59 text
  let text ← readChar ':' text
  let (second, text) ← readField 2 0 59 text
  let (micro, text) := readMicros text
  some (⟨hour, minute, second, micro⟩, text)

def readClockOffset (text : Text) : Option (Nat × Text) := do
  let (hours, text) ← readField 2 0 23 text
  let text ← readChar ':' text
  let (minutes, text) ← readField 2 0 59 text
  some (hours * 60 + minutes, text)

def readOffset (text : Text) : Option Int × Text :=
  match text with
  | 'Z' :: rest | 'z' :: rest => (some 0, rest)
  | '+' :: rest =>
    match readClockOffset rest with
    | some (minutes, rest) => (some minutes, rest)
    | none => (none, text)
  | '-' :: rest =>
    match readClockOffset rest with
    | some (minutes, rest) => (some (-minutes), rest)
    | none => (none, text)
  | _ => (none, text)

def readTimeOfDate (text : Text) : Option (TimeOfDay × Text) :=
  match text with
  | 'T' :: rest | 't' :: rest | ' ' :: rest => readTime rest
  | _ => none

/-- What stands ahead is no date or time, is one, or has the shape of a date that the calendar
does not have. -/
inductive Dated
  | other
  | found (moment : Moment) (rest : Text)
  | noSuchDay

def readMoment (text : Text) : Dated :=
  match readDate text with
  | some (date, rest) =>
    if !date.isReal then .noSuchDay
    else
      match readTimeOfDate rest with
      | none => .found (.date date) rest
      | some (time, rest) =>
        let (offset, rest) := readOffset rest
        .found (.dateTime date time offset) rest
  | none =>
    match readTime text with
    | some (time, rest) => .found (.time time) rest
    | none => .other

end MarkdownReview.Toml
