import MarkdownReview.Table
import MarkdownReview.Text.Basic
/-!
What an analysis needs to know of the settings. Lengths may be zero or negative; a cut at a
negative length leaves out that many characters at the end, and no length is no limit.
-/

namespace MarkdownReview

structure Settings where
  hintLength : Option Int := some 30
  useLength : Option Int := some 30
  quoteLength : Option Int := some 40
  glyphRatio : Float := 0.6
  lookahead : Float := 100.0
  leastScore : Int := 2
  unicodeAnchors : Bool := false

/-!
Dates and times of day as a settings file may hold them, and the text they are shown as.
-/

structure Date where
  year : Nat
  month : Nat
  day : Nat
deriving DecidableEq, Repr

structure TimeOfDay where
  hour : Nat
  minute : Nat
  second : Nat
  micro : Nat
deriving DecidableEq, Repr

inductive Moment
  | date (date : Date)
  | time (time : TimeOfDay)
  /-- The offset from universal time is in minutes, where there is one. -/
  | dateTime (date : Date) (time : TimeOfDay) (offset : Option Int)
deriving DecidableEq, Repr

def padded (width n : Nat) : Text :=
  let digits := Text.decimal n
  List.replicate (width - digits.length) '0' ++ digits

def isLeapYear (year : Nat) : Bool :=
  year % 4 == 0 && (year % 100 != 0 || year % 400 == 0)

def daysInMonth (year : Nat) : Nat → Nat
  | 2 => if isLeapYear year then 29 else 28
  | 4 | 6 | 9 | 11 => 30
  | _ => 31

def Date.isReal (date : Date) : Bool :=
  1 ≤ date.year && 1 ≤ date.month && date.month ≤ 12 &&
    1 ≤ date.day && date.day ≤ daysInMonth date.year date.month

def Date.text (date : Date) : Text :=
  padded 4 date.year ++ '-' :: padded 2 date.month ++ '-' :: padded 2 date.day

def TimeOfDay.text (time : TimeOfDay) : Text :=
  padded 2 time.hour ++ ':' :: padded 2 time.minute ++ ':' :: padded 2 time.second ++
    if time.micro = 0 then [] else '.' :: padded 6 time.micro

def offsetText (offset : Int) : Text :=
  let minutes := offset.natAbs
  (if offset < 0 then '-' else '+') :: padded 2 (minutes / 60) ++ ':' :: padded 2 (minutes % 60)

def Moment.text : Moment → Text
  | date day => day.text
  | time clock => clock.text
  | dateTime day clock offset =>
    day.text ++ 'T' :: clock.text ++ (offset.map offsetText).getD []

/-!
Values that a setting may be given, of whatever kind, before anyone has checked them.
-/

inductive Value
  /-- Stands for a value that is left out. -/
  | null
  | bool (value : Bool)
  | int (value : Int)
  | float (value : Float)
  | text (value : Text)
  | moment (value : Moment)
  | array (items : List Value)
  | table (entries : List (Text × Value))

namespace Value

def isNull : Value → Bool
  | null => true
  | _ => false

def isInt : Value → Bool
  | int _ => true
  | _ => false

def isBool : Value → Bool
  | bool _ => true
  | _ => false

def isNumber : Value → Bool
  | int _ | float _ => true
  | _ => false

/-- A number that is not above zero; neither an ordinary number nor this holds of a float that
is no number. -/
def notAboveZero : Value → Bool
  | int n => n ≤ 0
  | float x => decide (x ≤ 0)
  | _ => false

def belowZero : Value → Bool
  | int n => n < 0
  | float x => decide (x < 0)
  | _ => false

/-- Whole numbers, and switches as zero and one. -/
def int? : Value → Option Int
  | int n => some n
  | bool b => some (if b then 1 else 0)
  | _ => none

/-- A whole number beyond the range of floats counts as infinite here. That is a limit of this
reading: arithmetic that refuses to turn such a number into a float has no result at all. -/
def float? : Value → Option Float
  | float x => some x
  | value => value.int?.map Float.ofInt

/-- The greatest whole number that is not above a finite one. The bits of a float are those of its
sign, of a biased exponent and of a fraction that a leading one precedes, save in the least range. -/
def floor? (x : Float) : Option Int :=
  if x.isNaN || x.isInf then none
  else
    let bits := x.toBits.toNat
    let exponent := (bits >>> 52) % 0x800
    let fraction := bits % 0x10000000000000
    let mantissa := if exponent = 0 then fraction else 0x10000000000000 + fraction
    let power : Int := (max exponent 1 : Nat) - 1075
    let signed (n : Nat) : Int := if bits < 0x8000000000000000 then n else -n
    some (if 0 ≤ power then signed (mantissa <<< power.toNat)
      else signed mantissa >>> (-power).toNat)

/-- A length of text. A number that is not whole is as good as the whole one below it, since
lengths are whole, and infinity or nothing is no limit. -/
def length? : Value → Option (Option Int)
  | null => some none
  | float x => if x.isInf && x > 0 then some none else (floor? x).map some
  | value => value.int?.map some

def truth : Value → Bool
  | null => false
  | bool b => b
  | int n => n != 0
  | float x => x != 0
  | text t => !t.isEmpty
  | moment _ => true
  | array items => !items.isEmpty
  | table entries => !entries.isEmpty

def at? : List Text → Value → Option Value
  | [], value => some value
  | key :: path, table entries =>
    match Table.get? entries key with
    | some value => at? path value
    | none => none
  | _ :: _, _ => none

end Value
end MarkdownReview
