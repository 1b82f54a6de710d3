import MarkdownReview.Files
import MarkdownReview.Settings.Basic
/-!
A profile gives each setting a value, checked or not. Profiles are made from tables of keys and
values, changed by overrides, checked, and read as the settings that analyses use.
-/

namespace MarkdownReview

inductive Setting
  | hintLength
  | useLength
  | quoteLength
  | glyphRatio
  | lookahead
  | leastScore
  | unicodeAnchors
deriving DecidableEq, Repr

namespace Setting

def all : List Setting :=
  [hintLength, useLength, quoteLength, glyphRatio, lookahead, leastScore, unicodeAnchors]

def key : Setting → String
  | hintLength => "hint_preview_length"
  | useLength => "match_preview_length"
  | quoteLength => "check_preview_length"
  | glyphRatio => "average_char_width_ratio"
  | lookahead => "scroll_lookahead"
  | leastScore => "min_code_score"
  | unicodeAnchors => "preserve_unicode"

def ofKey? (key : Text) : Option Setting := all.find? fun setting => setting.key.toList == key

end Setting

abbrev Profile := Setting → Value

structure UnknownSetting where
  name : Text
deriving DecidableEq, Repr

namespace Profile

def standard : Profile := fun setting =>
  match setting with
  | .hintLength | .useLength => .int 30
  | .quoteLength => .int 40
  | .glyphRatio => .float 0.6
  | .lookahead => .float 100.0
  | .leastScore => .int 2
  | .unicodeAnchors => .bool false

def set (profile : Profile) (setting : Setting) (value : Value) : Profile :=
  fun other => if other = setting then value else profile other

def update (profile : Profile) : Table Text Value → Except UnknownSetting Profile
  | [] => .ok profile
  | (key, value) :: rest =>
    match Setting.ofKey? key with
    | none => .error ⟨key⟩
    | some setting => update (profile.set setting value) rest

def ofTable (table : Table Text Value) : Except UnknownSetting Profile := standard.update table

def given (overrides : Table Text Value) : Table Text Value :=
  overrides.filter fun entry => !entry.2.isNull

/-- The name that the profile itself goes by among overrides. None of them may take it. -/
def ownName : Text := "config".toList

def override (profile : Profile) (overrides : Table Text Value) :
    Except UnknownSetting Profile :=
  if overrides.has ownName then .error ⟨ownName⟩ else profile.update (given overrides)

end Profile

inductive ProfileFault
  /-- What stands for a table of settings is no such table. -/
  | badTable (file : Path) (keys : List Text)
  | notInteger (setting : Setting)
  | notPositiveInteger (setting : Setting)
  | notNumber (setting : Setting)
  | ratioNotPositive
  | lookaheadNegative
  | notSwitch
deriving DecidableEq, Repr

namespace ProfileFault

def message : ProfileFault → String
  | badTable file keys =>
    let table := String.ofList (List.intercalate ['.'] keys)
    s!"Invalid `[{table}]` settings in {String.ofList file.text}"
  | notInteger setting => s!"`{setting.key}` must be an integer"
  | notPositiveInteger setting => s!"`{setting.key}` must be a positive integer"
  | notNumber setting => s!"`{setting.key}` must be a number"
  | ratioNotPositive => s!"`{Setting.glyphRatio.key}` must be a positive number"
  | lookaheadNegative => s!"`{Setting.lookahead.key}` must not be negative"
  | notSwitch => s!"`{Setting.unicodeAnchors.key}` must be a boolean"

end ProfileFault

namespace Profile

def ofValue (file : Path) (keys : List Text) : Value → Except ProfileFault Profile
  | .table entries =>
    match ofTable entries with
    | .ok profile => .ok profile
    | .error _ => .error (.badTable file keys)
  | _ => .error (.badTable file keys)

def wholeSettings : List Setting := [.hintLength, .useLength, .quoteLength, .leastScore]

def numberSettings : List Setting := [.glyphRatio, .lookahead]

/-- The first thing wrong with a profile: kinds of whole numbers first, then their signs, then
the other numbers, and the switch last. -/
def fault? (profile : Profile) : Option ProfileFault :=
  match wholeSettings.find? fun setting => !(profile setting).isInt with
  | some setting => some (.notInteger setting)
  | none =>
    match wholeSettings.find? fun setting => (profile setting).notAboveZero with
    | some setting => some (.notPositiveInteger setting)
    | none =>
      match numberSettings.find? fun setting => !(profile setting).isNumber with
      | some setting => some (.notNumber setting)
      | none =>
        if (profile .glyphRatio).notAboveZero then some .ratioNotPositive
        else if (profile .lookahead).belowZero then some .lookaheadNegative
        else if !(profile .unicodeAnchors).isBool then some .notSwitch
        else none

def check (profile : Profile) : Except ProfileFault Profile :=
  match profile.fault? with
  | some fault => .error fault
  | none => .ok profile

/-- The least whole score that reaches a number. No line has more than four features. -/
def leastReaching (number : Float) : Int :=
  ((List.range 5).find? fun score => decide (number ≤ Float.ofNat score)).getD 5

def scoreOf : Value → Option Int
  | .float x => some (leastReaching x)
  | value => value.int?

/-- The settings for an analysis. A value that cannot be read leaves the setting as it is. -/
def settings (profile : Profile) : Settings :=
  let usual : Settings := {}
  { hintLength := (profile .hintLength).length?.getD usual.hintLength
    useLength := (profile .useLength).length?.getD usual.useLength
    quoteLength := (profile .quoteLength).length?.getD usual.quoteLength
    glyphRatio := (profile .glyphRatio).float?.getD usual.glyphRatio
    lookahead := (profile .lookahead).float?.getD usual.lookahead
    leastScore := (scoreOf (profile .leastScore)).getD usual.leastScore
    unicodeAnchors := (profile .unicodeAnchors).truth }

end Profile
end MarkdownReview
