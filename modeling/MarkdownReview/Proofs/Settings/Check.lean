import MarkdownReview.Proofs.Comparison
import MarkdownReview.Settings.Profile
/-!
What a profile must be to pass its check. A complaint names a setting, and the value of that setting
is one that it does not admit. A float that is no number is not too low for anything.
-/

namespace MarkdownReview

namespace Setting

/-- The values that the check lets a setting have. -/
def Admits : Setting → Value → Prop
  | .hintLength, value | .useLength, value | .quoteLength, value | .leastScore, value =>
    ∃ n, value = .int n ∧ 1 ≤ n
  | .glyphRatio, value =>
    (∃ n, value = .int n ∧ 0 < n) ∨ ∃ x, value = .float x ∧ (0 < x ∨ x.isNaN = true)
  | .lookahead, value =>
    (∃ n, value = .int n ∧ 0 ≤ n) ∨ ∃ x, value = .float x ∧ (0 ≤ x ∨ x.isNaN = true)
  | .unicodeAnchors, value => ∃ b, value = .bool b

variable {value : Value}

theorem admits_whole_iff {setting : Setting} (whole : setting ∈ Profile.wholeSettings) :
    setting.Admits value ↔ value.isInt = true ∧ value.notAboveZero = false := by
  have same : setting.Admits value ↔ ∃ n, value = .int n ∧ 1 ≤ n := by
    simp only [Profile.wholeSettings, List.mem_cons, List.not_mem_nil, or_false] at whole
    rcases whole with rfl | rfl | rfl | rfl
    all_goals exact Iff.rfl
  rw [same]
  cases value with
  | int n => simp [Value.isInt, Value.notAboveZero, Int.lt_iff_add_one_le]
  | _ => simp [Value.isInt]

theorem admits_glyphRatio_iff :
    glyphRatio.Admits value ↔ value.isNumber = true ∧ value.notAboveZero = false := by
  rw [Admits]
  cases value with
  | int n => simp [Value.isNumber, Value.notAboveZero]
  | float x =>
    rw [Value.notAboveZero, decide_eq_false_iff_not, Comparison.not_le_zero_iff]
    simp only [reduceCtorEq, false_and, exists_false, false_or, Value.float.injEq,
      exists_eq_left', Value.isNumber, true_and]
  | _ => simp [Value.isNumber]

theorem admits_lookahead_iff :
    lookahead.Admits value ↔ value.isNumber = true ∧ value.belowZero = false := by
  rw [Admits]
  cases value with
  | int n => simp [Value.isNumber, Value.belowZero]
  | float x =>
    rw [Value.belowZero, decide_eq_false_iff_not, Comparison.not_lt_zero_iff]
    simp only [reduceCtorEq, false_and, exists_false, false_or, Value.float.injEq,
      exists_eq_left', Value.isNumber, true_and]
  | _ => simp [Value.isNumber]

theorem admits_unicodeAnchors_iff : unicodeAnchors.Admits value ↔ value.isBool = true := by
  rw [Admits]
  cases value with
  | bool b => simp [Value.isBool]
  | _ => simp [Value.isBool]

end Setting

def ProfileFault.setting? : ProfileFault → Option Setting
  | .badTable _ _ => none
  | .notInteger setting | .notPositiveInteger setting | .notNumber setting => some setting
  | .ratioNotPositive => some .glyphRatio
  | .lookaheadNegative => some .lookahead
  | .notSwitch => some .unicodeAnchors

theorem ProfileFault.message_of_setting {fault : ProfileFault} {setting : Setting}
    (named : fault.setting? = some setting) :
    ∃ said, fault.message.toList = ("`" ++ setting.key ++ "`").toList ++ said := by
  cases fault with
  | badTable file keys => cases named
  | notInteger other | notPositiveInteger other | notNumber other =>
    cases named
    simp [message, ToString.toString]
  | ratioNotPositive | lookaheadNegative | notSwitch =>
    cases named
    simp [message, ToString.toString, Setting.key]

namespace Profile

/-- What the check of a profile comes to. -/
inductive Verdict (profile : Profile) : Option ProfileFault → Prop
  | passed (admitted : ∀ setting : Setting, setting.Admits (profile setting)) :
    Verdict profile none
  | blamed {fault : ProfileFault} {setting : Setting} (named : fault.setting? = some setting)
      (unfit : ¬setting.Admits (profile setting)) : Verdict profile (some fault)

theorem isNumber_of_admits {setting : Setting} {value : Value} (number : setting ∈ numberSettings)
    (admitted : setting.Admits value) : value.isNumber = true := by
  simp only [numberSettings, List.mem_cons, List.not_mem_nil, or_false] at number
  rcases number with rfl | rfl
  · exact (Setting.admits_glyphRatio_iff.mp admitted).1
  · exact (Setting.admits_lookahead_iff.mp admitted).1

theorem admits_of_tests {profile : Profile}
    (whole : ∀ setting ∈ wholeSettings,
      (profile setting).isInt = true ∧ (profile setting).notAboveZero = false)
    (number : ∀ setting ∈ numberSettings, (profile setting).isNumber = true)
    (ratio : (profile .glyphRatio).notAboveZero = false)
    (ahead : (profile .lookahead).belowZero = false)
    (switch : (profile .unicodeAnchors).isBool = true) (setting : Setting) :
    setting.Admits (profile setting) := by
  cases setting with
  | glyphRatio => exact Setting.admits_glyphRatio_iff.mpr ⟨number _ (by decide), ratio⟩
  | lookahead => exact Setting.admits_lookahead_iff.mpr ⟨number _ (by decide), ahead⟩
  | unicodeAnchors => exact Setting.admits_unicodeAnchors_iff.mpr switch
  | _ => exact (Setting.admits_whole_iff (by decide)).mpr (whole _ (by decide))

variable {profile : Profile}

theorem blamed_of_find? {settings : List Setting} {test : Setting → Bool} {setting : Setting}
    {fault : ProfileFault} (found : settings.find? test = some setting)
    (named : fault.setting? = some setting)
    (passes : setting.Admits (profile setting) → test setting = false) :
    Verdict profile (some fault) := by
  apply Verdict.blamed named
  intro admitted
  have met := List.find?_some found
  rw [passes admitted] at met
  cases met

theorem verdict_fault? (profile : Profile) : Verdict profile profile.fault? := by
  unfold fault?
  split
  next setting found =>
    have member := List.mem_of_find?_eq_some found
    exact blamed_of_find? found rfl fun admitted => by
      rw [((Setting.admits_whole_iff member).mp admitted).1, Bool.not_true]
  next integers =>
  split
  next setting found =>
    have member := List.mem_of_find?_eq_some found
    exact blamed_of_find? found rfl fun admitted =>
      ((Setting.admits_whole_iff member).mp admitted).2
  next positive =>
  split
  next setting found =>
    have member := List.mem_of_find?_eq_some found
    exact blamed_of_find? found rfl fun admitted => by
      rw [isNumber_of_admits member admitted, Bool.not_true]
  next numbers =>
  split
  next low =>
    apply Verdict.blamed rfl
    rw [Setting.admits_glyphRatio_iff, low]
    exact fun admitted => Bool.noConfusion admitted.2
  next ratio =>
  split
  next low =>
    apply Verdict.blamed rfl
    rw [Setting.admits_lookahead_iff, low]
    exact fun admitted => Bool.noConfusion admitted.2
  next ahead =>
  split
  next other =>
    apply Verdict.blamed rfl
    rw [Setting.admits_unicodeAnchors_iff]
    exact fun admitted => absurd other (by simp [admitted])
  next switch =>
    apply Verdict.passed
    rw [List.find?_eq_none] at integers positive numbers
    apply admits_of_tests
    · intro setting whole
      exact ⟨by simpa using integers setting whole, by simpa using positive setting whole⟩
    · intro setting number
      simpa using numbers setting number
    · simpa using ratio
    · simpa using ahead
    · simpa using switch

theorem check_eq_ok (passed : profile.fault? = none) : profile.check = .ok profile := by
  rw [check, passed]

theorem exists_unfit_of_check {fault : ProfileFault} (refused : profile.check = .error fault) :
    ∃ setting, fault.setting? = some setting ∧ ¬setting.Admits (profile setting) := by
  have verdict := verdict_fault? profile
  unfold check at refused
  generalize profile.fault? = outcome at verdict refused
  cases verdict with
  | passed admitted => cases refused
  | blamed named unfit =>
    cases refused
    exact ⟨_, named, unfit⟩

/-- A profile passes its check as it is, or there is a complaint. It passes exactly if every setting
admits its value. -/
theorem check_iff_admits (profile : Profile) :
    (profile.check = .ok profile ↔ ∀ setting : Setting, setting.Admits (profile setting)) ∧
      ((∃ fault, profile.check = .error fault) ↔
        ∃ setting : Setting, ¬setting.Admits (profile setting)) := by
  have verdict := verdict_fault? profile
  unfold check
  generalize profile.fault? = outcome at verdict ⊢
  cases verdict with
  | passed admitted =>
    constructor
    · exact iff_of_true rfl admitted
    · apply iff_of_false
      · intro refused
        obtain ⟨fault, same⟩ := refused
        cases same
      · intro bad
        obtain ⟨setting, unfit⟩ := bad
        exact unfit (admitted setting)
  | @blamed fault setting named unfit =>
    constructor
    · apply iff_of_false
      · intro passed
        cases passed
      · intro admitted
        exact unfit (admitted setting)
    · exact iff_of_true ⟨fault, rfl⟩ ⟨setting, unfit⟩

/-- A ratio that is no number passes though it is not above zero, and so does a lookahead that is no
number though it is neither zero nor above. -/
theorem check_undefined_number :
    let undefined : Float := 0.0 / 0.0
    let unsized := standard.set .glyphRatio (.float undefined)
    let unled := standard.set .lookahead (.float undefined)
    (unsized.check = .ok unsized ∧ ¬0 < undefined) ∧ unled.check = .ok unled ∧ ¬0 ≤ undefined := by
  intro undefined unsized unled
  exact ⟨⟨check_eq_ok (by decide), by decide⟩, check_eq_ok (by decide), by decide⟩

-- Every standard value is admitted.
example : standard.check = .ok standard := check_eq_ok (by decide)

end Profile
end MarkdownReview
