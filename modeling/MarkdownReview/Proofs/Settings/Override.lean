import Mathlib.Tactic.ByContra
import MarkdownReview.Proofs.Settings.Profile
/-!
How overrides act on profiles. An override that says nothing changes nothing, whatever its name, and
the last one that says something for a setting counts. So overriding twice is overriding once with
what the later overrides say put into the earlier ones.
-/

namespace MarkdownReview

theorem Value.isNull_eq_true_iff {value : Value} : value.isNull = true ↔ value = .null := by
  cases value with
  | null => exact iff_of_true rfl rfl
  | _ => exact iff_of_false Bool.false_ne_true Value.noConfusion

namespace Profile

variable {profile : Profile} {overrides first second : Table Text Value} {name : Text}

def said? (overrides : Table Text Value) (name : Text) : Option Value :=
  (overrides.get? name).filter fun value => !value.isNull

/-- What later overrides say, put into earlier ones. -/
def joined (first second : Table Text Value) : Table Text Value := first.updated (given second)

def IsRefused (overrides : Table Text Value) : Prop :=
  overrides.has ownName = true ∨
    ∃ name, (said? overrides name).isSome = true ∧ ¬Setting.IsKnown name

def revised (overrides : Table Text Value) (profile : Profile) : Profile :=
  fun setting => (said? overrides setting.key.toList).getD (profile setting)

theorem said?_of_get? {value : Value} (found : overrides.get? name = some value)
    (something : value ≠ .null) : said? overrides name = some value := by
  have notNull : (!value.isNull) = true := by
    rw [Bool.not_eq_true', ← Bool.not_eq_true, Value.isNull_eq_true_iff]
    exact something
  rw [said?, found, Option.filter_some, if_pos notNull]

theorem get?_given (distinct : overrides.keys.Nodup) (name : Text) :
    Table.get? (given overrides) name = said? overrides name :=
  Table.get?_filter distinct _

theorem get?_reverse_given (distinct : overrides.keys.Nodup) (name : Text) :
    Table.get? (given overrides).reverse name = said? overrides name := by
  have distinctGiven : (Table.keys (given overrides)).Nodup := Table.nodup_keys_filter distinct _
  rw [Table.get?_reverse distinctGiven, get?_given distinct]

theorem mem_keys_given_iff (distinct : overrides.keys.Nodup) :
    name ∈ Table.keys (given overrides) ↔ (said? overrides name).isSome = true := by
  rw [Table.mem_keys_iff, get?_given distinct]

theorem override_of_isRefused (distinct : overrides.keys.Nodup) (refused : IsRefused overrides)
    (profile : Profile) : ∃ unknown, profile.override overrides = .error unknown := by
  unfold override
  split
  next taken => exact ⟨_, rfl⟩
  next clear =>
    rcases refused with taken | ⟨name, said, unknown⟩
    · exact absurd taken clear
    · exact update_of_unknown ((mem_keys_given_iff distinct).mpr said) unknown profile

theorem override_of_not_isRefused (distinct : overrides.keys.Nodup)
    (accepted : ¬IsRefused overrides) (profile : Profile) :
    profile.override overrides = .ok (revised overrides profile) := by
  obtain ⟨clear, unknown⟩ := not_or.mp accepted
  have known : ∀ key ∈ Table.keys (given overrides), Setting.IsKnown key := by
    intro key member
    by_contra other
    exact unknown ⟨key, (mem_keys_given_iff distinct).mp member, other⟩
  have laid : overlaid (given overrides) profile = revised overrides profile := by
    funext setting
    rw [overlaid, revised, get?_reverse_given distinct]
  rw [override, if_neg clear, update_of_known known, laid]

theorem exists_override_eq_error_iff (distinct : overrides.keys.Nodup) :
    (∃ unknown, profile.override overrides = .error unknown) ↔ IsRefused overrides := by
  constructor
  · rintro ⟨unknown, refused⟩
    by_contra accepted
    rw [override_of_not_isRefused distinct accepted] at refused
    cases refused
  · exact fun refused => override_of_isRefused distinct refused profile

theorem get?_joined (distinct : second.keys.Nodup) (name : Text) :
    (joined first second).get? name = (said? second name).or (first.get? name) := by
  rw [joined, Table.get?_updated, get?_reverse_given distinct]

theorem said?_joined (distinct : second.keys.Nodup) (name : Text) :
    said? (joined first second) name = (said? second name).or (said? first name) := by
  rw [said?, get?_joined distinct]
  cases later : said? second name with
  | none => rfl
  | some value =>
    have something := (Option.filter_eq_some_iff.mp later).2
    rw [Option.some_or, Option.some_or, Option.filter_some, if_pos something]

theorem nodup_keys_joined (distinct : first.keys.Nodup) (second : Table Text Value) :
    (joined first second).keys.Nodup :=
  Table.nodup_keys_updated distinct _

/-- A null under the name of the profile is refused, but it is not put into other overrides. -/
theorem isRefused_joined_iff (distinct : second.keys.Nodup)
    (something : second.get? ownName ≠ some .null) :
    IsRefused (joined first second) ↔ IsRefused first ∨ IsRefused second := by
  have own : (joined first second).has ownName = true ↔
      first.has ownName = true ∨ second.has ownName = true := by
    rw [Table.has, Table.has, Table.has, get?_joined distinct]
    cases found : second.get? ownName with
    | none => simp [said?, found]
    | some value =>
      rw [said?_of_get? found (fun null => something (null ▸ found))]
      simp
  have unknown : (∃ name, (said? (joined first second) name).isSome = true ∧
        ¬Setting.IsKnown name) ↔
      (∃ name, (said? first name).isSome = true ∧ ¬Setting.IsKnown name) ∨
        ∃ name, (said? second name).isSome = true ∧ ¬Setting.IsKnown name := by
    rw [← exists_or]
    apply exists_congr
    intro name
    rw [said?_joined distinct, Option.isSome_or, Bool.or_eq_true, or_comm, or_and_right]
  rw [IsRefused, own, unknown]
  exact or_or_or_comm

theorem revised_joined (distinct : second.keys.Nodup) (profile : Profile) :
    revised (joined first second) profile = revised second (revised first profile) := by
  funext setting
  rw [revised, revised, revised, said?_joined distinct]
  cases said? second setting.key.toList with
  | none => rfl
  | some value => rfl

theorem revised_revised (overrides : Table Text Value) (profile : Profile) :
    revised overrides (revised overrides profile) = revised overrides profile := by
  funext setting
  rw [revised, revised]
  cases said? overrides setting.key.toList with
  | none => rfl
  | some value => rfl

theorem said?_of_null (null : ∀ entry ∈ overrides, entry.2 = .null) (name : Text) :
    said? overrides name = none := by
  by_contra said
  obtain ⟨value, found⟩ := Option.ne_none_iff_exists'.mp said
  obtain ⟨stands, something⟩ := Option.filter_eq_some_iff.mp found
  have same : value = .null := null _ (Table.mem_of_get? stands)
  rw [same] at something
  cases something

theorem override_of_null (distinct : overrides.keys.Nodup)
    (null : ∀ entry ∈ overrides, entry.2 = .null) (clear : overrides.has ownName = false)
    (profile : Profile) : profile.override overrides = .ok profile := by
  have accepted : ¬IsRefused overrides := by
    rintro (taken | ⟨name, said, -⟩)
    · rw [clear] at taken
      cases taken
    · rw [said?_of_null null] at said
      cases said
  have same : revised overrides profile = profile := by
    funext setting
    rw [revised, said?_of_null null, Option.getD_none]
  rw [override_of_not_isRefused distinct accepted, same]

theorem override_override (distinct : first.keys.Nodup) (distinctNext : second.keys.Nodup)
    (something : second.get? ownName ≠ some .null) (profile : Profile) :
    ((profile.override first).bind fun changed => changed.override second).toOption =
      (profile.override (joined first second)).toOption := by
  have distinctBoth := nodup_keys_joined distinct second
  by_cases refused : IsRefused (joined first second)
  · obtain ⟨both, refusedBoth⟩ := override_of_isRefused distinctBoth refused profile
    rw [refusedBoth]
    by_cases early : IsRefused first
    · obtain ⟨unknown, refusedFirst⟩ := override_of_isRefused distinct early profile
      rw [refusedFirst]
      rfl
    · have late : IsRefused second :=
        ((isRefused_joined_iff distinctNext something).mp refused).resolve_left early
      obtain ⟨unknown, refusedNext⟩ :=
        override_of_isRefused distinctNext late (revised first profile)
      rw [override_of_not_isRefused distinct early, Except.bind, refusedNext]
      rfl
  · obtain ⟨early, late⟩ :=
      not_or.mp fun either => refused ((isRefused_joined_iff distinctNext something).mpr either)
    rw [override_of_not_isRefused distinctBoth refused,
      override_of_not_isRefused distinct early, Except.bind,
      override_of_not_isRefused distinctNext late, revised_joined distinctNext]

theorem override_again (distinct : overrides.keys.Nodup) (profile : Profile) :
    ((profile.override overrides).bind fun changed => changed.override overrides) =
      profile.override overrides := by
  by_cases refused : IsRefused overrides
  · obtain ⟨unknown, same⟩ := override_of_isRefused distinct refused profile
    rw [same]
    rfl
  · rw [override_of_not_isRefused distinct refused, Except.bind,
      override_of_not_isRefused distinct refused, revised_revised]

/-- Overrides are refused just if one of them takes the name of the profile or says something for a
name of no setting. Otherwise each setting gets what is said for it and keeps its value where
nothing is said. Overriding twice comes to the same as overriding once with what the later overrides
say put into the earlier ones, unless the later ones have the name of the profile with no value; and
the same overrides twice come to the same as once. -/
theorem override_acts (profile : Profile) {first second : Table Text Value}
    (distinct : first.keys.Nodup) (distinctNext : second.keys.Nodup) :
    ((∃ unknown, profile.override first = .error unknown) ↔ IsRefused first) ∧
      (¬IsRefused first → ∃ result, profile.override first = .ok result ∧
        ∀ setting : Setting,
          result setting = (said? first setting.key.toList).getD (profile setting)) ∧
      ((∀ entry ∈ first, entry.2 = .null) → first.has ownName = false →
        profile.override first = .ok profile) ∧
      (second.get? ownName ≠ some .null →
        ((profile.override first).bind fun changed => changed.override second).toOption =
          (profile.override (joined first second)).toOption) ∧
      ((profile.override first).bind fun changed => changed.override first) =
        profile.override first := by
  refine ⟨exists_override_eq_error_iff distinct, ?_, ?_, ?_, override_again distinct profile⟩
  · intro accepted
    exact ⟨_, override_of_not_isRefused distinct accepted profile, fun setting => rfl⟩
  · intro null clear
    exact override_of_null distinct null clear profile
  · intro something
    exact override_override distinct distinctNext something profile

/-- Zero and a switch that is off are said like any other value, and a null under an unknown name is
not. -/
theorem override_acts_off :
    let silent : Table Text Value := [("sheet".toList, .null)]
    let first : Table Text Value := [("min_code_score".toList, .int 0), ("sheet".toList, .null)]
    let second : Table Text Value :=
      [("min_code_score".toList, .null), ("preserve_unicode".toList, .bool false)]
    let once := standard.override (joined first second)
    (silent.keys.Nodup ∧ first.keys.Nodup ∧ second.keys.Nodup) ∧
      (∀ entry ∈ silent, entry.2 = .null) ∧ silent.has ownName = false ∧
      standard.override silent = .ok standard ∧
      ¬IsRefused first ∧
      (∃ result, standard.override first = .ok result ∧ result .leastScore = .int 0) ∧
      second.get? ownName ≠ some .null ∧
      ((standard.override first).bind fun changed => changed.override second).toOption =
        once.toOption ∧
      once.toOption.map (fun result => result .unicodeAnchors) = some (.bool false) := by
  intro silent first second once
  have distinctSilent : silent.keys.Nodup := by decide
  have distinct : first.keys.Nodup := by decide
  have distinctNext : second.keys.Nodup := by decide
  have null : ∀ entry ∈ silent, entry.2 = .null := by
    intro entry member
    rw [List.mem_singleton.mp member]
  have clear : silent.has ownName = false := by decide
  have something : second.get? ownName ≠ some .null := (Option.some_ne_none _).symm
  obtain ⟨-, -, unchanged, -, -⟩ := override_acts standard distinctSilent distinct
  obtain ⟨refused, changed, -, twice, -⟩ := override_acts standard distinct distinctNext
  have accepted : ¬IsRefused first := by
    intro isRefused
    obtain ⟨unknown, failed⟩ := refused.mpr isRefused
    cases failed
  obtain ⟨result, given, values⟩ := changed accepted
  exact ⟨⟨distinctSilent, distinct, distinctNext⟩, null, clear, unchanged null clear, accepted,
    ⟨result, given, values .leastScore⟩, something, twice something, rfl⟩

/-- A null under the name of the profile says nothing, and it is refused all the same. -/
theorem override_null_own_name :
    let overrides : Table Text Value := [(ownName, .null)]
    (∀ entry ∈ overrides, entry.2 = .null) ∧ standard.override overrides = .error ⟨ownName⟩ := by
  intro overrides
  refine ⟨?_, rfl⟩
  intro entry member
  rw [List.mem_singleton.mp member]

end Profile
end MarkdownReview
