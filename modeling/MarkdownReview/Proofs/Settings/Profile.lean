import MarkdownReview.Settings.Profile
/-!
Profiles made from tables. A table whose keys are all names of settings is laid over the profile it
changes; any other table is refused, wherever in it the unknown key stands.
-/

namespace MarkdownReview

namespace Value

inductive LeadsTo : Value → List Text → Value → Prop
  | here (value : Value) : LeadsTo value [] value
  | within {entries : Table Text Value} {key : Text} {inner found : Value} {path : List Text}
      (stands : entries.get? key = some inner) (leads : LeadsTo inner path found) :
      LeadsTo (.table entries) (key :: path) found

theorem at?_eq_some_iff {value found : Value} {path : List Text} :
    value.at? path = some found ↔ LeadsTo value path found := by
  induction path generalizing value with
  | nil =>
    constructor
    · intro same
      rw [at?] at same
      cases same
      exact .here _
    · intro leads
      cases leads
      rfl
  | cons key path ih =>
    constructor
    · intro leads
      cases value with
      | table entries =>
        rw [at?] at leads
        cases stands : Table.get? entries key with
        | none =>
          rw [stands] at leads
          cases leads
        | some inner =>
          rw [stands] at leads
          exact .within stands (ih.mp leads)
      | _ => cases leads
    · rintro (_ | ⟨stands, leads⟩)
      rw [at?, stands]
      exact ih.mpr leads

end Value

namespace Setting

def IsKnown (key : Text) : Prop := ∃ setting : Setting, setting.key.toList = key

theorem key_injective {setting other : Setting} (same : setting.key = other.key) :
    setting = other := by
  cases setting <;> cases other <;> first | rfl | exact absurd same (by decide)

theorem ofKey?_eq_some_iff {key : Text} {setting : Setting} :
    ofKey? key = some setting ↔ setting.key.toList = key := by
  constructor
  · intro found
    have same := List.find?_some (p := fun setting : Setting => setting.key.toList == key) found
    exact eq_of_beq same
  · rintro rfl
    cases setting <;> rfl

end Setting

namespace Profile

/-- A profile with the values of a table in place of its own. The last one under a key counts. -/
def overlaid (table : Table Text Value) (profile : Profile) : Profile :=
  fun setting => (Table.get? table.reverse setting.key.toList).getD (profile setting)

theorem overlaid_set (profile : Profile) (setting : Setting) (value : Value)
    (rest : Table Text Value) :
    overlaid rest (profile.set setting value) =
      overlaid ((setting.key.toList, value) :: rest) profile := by
  funext other
  rw [overlaid, overlaid, List.reverse_cons, Table.get?_append]
  cases Table.get? rest.reverse other.key.toList with
  | some later => rfl
  | none =>
    rw [set, Option.none_or, Table.get?]
    by_cases same : other = setting
    · rw [if_pos same, same, if_pos (beq_self_eq_true _)]
      rfl
    · have different : ¬(other.key.toList == setting.key.toList) = true := by
        intro equal
        exact same (Setting.key_injective (String.toList_injective (eq_of_beq equal)))
      rw [if_neg same, if_neg different]
      rfl

theorem update_of_known {table : Table Text Value} (known : ∀ key ∈ table.keys, Setting.IsKnown key)
    (profile : Profile) : profile.update table = .ok (overlaid table profile) := by
  induction table generalizing profile with
  | nil => rfl
  | cons entry rest ih =>
    obtain ⟨key, value⟩ := entry
    obtain ⟨setting, rfl⟩ := known key List.mem_cons_self
    have later := ih (fun other member => known other (List.mem_cons_of_mem _ member))
    rw [update, Setting.ofKey?_eq_some_iff.mpr rfl, ← overlaid_set]
    exact later (profile.set setting value)

theorem update_of_unknown {table : Table Text Value} {key : Text} (member : key ∈ table.keys)
    (unknown : ¬Setting.IsKnown key) (profile : Profile) :
    ∃ fault, profile.update table = .error fault := by
  induction table generalizing profile with
  | nil => cases member
  | cons entry rest ih =>
    obtain ⟨first, value⟩ := entry
    rw [update]
    cases found : Setting.ofKey? first with
    | none => exact ⟨_, rfl⟩
    | some setting =>
      rcases List.mem_cons.mp member with rfl | later
      · exact absurd ⟨setting, Setting.ofKey?_eq_some_iff.mp found⟩ unknown
      · exact ih later _

end Profile
end MarkdownReview
