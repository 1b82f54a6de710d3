import MarkdownReview.Text.Lowercase
/-!
Lower-casing a text that is in lower case changes nothing. No capital is lowered to another capital,
and the two capitals with a rule of their own, sigma and dotted I, do not come up again.
-/

namespace MarkdownReview.Text

namespace CaseRun

variable {run other : CaseRun} {runs : List CaseRun} {n : Nat}

def lowered (run : CaseRun) : CaseRun :=
  ⟨(run.first + run.shift).toNat, (run.last + run.shift).toNat, run.stride, 0⟩

def alternates (run other : CaseRun) : Bool :=
  (run.stride == 2 || run.first == run.last) && other.stride == 2 &&
    (run.first + other.first) % 2 == 1

/-- A search for a code point of the run finds it in none of the others. -/
def avoids (run : CaseRun) : List CaseRun → Bool
  | [] => true
  | other :: rest =>
    if other.last < run.first then run.avoids rest
    else run.last < other.first || (run.alternates other && run.avoids rest)

theorem has_iff :
    run.has n = true ↔ run.first ≤ n ∧ n ≤ run.last ∧ (n - run.first) % run.stride = 0 := by
  simp only [has, Bool.and_eq_true, decide_eq_true_eq, beq_iff_eq, and_assoc]

theorem has_lowered (start : 0 ≤ run.first + run.shift) (has : run.has n = true) :
    run.lowered.has (n + run.shift).toNat = true := by
  obtain ⟨least, most, step⟩ := has_iff.mp has
  have offset : (n + run.shift).toNat - (run.first + run.shift).toNat = n - run.first := by omega
  refine has_iff.mpr ⟨?_, ?_, ?_⟩
  · change (run.first + run.shift).toNat ≤ (n + run.shift).toNat
    omega
  · change (n + run.shift).toNat ≤ (run.last + run.shift).toNat
    omega
  · change ((n + run.shift).toNat - (run.first + run.shift).toNat) % run.stride = 0
    rw [offset, step]

theorem not_has_of_alternates (alternate : run.alternates other = true) (has : run.has n = true) :
    ¬other.has n = true := by
  simp only [alternates, Bool.and_eq_true, Bool.or_eq_true, beq_iff_eq] at alternate
  obtain ⟨⟨strided, stride⟩, odd⟩ := alternate
  obtain ⟨least, most, step⟩ := has_iff.mp has
  intro shared
  obtain ⟨leastOther, -, stepOther⟩ := has_iff.mp shared
  rw [stride] at stepOther
  rcases strided with two | single
  · rw [two] at step
    omega
  · omega

theorem shiftedBy_eq_self (avoid : run.avoids runs = true) (has : run.has n = true) :
    shiftedBy runs n = n := by
  induction runs with
  | nil => rfl
  | cons other rest ih =>
    rw [shiftedBy]
    split
    next => rfl
    next reached =>
      obtain ⟨least, most, -⟩ := has_iff.mp has
      rw [avoids] at avoid
      split at avoid
      next passed =>
        have apart : ¬other.has n = true := by
          intro shared
          obtain ⟨-, mostOther, -⟩ := has_iff.mp shared
          omega
        rw [if_neg apart, ih avoid]
      next =>
        rw [Bool.or_eq_true, decide_eq_true_eq, Bool.and_eq_true] at avoid
        rcases avoid with beyond | ⟨alternate, later⟩
        · omega
        · rw [if_neg (not_has_of_alternates alternate has), ih later]

end CaseRun

/-- The capitals of each run are lowered to characters, none of which is a dotted I or in a run. -/
theorem caseRuns_settle : ∀ run ∈ caseRuns, 0 ≤ run.first + run.shift ∧
    (run.lowered.last < 0xD800 ∨ 0xDFFF < run.lowered.first ∧ run.lowered.last < 0x110000) ∧
    (run.lowered.last < capitalDottedI.toNat ∨ capitalDottedI.toNat < run.lowered.first) ∧
    run.lowered.avoids caseRuns = true := by
  decide +kernel

theorem shiftedBy_eq_self_or (runs : List CaseRun) (n : Nat) :
    shiftedBy runs n = n ∨
      ∃ run ∈ runs, run.has n = true ∧ shiftedBy runs n = (n + run.shift).toNat := by
  induction runs with
  | nil => exact Or.inl rfl
  | cons run rest ih =>
    rw [shiftedBy]
    split
    next => exact Or.inl rfl
    next =>
      split
      next has => exact Or.inr ⟨run, List.mem_cons_self .., has, rfl⟩
      next =>
        refine ih.imp_right ?_
        intro found
        obtain ⟨other, member, has, shifted⟩ := found
        exact ⟨other, List.mem_cons_of_mem _ member, has, shifted⟩

/-- A character that lower-casing leaves alone wherever it stands. -/
structure IsLowered (c : Char) : Prop where
  fixed : lowerChar c = c
  notDotted : c ≠ capitalDottedI

theorem IsLowered.ne_capitalSigma {c : Char} (lowered : IsLowered c) : c ≠ capitalSigma := by
  intro sigma
  have fixed := lowered.fixed
  rw [sigma] at fixed
  exact absurd fixed (by decide +kernel)

theorem isLowered_lowerChar {c : Char} (notDotted : c ≠ capitalDottedI) :
    IsLowered (lowerChar c) := by
  rcases shiftedBy_eq_self_or caseRuns c.toNat with same | ⟨run, member, has, shifted⟩
  · have fixed : lowerChar c = c := by rw [lowerChar, same, Char.ofNat_toNat]
    rw [fixed]
    exact ⟨fixed, notDotted⟩
  · obtain ⟨start, range, undotted, avoid⟩ := caseRuns_settle run member
    have hasLowered := CaseRun.has_lowered start has
    obtain ⟨least, most, -⟩ := CaseRun.has_iff.mp hasLowered
    have valid : (c.toNat + run.shift).toNat.isValidChar := by
      unfold Nat.isValidChar
      omega
    have point : (lowerChar c).toNat = (c.toNat + run.shift).toNat := by
      rw [lowerChar, shifted, Char.ofNat, dif_pos valid]
      rfl
    refine ⟨?_, ?_⟩
    · rw [lowerChar, point, CaseRun.shiftedBy_eq_self avoid hasLowered, ← point, Char.ofNat_toNat]
    · intro dotted
      rw [dotted] at point
      omega

theorem isLowered_of_mem_lowerFrom {inWord : Bool} {text : Text} {c : Char}
    (member : c ∈ lowerFrom inWord text) : IsLowered c := by
  have small : IsLowered smallSigma := ⟨by decide +kernel, by decide⟩
  have final : IsLowered finalSigma := ⟨by decide +kernel, by decide⟩
  have letter : IsLowered 'i' := ⟨by decide +kernel, by decide⟩
  have dot : IsLowered combiningDot := ⟨by decide +kernel, by decide⟩
  induction text generalizing inWord with
  | nil => cases member
  | cons first rest ih =>
    rw [lowerFrom] at member
    split at member
    next =>
      rcases List.mem_cons.mp member with rfl | later
      · split
        next => exact final
        next => exact small
      · exact ih later
    next =>
      split at member
      next =>
        rcases List.mem_cons.mp member with rfl | member
        · exact letter
        · rcases List.mem_cons.mp member with rfl | later
          · exact dot
          · exact ih later
      next notDotted =>
        rcases List.mem_cons.mp member with rfl | later
        · exact isLowered_lowerChar notDotted
        · exact ih later

theorem lowerFrom_eq_self {text : Text} (lowered : ∀ c ∈ text, IsLowered c) (inWord : Bool) :
    lowerFrom inWord text = text := by
  induction text generalizing inWord with
  | nil => rfl
  | cons c rest ih =>
    have first := lowered c (List.mem_cons_self ..)
    have later := ih fun d member => lowered d (List.mem_cons_of_mem _ member)
    rw [lowerFrom, if_neg first.ne_capitalSigma, if_neg first.notDotted, first.fixed, later]

theorem isLowered_of_mem_lower {text : Text} {c : Char} (member : c ∈ lower text) : IsLowered c :=
  isLowered_of_mem_lowerFrom member

theorem lower_eq_self {text : Text} (lowered : ∀ c ∈ text, IsLowered c) : lower text = text :=
  lowerFrom_eq_self lowered false

theorem lower_lower (text : Text) : lower (lower text) = lower text :=
  lower_eq_self fun _ => isLowered_of_mem_lower

end MarkdownReview.Text
