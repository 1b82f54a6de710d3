import Mathlib.Data.Nat.Find
import Mathlib.Order.Interval.Finset.Nat
import MarkdownReview.Heading.Contents
/-!
What the anchors of a pool are. The candidates of a slug differ, so one of them is always free, and
a plain search from the bare slug on finds the first. The pool skips candidates by its memo; every
one that it skips is taken, so it gives out the same anchors as the plain search.
-/

namespace MarkdownReview.Anchor

theorem decimal_injective : Function.Injective Text.decimal := by
  intro first second same
  have values := congrArg (fun digits => Nat.ofDigitChars 10 digits 0) same
  simpa only [Text.decimal, Nat.ofDigitChars_ten_toDigits] using values

def suffixed (slug : Text) (number : Nat) : Text := slug ++ Slug.hyphen :: Text.decimal number

theorem suffixed_injective (slug : Text) : Function.Injective (suffixed slug) := by
  intro first second same
  have suffixes := List.append_cancel_left same
  exact decimal_injective (List.tail_eq_of_cons_eq suffixes)

theorem candidate_injective (slug : Text) : Function.Injective (candidate slug) := by
  intro first second same
  cases first with
  | zero =>
    cases second with
    | zero => rfl
    | succ second => simp [candidate] at same
  | succ first =>
    cases second with
    | zero => simp [candidate] at same
    | succ second => exact suffixed_injective slug same

theorem exists_not_mem_among {text : Nat → Text} (injective : Function.Injective text)
    (taken : List Text) (start : Nat) :
    ∃ number, start ≤ number ∧ number ≤ start + taken.toFinset.card ∧ text number ∉ taken := by
  let tried := (Finset.Icc start (start + taken.toFinset.card)).image text
  have more : taken.toFinset.card < tried.card := by
    rw [Finset.card_image_of_injective _ injective, Nat.card_Icc]
    omega
  obtain ⟨anchor, member, free⟩ := Finset.exists_mem_notMem_of_card_lt_card more
  obtain ⟨number, inside, rfl⟩ := Finset.mem_image.mp member
  obtain ⟨above, below⟩ := Finset.mem_Icc.mp inside
  exact ⟨number, above, below, fun held => free (List.mem_toFinset.mpr held)⟩

theorem exists_free_among (taken : List Text) (slug : Text) (start : Nat) :
    ∃ number, start ≤ number ∧ number < start + (taken.length + 1) ∧
      candidate slug number ∉ taken := by
  obtain ⟨number, above, below, free⟩ :=
    exists_not_mem_among (candidate_injective slug) taken start
  have count := List.toFinset_card_le taken
  exact ⟨number, above, by omega, free⟩

theorem exists_free (taken : List Text) (slug : Text) : ∃ number, candidate slug number ∉ taken := by
  obtain ⟨number, -, -, free⟩ := exists_free_among taken slug 0
  exact ⟨number, free⟩

structure IsFirst (taken : List Text) (slug : Text) (start number : Nat) : Prop where
  start_le : start ≤ number
  free : candidate slug number ∉ taken
  before : ∀ n, start ≤ n → n < number → candidate slug n ∈ taken

theorem firstFree_isFirst {taken : List Text} {slug : Text} {tries start : Nat}
    (hasFree : ∃ n, start ≤ n ∧ n < start + tries ∧ candidate slug n ∉ taken) :
    IsFirst taken slug start (firstFree taken slug tries start) := by
  induction tries generalizing start with
  | zero =>
    obtain ⟨n, above, below, -⟩ := hasFree
    omega
  | succ tries ih =>
    obtain ⟨n, above, below, free⟩ := hasFree
    rw [firstFree]
    by_cases hit : candidate slug start ∈ taken
    · rw [if_pos (List.contains_iff_mem.mpr hit)]
      have different : n ≠ start := by
        intro same
        subst same
        exact free hit
      have later : IsFirst taken slug (start + 1) _ := ih ⟨n, by omega, by omega, free⟩
      refine ⟨Nat.le_of_succ_le later.start_le, later.free, ?_⟩
      intro m atLeast less
      by_cases same : m = start
      · rw [same]
        exact hit
      · exact later.before m (by omega) less
    · rw [if_neg (fun found => hit (List.contains_iff_mem.mp found))]
      exact ⟨Nat.le_refl start, hit, fun m atLeast less => absurd atLeast (by omega)⟩

/-- The first candidate of a slug, from the bare slug on, that is not taken. -/
def FirstFree (taken : List Text) (slug anchor : Text) : Prop :=
  ∃ number, anchor = candidate slug number ∧ anchor ∉ taken ∧
    ∀ n < number, candidate slug n ∈ taken

theorem FirstFree.congr {taken other : List Text} {slug anchor : Text}
    (same : ∀ text, text ∈ taken ↔ text ∈ other) (first : FirstFree taken slug anchor) :
    FirstFree other slug anchor := by
  obtain ⟨number, rfl, free, before⟩ := first
  exact ⟨number, rfl, fun held => free ((same _).mpr held), fun n less => (same _).mp (before n less)⟩

/-- Searches from the bare slug on, whatever was drawn before. -/
def probe (taken : List Text) (slug : Text) : Text :=
  candidate slug (Nat.find (exists_free taken slug))

theorem probe_firstFree (taken : List Text) (slug : Text) :
    FirstFree taken slug (probe taken slug) := by
  refine ⟨_, rfl, Nat.find_spec (exists_free taken slug), ?_⟩
  intro n less
  exact not_not.mp (Nat.find_min (exists_free taken slug) less)

def probeAll : (taken : List Text) → List Text → List Text
  | _, [] => []
  | taken, slug :: rest =>
    let anchor := probe taken slug
    anchor :: probeAll (anchor :: taken) rest

theorem length_probeAll (taken slugs : List Text) :
    (probeAll taken slugs).length = slugs.length := by
  induction slugs generalizing taken with
  | nil => rfl
  | cons slug rest ih => simp only [probeAll, List.length_cons, ih]

theorem probeAll_firstFree {taken slugs : List Text} {i : Nat} {slug anchor : Text}
    (hasSlug : slugs[i]? = some slug) (hasAnchor : (probeAll taken slugs)[i]? = some anchor) :
    FirstFree ((probeAll taken slugs).take i ++ taken) slug anchor := by
  induction slugs generalizing taken i with
  | nil => simp at hasSlug
  | cons first rest ih =>
    cases i with
    | zero =>
      simp only [probeAll, List.getElem?_cons_zero, Option.some.injEq] at hasSlug hasAnchor
      rw [← hasSlug, ← hasAnchor]
      exact probe_firstFree taken first
    | succ i =>
      simp only [probeAll, List.getElem?_cons_succ] at hasSlug hasAnchor
      refine (ih hasSlug hasAnchor).congr ?_
      intro text
      simp only [probeAll, List.take_succ_cons, List.mem_append, List.mem_cons]
      tauto

theorem probeAll_fresh (taken slugs : List Text) :
    (probeAll taken slugs).Nodup ∧ ∀ anchor ∈ probeAll taken slugs, anchor ∉ taken := by
  induction slugs generalizing taken with
  | nil => simp [probeAll]
  | cons slug rest ih =>
    obtain ⟨distinct, fresh⟩ := ih (probe taken slug :: taken)
    obtain ⟨-, -, free, -⟩ := probe_firstFree taken slug
    simp only [probeAll, List.nodup_cons, List.mem_cons, forall_eq_or_imp]
    refine ⟨⟨?_, distinct⟩, free, ?_⟩
    · intro again
      exact fresh _ again (List.mem_cons_self ..)
    · intro anchor member held
      exact fresh anchor member (List.mem_cons_of_mem _ held)

namespace Pool

/-- Every candidate that the memo skips is taken. -/
def MemoSound (pool : Pool) : Prop :=
  ∀ slug n, n < (pool.next.get? slug).getD 0 → candidate slug n ∈ pool.taken

theorem memoSound_empty : MemoSound {} := by
  intro slug n skipped
  simp [Table.get?] at skipped

theorem draw_isFirst {pool : Pool} (sound : pool.MemoSound) (slug : Text) :
    ∃ number, (pool.draw slug).1 = candidate slug number ∧ IsFirst pool.taken slug 0 number ∧
      (pool.draw slug).2 = { pool with
        taken := candidate slug number :: pool.taken
        next := pool.next.insert slug (number + 1) } := by
  let start := (pool.next.get? slug).getD 0
  have found := firstFree_isFirst (exists_free_among pool.taken slug start)
  refine ⟨_, rfl, ⟨Nat.zero_le _, found.free, ?_⟩, rfl⟩
  intro n _ less
  by_cases skipped : n < start
  · exact sound slug n skipped
  · exact found.before n (by omega) less

theorem draw_eq_probe {pool : Pool} (sound : pool.MemoSound) (slug : Text) :
    (pool.draw slug).1 = probe pool.taken slug ∧
      (pool.draw slug).2.taken = probe pool.taken slug :: pool.taken := by
  obtain ⟨number, anchor, first, later⟩ := draw_isFirst sound slug
  have least : Nat.find (exists_free pool.taken slug) = number := by
    rw [Nat.find_eq_iff]
    exact ⟨first.free, fun n less => not_not.mpr (first.before n (Nat.zero_le n) less)⟩
  rw [anchor, later, probe, least]
  exact ⟨rfl, rfl⟩

theorem memoSound_draw {pool : Pool} (sound : pool.MemoSound) (slug : Text) :
    (pool.draw slug).2.MemoSound := by
  obtain ⟨number, -, first, later⟩ := draw_isFirst sound slug
  rw [later]
  intro other n skipped
  by_cases same : other = slug
  · subst other
    rw [Table.get?_insert_self, Option.getD_some] at skipped
    by_cases last : n = number
    · rw [last]
      exact List.mem_cons_self ..
    · exact List.mem_cons_of_mem _ (first.before n (Nat.zero_le n) (by omega))
  · rw [Table.get?_insert_of_ne _ _ same] at skipped
    exact List.mem_cons_of_mem _ (sound other n skipped)

end Pool

/-- The slugs that anchors are drawn from: the n-th void one, after `unnamed` void ones before,
gives way to the n-th numbered one. -/
def nameAll (unnamed : Nat) (slugs : List Text) : List Text :=
  slugs.mapIdx fun i slug =>
    if Slug.isVoid slug then
      Pool.unnamedSlug (unnamed + (slugs.take (i + 1)).countP Slug.isVoid)
    else slug

theorem nameAll_cons (unnamed : Nat) (slug : Text) (rest : List Text) :
    nameAll unnamed (slug :: rest) =
      if Slug.isVoid slug then Pool.unnamedSlug (unnamed + 1) :: nameAll (unnamed + 1) rest
      else slug :: nameAll unnamed rest := by
  by_cases void : Slug.isVoid slug = true
  · simp only [nameAll, List.mapIdx_cons, List.take_succ_cons, List.take_zero, List.countP_cons,
      List.countP_nil, void, if_true, Nat.zero_add]
    simp only [Nat.add_assoc, Nat.add_comm 1]
  · simp only [nameAll, List.mapIdx_cons, List.take_succ_cons, List.countP_cons, void, if_false,
      Nat.add_zero, Bool.false_eq_true]

namespace Pool

theorem giveAll_eq_probeAll {pool : Pool} (sound : pool.MemoSound) (slugs : List Text) :
    pool.giveAll slugs = probeAll pool.taken (nameAll pool.unnamed slugs) := by
  induction slugs generalizing pool with
  | nil => rfl
  | cons slug rest ih =>
    rw [nameAll_cons]
    by_cases void : Slug.isVoid slug = true
    · have counted : MemoSound { pool with unnamed := pool.unnamed + 1 } := sound
      obtain ⟨anchor, taken⟩ := draw_eq_probe counted (unnamedSlug (pool.unnamed + 1))
      have rest := ih (memoSound_draw counted (unnamedSlug (pool.unnamed + 1)))
      simp only [giveAll, give, named, void, if_true, probeAll, anchor, rest, taken]
      rfl
    · obtain ⟨anchor, taken⟩ := draw_eq_probe sound slug
      have rest := ih (memoSound_draw sound slug)
      simp only [giveAll, give, named, void, if_false, Bool.false_eq_true, probeAll, anchor, rest, taken]
      rfl

end Pool

/-!
The search for a free anchor as a loop with no bound on its tries. Whatever is taken, it ends, and
after no more steps than there are taken anchors.
-/

variable {taken : List Text} {slug : Text} {start last other : Nat}

/-- From a number on, the loop goes on to the next one while the candidate is taken. It leaves at
the last number. -/
inductive LeavesAt (taken : List Text) (slug : Text) : Nat → Nat → Prop
  | free {number : Nat} (free : candidate slug number ∉ taken) : LeavesAt taken slug number number
  | next {number last : Nat} (hit : candidate slug number ∈ taken)
      (later : LeavesAt taken slug (number + 1) last) : LeavesAt taken slug number last

theorem LeavesAt.isFirst (leaves : LeavesAt taken slug start last) :
    IsFirst taken slug start last := by
  induction leaves with
  | free free => exact ⟨le_rfl, free, fun n above below => absurd below (Nat.not_lt.mpr above)⟩
  | @next start last hit later ih =>
    refine ⟨Nat.le_of_succ_le ih.start_le, ih.free, ?_⟩
    intro n above below
    rcases Nat.eq_or_lt_of_le above with rfl | beyond
    · exact hit
    · exact ih.before n beyond below

theorem IsFirst.leavesAt (first : IsFirst taken slug start last) :
    LeavesAt taken slug start last := by
  obtain ⟨distance, rfl⟩ := Nat.exists_eq_add_of_le first.start_le
  induction distance generalizing start with
  | zero => exact LeavesAt.free first.free
  | succ distance ih =>
    have hit : candidate slug start ∈ taken := first.before start le_rfl (by omega)
    have same : start + (distance + 1) = start + 1 + distance := by omega
    rw [same] at first ⊢
    apply LeavesAt.next hit
    apply ih
    exact ⟨by omega, first.free, fun n above below => first.before n (by omega) below⟩

theorem IsFirst.le_of_free {number : Nat} (first : IsFirst taken slug start last)
    (above : start ≤ number) (free : candidate slug number ∉ taken) : last ≤ number := by
  by_contra further
  exact free (first.before number above (Nat.lt_of_not_le further))

theorem IsFirst.unique (first : IsFirst taken slug start last)
    (again : IsFirst taken slug start other) : other = last :=
  le_antisymm (again.le_of_free first.start_le first.free)
    (first.le_of_free again.start_le again.free)

/-- Among one more suffixed slugs than there are taken anchors one is free, whatever is taken. The
loop leaves at one number, no more steps away than there are taken anchors, and the bounded search
comes to it with any greater number of tries. So what a pool gives out is where the loop leaves. -/
theorem probing_ends (pool : Pool) (slug : Text) (start : Nat) :
    (∃ number, start ≤ number ∧ number ≤ start + pool.taken.toFinset.card ∧
      suffixed slug number ∉ pool.taken) ∧
    (∃ last, (∀ other, LeavesAt pool.taken slug start other ↔ other = last) ∧
      last ≤ start + pool.taken.toFinset.card ∧
      candidate slug last ∉ pool.taken ∧
      ∀ more, firstFree pool.taken slug (pool.taken.toFinset.card + 1 + more) start = last) ∧
    ∃ number, LeavesAt pool.taken slug ((pool.next.get? slug).getD 0) number ∧
      (pool.draw slug).1 = candidate slug number ∧ (pool.draw slug).1 ∉ pool.taken := by
  obtain ⟨number, above, below, free⟩ :=
    exists_not_mem_among (candidate_injective slug) pool.taken start
  have found : ∀ more, IsFirst pool.taken slug start
      (firstFree pool.taken slug (pool.taken.toFinset.card + 1 + more) start) :=
    fun more => firstFree_isFirst ⟨number, above, by omega, free⟩
  have first := found 0
  refine ⟨exists_not_mem_among (suffixed_injective slug) pool.taken start,
    ⟨_, ?_, (first.le_of_free above free).trans below, first.free, ?_⟩, ?_⟩
  · intro other
    constructor
    · exact fun leaves => first.unique leaves.isFirst
    · rintro rfl
      exact first.leavesAt
  · exact fun more => first.unique (found more)
  · have drawn := firstFree_isFirst
      (exists_free_among pool.taken slug ((pool.next.get? slug).getD 0))
    exact ⟨_, drawn.leavesAt, rfl, drawn.free⟩

-- A slug that ends like a suffixed one, searched for from a number on that the search skips to.
example : firstFree (["a-1", "a-1-2", "a-1-3"].map String.toList) "a-1".toList 4 2 = 4 := by decide

end MarkdownReview.Anchor
