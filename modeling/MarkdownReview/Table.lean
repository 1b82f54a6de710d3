/-!
Tables keep their entries in the order in which the keys came. A key that is there already keeps
its place when its value changes.
-/

namespace MarkdownReview

abbrev Table (κ α : Type) := List (κ × α)

namespace Table

variable {κ α : Type} [BEq κ]

def get? : Table κ α → κ → Option α
  | [], _ => none
  | (k, v) :: rest, key => if key == k then some v else get? rest key

def has (table : Table κ α) (key : κ) : Bool := (table.get? key).isSome

def insert (key : κ) (value : α) : Table κ α → Table κ α
  | [] => [(key, value)]
  | (k, v) :: rest =>
    if key == k then (k, value) :: rest else (k, v) :: insert key value rest

def keys (table : Table κ α) : List κ := table.map (·.1)

theorem get?_insert_self [LawfulBEq κ] (table : Table κ α) (key : κ) (value : α) :
    (insert key value table).get? key = some value := by
  induction table with
  | nil => simp [insert, get?]
  | cons entry rest ih =>
    obtain ⟨k, v⟩ := entry
    simp only [insert]
    split
    · rename_i same
      simp [get?, same]
    · rename_i different
      simp [get?, different, ih]

theorem get?_insert_of_ne [LawfulBEq κ] (table : Table κ α) {key other : κ} (value : α)
    (h : other ≠ key) : (insert key value table).get? other = table.get? other := by
  induction table with
  | nil => simp [insert, get?, h]
  | cons entry rest ih =>
    obtain ⟨k, v⟩ := entry
    simp only [insert]
    split
    · rename_i same
      have different : other ≠ k := by
        rw [← eq_of_beq same]
        exact h
      simp [get?, different]
    · simp only [get?, ih]

end Table
end MarkdownReview

/-!
The keys of a table. Each stands once, and they are those for which the table has a value. What a
table answers after another one is put behind it or into it, or after a key is taken out.
-/

namespace MarkdownReview.Table

variable {κ α : Type}

theorem nodup_keys_filter {table : Table κ α} (distinct : table.keys.Nodup)
    (kept : κ × α → Bool) : (keys (table.filter kept)).Nodup :=
  (List.filter_sublist.map Prod.fst).nodup distinct

variable [BEq κ]

theorem keys_insert_congr (key : κ) (first second : α) (table : Table κ α) :
    (insert key first table).keys = (insert key second table).keys := by
  induction table with
  | nil => rfl
  | cons entry rest ih =>
    obtain ⟨k, v⟩ := entry
    rw [insert, insert]
    by_cases same : (key == k) = true
    · rw [if_pos same, if_pos same]
      rfl
    · rw [if_neg same, if_neg same]
      exact congrArg (k :: ·) ih

theorem get?_append (first second : Table κ α) (key : κ) :
    get? (first ++ second) key = (first.get? key).or (second.get? key) := by
  induction first with
  | nil => rfl
  | cons entry rest ih =>
    obtain ⟨k, v⟩ := entry
    rw [List.cons_append, get?, get?, ih]
    by_cases same : (key == k) = true
    · rw [if_pos same, if_pos same]
      rfl
    · rw [if_neg same, if_neg same]

variable [LawfulBEq κ] {table : Table κ α} {key other : κ}

theorem mem_of_get? {value : α} (found : table.get? key = some value) : (key, value) ∈ table := by
  induction table with
  | nil => cases found
  | cons entry rest ih =>
    obtain ⟨k, v⟩ := entry
    rw [get?] at found
    split at found
    · next same =>
      cases found
      rw [eq_of_beq same]
      exact List.mem_cons_self
    · exact List.mem_cons_of_mem _ (ih found)

theorem mem_keys_iff : key ∈ table.keys ↔ (table.get? key).isSome = true := by
  induction table with
  | nil => simp [keys, get?]
  | cons entry rest ih =>
    obtain ⟨k, v⟩ := entry
    by_cases same : key = k
    · simp [keys, get?, same]
    · have later : key ∈ keys ((k, v) :: rest) ↔ key ∈ keys rest := by
        simp [keys, same]
      rw [later, ih, get?, beq_eq_false_iff_ne.mpr same]
      rfl

theorem mem_keys_insert_iff {value : α} :
    other ∈ (insert key value table).keys ↔ other = key ∨ other ∈ table.keys := by
  rw [mem_keys_iff, mem_keys_iff]
  by_cases same : other = key
  · simp [same, get?_insert_self]
  · simp [same, get?_insert_of_ne]

theorem nodup_keys_insert (distinct : table.keys.Nodup) (key : κ) (value : α) :
    (insert key value table).keys.Nodup := by
  induction table with
  | nil => exact List.nodup_cons.mpr ⟨List.not_mem_nil, List.nodup_nil⟩
  | cons entry rest ih =>
    obtain ⟨k, v⟩ := entry
    obtain ⟨fresh, later⟩ := List.nodup_cons.mp distinct
    rw [insert]
    by_cases same : key = k
    · rw [if_pos (beq_iff_eq.mpr same)]
      exact distinct
    · rw [if_neg (fun equal => same (beq_iff_eq.mp equal))]
      refine List.nodup_cons.mpr ⟨?_, ih later⟩
      intro again
      rcases mem_keys_insert_iff.mp again with equal | member
      · exact same equal.symm
      · exact fresh member

def without (table : Table κ α) (key : κ) : Table κ α := table.filter fun entry => entry.1 != key

theorem get?_without_self (table : Table κ α) (key : κ) : (table.without key).get? key = none := by
  induction table with
  | nil => rfl
  | cons entry rest ih =>
    obtain ⟨k, v⟩ := entry
    by_cases same : k = key
    · rw [without, List.filter_cons_of_neg (by simp [same])]
      exact ih
    · rw [without, List.filter_cons_of_pos (by simp [same]), get?, if_neg (by simp [Ne.symm same])]
      exact ih

theorem get?_without_of_ne (table : Table κ α) (different : other ≠ key) :
    (table.without key).get? other = table.get? other := by
  induction table with
  | nil => rfl
  | cons entry rest ih =>
    obtain ⟨k, v⟩ := entry
    by_cases same : k = key
    · rw [without, List.filter_cons_of_neg (by simp [same]), get?, if_neg (by simp [same, different])]
      exact ih
    · rw [without, List.filter_cons_of_pos (by simp [same]), get?, get?]
      exact congrArg (fun later => if other == k then some v else later) ih

theorem get?_eq_some_iff (distinct : table.keys.Nodup) {value : α} :
    table.get? key = some value ↔ (key, value) ∈ table := by
  constructor
  · exact mem_of_get?
  · intro member
    induction table with
    | nil => cases member
    | cons entry rest ih =>
      obtain ⟨k, v⟩ := entry
      obtain ⟨fresh, later⟩ := List.nodup_cons.mp distinct
      rcases List.mem_cons.mp member with same | further
      · cases same
        rw [get?, if_pos (beq_self_eq_true key)]
      · have different : key ≠ k := by
          rintro rfl
          exact fresh (List.mem_map.mpr ⟨_, further, rfl⟩)
        rw [get?, if_neg (by simp [different])]
        exact ih later further

theorem get?_reverse (distinct : table.keys.Nodup) :
    get? table.reverse key = table.get? key := by
  have turned : (keys table.reverse).Nodup := by
    rw [keys, List.map_reverse]
    exact (List.reverse_perm _).nodup_iff.mpr distinct
  apply Option.ext
  intro value
  rw [get?_eq_some_iff turned, get?_eq_some_iff distinct]
  exact List.mem_reverse

theorem get?_filter (distinct : table.keys.Nodup) (kept : κ × α → Bool) :
    get? (table.filter kept) key = (table.get? key).filter fun value => kept (key, value) := by
  apply Option.ext
  intro value
  rw [get?_eq_some_iff (nodup_keys_filter distinct kept), List.mem_filter,
    ← get?_eq_some_iff distinct, Option.filter_eq_some_iff]

/-- A table with the entries of another one put in, one after the other. -/
def updated (table changes : Table κ α) : Table κ α :=
  changes.foldl (fun changed entry => changed.insert entry.1 entry.2) table

theorem get?_updated (table changes : Table κ α) (key : κ) :
    (table.updated changes).get? key = (get? changes.reverse key).or (table.get? key) := by
  induction changes generalizing table with
  | nil => rfl
  | cons entry rest ih =>
    obtain ⟨k, v⟩ := entry
    have later := ih (table.insert k v)
    rw [updated] at later
    rw [updated, List.foldl_cons, later, List.reverse_cons, get?_append, Option.or_assoc]
    by_cases same : key = k
    · rw [same, get?_insert_self, get?, if_pos (beq_self_eq_true k), Option.some_or]
    · rw [get?_insert_of_ne _ _ same, get?, if_neg (by simp [same]), get?, Option.none_or]

theorem nodup_keys_updated (distinct : table.keys.Nodup) (changes : Table κ α) :
    (table.updated changes).keys.Nodup := by
  induction changes generalizing table with
  | nil => exact distinct
  | cons entry rest ih => exact ih (nodup_keys_insert distinct entry.1 entry.2)

end MarkdownReview.Table
