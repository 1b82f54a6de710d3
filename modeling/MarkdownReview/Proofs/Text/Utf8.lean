import Mathlib.Tactic.SplitIfs
import MarkdownReview.Text.Utf8
/-!
Bytes and the text they stand for. Every character has one spelling in bytes; it is written and read
in that spelling, so decoding accepts exactly what encoding produces.
-/

namespace MarkdownReview.Text.Utf8

def IsFollower (byte : UInt8) : Prop := 0x80 ≤ byte.toNat ∧ byte.toNat ≤ 0xBF

/-- A lead byte and its followers spell a code point. No code point has two spellings: what could
be written shorter is ruled out by the bounds below, and the surrogates are no characters. -/
inductive Spells (lead : UInt8) : List UInt8 → Nat → Prop
  | one {code : Nat} (most : lead.toNat < 0x80) (code_eq : code = lead.toNat) : Spells lead [] code
  | two {first : UInt8} {code : Nat} (follows : IsFollower first)
      (range : 0xC0 ≤ lead.toNat ∧ lead.toNat < 0xE0)
      (code_eq : code = lead.toNat % 0x20 * 0x40 + first.toNat % 0x40) (shortest : 0x80 ≤ code) :
      Spells lead [first] code
  | three {first second : UInt8} {code : Nat} (follows : IsFollower first)
      (ends : IsFollower second) (range : 0xE0 ≤ lead.toNat ∧ lead.toNat < 0xF0)
      (code_eq : code = (lead.toNat % 0x10 * 0x40 + first.toNat % 0x40) * 0x40 + second.toNat % 0x40)
      (shortest : 0x800 ≤ code) (valid : code.isValidChar) : Spells lead [first, second] code
  | four {first second third : UInt8} {code : Nat} (follows : IsFollower first)
      (goesOn : IsFollower second) (ends : IsFollower third)
      (range : 0xF0 ≤ lead.toNat ∧ lead.toNat < 0xF8)
      (code_eq : code = ((lead.toNat % 0x08 * 0x40 + first.toNat % 0x40) * 0x40 +
        second.toNat % 0x40) * 0x40 + third.toNat % 0x40)
      (shortest : 0x10000 ≤ code) (valid : code.isValidChar) :
      Spells lead [first, second, third] code

theorem followers_two {lead : Nat} (least : 0xC2 ≤ lead) (most : lead < 0xE0) :
    followers lead = some [(0x80, 0xBF)] := by
  simp only [followers]
  rw [if_neg (by omega), if_pos most]

theorem followers_three {lead : Nat} (least : 0xE0 ≤ lead) (most : lead < 0xF0) :
    followers lead = some [(if lead = 0xE0 then 0xA0 else 0x80, if lead = 0xED then 0x9F else 0xBF),
      (0x80, 0xBF)] := by
  simp only [followers]
  rw [if_neg (by omega), if_neg (by omega)]
  split_ifs <;> first | rfl | omega

theorem followers_four {lead : Nat} (least : 0xF0 ≤ lead) (most : lead < 0xF5) :
    followers lead = some [(if lead = 0xF0 then 0x90 else 0x80, if lead = 0xF4 then 0x8F else 0xBF),
      (0x80, 0xBF), (0x80, 0xBF)] := by
  simp only [followers]
  rw [if_neg (by omega), if_neg (by omega), if_neg (by omega), if_neg (by omega), if_neg (by omega)]
  split_ifs <;> first | rfl | omega

theorem followers_none {lead : Nat} (outside : lead < 0xC2 ∨ 0xF5 ≤ lead) :
    followers lead = none := by
  simp only [followers]
  split_ifs <;> first | rfl | omega

theorem readFollowers_cons_eq_ok_iff {lo hi : Nat} {bounds : List (Nat × Nat)}
    {reading result : Reading} {bytes : List UInt8} :
    readFollowers ((lo, hi) :: bounds) reading bytes = .ok result ↔
      ∃ byte rest, bytes = byte :: rest ∧ lo ≤ byte.toNat ∧ byte.toNat ≤ hi ∧
        readFollowers bounds ⟨reading.code * 0x40 + byte.toNat % 0x40, reading.length + 1⟩ rest =
          .ok result := by
  cases bytes with
  | nil => simp [readFollowers]
  | cons byte rest =>
    by_cases inside : lo ≤ byte.toNat ∧ byte.toNat ≤ hi
    · rw [readFollowers, if_pos inside]
      constructor
      · intro isRead
        exact ⟨byte, rest, rfl, inside.1, inside.2, isRead⟩
      · rintro ⟨_, _, same, -, -, isRead⟩
        cases same
        exact isRead
    · rw [readFollowers, if_neg inside]
      constructor
      · intro impossible
        cases impossible
      · rintro ⟨_, _, same, least, most, -⟩
        cases same
        exact absurd ⟨least, most⟩ inside

theorem Spells.valid {lead : UInt8} {tail : List UInt8} {code : Nat} (spells : Spells lead tail code) :
    code.isValidChar := by
  cases spells with
  | one most code_eq => exact Or.inl (by omega)
  | two follows range code_eq shortest => exact Or.inl (by omega)
  | three _ _ _ _ _ valid => exact valid
  | four _ _ _ _ _ _ valid => exact valid

theorem exists_spells (c : Char) : ∃ lead tail, Spells lead tail c.toNat := by
  have valid : c.toNat.isValidChar := c.valid
  have bounds := valid
  unfold Nat.isValidChar at bounds
  generalize c.toNat = code at valid bounds
  by_cases one : code < 0x80
  · refine ⟨UInt8.ofNat code, [], .one ?_ ?_⟩ <;>
      rw [UInt8.toNat_ofNat'] <;> omega
  by_cases two : code < 0x800
  · refine ⟨UInt8.ofNat (code / 0x40 + 0xC0), [UInt8.ofNat (code % 0x40 + 0x80)],
      .two ?_ ?_ ?_ (by omega)⟩ <;>
      simp only [IsFollower, UInt8.toNat_ofNat'] <;> omega
  by_cases three : code < 0x10000
  · refine ⟨UInt8.ofNat (code / 0x1000 + 0xE0),
      [UInt8.ofNat (code / 0x40 % 0x40 + 0x80), UInt8.ofNat (code % 0x40 + 0x80)],
      .three ?_ ?_ ?_ ?_ (by omega) valid⟩ <;>
      simp only [IsFollower, UInt8.toNat_ofNat'] <;> omega
  · refine ⟨UInt8.ofNat (code / 0x40000 + 0xF0),
      [UInt8.ofNat (code / 0x1000 % 0x40 + 0x80), UInt8.ofNat (code / 0x40 % 0x40 + 0x80),
        UInt8.ofNat (code % 0x40 + 0x80)],
      .four ?_ ?_ ?_ ?_ ?_ (by omega) valid⟩ <;>
      simp only [IsFollower, UInt8.toNat_ofNat'] <;> omega

theorem ofNat_eq {n : Nat} {byte : UInt8} (same : n = byte.toNat) : UInt8.ofNat n = byte := by
  rw [same, UInt8.ofNat_toNat]

theorem encodeChar_eq (c : Char) :
    encodeChar c =
      if c.toNat ≤ 0x7F then [UInt8.ofNat c.toNat]
      else if c.toNat ≤ 0x7FF then
        [UInt8.ofNat (c.toNat / 0x40 % 0x20 + 0xC0), UInt8.ofNat (c.toNat % 0x40 + 0x80)]
      else if c.toNat ≤ 0xFFFF then
        [UInt8.ofNat (c.toNat / 0x1000 % 0x10 + 0xE0), UInt8.ofNat (c.toNat / 0x40 % 0x40 + 0x80),
          UInt8.ofNat (c.toNat % 0x40 + 0x80)]
      else
        [UInt8.ofNat (c.toNat / 0x40000 % 0x08 + 0xF0), UInt8.ofNat (c.toNat / 0x1000 % 0x40 + 0x80),
          UInt8.ofNat (c.toNat / 0x40 % 0x40 + 0x80), UInt8.ofNat (c.toNat % 0x40 + 0x80)] :=
  rfl

theorem Spells.encodeChar_eq {lead : UInt8} {tail : List UInt8} {c : Char}
    (spells : Spells lead tail c.toNat) : encodeChar c = lead :: tail := by
  have valid := spells.valid
  unfold Nat.isValidChar at valid
  rw [Utf8.encodeChar_eq]
  generalize c.toNat = code at spells valid
  cases spells with
  | one most code_eq =>
    rw [if_pos (by omega), ofNat_eq code_eq]
  | two follows range code_eq shortest =>
    unfold IsFollower at follows
    rw [if_neg (by omega), if_pos (by omega)]
    congr 2 <;> apply ofNat_eq <;> omega
  | three follows ends range code_eq shortest _ =>
    unfold IsFollower at follows ends
    rw [if_neg (by omega), if_neg (by omega), if_pos (by omega)]
    congr 3 <;> apply ofNat_eq <;> omega
  | four follows goesOn ends range code_eq shortest _ =>
    unfold IsFollower at follows goesOn ends
    rw [if_neg (by omega), if_neg (by omega), if_neg (by omega)]
    congr 4 <;> apply ofNat_eq <;> omega

theorem Spells.readChar_eq {lead : UInt8} {tail : List UInt8} {code : Nat}
    (spells : Spells lead tail code) (rest : List UInt8) :
    readChar lead (tail ++ rest) = .ok ⟨code, tail.length + 1⟩ := by
  cases spells with
  | one most code_eq =>
    rw [readChar, if_pos most, code_eq]
    rfl
  | two follows range code_eq shortest =>
    unfold IsFollower at follows
    rw [readChar, if_neg (by omega), followers_two (by omega) range.2]
    simp only [readFollowers_cons_eq_ok_iff]
    refine ⟨_, _, rfl, follows.1, follows.2, ?_⟩
    rw [readFollowers, code_eq]
    rfl
  | three follows ends range code_eq shortest valid =>
    unfold IsFollower at follows ends
    unfold Nat.isValidChar at valid
    rw [readChar, if_neg (by omega), followers_three range.1 range.2]
    simp only [readFollowers_cons_eq_ok_iff]
    refine ⟨_, _, rfl, ?_, ?_, _, _, rfl, ends.1, ends.2, ?_⟩
    · split_ifs <;> omega
    · split_ifs <;> omega
    rw [readFollowers, code_eq]
    rfl
  | four follows goesOn ends range code_eq shortest valid =>
    unfold IsFollower at follows goesOn ends
    unfold Nat.isValidChar at valid
    rw [readChar, if_neg (by omega), followers_four range.1 (by omega)]
    simp only [readFollowers_cons_eq_ok_iff]
    refine ⟨_, _, rfl, ?_, ?_, _, _, rfl, goesOn.1, goesOn.2, _, _, rfl, ends.1, ends.2, ?_⟩
    · split_ifs <;> omega
    · split_ifs <;> omega
    rw [readFollowers, code_eq]
    rfl

theorem exists_spells_of_readChar {lead : UInt8} {rest : List UInt8} {reading : Reading}
    (isRead : readChar lead rest = .ok reading) :
    ∃ tail after code, rest = tail ++ after ∧ reading = ⟨code, tail.length + 1⟩ ∧
      Spells lead tail code := by
  unfold readChar at isRead
  by_cases one : lead.toNat < 0x80
  · rw [if_pos one] at isRead
    cases isRead
    exact ⟨[], rest, _, rfl, rfl, .one one rfl⟩
  rw [if_neg one] at isRead
  by_cases outside : lead.toNat < 0xC2 ∨ 0xF5 ≤ lead.toNat
  · rw [followers_none outside] at isRead
    cases isRead
  by_cases two : lead.toNat < 0xE0
  · rw [followers_two (by omega) two] at isRead
    simp only [readFollowers_cons_eq_ok_iff] at isRead
    obtain ⟨first, after, rfl, least, most, same⟩ := isRead
    obtain ⟨code, code_eq⟩ : ∃ code, code = lead.toNat % 0x20 * 0x40 + first.toNat % 0x40 :=
      ⟨_, rfl⟩
    refine ⟨[first], after, code, rfl, ?_, .two ⟨least, most⟩ (by omega) code_eq (by omega)⟩
    rw [code_eq]
    exact (Except.ok.inj same).symm
  by_cases three : lead.toNat < 0xF0
  · rw [followers_three (by omega) three] at isRead
    simp only [readFollowers_cons_eq_ok_iff] at isRead
    obtain ⟨first, _, rfl, least, most, second, after, rfl, atLeast, atMost, same⟩ := isRead
    obtain ⟨code, code_eq⟩ : ∃ code, code =
        (lead.toNat % 0x10 * 0x40 + first.toNat % 0x40) * 0x40 + second.toNat % 0x40 := ⟨_, rfl⟩
    -- The lead byte narrows the first follower down so that these three hold.
    have narrow : IsFollower first ∧ 0x800 ≤ code ∧ code.isValidChar := by
      unfold IsFollower Nat.isValidChar
      split_ifs at least most <;> omega
    obtain ⟨follows, shortest, valid⟩ := narrow
    refine ⟨[first, second], after, code, rfl, ?_,
      .three follows ⟨atLeast, atMost⟩ (by omega) code_eq shortest valid⟩
    rw [code_eq]
    exact (Except.ok.inj same).symm
  · rw [followers_four (by omega) (by omega)] at isRead
    simp only [readFollowers_cons_eq_ok_iff] at isRead
    obtain ⟨first, _, rfl, least, most, second, _, rfl, goesOn, third, after, rfl, ends, same⟩ :
      ∃ first rest', _ = first :: rest' ∧ _ ∧ _ ∧ ∃ second rest'', rest' = second :: rest'' ∧
        IsFollower second ∧ ∃ third after, rest'' = third :: after ∧ IsFollower third ∧ _ := by
      simpa only [IsFollower, and_assoc] using isRead
    obtain ⟨code, code_eq⟩ : ∃ code, code = ((lead.toNat % 0x08 * 0x40 + first.toNat % 0x40) * 0x40 +
        second.toNat % 0x40) * 0x40 + third.toNat % 0x40 := ⟨_, rfl⟩
    have narrow : IsFollower first ∧ 0x10000 ≤ code ∧ code.isValidChar := by
      unfold IsFollower at goesOn ends ⊢
      unfold Nat.isValidChar
      split_ifs at least most <;> omega
    obtain ⟨follows, shortest, valid⟩ := narrow
    refine ⟨[first, second, third], after, code, rfl, ?_,
      .four follows goesOn ends (by omega) code_eq shortest valid⟩
    rw [code_eq]
    exact (Except.ok.inj same).symm

theorem decodeFrom_skip (passed rest : List UInt8) (position : Nat) :
    decodeFrom passed.length position (passed ++ rest) =
      decodeFrom 0 (position + passed.length) rest := by
  induction passed generalizing position with
  | nil => rfl
  | cons byte passed ih =>
    rw [List.length_cons, List.cons_append, decodeFrom, ih]
    congr 1
    omega

theorem decodeFrom_encode (text : Text) (position : Nat) :
    decodeFrom 0 position (encode text) = .ok text := by
  induction text generalizing position with
  | nil => rfl
  | cons c text ih =>
    obtain ⟨lead, tail, spells⟩ := exists_spells c
    have written : encode (c :: text) = lead :: (tail ++ encode text) := by
      rw [encode, List.flatMap_cons, spells.encodeChar_eq]
      rfl
    rw [written, decodeFrom, spells.readChar_eq]
    simp only [Nat.add_sub_cancel, decodeFrom_skip, ih, Char.ofNat_toNat]

/-- What is decoded was written: the bytes that are left after a skip encode the text. -/
theorem drop_eq_encode_of_decodeFrom {skip position : Nat} {bytes : List UInt8} {text : Text}
    (inside : skip ≤ bytes.length) (decoded : decodeFrom skip position bytes = .ok text) :
    bytes.drop skip = encode text := by
  induction bytes generalizing skip position text with
  | nil =>
    cases decoded
    exact List.drop_nil
  | cons lead rest ih =>
    cases skip with
    | succ skip => exact ih (Nat.le_of_succ_le_succ inside) decoded
    | zero =>
      rw [decodeFrom] at decoded
      cases isRead : readChar lead rest with
      | error fault =>
        rw [isRead] at decoded
        cases decoded
      | ok reading =>
        obtain ⟨tail, after, code, rfl, rfl, spells⟩ := exists_spells_of_readChar isRead
        rw [isRead] at decoded
        simp only [Nat.add_sub_cancel] at decoded
        cases later : decodeFrom tail.length (position + 1) (tail ++ after) with
        | error fault =>
          rw [later] at decoded
          cases decoded
        | ok following =>
          rw [later] at decoded
          cases decoded
          have written := ih (by simp) later
          rw [List.drop_left] at written
          have toNat : (Char.ofNat code).toNat = code := by
            rw [Char.ofNat, dif_pos spells.valid]
            rfl
          rw [← toNat] at spells
          rw [List.drop_zero, encode, List.flatMap_cons, spells.encodeChar_eq, written]
          rfl

/-- Exactly the encodings of texts are decoded, each to the text that it encodes. -/
theorem decode_eq_ok_iff {bytes : List UInt8} {text : Text} :
    decode bytes = .ok text ↔ bytes = encode text := by
  constructor
  · intro decoded
    exact drop_eq_encode_of_decodeFrom (Nat.zero_le _) decoded
  · rintro rfl
    exact decodeFrom_encode text 0

end MarkdownReview.Text.Utf8
