import Mathlib.Data.List.TakeWhile

/-! Decimal texts. The text of an integer is a row of digits, with a minus sign in front of it
if the integer is negative, and `value` reads an integer back from the front of any text. -/
namespace Decimal

/-- The characters of the text of an integer. -/
def chars (i : Int) : List Char := (toString i).toList

theorem chars_eq (i : Int) : chars i =
    if 0 ≤ i then Nat.toDigits 10 i.toNat else '-' :: Nat.toDigits 10 (-i).toNat := by
  rw [chars, Int.toString_eq_repr, Int.repr_eq_if]
  split <;> simp [String.toList_append]

theorem isDigit_of_mem {n : Nat} {c : Char} (member : c ∈ Nat.toDigits 10 n) : c.isDigit :=
  Nat.isDigit_of_mem_toDigits (by omega) (by omega) member

/-- The text of an integer has digits and a sign only. -/
theorem mem_chars {i : Int} {c : Char} (member : c ∈ chars i) : c.isDigit ∨ c = '-' := by
  rw [chars_eq] at member
  split at member
  · exact Or.inl (isDigit_of_mem member)
  · rcases List.mem_cons.mp member with rfl | member
    · exact Or.inr rfl
    · exact Or.inl (isDigit_of_mem member)

theorem chars_ne_nil (i : Int) : chars i ≠ [] := by
  rw [chars_eq]
  split
  · exact Nat.toDigits_ne_nil
  · exact List.cons_ne_nil _ _

def isSpace (c : Char) : Bool := c == ' ' || ('\t' ≤ c && c ≤ '\r')

/-- The number that the leading digits write. -/
def magnitude (text : List Char) : Nat := Nat.ofDigitChars 10 (text.takeWhile Char.isDigit) 0

/-- The integer a text begins with, behind blanks and a sign. -/
def value (text : List Char) : Int :=
  match text.dropWhile isSpace with
  | '-' :: rest => -(magnitude rest : Int)
  | '+' :: rest => magnitude rest
  | rest => magnitude rest

/-- Digits are read up to the first character that is none. -/
theorem magnitude_toDigits {n : Nat} {rest : List Char}
    (ends : ∀ c, rest.head? = some c → c.isDigit = false) :
    magnitude (Nat.toDigits 10 n ++ rest) = n := by
  have all : (Nat.toDigits 10 n ++ rest).takeWhile Char.isDigit = Nat.toDigits 10 n := by
    rw [List.takeWhile_append_of_pos fun c member => isDigit_of_mem member]
    cases rest with
    | nil => simp
    | cons c rest => simp [ends c rfl]
  rw [magnitude, all]
  exact Nat.ofDigitChars_ten_toDigits

theorem not_isSpace_of_isDigit {c : Char} (digit : c.isDigit) : isSpace c = false := by
  have least : '0'.val ≤ c.val := by
    simp only [Char.isDigit, ge_iff_le, Bool.and_eq_true, decide_eq_true_eq] at digit
    exact digit.1
  simp only [isSpace, Bool.or_eq_false_iff, beq_eq_false_iff_ne, ne_eq, Bool.and_eq_false_imp,
    decide_eq_true_eq, decide_eq_false_iff_not]
  constructor
  · rintro rfl
    exact absurd least (by decide)
  · intro _ below
    have above : '0'.val ≤ '\r'.val := UInt32.le_trans least below
    exact absurd above (by decide)

/-- What was written is read back, from the front of any text that goes on without a digit. -/
theorem value_chars_append {i : Int} {rest : List Char}
    (ends : ∀ c, rest.head? = some c → c.isDigit = false) : value (chars i ++ rest) = i := by
  rw [chars_eq]
  split
  · rename_i positive
    obtain ⟨c, digits, split⟩ :=
      List.exists_cons_of_ne_nil (Nat.toDigits_ne_nil (n := i.toNat) (b := 10))
    have digit : c.isDigit := isDigit_of_mem (n := i.toNat) (by simp [split])
    have dropped : (Nat.toDigits 10 i.toNat ++ rest).dropWhile isSpace =
        Nat.toDigits 10 i.toNat ++ rest := by
      rw [split, List.cons_append,
        List.dropWhile_cons_of_neg (by simp [not_isSpace_of_isDigit digit])]
    have plain : value (Nat.toDigits 10 i.toNat ++ rest) =
        magnitude (Nat.toDigits 10 i.toNat ++ rest) := by
      simp only [value, dropped]
      split
      · rename_i same
        rw [split] at same
        cases same
        exact absurd digit (by decide)
      · rename_i same
        rw [split] at same
        cases same
        exact absurd digit (by decide)
      · rfl
    rw [plain, magnitude_toDigits ends]
    omega
  · have bare : isSpace '-' = false := by decide
    simp only [value, List.cons_append,
      List.dropWhile_cons_of_neg (show ¬ isSpace '-' = true by simp [bare]),
      magnitude_toDigits ends]
    omega

theorem value_chars (i : Int) : value (chars i) = i := by
  have whole : value (chars i ++ []) = i := value_chars_append (by simp)
  rwa [List.append_nil] at whole

theorem chars_injective {i j : Int} (same : chars i = chars j) : i = j := by
  rw [← value_chars i, same, value_chars]

theorem not_mem_chars {mark : Char} {i : Int} (noDigit : mark.isDigit = false) (noSign : mark ≠ '-') :
    mark ∉ chars i := by
  intro member
  rcases mem_chars member with digit | sign
  · rw [noDigit] at digit
    cases digit
  · exact noSign sign

/-- A mark that no number writes ends the number in front of it. -/
theorem split_at_mark {mark : Char} {i j : Int} {rest other : List Char}
    (noDigit : mark.isDigit = false) (noSign : mark ≠ '-')
    (same : chars i ++ mark :: rest = chars j ++ mark :: other) : i = j ∧ rest = other := by
  have free : ∀ {k : Int} {c : Char}, c ∈ chars k → c ≠ mark := by
    rintro k c member rfl
    exact not_mem_chars noDigit noSign member
  have front : ∀ (k : Int) (l : List Char), (chars k ++ mark :: l).takeWhile (· != mark) = chars k := by
    intro k l
    rw [List.takeWhile_append_of_pos fun c member => by simpa using free member]
    simp
  have texts : chars i = chars j := by
    rw [← front i rest, same, front]
  rw [texts] at same
  refine ⟨chars_injective texts, ?_⟩
  simpa using List.append_cancel_left same

/-- A mark that no number writes begins the number behind it. -/
theorem split_at_last_mark {mark : Char} {i j : Int} {front other : List Char}
    (noDigit : mark.isDigit = false) (noSign : mark ≠ '-')
    (same : front ++ mark :: chars i = other ++ mark :: chars j) : front = other ∧ i = j := by
  have apart : ∀ {k l : Int} {between : List Char},
      mark :: chars k = between ++ mark :: chars l → between = [] := by
    intro k l between split
    cases between with
    | nil => rfl
    | cons c between =>
        simp only [List.cons_append, List.cons.injEq] at split
        exact absurd (split.2 ▸ List.mem_append_right between List.mem_cons_self)
          (not_mem_chars noDigit noSign)
  have fronts : front = other := by
    rcases List.append_eq_append_iff.mp same with ⟨between, further, split⟩ | ⟨between, further, split⟩
    · rw [further, apart split, List.append_nil]
    · rw [further, apart split, List.append_nil]
  subst fronts
  simp only [List.append_cancel_left_eq, List.cons.injEq, true_and] at same
  exact ⟨rfl, chars_injective same⟩

end Decimal
