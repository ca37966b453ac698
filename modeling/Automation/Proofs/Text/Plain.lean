import Automation.Graph.Structure
import Automation.Text.Blank
import Automation.Text.Code
import Automation.Text.Front
import Automation.Text.Line

/-!
# Id characters and plain texts

What every reader of texts relies on when it meets a node id: an id character is one of ASCII, is no
blank, and is none of the characters that delimit anything (`isIdChar_ne`).
-/

namespace Automation.Text

/-- The codes of id characters: the point and the hyphen, digits and the colon, letters, and the low
line. -/
theorem toNat_of_isIdChar {c : Char} (h : isIdChar c = true) :
    c.toNat = 45 ∨ c.toNat = 46 ∨ (48 ≤ c.toNat ∧ c.toNat ≤ 58) ∨ (65 ≤ c.toNat ∧ c.toNat ≤ 90)
      ∨ c.toNat = 95 ∨ (97 ≤ c.toNat ∧ c.toNat ≤ 122) := by
  have point (d : Char) (hd : c = d) : c.toNat = d.toNat := congrArg Char.toNat hd
  delta isIdChar Char.isAlphanum Char.isAlpha Char.isUpper Char.isLower Char.isDigit at h
  simp only [Bool.or_eq_true, Bool.and_eq_true, decide_eq_true_eq, beq_iff_eq, ge_iff_le,
    UInt32.le_iff_toNat_le] at h
  change ((((((65 ≤ c.toNat ∧ c.toNat ≤ 90) ∨ (97 ≤ c.toNat ∧ c.toNat ≤ 122))
    ∨ (48 ≤ c.toNat ∧ c.toNat ≤ 57)) ∨ _) ∨ _) ∨ _) ∨ _ at h
  -- a range for letters of either case and for digits, and a case for each mark
  rcases h with (((((h | h) | h) | h) | h) | h) | h
  · omega
  · omega
  · omega
  · have : c.toNat = 95 := point '_' h
    omega
  · have : c.toNat = 46 := point '.' h
    omega
  · have : c.toNat = 58 := point ':' h
    omega
  · have : c.toNat = 45 := point '-' h
    omega

/-- An id character is none of any other characters. -/
theorem isIdChar_ne {c d : Char} (h : isIdChar c = true) (hd : isIdChar d = false) : c ≠ d := by
  rintro rfl
  rw [h] at hd
  cases hd

theorem isBlank_of_isIdChar {c : Char} (h : isIdChar c = true) : isBlank c = false := by
  have := toNat_of_isIdChar h
  simp only [isBlank, Bool.or_eq_false_iff, Bool.and_eq_false_iff, decide_eq_false_iff_not,
    beq_eq_false_iff_ne]
  omega

theorem isAscii_of_isIdChar {c : Char} (h : isIdChar c = true) : c.toNat < 0x80 := by
  have := toNat_of_isIdChar h
  omega

/-- Decided by going through the text, and not through all characters. -/
instance decidableAllIdChars (cs : List Char) : Decidable (∀ c ∈ cs, isIdChar c = true) :=
  decidable_of_iff (cs.all isIdChar = true) List.all_eq_true

/-- A text of id characters, at least one. -/
def IsName (cs : List Char) : Prop := cs ≠ [] ∧ ∀ c ∈ cs, isIdChar c = true

/-- The reserved end state looks like an id. -/
theorem isName_endState : IsName endState.toList :=
  ⟨by decide, by decide⟩

/-- A text of ASCII holds no half of a surrogate pair. -/
theorem codes_any_isHalf {cs : List Char} (h : ∀ c ∈ cs, c.toNat < 0x80) :
    (codes cs).any isHalf = false := by
  induction cs using codes.induct with
  | case1 => rfl
  | case2 c =>
    have := h c (by simp)
    simp [codes, isHalf]
    omega
  | case3 rest d _ =>
    -- the mark of a half is beyond ASCII
    have := h halfMark (by simp)
    rw [toNat_halfMark] at this
    omega
  | case4 c d rest hc ih =>
    have hlt := h c (by simp)
    have hrest := ih fun x hx => h x (List.mem_cons_of_mem _ hx)
    have hhalf : isHalf c.toNat = false := by
      simp [isHalf]
      omega
    rw [codes, if_neg hc, List.any_cons, hhalf, Bool.false_or, hrest]

/-- Blanks around a text that neither starts nor ends with one are trimmed away. -/
theorem trim_between_blanks {c d : Char} {cs : List Char} (hc : isBlank c = true)
    (hd : isBlank d = true) (hne : cs ≠ []) (hfront : ∀ x ∈ cs.head?, isBlank x = false)
    (hback : ∀ x ∈ cs.getLast?, isBlank x = false) : trim (c :: (cs ++ [d])) = cs := by
  have hstart : trimStart (c :: (cs ++ [d])) = cs ++ [d] := by
    rw [trimStart, List.dropWhile_cons, if_pos hc]
    refine dropWhile_eq_self_iff_head.2 ?_
    rwa [List.head?_append, List.head?_eq_some_head hne, Option.some_or, ← List.head?_eq_some_head hne]
  rw [trim, hstart, trimEnd, List.reverse_append, List.reverse_singleton, List.singleton_append,
    List.dropWhile_cons, if_pos hd, dropWhile_eq_self_iff_head.2 (by simpa using hback),
    List.reverse_reverse]

/-- A number is told from its digits. -/
theorem toList_toString_inj {m n : Nat} (h : (toString m).toList = (toString n).toList) : m = n := by
  rw [Nat.toString_eq_repr, Nat.toString_eq_repr, Nat.toList_repr, Nat.toList_repr] at h
  have hvalue := congrArg (Nat.ofDigitChars 10 · 0) h
  simpa only [Nat.ofDigitChars_ten_toDigits] using hvalue

end Automation.Text
