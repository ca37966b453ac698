/-!
# Texts by code

A text is a sequence of codes below `codeBound`. Two ranges of codes, the halves of surrogate pairs,
are no characters, and yet a document may hold them one by one. In a `String` a half stands as two
characters: the mark, which is the last character there is, and a character that tells the half; the
mark itself stands twice. `codes` reads a text in this way and `ofCodes` writes it, and no code is
lost between them (`codes_ofCodes`).
-/

namespace Automation.Text

/-- The least number that is no code. -/
def codeBound : Nat := 0x110000

/-- Whether a code is half of a surrogate pair. -/
def isHalf (n : Nat) : Bool := 0xD800 ≤ n && n < 0xE000

/-- The character in front of one that tells a half. -/
def halfMark : Char := Char.ofNat 0x10FFFF

/-- How far the character that tells a half is from the half. -/
def halfOffset : Nat := 0x800

/-- The characters of a code. -/
def ofCode (n : Nat) : List Char :=
  if isHalf n then [halfMark, Char.ofNat (n + halfOffset)]
  else if n = 0x10FFFF then [halfMark, halfMark]
  else [Char.ofNat n]

/-- The characters of a text with the given codes. -/
def ofCodes (ns : List Nat) : List Char := ns.flatMap ofCode

/-- The codes of a text. -/
def codes : List Char → List Nat
  | [] => []
  | [c] => [c.toNat]
  | c :: d :: rest =>
    if c = halfMark then
      (if d = halfMark then d.toNat else d.toNat - halfOffset) :: codes rest
    else c.toNat :: codes (d :: rest)

/-- A text of characters alone, none of which stands for a half. -/
def ofChars (cs : List Char) : List Char := cs.flatMap fun c => ofCode c.toNat

/-- Whether a text holds half of a surrogate pair. -/
def hasHalf (s : String) : Bool := (codes s.toList).any isHalf

/-- How many codes a text has. -/
def length (s : String) : Nat := (codes s.toList).length

/-- The texts of the single codes of a text. -/
def letters (s : String) : List String := (codes s.toList).map fun n => String.ofList (ofCode n)

theorem toNat_ofNat_of_isValidChar {n : Nat} (h : n.isValidChar) : (Char.ofNat n).toNat = n := by
  unfold Char.ofNat
  rw [dif_pos h]
  rfl

theorem toNat_halfMark : halfMark.toNat = 0x10FFFF := by decide

/-- The codes of a code in front of a text. -/
theorem codes_ofCode_append {n : Nat} (h : n < codeBound) (cs : List Char) :
    codes (ofCode n ++ cs) = n :: codes cs := by
  unfold codeBound at h
  unfold ofCode
  by_cases half : isHalf n
  · have range : 0xD800 ≤ n ∧ n < 0xE000 := by simpa [isHalf] using half
    have valid : (n + halfOffset).isValidChar := .inr (by simp only [halfOffset]; omega)
    have ne : Char.ofNat (n + halfOffset) ≠ halfMark := by
      intro eq
      have := congrArg Char.toNat eq
      rw [toNat_ofNat_of_isValidChar valid, toNat_halfMark] at this
      simp only [halfOffset] at this
      omega
    simp [half, codes, ne, toNat_ofNat_of_isValidChar valid]
  · by_cases last : n = 0x10FFFF
    · subst last
      simp [isHalf, codes, toNat_halfMark]
    · have range : ¬ (0xD800 ≤ n ∧ n < 0xE000) := by simpa [isHalf] using half
      have valid : n.isValidChar := by
        unfold Nat.isValidChar
        omega
      have ne : Char.ofNat n ≠ halfMark := by
        intro eq
        have := congrArg Char.toNat eq
        rw [toNat_ofNat_of_isValidChar valid, toNat_halfMark] at this
        exact last this
      cases cs with
      | nil => simp [half, last, codes, toNat_ofNat_of_isValidChar valid]
      | cons c rest => simp [half, last, codes, ne, toNat_ofNat_of_isValidChar valid]

/-- No code is lost when a text is written and read by code. -/
theorem codes_ofCodes {ns : List Nat} (h : ∀ n ∈ ns, n < codeBound) : codes (ofCodes ns) = ns := by
  induction ns with
  | nil => rfl
  | cons n ns ih =>
    simp only [List.mem_cons, forall_eq_or_imp] at h
    rw [ofCodes, List.flatMap_cons, codes_ofCode_append h.1]
    exact congrArg _ (ih h.2)

end Automation.Text
