/-!
# Blanks and decimal digits

The blank characters, trimming, and the decimal digits of all scripts.
`trim_eq_self_iff` says that trimming leaves exactly the texts alone that neither start nor end
with a blank.
-/

namespace Automation.Text

/-- A blank: the ASCII separators and the space characters of Unicode. -/
def isBlank (c : Char) : Bool :=
  let n := c.toNat
  (9 ≤ n && n ≤ 13) || (28 ≤ n && n ≤ 32) || n == 0x85 || n == 0xA0 || n == 0x1680
    || (0x2000 ≤ n && n ≤ 0x200A) || n == 0x2028 || n == 0x2029 || n == 0x202F || n == 0x205F
    || n == 0x3000

/-- A text without the blanks at its start. -/
def trimStart (cs : List Char) : List Char := cs.dropWhile isBlank

/-- A text without the blanks at its end. -/
def trimEnd (cs : List Char) : List Char := (cs.reverse.dropWhile isBlank).reverse

/-- A text without the blanks at its two ends. -/
def trim (cs : List Char) : List Char := trimEnd (trimStart cs)

/-- The zeros of the decimal digits of all scripts; each is followed by its other nine digits. -/
def zeros : List Nat := [
    0x30, 0x660, 0x6F0, 0x7C0, 0x966, 0x9E6, 0xA66, 0xAE6, 0xB66, 0xBE6, 0xC66, 0xCE6, 0xD66, 0xDE6,
    0xE50, 0xED0, 0xF20, 0x1040, 0x1090, 0x17E0, 0x1810, 0x1946, 0x19D0, 0x1A80, 0x1A90, 0x1B50,
    0x1BB0, 0x1C40, 0x1C50, 0xA620, 0xA8D0, 0xA900, 0xA9D0, 0xA9F0, 0xAA50, 0xABF0, 0xFF10, 0x104A0,
    0x10D30, 0x11066, 0x110F0, 0x11136, 0x111D0, 0x112F0, 0x11450, 0x114D0, 0x11650, 0x116C0,
    0x11730, 0x118E0, 0x11950, 0x11C50, 0x11D50, 0x11DA0, 0x16A60, 0x16AC0, 0x16B50, 0x1D7CE,
    0x1D7D8, 0x1D7E2, 0x1D7EC, 0x1D7F6, 0x1E140, 0x1E2F0, 0x1E950, 0x1FBF0]

/-- The value of a decimal digit of any script. -/
def digitValue? (c : Char) : Option Nat :=
  (zeros.find? fun z => z ≤ c.toNat && c.toNat ≤ z + 9).map fun z => c.toNat - z

/-- The digit of ASCII with a value below ten. -/
def digitChar (n : Nat) : Char := Char.ofNat (48 + n % 10)

/-- A text in which the digits of all scripts are written in ASCII and all blanks as spaces. -/
def asciiDigits (cs : List Char) : List Char :=
  cs.map fun c =>
    if c.toNat < 0x80 then c
    else match digitValue? c with
      | some n => digitChar n
      | none => if isBlank c then ' ' else c

/-- The value of a hexadecimal digit. -/
def hexValue? (c : Char) : Option Nat :=
  if '0' ≤ c && c ≤ '9' then some (c.toNat - 48)
  else if 'a' ≤ c && c ≤ 'f' then some (c.toNat - 87)
  else if 'A' ≤ c && c ≤ 'F' then some (c.toNat - 55)
  else none

/-- The letters of ASCII in lower case, all else as it is. -/
def lowerAscii (cs : List Char) : List Char := cs.map Char.toLower

theorem dropWhile_eq_self_iff_head {p : Char → Bool} {cs : List Char} :
    cs.dropWhile p = cs ↔ ∀ c ∈ cs.head?, p c = false := by
  cases cs with
  | nil => simp
  | cons c rest =>
    cases h : p c with
    | false => simp [h]
    | true =>
      simp only [List.dropWhile_cons, h, if_true, List.head?_cons, Option.mem_some_iff,
        forall_eq', reduceCtorEq, iff_false]
      intro eq
      have := congrArg List.length eq
      have le := (List.dropWhile_sublist (p := p) (l := rest)).length_le
      simp at this
      omega

/-- Trimming leaves exactly the texts alone that neither start nor end with a blank. -/
theorem trim_eq_self_iff {cs : List Char} :
    trim cs = cs ↔
      (∀ c ∈ cs.head?, isBlank c = false) ∧ ∀ c ∈ cs.getLast?, isBlank c = false := by
  constructor
  · intro h
    have whole : trimStart cs = cs := by
      have a : (trim cs).length ≤ (trimStart cs).length := by
        simpa [trim, trimEnd] using
          (List.dropWhile_sublist (p := isBlank) (l := (trimStart cs).reverse)).length_le
      have b := List.dropWhile_sublist (p := isBlank) (l := cs)
      rw [h] at a
      exact b.eq_of_length_le a
    refine ⟨dropWhile_eq_self_iff_head.1 whole, ?_⟩
    unfold trim at h
    rw [whole] at h
    have back : cs.reverse.dropWhile isBlank = cs.reverse := by
      have := congrArg List.reverse h
      simpa [trimEnd] using this
    simpa using dropWhile_eq_self_iff_head.1 back
  · rintro ⟨front, back⟩
    have whole : trimStart cs = cs := dropWhile_eq_self_iff_head.2 front
    unfold trim trimEnd
    rw [whole, dropWhile_eq_self_iff_head.2 (by simpa using back), List.reverse_reverse]

end Automation.Text
