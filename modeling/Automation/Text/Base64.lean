/-!
# Base 64

Byte strings as texts of sixty-four letters, three bytes in four letters. Writing breaks the text
into lines of fifty-seven bytes; reading skips whatever is no letter.
-/

namespace Automation.Text.Base64

/-- The letters by their value. -/
def letters : List Char :=
  "ABCDEFGHIJKLMNOPQRSTUVWXYZabcdefghijklmnopqrstuvwxyz0123456789+/".toList

/-- The letter of a value below sixty-four. -/
def letter (n : Nat) : Char := letters.getD n 'A'

/-- The value of a letter. -/
def value? (c : Char) : Option Nat := letters.findIdx? (· == c)

/-- The letters of a line of bytes; the last group is filled up with equals signs. -/
def encodeLine : List UInt8 → List Char
  | a :: b :: c :: rest =>
    let n := (a.toNat * 256 + b.toNat) * 256 + c.toNat
    letter (n / 262144) :: letter (n / 4096 % 64) :: letter (n / 64 % 64) :: letter (n % 64)
      :: encodeLine rest
  | [a, b] =>
    let n := (a.toNat * 256 + b.toNat) * 4
    [letter (n / 4096), letter (n / 64 % 64), letter (n % 64), '=']
  | [a] =>
    let n := a.toNat * 16
    [letter (n / 64), letter (n % 64), '=', '=']
  | [] => []

/-- The lines of a byte string, each with its line feed. -/
def encode (bs : List UInt8) : List Char :=
  match bs with
  | [] => []
  | b :: rest => encodeLine ((b :: rest).take 57) ++ '\n' :: encode (rest.drop 56)
termination_by bs.length
decreasing_by
  simp only [List.length_drop, List.length_cons]
  omega

/-- What has been read of a group of four letters. -/
structure Group where
  /-- the bits that are not yet part of a byte -/
  bits : Nat := 0
  /-- the number of letters -/
  count : Nat := 0
  /-- the number of equals signs behind them -/
  pads : Nat := 0

/-- The bytes of a text, or none when its last group is not complete. Once a group is filled up with
equals signs the rest is skipped. -/
def decodeFrom (g : Group) : List Char → Option (List UInt8)
  | [] => if g.count = 0 then some [] else none
  | c :: rest =>
    if c == '=' then
      if 2 ≤ g.count && 4 ≤ g.count + g.pads + 1 then some []
      else decodeFrom { g with pads := if 2 ≤ g.count then g.pads + 1 else g.pads } rest
    else
      match value? c with
      | none => decodeFrom g rest
      | some v =>
        match g.count with
        | 0 => decodeFrom ⟨v, 1, 0⟩ rest
        | 1 =>
          let n := g.bits * 64 + v
          (decodeFrom ⟨n % 16, 2, 0⟩ rest).map (UInt8.ofNat (n / 16) :: ·)
        | 2 =>
          let n := g.bits * 64 + v
          (decodeFrom ⟨n % 4, 3, 0⟩ rest).map (UInt8.ofNat (n / 4) :: ·)
        | _ =>
          let n := g.bits * 64 + v
          (decodeFrom {} rest).map (UInt8.ofNat n :: ·)

/-- The bytes of a text. -/
def decode? (cs : List Char) : Option (List UInt8) := decodeFrom {} cs

example : encodeLine [104, 105] = ['a', 'G', 'k', '='] := by decide +kernel
example : decode? ['a', 'G', 'k', '='] = some [104, 105] := by decide +kernel

end Automation.Text.Base64
