/-!
# Ranges of code points

A table of a character property is a list of closed ranges in increasing order. The order lets a
look-up stop early, and `member_iff` says that nothing is missed by that.
-/

namespace Automation.Text

/-- A closed range of code points: first and last. -/
abbrev Range := Nat × Nat

namespace Range

/-- Whether a code point lies in one of the ranges of an ordered table. -/
def member : List Range → Nat → Bool
  | [], _ => false
  | (first, last) :: rest, n => if n ≤ last then first ≤ n else member rest n

/-- Each range is followed only by ranges that start behind its end. -/
def Ordered (ranges : List Range) : Prop :=
  ranges.Pairwise fun a b => a.2 < b.1

/-- Stopping at the first range that ends at or behind the code point misses none. -/
theorem member_iff {ranges : List Range} (h : Ordered ranges) (n : Nat) :
    member ranges n = true ↔ ∃ r ∈ ranges, r.1 ≤ n ∧ n ≤ r.2 := by
  induction ranges with
  | nil => simp [member]
  | cons r rest ih =>
    obtain ⟨first, last⟩ := r
    obtain ⟨behind, tail⟩ := List.pairwise_cons.1 h
    unfold member
    split
    · rename_i le
      constructor
      · intro ge
        exact ⟨_, List.mem_cons_self, by simpa using ge, le⟩
      · rintro ⟨r, mem, ge, le'⟩
        rcases List.mem_cons.1 mem with rfl | mem
        · simpa using ge
        · have := behind r mem
          simp at this ⊢
          omega
    · rename_i gt
      rw [ih tail]
      constructor
      · rintro ⟨r, mem, ge, le⟩
        exact ⟨r, List.mem_cons_of_mem _ mem, ge, le⟩
      · rintro ⟨r, mem, ge, le⟩
        rcases List.mem_cons.1 mem with rfl | mem
        · exact absurd le gt
        · exact ⟨r, mem, ge, le⟩

end Range

end Automation.Text
