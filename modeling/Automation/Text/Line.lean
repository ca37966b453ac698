/-!
# Line ends

Texts come with three kinds of line ends: a line feed, a carriage return, or both. `unifyBreaks`
writes them all as line feeds, so that no carriage return is left (`not_mem_unifyBreaks`).
-/

namespace Automation.Text

/-- A text with each of its line ends written as one line feed. -/
def unifyBreaks : List Char → List Char
  | '\r' :: '\n' :: rest => '\n' :: unifyBreaks rest
  | '\r' :: rest => '\n' :: unifyBreaks rest
  | c :: rest => c :: unifyBreaks rest
  | [] => []

/-- No carriage return is left. -/
theorem not_mem_unifyBreaks (cs : List Char) : '\r' ∉ unifyBreaks cs := by
  fun_induction unifyBreaks cs with
  | case1 rest ih => simp [ih]
  | case2 rest _ ih => simp [ih]
  | case3 c rest _ h ih => simpa [ih] using fun e => h e.symm
  | case4 => simp

/-- A text without carriage returns stays as it is. -/
theorem unifyBreaks_of_not_mem {cs : List Char} (h : '\r' ∉ cs) : unifyBreaks cs = cs := by
  fun_induction unifyBreaks cs with
  | case1 rest ih => simp at h
  | case2 rest _ ih => simp at h
  | case3 c rest _ _ ih => rw [ih fun mem => h (List.mem_cons_of_mem c mem)]
  | case4 => rfl

end Automation.Text
