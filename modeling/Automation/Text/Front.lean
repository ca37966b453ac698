/-!
# The front of a text

Taking a word off the front of a text. `dropFront?_eq_some_iff` says that this is the reverse of
putting it there.
-/

namespace Automation.Text

/-- The text behind a word that it starts with. -/
def dropFront? : List Char → List Char → Option (List Char)
  | [], cs => some cs
  | w :: word, c :: cs => if w = c then dropFront? word cs else none
  | _ :: _, [] => none

/-- The text behind a word is what the word was put in front of. -/
theorem dropFront?_eq_some_iff {word cs rest : List Char} :
    dropFront? word cs = some rest ↔ cs = word ++ rest := by
  induction word generalizing cs with
  | nil => simp [dropFront?]
  | cons w word ih =>
    cases cs with
    | nil => simp [dropFront?]
    | cons c cs =>
      by_cases h : w = c
      · simp [dropFront?, h, ih]
      · have : ¬ c = w := fun e => h e.symm
        simp [dropFront?, h, this]

@[simp] theorem dropFront?_append (word rest : List Char) :
    dropFront? word (word ++ rest) = some rest :=
  dropFront?_eq_some_iff.2 rfl

end Automation.Text
