import Automation.Dispatch.Loop
import Automation.Proofs.Text.Plain
import Automation.Proofs.Value.Entries
import Automation.Template.Evaluation
import Mathlib.Data.Bool.AllAny

/-!
# The conditions of a dispatch loop

What the two templates of a dispatch loop say. The test of a state holds exactly in that state
(`holds_stateTest`). The condition to stop can hold only in the end state or at the last pass
(`eq_or_le_of_holds_untilTest`); a bound with too many digits to be read makes it never hold, so the
converse is not claimed.

Both are read token by token: the words of a template are fixed texts, and the names in it are runs
of id characters between quotes.
-/

namespace Automation.Template

open Text Dispatch

/-! ## Tokens -/

/-- Id characters go on until the quote. -/
theorem untilQuote_name {s : List Char} (h : ∀ c ∈ s, isIdChar c = true) (rest : List Char) :
    untilQuote '\'' (s ++ '\'' :: rest) = some (s, rest) := by
  induction s with
  | nil => simp [untilQuote]
  | cons c s ih =>
    have hc := h c (by simp)
    have hquote : c ≠ '\'' := isIdChar_ne hc (by decide)
    have hescape : c ≠ '\\' := isIdChar_ne hc (by decide)
    have hbreak : c ≠ '\n' := isIdChar_ne hc (by decide)
    rw [List.cons_append, untilQuote]
    · simp [hquote, hbreak, ih fun x hx => h x (List.mem_cons_of_mem _ hx)]
    · intro d more hd
      exact absurd hd hescape

/-- Id characters have no escapes. -/
theorem unescape_name {s : List Char} (h : ∀ c ∈ s, isIdChar c = true) :
    unescape false s.length s = some s := by
  induction s with
  | nil => rfl
  | cons c s ih =>
    have hescape : c ≠ '\\' := isIdChar_ne (h c (by simp)) (by decide)
    rw [List.length_cons, unescape]
    · rw [ih fun x hx => h x (List.mem_cons_of_mem _ hx)]
      rfl
    · intro d more hd
      exact absurd hd hescape

/-- A name between quotes is a constant. -/
theorem token?_quoted {s : List Char} (h : IsName s) (rest : List Char) :
    token? ('\'' :: (s ++ '\'' :: rest)) = some (.constant (.value (.str (String.ofList s))), rest) := by
  obtain ⟨hne, hs⟩ := h
  obtain ⟨c, more, rfl⟩ := List.exists_cons_of_ne_nil hne
  have hquote : c ≠ '\'' := isIdChar_ne (hs c (by simp)) (by decide)
  have hdouble : dropFront? ['\'', '\''] (c :: more ++ '\'' :: rest) = none := by
    simp [dropFront?, Ne.symm hquote]
  have hbody : untilQuote '\'' (c :: more ++ '\'' :: rest) = some (c :: more, rest) :=
    untilQuote_name hs rest
  have hplain := unescape_name hs
  generalize c :: more = word at hdouble hbody hplain ⊢
  have hstart : isNameStart '\'' = false := by decide
  simp [token?, hstart, text?, hdouble, hbody, hplain]

/-- A blank leaves no trace. -/
theorem tokensFrom?_blank (n : Nat) (rest : List Char) :
    tokensFrom? (n + 1) [] (' ' :: rest) = tokensFrom? n [] rest := by
  simp [tokensFrom?]

/-- Tokens up to the first one and behind it. A bracket would change what is open. -/
theorem tokensFrom?_token {c : Char} {rest behind : List Char} {t : Token} (n : Nat)
    (hc : [' ', '\t', '\x0c', '\n', '#', '\\'].contains c = false)
    (ht : token? (c :: rest) = some (t, behind))
    (hopen : ∀ m, t = .mark m → brackets? m [] = some []) :
    tokensFrom? (n + 1) [] (c :: rest) = (tokensFrom? n [] behind).map (t :: ·) := by
  simp only [List.contains_cons, List.contains_nil, Bool.or_false, Bool.or_eq_false_iff,
    beq_eq_false_iff_ne] at hc
  obtain ⟨h1, h2, h3, h4, h5, h6⟩ := hc
  simp only [tokensFrom?, h1, h2, h3, h4, h5, h6, ht, if_false, decide_false, Bool.or_self,
    Bool.false_eq_true, Option.bind_eq_bind, Option.bind_some]
  cases t with
  | mark m =>
    show (brackets? m []).bind _ = _
    rw [hopen m rfl, Option.bind_some]
  | _ => rfl

/-- The state variable, the sign of equality and a name between quotes, in front of a text. -/
theorem tokensFrom?_equals {s : List Char} (h : IsName s) (n : Nat) (rest : List Char) :
    tokensFrom? (n + 5) [] ("current_node == '".toList ++ (s ++ '\'' :: rest))
      = (tokensFrom? n [] rest).map fun ts =>
        .name "current_node" :: .mark "==" :: .constant (.value (.str (String.ofList s))) :: ts := by
  have hname (more : List Char) : token? ("current_node".toList ++ ' ' :: more)
      = some (.name "current_node", ' ' :: more) := rfl
  have hmark (more : List Char) : token? ("==".toList ++ ' ' :: more)
      = some (.mark "==", ' ' :: more) := rfl
  have hwords : "current_node == '".toList ++ (s ++ '\'' :: rest)
      = "current_node".toList ++ ' ' :: ("==".toList ++ ' ' :: '\'' :: (s ++ '\'' :: rest)) := by
    simp
  rw [hwords]
  refine (tokensFrom?_token _ (by decide) (hname _) (by simp)).trans ?_
  rw [tokensFrom?_blank]
  refine (congrArg _ (tokensFrom?_token _ (by decide) (hmark _) ?_)).trans ?_
  · rintro m ⟨⟩
    rfl
  rw [tokensFrom?_blank, tokensFrom?_token _ (by decide) (token?_quoted h rest) (by simp)]
  cases tokensFrom? n [] rest <;> rfl

/-- Whether a character is of ASCII and neither a carriage return nor zero. A text of such
characters that starts with a token is split into tokens as it is. -/
def IsPlain (c : Char) : Prop := c.toNat < 0x80 ∧ c ≠ '\r' ∧ c ≠ '\x00'

instance (c : Char) : Decidable (IsPlain c) := inferInstanceAs (Decidable (_ ∧ _ ∧ _))

theorem IsPlain.of_isIdChar {c : Char} (h : isIdChar c = true) : IsPlain c :=
  ⟨isAscii_of_isIdChar h, isIdChar_ne h (by decide), isIdChar_ne h (by decide)⟩

/-- A text that starts with a token has no empty lines in front of it. -/
theorem dropEmptyLines?_of_head? {cs : List Char} {c : Char} (n : Nat) (hc : cs.head? = some c)
    (hstart : [' ', '\t', '\x0c', '\n', '#', '\\'].contains c = false) :
    dropEmptyLines? (n + 1) false false cs = some cs := by
  obtain ⟨rest, rfl⟩ : ∃ rest, cs = c :: rest := List.head?_eq_some_iff.1 hc
  simp only [List.contains_cons, List.contains_nil, Bool.or_false, Bool.or_eq_false_iff,
    beq_eq_false_iff_ne] at hstart
  obtain ⟨h1, h2, h3, h4, h5, h6⟩ := hstart
  simp [dropEmptyLines?, h1, h2, h3, h4, h5, h6]

/-- The tokens of a text of plain characters, apart from the line ends behind them. -/
theorem tokens?_of_plain {cs : List Char} {c : Char} (hc : cs.head? = some c)
    (hstart : [' ', '\t', '\x0c', '\n', '#', '\\'].contains c = false)
    (h : ∀ c ∈ cs, IsPlain c) :
    tokens? cs = (tokensFrom? (cs.length + 1) [] cs).map fun ts =>
      (ts.reverse.dropWhile Token.isLineEnd).reverse := by
  have hreturn : '\r' ∉ cs := fun hr => (h _ hr).2.1 rfl
  have hzero : '\x00' ∉ cs := fun hz => (h _ hz).2.2 rfl
  simp only [tokens?, unifyBreaks_of_not_mem hreturn, codes_any_isHalf fun c hc => (h c hc).1,
    List.contains_iff_mem, hzero, dropEmptyLines?_of_head? _ hc hstart, Bool.false_or, if_false,
    Option.bind_eq_bind, Option.bind_some, Option.pure_def]
  cases tokensFrom? (cs.length + 1) [] cs <;> rfl

/-- The tokens of a text of plain characters, when its last token is no line end. -/
theorem tokens?_of_tokensFrom? {cs : List Char} {c : Char} (ts : List Token) {t : Token}
    (hc : cs.head? = some c) (hstart : [' ', '\t', '\x0c', '\n', '#', '\\'].contains c = false)
    (hplain : ∀ c ∈ cs, IsPlain c) (h : tokensFrom? (cs.length + 1) [] cs = some (ts ++ [t]))
    (ht : t.isLineEnd = false) : tokens? cs = some (ts ++ [t]) := by
  rw [tokens?_of_plain hc hstart hplain, h]
  simp [ht]

/-! ## The test of a state -/

/-- The text of a test of a state. -/
theorem toList_stateTest (id : String) :
    (stateVariable ++ " == '" ++ id ++ "'").toList
      = "current_node == '".toList ++ (id.toList ++ ['\'']) := by
  simp [stateVariable]

/-- A test of a state has plain characters only. -/
theorem isPlain_of_mem_stateTest {id : String} {c : Char} (hid : IsName id.toList)
    (hc : c ∈ "current_node == '".toList ++ (id.toList ++ ['\''])) : IsPlain c := by
  have hwords : ∀ c ∈ "current_node == '".toList, IsPlain c :=
    List.all_iff_forall_prop.1 (by decide)
  rcases List.mem_append.1 hc with h | h
  · exact hwords c h
  · rcases List.mem_append.1 h with h | h
    · exact .of_isIdChar (hid.2 c h)
    · rw [List.mem_singleton.1 h]
      decide

/-- The expression of a test of a state. -/
theorem parse?_stateTest {id : String} (hid : IsName id.toList) :
    parse? ("current_node == '".toList ++ (id.toList ++ ['\'']))
      = some (.compare (.name "current_node") [(some .equal, .constant (.value (.str id)))]) := by
  have hfrom : tokensFrom? (("current_node == '".toList ++ (id.toList ++ ['\''])).length + 1) []
        ("current_node == '".toList ++ (id.toList ++ ['\'']))
      = some ([.name "current_node", .mark "=="] ++ [.constant (.value (.str id))]) := by
    have hlen : ("current_node == '".toList ++ (id.toList ++ ['\''])).length + 1
        = id.toList.length + 13 + 1 + 5 := by
      simp
    rw [hlen, tokensFrom?_equals hid]
    simp [tokensFrom?]
  have htokens : tokens? ("current_node == '".toList ++ (id.toList ++ ['\'']))
      = some ([.name "current_node", .mark "=="] ++ [.constant (.value (.str id))]) :=
    tokens?_of_tokensFrom? _ rfl (by decide) (fun _ => isPlain_of_mem_stateTest hid) hfrom rfl
  unfold parse?
  rw [htokens]
  rfl

/-- Braces around an expression that neither starts nor ends with a blank. -/
theorem expressionOf_inBraces {expression : String} (hne : expression.toList ≠ [])
    (hfront : ∀ c ∈ expression.toList.head?, isBlank c = false)
    (hback : ∀ c ∈ expression.toList.getLast?, isBlank c = false) :
    expressionOf (inBraces expression).toList = expression.toList := by
  have htext : (inBraces expression).toList
      = '{' :: '{' :: (' ' :: (expression.toList ++ [' '])) ++ ['}', '}'] := by
    simp [inBraces]
  -- there is no blank outside the braces
  have htrim : trim (inBraces expression).toList = (inBraces expression).toList := by
    refine trim_eq_self_iff.2 ⟨?_, ?_⟩
    · rw [htext]
      rintro c ⟨⟩
      decide
    · rw [htext]
      simp only [List.getLast?_append]
      rintro c ⟨⟩
      decide
  -- the braces are taken off in front and, in the text turned round, behind
  have hopen : dropFront? "\x7b\x7b".toList (inBraces expression).toList
      = some ((' ' :: (expression.toList ++ [' '])) ++ ['}', '}']) := by
    rw [htext]
    rfl
  have hclose : dropFront? "\x7d\x7d".toList (inBraces expression).toList.reverse
      = some ('{' :: '{' :: (' ' :: (expression.toList ++ [' ']))).reverse := by
    rw [htext, List.reverse_append]
    rfl
  unfold expressionOf
  simp only [htrim, hopen, hclose]
  rw [htext]
  simp only [List.cons_append, List.drop_succ_cons, List.drop_zero]
  rw [show ' ' :: (expression.toList ++ [' '] ++ ['}', '}'])
      = (' ' :: (expression.toList ++ [' '])) ++ ['}'] ++ ['}'] by simp,
    List.dropLast_concat, List.dropLast_concat]
  exact trim_between_blanks (by decide) (by decide) hne hfront hback

/-- A template of an expression holds when the expression counts as true. -/
theorem holds_inBraces {expression : String} {vars : Entries} (hlong : 4 < expression.toList.length)
    (hfront : ∀ c ∈ expression.toList.head?, isBlank c = false)
    (hback : ∀ c ∈ expression.toList.getLast?, isBlank c = false) :
    holds vars (inBraces expression)
      = ((parse? expression.toList).bind (evaluate? vars)).any (·.truthy) := by
  have hne : expression.toList ≠ [] := List.ne_nil_of_length_pos (by omega)
  have hword : lowerAscii expression.toList ≠ "true".toList := by
    intro h
    have := congrArg List.length h
    simp [lowerAscii] at this
    omega
  unfold holds
  rw [expressionOf_inBraces hne hfront hback]
  have hempty : expression.toList.isEmpty = false := by simpa using hne
  simp only [hempty, Bool.false_or, decide_eq_true_eq, if_neg hword]
  cases (parse? expression.toList).bind (evaluate? vars) <;> rfl

/-- The test of a state holds exactly in that state. -/
theorem holds_stateTest {id state : String} {vars : Entries} (hid : IsName id.toList)
    (hstate : vars.get? stateVariable = some (.str state)) :
    holds vars (inBraces (stateVariable ++ " == '" ++ id ++ "'")) = (state == id) := by
  rw [holds_inBraces, toList_stateTest, parse?_stateTest hid]
  · have hsame : Value.same (.str state) (.str id) = (state == id) := by
      rw [Value.same_str, Value.isText_str, Bool.beq_comm]
    rw [stateVariable] at hstate
    simp only [Option.bind_some, evaluate?, hstate, chain?, Datum.holds?, Value.holds?, hsame]
    cases state == id <;> rfl
  · rw [toList_stateTest]
    simp
  · rw [toList_stateTest]
    rintro c ⟨⟩
    decide
  · rw [toList_stateTest]
    simp only [List.getLast?_append, List.getLast?_singleton]
    rintro c ⟨⟩
    decide

/-! ## The condition to stop -/

/-- Digits are one run. -/
theorem digitRun_of_digits {cs : List Char} (h : ∀ c ∈ cs, c.isDigit = true) :
    digitRun Char.isDigit cs = some (cs, []) := by
  induction cs with
  | nil => rfl
  | cons c cs ih =>
    have hc := h c (by simp)
    have hline : c ≠ '_' := by
      rintro rfl
      cases hc
    rw [digitRun]
    · simp [hc, ih fun x hx => h x (List.mem_cons_of_mem _ hx)]
    · intro d rest hd
      exact absurd hd hline
    · intro hd
      exact absurd hd hline

theorem toNat_of_isDigit {c : Char} (h : c.isDigit = true) : 48 ≤ c.toNat ∧ c.toNat ≤ 57 := by
  simp only [Char.isDigit, Bool.and_eq_true, decide_eq_true_eq, ge_iff_le,
    UInt32.le_iff_toNat_le] at h
  exact h

/-- The value of digits behind others. -/
theorem groupedFrom?_of_digits {cs : List Char} (h : ∀ c ∈ cs, c.isDigit = true) (hne : cs ≠ [])
    (value : Nat) (afterDigit : Bool) :
    Literal.groupedFrom? 10 value afterDigit cs = some (Nat.ofDigitChars 10 cs value) := by
  -- on the digits, with the value of those that were read
  induction cs generalizing value afterDigit with
  | nil => exact absurd rfl hne
  | cons c cs ih =>
    have hc := h c (by simp)
    have hline : c ≠ '_' := by
      rintro rfl
      cases hc
    have hrange := toNat_of_isDigit hc
    have hvalue : hexValue? c = some (c.toNat - '0'.toNat) := by
      rw [hexValue?, if_pos]
      · rfl
      · have hzero : '0' ≤ c := UInt32.le_iff_toNat_le.2 hrange.1
        have hnine : c ≤ '9' := UInt32.le_iff_toNat_le.2 hrange.2
        simp [hzero, hnine]
    have hsmall : c.toNat - '0'.toNat < 10 := by
      have : '0'.toNat = 48 := rfl
      omega
    rw [Literal.groupedFrom?, if_neg hline, hvalue]
    simp only [hsmall, if_true]
    rw [Nat.ofDigitChars_cons, Nat.mul_comm 10 value]
    by_cases hcs : cs = []
    · subst hcs
      rfl
    · exact ih (fun x hx => h x (List.mem_cons_of_mem _ hx)) hcs _ _

theorem isBlank_of_isDigit {c : Char} (h : c.isDigit = true) : isBlank c = false := by
  have := toNat_of_isDigit h
  simp only [isBlank, Bool.or_eq_false_iff, Bool.and_eq_false_iff, decide_eq_false_iff_not,
    beq_eq_false_iff_ne]
  omega

theorem isNameStart_of_isDigit {c : Char} (h : c.isDigit = true) : isNameStart c = false := by
  have hrange := toNat_of_isDigit h
  have hcode : c.val.toNat = c.toNat := rfl
  have hline : c ≠ '_' := by
    rintro rfl
    cases h
  have hascii : c.toNat < 0x80 := by omega
  have hupper : c.isUpper = false := by
    delta Char.isUpper
    simp [UInt32.le_iff_toNat_le]
    omega
  have hlower : c.isLower = false := by
    delta Char.isLower
    simp [UInt32.le_iff_toNat_le]
    omega
  have halpha : c.isAlpha = false := by
    delta Char.isAlpha
    rw [hupper, hlower]
    rfl
  rw [isNameStart, if_pos hascii, halpha]
  simp [hline]

/-- The digits of a number are its token, unless they are too many to be read. -/
theorem token?_of_toDigits {n : Nat} {t : Token × List Char}
    (h : token? (Nat.toDigits 10 n) = some t) : t = (.constant (.value (.int n)), []) := by
  have hdigits : ∀ c ∈ Nat.toDigits 10 n, c.isDigit = true := fun c hc =>
    Nat.isDigit_of_mem_toDigits (by omega) (by omega) hc
  have hvalue : Literal.groupedDigits? 10 (Nat.toDigits 10 n) = some n := by
    rw [Literal.groupedDigits?, groupedFrom?_of_digits hdigits Nat.toDigits_ne_nil,
      Nat.ofDigitChars_ten_toDigits]
  have hrun := digitRun_of_digits hdigits
  have hdecimal (hd : decimalNumber? (Nat.toDigits 10 n) = some t) :
      t = (.constant (.value (.int n)), []) := by
    simp [decimalNumber?, hrun, exponent?, endsNumber, hvalue] at hd
    exact hd.2.symm
  obtain ⟨c, rest, hcs⟩ := List.exists_cons_of_ne_nil (Nat.toDigits_ne_nil (n := n) (b := 10))
  rw [hcs] at h hdecimal hdigits
  have hc := hdigits c (by simp)
  have hstart : isNameStart c = false := isNameStart_of_isDigit hc
  have hnumber : token? (c :: rest) = number? (c :: rest) := by
    simp [token?, hstart, hc]
  rw [hnumber] at h
  unfold number? at h
  split at h
  · rename_i d more hd
    -- a mark of a radix is a letter, and no digit
    have hletter (x : Char) (hx : x.isDigit = false) : d ≠ x := by
      rintro rfl
      rw [hdigits d (by simp [hd])] at hx
      cases hx
    simp only [hletter 'x' rfl, hletter 'X' rfl, hletter 'o' rfl, hletter 'O' rfl, hletter 'b' rfl,
      hletter 'B' rfl, decide_false, Bool.or_self, Bool.false_eq_true, if_false] at h
    exact hdecimal (hd ▸ h)
  · exact hdecimal h

/-- The tokens of the words between the end state and the bound. -/
theorem tokensFrom?_bound (n : Nat) (rest : List Char) :
    tokensFrom? (n + 9) [] (" or repeat.index >= ".toList ++ rest)
      = (tokensFrom? n [] rest).map fun ts => .name "or" :: .name "repeat" :: .mark "."
          :: .name "index" :: .mark ">=" :: ts := by
  -- each token ends where the text says, whatever stands behind it
  have hor (more : List Char) : token? ("or".toList ++ ' ' :: more)
      = some (.name "or", ' ' :: more) := rfl
  have hrepeat (more : List Char) : token? ("repeat".toList ++ '.' :: more)
      = some (.name "repeat", '.' :: more) := rfl
  have hpoint (more : List Char) : token? (".".toList ++ 'i' :: more)
      = some (.mark ".", 'i' :: more) := rfl
  have hindex (more : List Char) : token? ("index".toList ++ ' ' :: more)
      = some (.name "index", ' ' :: more) := rfl
  have hmark (more : List Char) : token? (">=".toList ++ ' ' :: more)
      = some (.mark ">=", ' ' :: more) := rfl
  have hwords : " or repeat.index >= ".toList ++ rest
      = ' ' :: ("or".toList ++ ' ' :: ("repeat".toList ++ '.' ::
        ("index".toList ++ ' ' :: (">=".toList ++ ' ' :: rest)))) := by
    simp
  rw [hwords]
  rw [tokensFrom?_blank]
  refine (tokensFrom?_token _ (by decide) (hor _) (by simp)).trans ?_
  rw [tokensFrom?_blank]
  refine (congrArg _ (tokensFrom?_token _ (by decide) (hrepeat _) (by simp))).trans ?_
  refine (congrArg _ (congrArg _ (tokensFrom?_token _ (by decide) (hpoint _) ?_))).trans ?_
  · rintro m ⟨⟩
    rfl
  refine (congrArg _ (congrArg _ (congrArg _ (tokensFrom?_token _ (by decide) (hindex _)
    (by simp))))).trans ?_
  rw [tokensFrom?_blank]
  refine (congrArg _ (congrArg _ (congrArg _ (congrArg _ (tokensFrom?_token _ (by decide) (hmark _)
    ?_))))).trans ?_
  · rintro m ⟨⟩
    rfl
  rw [tokensFrom?_blank]
  cases tokensFrom? n [] rest <;> rfl

/-- The text of a condition to stop. -/
theorem toList_untilTest (bound : Nat) :
    (stateVariable ++ " == '" ++ endState ++ "' or repeat.index >= " ++ toString (bound : Int)).toList
      = "current_node == '".toList ++ ("END".toList ++ '\'' :: (" or repeat.index >= ".toList
          ++ Nat.toDigits 10 bound)) := by
  have hbound : ((bound : Int).repr).toList = Nat.toDigits 10 bound := Nat.toList_repr
  simp [stateVariable, endState, hbound]

/-- The words of a condition to stop stand in front of its digits. -/
theorem untilTest_eq_append (digits : List Char) :
    "current_node == '".toList ++ ("END".toList ++ '\'' :: (" or repeat.index >= ".toList ++ digits))
      = "current_node == 'END' or repeat.index >= ".toList ++ digits := by
  simp

/-- The digits of a number are its only token, unless they are too many to be read. -/
theorem tokensFrom?_toDigits {n steps : Nat} {ts : List Token}
    (h : tokensFrom? (steps + 2) [] (Nat.toDigits 10 n) = some ts) :
    ts = [.constant (.value (.int n))] := by
  obtain ⟨c, rest, hcs⟩ := List.exists_cons_of_ne_nil (Nat.toDigits_ne_nil (n := n) (b := 10))
  have hc : c.isDigit = true :=
    Nat.isDigit_of_mem_toDigits (b := 10) (n := n) (by omega) (by omega) (by simp [hcs])
  -- a digit is no blank and begins no comment
  have hplain : [' ', '\t', '\x0c', '\n', '#', '\\'].contains c = false := by
    rw [Bool.eq_false_iff]
    intro hmem
    simp only [List.contains_cons, List.contains_nil, Bool.or_false, Bool.or_eq_true,
      beq_iff_eq] at hmem
    rcases hmem with rfl | rfl | rfl | rfl | rfl | rfl <;> cases hc
  rcases ht : token? (Nat.toDigits 10 n) with _ | t
  · rw [hcs] at h ht
    simp only [List.contains_cons, List.contains_nil, Bool.or_false, Bool.or_eq_false_iff,
      beq_eq_false_iff_ne] at hplain
    simp [tokensFrom?, hplain, ht] at h
  · rw [token?_of_toDigits ht, hcs] at ht
    rw [hcs, tokensFrom?_token _ hplain ht (by simp)] at h
    simpa [tokensFrom?] using h.symm

/-- A condition to stop has plain characters only. -/
theorem isPlain_of_mem_untilTest {bound : Nat} {c : Char}
    (hc : c ∈ "current_node == '".toList ++ ("END".toList ++ '\'' :: (" or repeat.index >= ".toList
      ++ Nat.toDigits 10 bound))) : IsPlain c := by
  have hwords : ∀ c ∈ "current_node == 'END' or repeat.index >= ".toList, IsPlain c :=
    List.all_iff_forall_prop.1 (by decide)
  rw [untilTest_eq_append] at hc
  rcases List.mem_append.1 hc with h | h
  · exact hwords c h
  · have hdigit := Nat.isDigit_of_mem_toDigits (by omega) (by omega) h
    have hrange := toNat_of_isDigit hdigit
    refine ⟨by omega, ?_, ?_⟩ <;> (rintro rfl; cases hdigit)

/-- The expression of a condition to stop, if its bound can be read. -/
theorem parse?_untilTest {bound : Nat} {e : Expr}
    (h : parse? ("current_node == '".toList ++ ("END".toList ++ '\'' :: (" or repeat.index >= ".toList
      ++ Nat.toDigits 10 bound))) = some e) :
    e = .anyOf [.compare (.name "current_node") [(some .equal, .constant (.value (.str "END")))],
      .compare (.field (.name "repeat") "index")
        [(some .greaterEqual, .constant (.value (.int bound)))]] := by
  have hend : IsName "END".toList := isName_endState
  -- the fuel that parsing begins with, in the shape that the tokens in front take it down from
  have hlen : ("current_node == '".toList ++ ("END".toList ++ '\'' :: (" or repeat.index >= ".toList
      ++ Nat.toDigits 10 bound))).length + 1 = (Nat.toDigits 10 bound).length + 26 + 2 + 9 + 5 := by
    simp
  have hfrom := tokensFrom?_equals hend ((Nat.toDigits 10 bound).length + 26 + 2 + 9)
    (" or repeat.index >= ".toList ++ Nat.toDigits 10 bound)
  rw [tokensFrom?_bound, ← hlen] at hfrom
  rcases hdigits : tokensFrom? ((Nat.toDigits 10 bound).length + 26 + 2) []
    (Nat.toDigits 10 bound) with _ | ts
  · rw [hdigits] at hfrom
    rw [parse?, tokens?_of_plain rfl (by decide) fun _ => isPlain_of_mem_untilTest, hfrom] at h
    cases h
  · rw [hdigits, tokensFrom?_toDigits hdigits] at hfrom
    have htokens := tokens?_of_tokensFrom? [.name "current_node", .mark "==",
        .constant (.value (.str "END")), .name "or", .name "repeat", .mark ".", .name "index",
        .mark ">="] (t := .constant (.value (.int bound))) rfl (by decide)
      (fun _ => isPlain_of_mem_untilTest) hfrom rfl
    unfold parse? at h
    rw [htokens] at h
    exact (Option.some.inj h).symm

/-- Integers compare by size as they do by themselves. -/
theorem holdsBySize?_ints (m n : Nat) :
    Value.holdsBySize? .greaterEqual (.int m) (.int n) = some (decide (n ≤ m)) := by
  have hcompare : (Binary64.Exact.ofInt m).compare? (.ofInt n) = some (compare (m : Int) n) := by
    simp [Binary64.Exact.ofInt, Binary64.Exact.compare?, Binary64.pow2]
  simp only [Value.holdsBySize?, Value.holdsByNumber?, Value.numeric?, hcompare, Option.any_some,
    Comparison.accepts]
  by_cases h : n ≤ m
  · have hge : compare (m : Int) n ≠ .lt := by
      rw [ne_eq, Std.compare_eq_lt]
      omega
    simp [h, hge]
  · have hlt : compare (m : Int) n = .lt := Std.compare_eq_lt.2 (by omega)
    simp [h, hlt]

/-- A loop stops only in the end state, or at its last pass. -/
theorem eq_or_le_of_holds_untilTest {state : String} {index bound : Nat} {vars : Entries}
    (hstate : vars.get? stateVariable = some (.str state))
    (hindex : vars.get? "repeat" = some (.ofEntries [(.str "index", .int index)]))
    (h : holds vars (inBraces (stateVariable ++ " == '" ++ endState ++ "' or repeat.index >= "
      ++ toString (bound : Int))) = true) : state = endState ∨ bound ≤ index := by
  rw [holds_inBraces, toList_untilTest] at h
  · rcases hp : parse? ("current_node == '".toList ++ ("END".toList ++ '\'' ::
      (" or repeat.index >= ".toList ++ Nat.toDigits 10 bound))) with _ | e
    · rw [hp] at h
      cases h
    · rw [hp, parse?_untilTest hp] at h
      -- the test is read as a choice between the name of the state and the bound on the rounds
      have hsame : Value.same (.str state) (.str "END") = (state == "END") := by
        rw [Value.same_str, Value.isText_str, Bool.beq_comm]
      rw [stateVariable] at hstate
      simp only [Option.bind_some, evaluate?, evaluateAll?, hstate, hindex, Value.ofEntries, chain?,
        Datum.holds?, Value.holds?, hsame] at h
      rcases hend : state == "END" with _ | _
      · right
        refine Decidable.byContradiction fun hlate => ?_
        have hsize := holdsBySize?_ints index bound
        rw [decide_eq_false hlate] at hsize
        rw [hend] at h
        simp only [Entries.get?_cons_str, if_true, Option.map_some, hsize] at h
        cases h
      · exact .inl (beq_iff_eq.1 hend)
  · rw [toList_untilTest]
    simp
  · rw [toList_untilTest]
    rintro c ⟨⟩
    decide
  · rw [toList_untilTest]
    rw [untilTest_eq_append, List.getLast?_append, List.getLast?_eq_some_getLast Nat.toDigits_ne_nil, Option.some_or]
    rintro c ⟨⟩
    exact isBlank_of_isDigit (Nat.isDigit_of_mem_toDigits (by omega) (by omega)
      (List.getLast_mem _))

end Automation.Template
