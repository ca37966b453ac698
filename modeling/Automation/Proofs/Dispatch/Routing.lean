import Automation.Dispatch.Routing
import Automation.Proofs.Graph.Structure
import Automation.Proofs.Text.Plain

/-!
# Routing read back

The text that routes triggers gives back the state of each of them (`Routing.resolve_render`). The
reader tries every place of the text as the start of a route. Only the places where a route was
written are one: nothing else in the text starts with the right letter, except for the states, and a
state has no sign of equality in it, however much it looks like a route.

A number that no trigger has is led to the end of the run, unless all triggers lead to one place, as
the text is then the state itself (`Routing.resolve_render_int`).
-/

namespace Automation

open Text

/-- The texts of states are names when the ids are made of id characters. -/
theorem isName_stateOf {target : Option String}
    (h : ∀ id ∈ target, ∀ c ∈ id.toList, isIdChar c = true) : IsName (stateOf target).toList := by
  have hend := isName_endState
  cases target with
  | none => exact hend
  | some id =>
    by_cases hid : id = ""
    · rwa [stateOf, if_pos hid]
    · rw [stateOf, if_neg hid]
      exact ⟨by simpa using hid, h id rfl⟩

namespace Routing

/-! ## What is no route -/

/-- A route starts with one letter. -/
theorem route?_of_ne {c : Char} (h : c ≠ 't') (cs : List Char) : route? (c :: cs) = none := by
  have hdrop : dropFront? "trigger.idx".toList (c :: cs) = none := by
    show dropFront? ('t' :: "rigger.idx".toList) (c :: cs) = none
    rw [dropFront?, if_neg (Ne.symm h)]
  simp only [route?, hdrop, Option.bind_eq_bind, Option.bind_none]

/-- A text without that letter holds no route. -/
theorem routes_skip {front : List Char} (h : 't' ∉ front) (rest : List Char) :
    routes (front ++ rest) = routes rest := by
  induction front with
  | nil => rfl
  | cons c front ih =>
    have hne : c ≠ 't' := fun hc => h (hc ▸ List.mem_cons_self)
    rw [List.cons_append, routes, route?_of_ne hne, ih fun hx => h (List.mem_cons_of_mem _ hx)]
    rfl

/-- Id characters and blanks in front of a statement are no route: no sign of equality follows. -/
theorem route?_name {name : List Char} (h : ∀ c ∈ name, isIdChar c = true ∨ isBlank c = true)
    (rest : List Char) : route? (name ++ '{' :: rest) = none := by
  have hequal (more : List Char) (hmore : ∀ c ∈ more, isIdChar c = true ∨ isBlank c = true) :
      dropFront? "==".toList (trimStart (more ++ '{' :: rest)) = none := by
    induction more with
    | nil => rfl
    | cons c more ih =>
      rw [List.cons_append, trimStart, List.dropWhile_cons]
      rcases hmore c List.mem_cons_self with hc | hc
      · rw [isBlank_of_isIdChar hc]
        show dropFront? ('=' :: ['=']) (c :: (more ++ '{' :: rest)) = none
        rw [dropFront?, if_neg (Ne.symm (isIdChar_ne hc (by decide)))]
      · rw [hc]
        exact ih fun x hx => hmore x (List.mem_cons_of_mem _ hx)
  cases hdrop : dropFront? "trigger.idx".toList (name ++ '{' :: rest) with
  | none => simp only [route?, hdrop, Option.bind_eq_bind, Option.bind_none]
  | some behind =>
    have hsplit := dropFront?_eq_some_iff.1 hdrop
    rcases List.append_eq_append_iff.1 hsplit with ⟨word, hword, hbehind⟩ | ⟨more, hname, hmore⟩
    · -- the brace would stand inside the word
      cases word with
      | nil =>
        have hnone := hequal [] (by simp)
        rw [List.nil_append] at hbehind hnone
        rw [hbehind] at hnone
        simp only [route?, hdrop, hnone, Option.bind_eq_bind, Option.bind_some, Option.bind_none]
      | cons c word =>
        rw [List.cons_append] at hbehind
        injection hbehind with hc _
        have hmem : c ∈ "trigger.idx".toList := by
          rw [hword]
          simp
        rw [← hc] at hmem
        exact absurd hmem (by decide)
    · have hnone := hequal more fun c hc => h c (by simp [hname, hc])
      rw [← hmore] at hnone
      simp only [route?, hdrop, hnone, Option.bind_eq_bind, Option.bind_some, Option.bind_none]

/-- A state in front of a statement holds no route. -/
theorem routes_name {name : List Char} (h : ∀ c ∈ name, isIdChar c = true ∨ isBlank c = true)
    (rest : List Char) : routes (name ++ '{' :: rest) = routes ('{' :: rest) := by
  induction name with
  | nil => rfl
  | cons c name ih =>
    have hnone : route? (c :: name ++ '{' :: rest) = none := route?_name h rest
    rw [List.cons_append] at hnone ⊢
    rw [routes, hnone, ih fun x hx => h x (List.mem_cons_of_mem _ hx)]
    rfl

/-! ## The routes of a text -/

/-- The front of a route is read, and what follows up to the next statement is its state. -/
theorem route?_front {digits : List Char} (hdigits : digits ≠ [])
    (hdigit : ∀ c ∈ digits, c.isDigit = true) (cs : List Char) :
    route? ("trigger.idx == \"".toList ++ (digits ++ ("\" %\x7d".toList ++ cs)))
      = (dropFront? "\x7b%".toList (cs.dropWhile isIdChar)).bind fun _ =>
          if (cs.takeWhile isIdChar).isEmpty then none else some (digits, cs.takeWhile isIdChar) := by
  have htake (more : List Char) : (digits ++ '"' :: more).takeWhile Char.isDigit = digits := by
    rw [List.takeWhile_append_of_pos hdigit, List.takeWhile_cons_of_neg (by decide), List.append_nil]
  have hdrop (more : List Char) : (digits ++ '"' :: more).dropWhile Char.isDigit = '"' :: more := by
    rw [List.dropWhile_append_of_pos hdigit, List.dropWhile_cons_of_neg (by decide)]
  have hequal : trimStart (" == \"".toList ++ (digits ++ ("\" %\x7d".toList ++ cs)))
      = "==".toList ++ (' ' :: '"' :: (digits ++ ("\" %\x7d".toList ++ cs))) := rfl
  have hquote (more : List Char) : trimStart (' ' :: '"' :: more) = ['"'] ++ more := rfl
  have hclose (more : List Char) : trimStart (" %\x7d".toList ++ more) = "%\x7d".toList ++ more := rfl
  -- token by token: the name, the comparison, the digits between quotes, the end of the statement
  unfold route?
  rw [show "trigger.idx == \"".toList = "trigger.idx".toList ++ " == \"".toList from rfl,
    List.append_assoc, dropFront?_append]
  simp only [Option.bind_eq_bind, Option.bind_some]
  rw [hequal, dropFront?_append]
  simp only [Option.bind_some]
  rw [hquote, dropFront?_append]
  simp only [Option.bind_some]
  rw [show "\" %\x7d".toList = '"' :: " %\x7d".toList from rfl, List.cons_append, hdrop, htake]
  show (dropFront? ['"'] (['"'] ++ (" %\x7d".toList ++ cs))).bind _ = _
  rw [dropFront?_append]
  simp only [Option.bind_some]
  rw [hclose, dropFront?_append]
  simp [hdigits]

/-- A route in front of a statement is read back. -/
theorem route?_route {digits name : List Char} (hdigits : digits ≠ [])
    (hdigit : ∀ c ∈ digits, c.isDigit = true) (hname : IsName name) (rest : List Char) :
    route? ("trigger.idx == \"".toList ++ (digits ++ ("\" %\x7d".toList
      ++ (name ++ "\x7b%".toList ++ rest)))) = some (digits, name) := by
  have hrest : (name ++ "\x7b%".toList ++ rest).takeWhile isIdChar = name := by
    rw [List.append_assoc, List.takeWhile_append_of_pos hname.2]
    show name ++ List.takeWhile isIdChar ('{' :: ('%' :: rest)) = name
    rw [List.takeWhile_cons_of_neg (by decide), List.append_nil]
  have hbehind : (name ++ "\x7b%".toList ++ rest).dropWhile isIdChar = "\x7b%".toList ++ rest := by
    rw [List.append_assoc, List.dropWhile_append_of_pos hname.2]
    show List.dropWhile isIdChar ('{' :: ('%' :: rest)) = _
    rw [List.dropWhile_cons_of_neg (by decide)]
    rfl
  rw [route?_front hdigits hdigit, hbehind, dropFront?_append, hrest]
  simp [hname.1]

/-- The number of a trigger is written in digits. -/
theorem isDigit_of_mem_toString {n : Nat} {c : Char} (h : c ∈ (toString n).toList) :
    c.isDigit = true := by
  rw [Nat.toString_eq_repr, Nat.toList_repr] at h
  exact Nat.isDigit_of_mem_toDigits (by omega) (by omega) h

/-- A route is found where it was written, and nothing else is found in it. -/
theorem routes_renderRoute {target : Option String} (h : IsName (stateOf target).toList)
    (index : Nat) (rest : List Char) :
    routes ((renderRoute index target).toList ++ "\x7b%".toList ++ rest)
      = ((toString index).toList, (stateOf target).toList) :: routes ("\x7b%".toList ++ rest) := by
  have hdigits : (toString index).toList ≠ [] := by
    rw [Nat.toString_eq_repr, Nat.toList_repr]
    exact Nat.toDigits_ne_nil
  have htext : (renderRoute index target).toList ++ "\x7b%".toList ++ rest
      = ("\x7b% ".toList ++ (if index = 0 then "if" else "elif").toList ++ [' '])
        ++ ("trigger.idx == \"".toList ++ ((toString index).toList ++ ("\" %\x7d".toList
          ++ ((stateOf target).toList ++ "\x7b%".toList ++ rest)))) := by
    simp [renderRoute]
  -- before the name no letter is one that a route starts with
  have hfront : 't' ∉ "\x7b% ".toList ++ (if index = 0 then "if" else "elif").toList ++ [' '] := by
    split <;> decide
  have hroute := route?_route hdigits (fun c hc => isDigit_of_mem_toString hc) h rest
  rw [htext, routes_skip hfront]
  rw [show "trigger.idx == \"".toList = 't' :: "rigger.idx == \"".toList from rfl,
    List.cons_append] at hroute ⊢
  -- behind the route there are only digits, quotes and the name of the state
  rw [routes, hroute, routes_skip (by decide), routes_skip, routes_skip (by decide)]
  · rw [List.append_assoc]
    exact congrArg (_ :: ·) (routes_name (fun c hc => .inl (h.2 c hc)) ('%' :: rest))
  · intro hc
    exact absurd (isDigit_of_mem_toString hc) (by decide)

/-- What stands behind the last route. -/
def lastStatement : List Char :=
  "\x7b% else %\x7d".toList ++ (endState.toList ++ "\x7b% endif %\x7d".toList)

/-- The text of some routes and what stands behind them, which starts with a statement. -/
def routesText (targets : List (Option String × Nat)) : List Char :=
  (targets.flatMap fun t => (renderRoute t.2 t.1).toList) ++ lastStatement

theorem routesText_eq_statement (targets : List (Option String × Nat)) :
    ∃ rest, routesText targets = "\x7b%".toList ++ rest := by
  cases targets with
  | nil => exact ⟨_, rfl⟩
  | cons t targets =>
    refine ⟨(" ".toList ++ (if t.2 = 0 then "if" else "elif").toList ++ " trigger.idx == \"".toList
      ++ (toString t.2).toList ++ "\" %\x7d".toList ++ (stateOf t.1).toList)
      ++ routesText targets, ?_⟩
    simp [routesText, renderRoute]

/-- All routes are read back, in their order. -/
theorem routes_routesText {targets : List (Option String × Nat)}
    (h : ∀ t ∈ targets, IsName (stateOf t.1).toList) :
    routes (routesText targets)
      = targets.map fun t => ((toString t.2).toList, (stateOf t.1).toList) := by
  induction targets with
  | nil => rfl
  | cons t targets ih =>
    obtain ⟨rest, hrest⟩ := routesText_eq_statement targets
    have hcons : routesText (t :: targets)
        = (renderRoute t.2 t.1).toList ++ routesText targets := by
      simp [routesText]
    rw [hcons, hrest, ← List.append_assoc, routes_renderRoute (h t (by simp)), ← hrest,
      ih fun x hx => h x (List.mem_cons_of_mem _ hx)]
    rfl

/-- The last route for a trigger is the only one. -/
theorem find?_routes {targets : List (Option String)} {i : Nat} (hi : i < targets.length) :
    (targets.zipIdx.map fun t => ((toString t.2).toList, (stateOf t.1).toList)).reverse.find?
      (·.1 == (toString i).toList) = some ((toString i).toList, (stateOf targets[i]).toList) := by
  refine find?_eq_some_of_unique ?_ (by simp) ?_
  · rw [List.mem_reverse]
    refine List.mem_map.2 ⟨(targets[i], i), ?_, rfl⟩
    exact List.mk_mem_zipIdx_iff_getElem?.2 (List.getElem?_eq_getElem hi)
  · intro y hy hindex
    rw [List.mem_reverse] at hy
    obtain ⟨⟨target, j⟩, hmem, rfl⟩ := List.mem_map.1 hy
    have hj : j = i := Text.toList_toString_inj (beq_iff_eq.1 hindex)
    subst hj
    have htarget : targets[j] = target :=
      Option.some.inj ((List.getElem?_eq_getElem hi).symm.trans (List.mk_mem_zipIdx_iff_getElem?.1 hmem))
    rw [htarget]

/-- A text without a brace has no statement in it. -/
theorem hasStatement_of_not_mem {cs : List Char} (h : '{' ∉ cs) : hasStatement cs = false := by
  induction cs with
  | nil => rfl
  | cons c cs ih =>
    rw [hasStatement]
    · exact ih fun hc => h (List.mem_cons_of_mem _ hc)
    · intro rest hrest
      exact absurd (hrest ▸ List.mem_cons_self) h

/-- The text of a name has no statement in it. -/
theorem hasStatement_name {name : List Char} (h : ∀ c ∈ name, isIdChar c = true) :
    hasStatement name = false :=
  hasStatement_of_not_mem fun hc => absurd (h '{' hc) (by decide)

/-- The text of routes is that of the routes by themselves and what stands behind them. -/
theorem toList_renderRoutes (targets : List (Option String)) :
    (render.routes targets).toList = routesText targets.zipIdx := by
  unfold render.routes routesText lastStatement
  rw [String.toList_append, String.toList_append, String.toList_append, String.toList_join,
    List.append_assoc, List.append_assoc, List.flatMap_map]

theorem hasStatement_routesText (targets : List (Option String × Nat)) :
    hasStatement (routesText targets) = true := by
  obtain ⟨rest, hrest⟩ := routesText_eq_statement targets
  rw [hrest]
  exact hasStatement.eq_1 rest

/-- A text of routes leads a trigger to the state of its node. -/
theorem resolve_routes {targets : List (Option String)}
    (h : ∀ t ∈ targets, IsName (stateOf t).toList) {i : Nat} (hi : i < targets.length) :
    resolve (render.routes targets) i = stateOf targets[i] := by
  have hnames : ∀ t ∈ targets.zipIdx, IsName (stateOf t.1).toList := fun t ht =>
    h t.1 (List.fst_mem_of_mem_zipIdx ht)
  have hindex : toString (i : Int) = toString i := rfl
  simp only [resolve, toList_renderRoutes, hasStatement_routesText, if_true,
    routes_routesText hnames, hindex, find?_routes hi, String.ofList_toList]

/-- A trigger leads to the state of its node. -/
theorem resolve_render {targets : List (Option String)}
    (h : ∀ t ∈ targets, ∀ id ∈ t, ∀ c ∈ id.toList, isIdChar c = true) {i : Nat}
    (hi : i < targets.length) : resolve (render targets) i = stateOf targets[i] := by
  have hnames : ∀ t ∈ targets, IsName (stateOf t).toList := fun t ht => isName_stateOf (h t ht)
  cases targets with
  | nil => exact resolve_routes hnames hi
  | cons first rest =>
    by_cases hall : rest.all (· == first) = true
    · have hsame : (first :: rest)[i] = first := by
        rcases List.mem_cons.1 (List.getElem_mem hi) with heq | hmem
        · exact heq
        · exact beq_iff_eq.1 (List.all_eq_true.1 hall _ hmem)
      rw [render, if_pos hall, hsame]
      exact resolve_of_not_hasStatement (hasStatement_name (hnames first (by simp)).2) i
    · rw [render, if_neg hall]
      exact resolve_routes hnames hi

/-! ## Triggers that there are not -/

/-- The number of a trigger that is none of those written is not written as any of theirs. -/
theorem toString_ne_of_outside {count index : Nat} {i : Int} (hi : i < 0 ∨ count ≤ i)
    (hindex : index < count) : (toString index).toList ≠ (toString i).toList := by
  intro hsame
  cases i with
  | ofNat n =>
    have hn : index = n := Text.toList_toString_inj hsame
    rw [Int.ofNat_eq_natCast] at hi
    omega
  | negSucc n =>
    -- a number below zero starts with a sign, which is no digit
    have hsign : '-' ∈ (toString index).toList := by
      rw [hsame]
      show '-' ∈ ("-" ++ toString (n + 1)).toList
      simp
    exact absurd (isDigit_of_mem_toString hsign) (by decide)

/-- A text of routes ends the run for a trigger that it has no route for. -/
theorem resolve_routes_of_outside {targets : List (Option String)}
    (h : ∀ t ∈ targets, IsName (stateOf t).toList) {i : Int} (hi : i < 0 ∨ targets.length ≤ i) :
    resolve (render.routes targets) i = endState := by
  have hnames : ∀ t ∈ targets.zipIdx, IsName (stateOf t.1).toList := fun t ht =>
    h t.1 (List.fst_mem_of_mem_zipIdx ht)
  have hnone : (targets.zipIdx.map fun t => ((toString t.2).toList, (stateOf t.1).toList)).reverse.find?
      (·.1 == (toString i).toList) = none := by
    rw [List.find?_eq_none]
    intro route hroute
    obtain ⟨⟨target, index⟩, ht, rfl⟩ := List.mem_map.1 (List.mem_reverse.1 hroute)
    have hindex : index < targets.length := by
      have := List.snd_lt_of_mem_zipIdx ht
      omega
    simpa using toString_ne_of_outside hi hindex
  simp only [resolve, toList_renderRoutes, hasStatement_routesText, if_true,
    routes_routesText hnames, hnone]

/-- The routing of triggers is read back: each trigger leads to its node, or ends the run when it
leads to none. Any other number ends the run when the triggers lead to different nodes, and leads
where all triggers lead when that is one place. -/
theorem resolve_render_int {targets : List (Option String)} (hne : targets ≠ [])
    (h : ∀ t ∈ targets, ∀ id ∈ t, ∀ c ∈ id.toList, isIdChar c = true) :
    (∀ (i : Nat) (hi : i < targets.length), resolve (render targets) i = stateOf targets[i])
      ∧ ∀ i : Int, i < 0 ∨ targets.length ≤ i →
        ((∃ t ∈ targets, ∃ u ∈ targets, t ≠ u) → resolve (render targets) i = endState)
        ∧ ∀ t, (∀ u ∈ targets, u = t) → resolve (render targets) i = stateOf t := by
  have hnames : ∀ t ∈ targets, IsName (stateOf t).toList := fun t ht => isName_stateOf (h t ht)
  obtain ⟨first, rest, rfl⟩ := List.exists_cons_of_ne_nil hne
  refine ⟨fun i hi => resolve_render h hi, fun i hi => ⟨?_, ?_⟩⟩
  · rintro ⟨t, ht, u, hu, hdiffer⟩
    -- with two targets there are routes, and none of them is for the number
    have hall : ¬ rest.all (· == first) = true := by
      intro hall
      have hfirst : ∀ x ∈ first :: rest, x = first := by simpa using hall
      exact hdiffer ((hfirst t ht).trans (hfirst u hu).symm)
    rw [render, if_neg hall]
    exact resolve_routes_of_outside hnames hi
  · intro t hsame
    -- with one target the template is its name
    obtain rfl : first = t := hsame first List.mem_cons_self
    have hall : rest.all (· == first) = true := by
      simpa using fun x hx => hsame x (List.mem_cons_of_mem _ hx)
    rw [render, if_pos hall]
    exact resolve_of_not_hasStatement (hasStatement_name (hnames first List.mem_cons_self).2) i

/-- Targets whose names look like the text of a route. -/
def routeNames : List (Option String) :=
  [some "trigger.idx", none, some "if", some "END", some "trigger.idx:0", some "else", some "6",
    some "7", some "endif", some "9", some "10", some "trigger.idx"]

theorem resolve_render_routeNames : resolve (render routeNames) 1 = "END"
    ∧ resolve (render routeNames) 11 = "trigger.idx" ∧ resolve (render routeNames) 12 = "END"
    ∧ resolve (render routeNames) (-1) = "END" := by
  obtain ⟨hinside, houtside⟩ := resolve_render_int (show routeNames ≠ [] by decide) (by decide)
  have hdiffer : ∃ t ∈ routeNames, ∃ u ∈ routeNames, t ≠ u := by decide
  exact ⟨hinside 1 (by decide), hinside 11 (by decide), (houtside 12 (by decide)).1 hdiffer,
    (houtside (-1) (by decide)).1 hdiffer⟩

/-- An empty id is no id: a target that has it ends the run as one without an id does. -/
theorem exists_resolve_render_ne : ¬∀ targets : List (Option String), targets ≠ [] →
    (∀ t ∈ targets, ∀ id ∈ t, ∀ c ∈ id.toList, isIdChar c = true) →
    ∀ (i : Nat) (hi : i < targets.length), resolve (render targets) i = targets[i].getD endState := by
  intro hall
  have hempty := hall [some ""] (by decide) (by decide) 0 (by decide)
  exact absurd hempty (by decide)

end Routing

end Automation
