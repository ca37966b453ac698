import Automation.Dispatch.Decoding
import Automation.Proofs.Program.Rereading
import Automation.Proofs.Program.Text

/-!
# What a decoding comes to

The decoding of a dispatch loop that can be written comes to a graph, to what is wrong with the
loop, or to a limit that it does not keep (`Document.decides_decodeLoop`); it is never a fault. The
issues of all nodes of a graph that was decoded can be told, when those of the triggers can.
-/

namespace Automation

namespace Outcome

variable {α β : Type}

/-- A computation that comes to a good value, to what is wrong with a document, or to a limit. -/
inductive Decides (good : α → Prop) : Outcome α → Prop where
  | ok {a : α} (h : good a) : Decides good (.ok a)
  | malformed (cause : StructuralCause) : Decides good (.error (.refused (.structural cause)))
  | tooLarge (cause : SizeCause) : Decides good (.error (.refused (.tooLarge cause)))

namespace Decides

variable {good : α → Prop} {good' : β → Prop} {o : Outcome α}

/-- What is wrong can be told when the values in it can be written. -/
theorem refuse {cause : StructuralCause} (h : ∀ v ∈ cause.values, v.hasText = true) :
    Decides good (Outcome.malformed cause) := by
  have hall : (Refusal.structural cause).values.all (·.hasText) = true := List.all_eq_true.2 h
  have hfailure : (Refusal.structural cause).failure = .refused (.structural cause) := if_pos hall
  rw [Outcome.malformed, Outcome.refuse, hfailure]
  exact .malformed cause

theorem limit (cause : SizeCause) : Decides good (Outcome.tooLarge cause) := .tooLarge cause

/-- What decides, and then decides whatever came out, decides. -/
theorem bind {f : α → Outcome β} (h : Decides good o) (hf : ∀ a, good a → Decides good' (f a)) :
    Decides good' (o >>= f) := by
  cases h with
  | ok ha => exact hf _ ha
  | malformed cause => exact .malformed cause
  | tooLarge cause => exact .tooLarge cause

/-- A computation comes to the value that it has. -/
theorem self (h : Decides good o) : Decides (fun a => o = .ok a) o := by
  cases h with
  | ok _ => exact .ok rfl
  | malformed cause => exact .malformed cause
  | tooLarge cause => exact .tooLarge cause

/-- What decides is answered: it is refused, or it is too large. -/
theorem answers (h : Decides good o) : Answers good o := by
  cases h with
  | ok ha => exact .ok ha
  | malformed cause => exact .refused _
  | tooLarge cause => exact .refused _

/-- Each of some values is decided on in turn. -/
theorem mapM {f : β → Outcome α} {xs : List β} (h : ∀ x ∈ xs, Decides good (f x)) :
    Decides (fun as : List α => ∀ a ∈ as, good a) (xs.mapM f) := by
  induction xs with
  | nil => exact .ok (List.forall_mem_nil _)
  | cons x xs ih =>
    obtain ⟨hx, hxs⟩ := List.forall_mem_cons.1 h
    rw [List.mapM_cons]
    exact hx.bind fun a ha => (ih hxs).bind fun as has => .ok (List.forall_mem_cons.2 ⟨ha, has⟩)

end Decides

end Outcome

open Outcome

/-! ## Conditions -/

namespace Condition

variable {limits : Limits} {v : Value}

/-- A refusal names the kind of a condition, which stands in the payload. -/
theorem values_of_kindOf?_eq_error {es : Entries} {problem : ConditionProblem}
    (hv : v.hasText = true) (hes : es.HasText) (h : kindOf? v es = .error problem) :
    ∀ w ∈ (StructuralCause.condition problem).values, w.hasText = true := by
  have hkind := hes.get "condition"
  unfold kindOf? at h
  dsimp only at h
  split at h
  · split at h <;> cases h
    simpa [StructuralCause.values, ConditionProblem.values] using hv
  · split at h <;> cases h
  · cases h
    simpa [StructuralCause.values, ConditionProblem.values] using hkind

/-- Reading a condition decides. Induction on the levels that may still be entered. -/
theorem decides_read {levels count : Nat} (hv : v.hasText = true) :
    Decides (fun _ => True) ((read limits levels v).run count) := by
  -- only the count and the levels can go over a limit; every other end of a reading tells what is
  -- wrong
  induction levels generalizing v count with
  | zero => exact .limit _
  | succ levels ih =>
    have hread (options : Entries) (hoptions : options.HasText) (count : Nat) :
        Decides (fun _ => True) (((partsOf options).mapM (read limits levels)).run count) := by
      have hparts (part : Value) (hpart : part ∈ partsOf options) := hasText_of_mem_partsOf hoptions hpart
      generalize partsOf options = parts at hparts
      induction parts generalizing count with
      | nil => exact .ok trivial
      | cons part parts ihParts =>
        obtain ⟨hpart, hparts⟩ := List.forall_mem_cons.1 hparts
        rw [List.mapM_cons, StateT.run_bind]
        refine (ih hpart).bind fun first _ => ?_
        rw [StateT.run_bind]
        exact (ihParts _ hparts).bind fun rest _ => .ok trivial
    rw [read, StateT.run_bind]
    have hget : Decides (fun x : Nat × Nat => x = (count, count))
        (StateT.run (get : StateT Nat Outcome Nat) count) := .ok rfl
    refine hget.bind fun x hx => ?_
    rw [hx]
    dsimp only
    split
    · exact .limit _
    · show Decides _ (StateT.run _ (count + 1))
      split
      · exact .ok trivial
      · rename_i hexpose
        have hes := Value.hasText_of_expose_eq_map hv hexpose
        split
        · rename_i problem hproblem
          exact .refuse (values_of_kindOf?_eq_error hv hes hproblem)
        · rename_i kind options hkind
          split
          · rw [StateT.run_bind]
            exact (hread options (hasText_of_kindOf? hes hkind) _).bind fun _ _ => .ok trivial
          · exact .ok trivial
      · exact .refuse (List.forall_mem_nil _)

/-- Normalizing decides: a condition that cannot be is refused or too large. -/
theorem decides_normalize (hv : v.hasText = true) :
    Decides (fun _ => True) (normalize limits v) := by
  have hread : Decides (fun _ => True)
      ((read limits (limits.maxConditionDepth + 1).toNat v).run 0) := decides_read hv
  unfold normalize ofValue
  generalize (read limits (limits.maxConditionDepth + 1).toNat v).run 0 = result at hread ⊢
  cases hread with
  | ok _ => exact .ok trivial
  | malformed cause => exact .malformed cause
  | tooLarge cause => exact .tooLarge cause

/-- The payload for conditions that can be written is made, or it is told why there is none. -/
theorem decides_payload (hv : v.hasText = true) :
    Decides (fun data => payload limits v = .ok data) (payload limits v) := by
  have hexpose := Value.hasText_expose hv
  have hpayload : Decides (fun _ => True) (payload limits v) := by
    unfold payload
    split
    · rename_i o single heq
      rw [heq] at hexpose
      exact decides_normalize (Value.hasText_list.1 hexpose single List.mem_cons_self)
    · refine decides_normalize (Value.hasText_ofEntries.2 ?_)
      exact Entries.hasText_cons.2 ⟨⟨rfl, rfl⟩, Entries.hasText_single hv⟩
    · exact decides_normalize hexpose
  exact hpayload.self

end Condition

/-! ## Loops -/

namespace Dispatch

variable {limits : Limits}

/-- A node of a known kind whose issues can be told. -/
structure IsSound (limits : Limits) (n : Node) : Prop where
  known : n.kind.isKnown = true
  told : n.IsTold limits

/-- A branch of an option leads to a state that is known, or the loop is refused. -/
theorem decides_readBranch (state branch : String) (v : Value) :
    Decides (fun _ => True) (readBranch state branch v) := by
  unfold readBranch
  dsimp only
  split
  · exact .ok trivial
  · exact .refuse (List.forall_mem_nil _)

/-- The test of an option is on one state, or the loop is refused. -/
theorem decides_readTest {option : Entries} (h : option.HasText) :
    Decides (fun _ => True) (readTest option) := by
  have hexpose := Value.hasText_expose (h.get "conditions")
  have hconditions {conditions : Value} (hconditions : conditions.hasText = true) :
      ∀ v ∈ (StructuralCause.dispatch (.noStateTest conditions)).values, v.hasText = true := by
    simpa [StructuralCause.values, DispatchProblem.values] using hconditions
  unfold readTest
  dsimp only
  generalize (option.get "conditions").expose = listed at hexpose ⊢
  split
  · exact .ok trivial
  · refine .refuse (hconditions ?_)
    split
    · exact Value.hasText_list.1 hexpose _ List.mem_cons_self
    · exact hexpose

theorem hasText_of_mem_items {v : Value} (h : v.hasText = true) {w : Value} (hw : w ∈ items v) :
    w.hasText = true := by
  have hexpose := Value.hasText_expose h
  unfold items at hw
  split at hw
  · rename_i o listed heq
    rw [heq] at hexpose
    obtain ⟨x, hx, rfl⟩ := List.mem_map.1 hw
    exact Value.hasText_expose (Value.hasText_list.1 hexpose x hx)
  · cases hw

/-- The condition behind the steps of an option can be written when the steps can. -/
theorem hasText_of_branchOf? {steps : List Value} (h : ∀ v ∈ steps, v.hasText = true) {es : Entries}
    (hbranch : branchOf? steps = some es) : es.HasText := by
  unfold branchOf? at hbranch
  split at hbranch
  · split at hbranch <;> cases hbranch
    exact Value.hasText_map.1 (h _ List.mem_cons_self)
  · split at hbranch <;> cases hbranch
    exact Value.hasText_map.1 (h _ (List.mem_cons_of_mem _ List.mem_cons_self))
  · cases hbranch

/-- A condition of the loop is decoded to a node that can be written, or it is refused. -/
theorem decides_readCondition (state : String) {es : Entries} (h : es.HasText) :
    Decides (fun d => IsSound limits d.node) (readCondition limits state es) := by
  refine (Condition.decides_payload (h.get "if")).bind fun data hdata => ?_
  refine (decides_readBranch _ _ _).bind fun whenTrue _ => ?_
  refine (decides_readBranch _ _ _).bind fun whenFalse _ => ?_
  exact .ok ⟨rfl, Program.isTold_of_payload hdata _ rfl rfl⟩

/-- A step whose payload can be written is sound. -/
theorem isSound_of_kind {es : Entries} {kind : NodeKind} (hkind : Entry.kind es = .step kind)
    (n : Node) (hn : n.kind = kind) (hdata : n.data.HasText) : IsSound limits n := by
  have haction (hn : n.kind = .action) : n.IsTold limits :=
    (Node.isTold_action_iff hn).2 fun action hget _ => hdata.get? hget
  unfold Entry.kind at hkind
  repeat' split at hkind
  all_goals cases hkind
  all_goals first
    | exact ⟨by rw [hn]; rfl, haction hn⟩
    | (refine ⟨by rw [hn]; rfl, ?_⟩
       unfold Node.IsTold Node.issues
       rw [hn]
       exact ⟨_, rfl⟩)

/-- An option of the loop is decoded to a node that can be written, or it is refused. -/
theorem decides_readOption {option : Value} (h : option.hasText = true) :
    Decides (fun d => IsSound limits d.node) (readOption limits option) := by
  have hexpose := Value.hasText_expose h
  unfold readOption
  dsimp only
  -- what stands in a written option can be written, and so can what a refusal quotes of it
  split
  · rename_i o es heq
    have hes := Value.hasText_of_expose_eq_map h heq
    have hitems : ∀ v ∈ items (Entries.get es "sequence"), v.hasText = true :=
      fun v hv => hasText_of_mem_items (hes.get "sequence") hv
    rw [ok_bind]
    refine (decides_readTest hes).bind fun state _ => ?_
    split
    · rename_i o first rest heq
      rw [heq] at hitems
      split
      · rename_i branch hbranch
        exact decides_readCondition state (hasText_of_branchOf? hitems hbranch)
      · split
        · split
          · rename_i kind hkind
            have hfirst := Value.hasText_map.1 (hitems _ List.mem_cons_self)
            exact .ok (isSound_of_kind hkind _ rfl hfirst)
          · exact .refuse (List.forall_mem_nil _)
        · exact .refuse (List.forall_mem_nil _)
    · exact .refuse (List.forall_mem_nil _)
  · have hrefused : Decides (fun _ : Entries => False)
        (Outcome.malformed (.dispatch (.optionNotMapping option.expose))) := .refuse <| by
      simpa [StructuralCause.values, DispatchProblem.values] using hexpose
    exact hrefused.bind fun _ h => h.elim

/-- The loop is found among the actions, with the options that can be written, or it is not. -/
theorem decides_readLoop {actions : List Value} (h : ∀ v ∈ actions, v.hasText = true) :
    Decides (fun x : String × List Value => ∀ v ∈ x.2, v.hasText = true) (readLoop actions) := by
  unfold readLoop readLoop.refuse
  -- each level of the emitted shape is there, down to the options, or the loop is refused
  split
  · rename_i es rest
    have hes : Entries.HasText es :=
      Value.hasText_map.1 (h _ (List.mem_cons_of_mem _ List.mem_cons_self))
    split
    · rename_i loop _ hloop
      have hloop := Value.hasText_of_expose_eq_map (hes.get "repeat") hloop
      split
      · rename_i o choice hchoice
        have hmem : Value.map o choice ∈ items (Entries.get loop "sequence") := by
          rw [hchoice]
          exact List.mem_cons_self
        have hchoice : Entries.HasText choice :=
          Value.hasText_map.1 (hasText_of_mem_items (hloop.get "sequence") hmem)
        split
        · rename_i options hoptions
          have hoptions := hoptions ▸ Value.hasText_expose (hchoice.get "choose")
          exact .ok (Value.hasText_list.1 hoptions)
        · exact .refuse (List.forall_mem_nil _)
      · exact .refuse (List.forall_mem_nil _)
    · exact .refuse (List.forall_mem_nil _)
  · exact .refuse (List.forall_mem_nil _)
  · exact .refuse (List.forall_mem_nil _)

theorem decides_readTransition (known : List String) (source target : String)
    (handle : Option String) :
    Decides (fun _ => True) (readTransition known source target handle) := by
  unfold readTransition
  split
  · exact .ok trivial
  · split
    · exact .ok trivial
    · exact .refuse (List.forall_mem_nil _)

/-- The nodes of a loop that was decoded are sound when the triggers are. -/
theorem decides_decode {triggers : List Entries} {actions : List Value} (ids : List String)
    (htriggers : ∀ es ∈ triggers, ∀ n : Node, n.kind = .trigger → n.data = es → n.IsTold limits)
    (hactions : ∀ v ∈ actions, v.hasText = true) :
    Decides (fun g => ∀ n ∈ g.nodes, IsSound limits n) (decode limits triggers actions ids) := by
  unfold decode
  dsimp only
  generalize (if ids.isEmpty = true then numberedTriggers triggers.length else ids) = ids
  -- triggers are taken over as they are, whatever the loop looks like
  have hstarts : ∀ n ∈ (ids.zip triggers).map fun t => ({ id := t.1, kind := .trigger, data := t.2 } : Node),
      IsSound limits n := by
    intro n hn
    obtain ⟨t, ht, rfl⟩ := List.mem_map.1 hn
    exact ⟨rfl, htriggers t.2 (List.of_mem_zip ht).2 _ rfl rfl⟩
  split
  · exact .ok hstarts
  · refine (decides_readLoop hactions).bind fun x hx => ?_
    refine (Decides.mapM fun option hoption => decides_readOption (hx option hoption)).bind
      fun decoded hdecoded => ?_
    refine (Decides.mapM fun x _ => decides_readTransition _ _ _ _).bind fun edges _ => .ok ?_
    refine List.forall_mem_append.2 ⟨hstarts, fun n hn => ?_⟩
    obtain ⟨d, hd, rfl⟩ := List.mem_map.1 hn
    exact hdecoded d hd

end Dispatch

namespace Graph

/-! ## What is wrong with a graph -/

/-- A check tells what it tells in either of its cases. -/
theorem values_of_mem_ite {c : Prop} [Decidable c] {first other : List GraphProblem}
    (hfirst : ∀ problem ∈ first, problem.values = []) (hother : ∀ problem ∈ other, problem.values = []) :
    ∀ problem ∈ if c then first else other, problem.values = [] := by
  split
  · exact hfirst
  · exact hother

/-- What is wrong with nodes of known kinds quotes no value: only an unknown kind is quoted. -/
theorem values_of_mem_nodeProblems {seen : List String} {nodes : List Node}
    (h : ∀ n ∈ nodes, n.kind.isKnown = true) :
    ∀ problem ∈ nodeProblems seen nodes, problem.values = [] := by
  have hnone : ∀ problem ∈ ([] : List GraphProblem), problem.values = [] := List.forall_mem_nil _
  induction nodes generalizing seen with
  | nil => exact hnone
  | cons n nodes ih =>
    obtain ⟨hn, hnodes⟩ := List.forall_mem_cons.1 h
    rw [nodeProblems, if_pos hn, List.append_nil]
    refine values_of_mem_ite (List.forall_mem_cons.2 ⟨rfl, ih hnodes⟩) ?_
    refine List.forall_mem_append.2 ⟨?_, ih hnodes⟩
    refine List.forall_mem_append.2 ⟨List.forall_mem_append.2 ⟨?_, ?_⟩, ?_⟩
    · exact values_of_mem_ite (List.forall_mem_singleton.2 rfl) hnone
    · exact values_of_mem_ite hnone (List.forall_mem_singleton.2 rfl)
    · exact values_of_mem_ite (List.forall_mem_singleton.2 rfl) hnone

/-- What is wrong with a graph of nodes of known kinds quotes no value. -/
theorem values_of_mem_problems {g : Graph} (h : ∀ n ∈ g.nodes, n.kind.isKnown = true) :
    ∀ problem ∈ g.problems, problem.values = [] := by
  have hnone : ∀ problem ∈ ([] : List GraphProblem), problem.values = [] := List.forall_mem_nil _
  unfold problems
  dsimp only
  refine List.forall_mem_append.2 ⟨List.forall_mem_append.2 ⟨List.forall_mem_append.2
    ⟨values_of_mem_nodeProblems h, ?_⟩, List.forall_mem_flatMap.2 fun e _ => ?_⟩,
    List.forall_mem_flatMap.2 fun source _ => ?_⟩
  · exact values_of_mem_ite hnone (List.forall_mem_singleton.2 rfl)
  · exact values_of_mem_ite (List.forall_mem_singleton.2 rfl)
      (values_of_mem_ite (List.forall_mem_singleton.2 rfl) hnone)
  · exact values_of_mem_ite (List.forall_mem_append.2
      ⟨List.forall_mem_map.2 fun _ _ => rfl, List.forall_mem_map.2 fun _ _ => rfl⟩)
      (values_of_mem_ite (List.forall_mem_singleton.2 rfl) hnone)

end Graph

namespace Document

variable {limits : Limits}

/-- A loop that can be written is decoded to a well-formed graph whose issues can be told, or it is
told why it is none, or it goes over a limit on conditions. -/
theorem decides_decodeLoop (m : Metadata) {triggers : List Entries} {r : AutomationRecord}
    (htriggers : ∀ es ∈ triggers, ∀ n : Node, n.kind = .trigger → n.data = es → n.IsTold limits)
    (hactions : ∀ es ∈ r.actions, Entries.HasText es) :
    Decides (fun g => g.WellFormed ∧ ∀ n ∈ g.nodes, n.IsTold limits)
      (decodeLoop limits m triggers r) := by
  have hvalues : ∀ v ∈ r.actions.map Value.ofEntries, v.hasText = true := by
    rw [List.forall_mem_map]
    exact fun es hes => Value.hasText_ofEntries.2 (hactions es hes)
  have hrefused : Decides (fun _ : PUnit => False)
      (Outcome.malformed (.document .conditionsInDispatch)) := .refuse (List.forall_mem_nil _)
  unfold decodeLoop
  dsimp only
  generalize (if m.nodeIds.length ≥ triggers.length then m.nodeIds.take triggers.length else []) = ids
  split
  · exact hrefused.bind fun _ h => h.elim
  · refine (Dispatch.decides_decode _ htriggers hvalues).bind fun g hg => ?_
    split
    · rename_i hproblems
      exact .ok ⟨hproblems, fun n hn => (hg n hn).told⟩
    · -- the problems of a graph of sound nodes cite no values
      refine .refuse fun v hv => ?_
      obtain ⟨problem, hproblem, hv⟩ := List.mem_flatMap.1 hv
      rw [Graph.values_of_mem_problems (fun n hn => (hg n hn).known) problem hproblem] at hv
      cases hv

end Document

end Automation
