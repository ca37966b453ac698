import Automation.Graph.Fields
import Automation.Proofs.Outcome

/-!
# Notices about fields

When the notices about a graph can be given, and what they are: each is about a node of the graph,
and each can be written (`Graph.exists_notices_eq_ok`, `Graph.of_notices_eq_ok`).
-/

namespace Automation

namespace Node

/-- An issue whose message quotes nothing. -/
def IsPlain (issue : NodeIssue) : Prop := ∀ id, (Notice.node id issue).values = []

theorem isPlain_of_triggerIssues {data : Entries} {issues : List NodeIssue}
    (h : triggerIssues data = .ok issues) : ∀ issue ∈ issues, IsPlain issue := by
  unfold triggerIssues at h
  dsimp only at h
  split at h
  · cases h
    simp [IsPlain, Notice.values]
  · split at h
    · cases h
      intro issue hissue
      rcases List.mem_append.1 hissue with hmem | hmem
      · obtain ⟨key, -, rfl⟩ := List.mem_map.1 hmem
        exact fun _ => rfl
      · split at hmem
        · rw [List.mem_singleton.1 hmem]
          exact fun _ => rfl
        · cases hmem
    · split at h <;> cases h
      simp

theorem isPlain_of_conditionIssues {depth : Nat} {data : Entries} {issues : List NodeIssue}
    (h : conditionIssues depth data = .ok issues) : ∀ issue ∈ issues, IsPlain issue := by
  induction depth generalizing data issues with
  | zero =>
    cases h
    simp
  | succ depth ih =>
    unfold conditionIssues at h
    dsimp only at h
    split at h
    · cases h
      simp [IsPlain, Notice.values]
    · split at h
      · split at h
        · -- the issues of the conditions inside a group
          refine Outcome.foldlM_induction (P := fun issues => ∀ issue ∈ issues, IsPlain issue)
            (fun found sub _ hfound found' hsub => ?_) (by simp) h
          split at hsub
          · obtain ⟨inner, hinner, hsub⟩ := Outcome.bind_eq_ok.1 hsub
            cases hsub
            intro issue hissue
            rcases List.mem_append.1 hissue with hmem | hmem
            · exact hfound issue hmem
            · exact ih hinner issue hmem
          · cases hsub
            exact hfound
        · cases h
          simp [IsPlain, Notice.values]
      · split at h
        · cases h
          intro issue hissue
          rcases List.mem_append.1 hissue with hmem | hmem
          · obtain ⟨key, -, rfl⟩ := List.mem_map.1 hmem
            exact fun _ => rfl
          · split at hmem
            · rw [List.mem_singleton.1 hmem]
              exact fun _ => rfl
            · cases hmem
        · split at h <;> cases h
          simp

/-- The issues of a node can be written. -/
theorem hasText_of_issues {limits : Limits} {n : Node} {issues : List NodeIssue}
    (h : n.issues limits = .ok issues) :
    ∀ issue ∈ issues, ∀ id, (Notice.node id issue).values.all (·.hasText) = true := by
  have hplain (h : ∀ issue ∈ issues, IsPlain issue) :
      ∀ issue ∈ issues, ∀ id, (Notice.node id issue).values.all (·.hasText) = true := by
    intro issue hissue id
    rw [h issue hissue id]
    rfl
  unfold Node.issues at h
  split at h
  · exact hplain (isPlain_of_triggerIssues h)
  · exact hplain (isPlain_of_conditionIssues h)
  · dsimp only at h
    split at h
    · cases h
      exact hplain (by simp [IsPlain, Notice.values])
    · split at h
      · split at h
        · -- only the issue of an action that is no name holds a value, and it is told if the value
          -- has a text
          rename_i htext
          cases h
          intro issue hissue id
          rw [List.mem_singleton.1 hissue]
          simpa [Notice.values] using htext
        · cases h
      · cases h
        exact hplain (by simp)
  · cases h
    exact hplain (by split <;> simp [IsPlain, Notice.values])
  · cases h
    exact hplain (by split <;> simp [IsPlain, Notice.values])
  · cases h
    exact hplain (by split <;> simp [IsPlain, Notice.values])
  · cases h
    exact hplain (by simp)

end Node

namespace Graph

variable {limits : Limits} {g : Graph}

/-- The notices about nodes whose issues can be told are about those nodes, and can be written. -/
theorem exists_notices_eq_ok (h : ∀ n ∈ g.nodes, ∃ issues, n.issues limits = .ok issues) :
    ∃ notices, g.notices limits = .ok notices ∧ Notice.check notices = .ok ()
      ∧ ∀ notice ∈ notices, ∃ n ∈ g.nodes, ∃ issue, notice = .node n.id issue := by
  obtain ⟨notices, hnotices⟩ : ∃ notices, g.notices limits = .ok notices :=
    Outcome.exists_foldlM_eq_ok [] fun acc n hn => by
      obtain ⟨issues, hissues⟩ := h n hn
      exact ⟨_, by rw [hissues]; rfl⟩
  -- both properties hold of the notices gathered so far, at each node
  have hall : ∀ notice ∈ notices, (∃ n ∈ g.nodes, ∃ issue, notice = .node n.id issue)
      ∧ notice.values.all (·.hasText) = true := by
    refine Outcome.foldlM_induction (P := fun notices : List Notice => ∀ notice ∈ notices,
      (∃ n ∈ g.nodes, ∃ issue, notice = .node n.id issue)
        ∧ notice.values.all (·.hasText) = true) (fun acc n hn hacc acc' hstep => ?_) (by simp)
      hnotices
    obtain ⟨issues, hissues, hstep⟩ := Outcome.bind_eq_ok.1 hstep
    cases hstep
    intro notice hmem
    rcases List.mem_append.1 hmem with hmem | hmem
    · exact hacc notice hmem
    · obtain ⟨issue, hissue, rfl⟩ := List.mem_map.1 hmem
      exact ⟨⟨n, hn, issue, rfl⟩, Node.hasText_of_issues hissues issue hissue n.id⟩
  refine ⟨notices, hnotices, ?_, fun notice hmem => (hall notice hmem).1⟩
  have htext : (notices.flatMap (·.values)).all (·.hasText) = true := by
    rw [List.all_eq_true]
    intro v hv
    obtain ⟨notice, hmem, hv⟩ := List.mem_flatMap.1 hv
    exact List.all_eq_true.1 (hall notice hmem).2 v hv
  rw [Notice.check, if_pos htext]

/-- The issues of each node can be told when the notices about the graph can. -/
theorem of_notices_eq_ok {notices : List Notice} (h : g.notices limits = .ok notices) :
    ∀ n ∈ g.nodes, ∃ issues, n.issues limits = .ok issues := by
  have hstep : ∀ (nodes : List Node) (acc notices : List Notice),
      nodes.foldlM (fun acc n => do return acc ++ (← n.issues limits).map (.node n.id)) acc
        = (.ok notices : Outcome (List Notice)) →
      ∀ n ∈ nodes, ∃ issues, n.issues limits = .ok issues := by
    intro nodes
    induction nodes with
    | nil => simp
    | cons n nodes ih =>
      intro acc notices h m hm
      rw [List.foldlM_cons] at h
      obtain ⟨acc', hacc, h⟩ := Outcome.bind_eq_ok.1 h
      rcases List.mem_cons.1 hm with rfl | hm
      · obtain ⟨issues, hissues, -⟩ := Outcome.bind_eq_ok.1 hacc
        exact ⟨issues, hissues⟩
      · exact ih acc' notices h m hm
  exact hstep g.nodes [] notices h

/-- Whatever there is to say about a graph is about the fields of its nodes. -/
theorem mem_notices_of_eq_ok {notices : List Notice} (h : g.notices limits = .ok notices) :
    ∀ notice ∈ notices, ∃ n ∈ g.nodes, ∃ issue, notice = .node n.id issue := by
  obtain ⟨notices', hnotices, -, hall⟩ := exists_notices_eq_ok (of_notices_eq_ok h)
  rw [h] at hnotices
  cases hnotices
  exact hall

end Graph

end Automation
