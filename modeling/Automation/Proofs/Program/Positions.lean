import Automation.Proofs.Program.Parsed

/-!
# Entries inside entries

The entries of a document nest like the blocks that they are read as. An entry stands somewhere
among others (`Entry.Occurs`) together with those that come later, in its own list and in the lists
around it. A reading takes it to the block that stands at the same place among the blocks
(`Program.Beside`, `Program.exists_within`), and every block comes from an entry in this way
(`Program.exists_occurs`). Something is run behind the block when a later entry creates a
node.
-/

namespace Automation

open Program (entriesOf)

namespace Entry

/-- The entries that an option of a choose block holds. -/
def optionEntries (option : Value) : List Value :=
  match option.expose with
  | .map _ es => entriesOf (Entries.get es "sequence")
  | _ => []

/-- The lists of entries inside an entry, which are the branches of a branching block. -/
def branches (es : Entries) : List (List Value) :=
  match kind es with
  | .ifBlock => [entriesOf (es.get "then"), entriesOf (es.get "else")]
  | .chooseBlock =>
    (entriesOf (es.get "choose")).map optionEntries ++ [entriesOf (es.get "default")]
  | _ => []

/-- Whether an entry is a block that chooses: an if block, or a choose block with an option. -/
def chooses (es : Entries) : Bool :=
  match kind es with
  | .ifBlock => true
  | .chooseBlock => !(entriesOf (es.get "choose")).isEmpty
  | _ => false

/-- Whether an entry is a condition that is used as an action. -/
def isGate (es : Entries) : Bool :=
  match kind es with
  | .gate => true
  | _ => false

/-- Whether an entry is a step that a reader looks into without end. -/
def isEndlessEntry (es : Entries) : Bool :=
  match kind es with
  | .step kind => isEndlessStep kind es
  | _ => false

/-- Whether a node is created for an entry itself, which is so for all but choose blocks without an
option. -/
def isNode (es : Entries) : Bool :=
  match kind es with
  | .chooseBlock => chooses es
  | _ => true

/-- An entry somewhere among others, and the entries that come later: the rest of its own list, and
of every list around it. -/
inductive Occurs : List Value → List Value → Value → List Value → Prop
  | here {entry : Value} {rest later : List Value} :
    Occurs (entry :: rest) later entry (rest ++ later)
  | behind {other entry : Value} {rest later found : List Value} (h : Occurs rest later entry found) :
    Occurs (other :: rest) later entry found
  | inside {other entry : Value} {o : Origin} {es : Entries} {branch rest later found : List Value}
    (hother : other.expose = .map o es) (hmem : branch ∈ branches es)
    (h : Occurs branch (rest ++ later) entry found) : Occurs (other :: rest) later entry found

/-- An entry of some sort stands among others, at any depth. -/
def Holds (sort : Entries → Bool) (entries : List Value) : Prop :=
  ∃ entry found o es, Occurs entries [] entry found ∧ entry.expose = .map o es ∧ sort es = true

/-- Where an entry stands does not depend on what comes behind all the others. -/
theorem Occurs.exists_found {entries later found : List Value} {entry : Value}
    (h : Occurs entries later entry found) (later' : List Value) :
    ∃ found', Occurs entries later' entry found' := by
  induction h generalizing later' with
  | here => exact ⟨_, .here⟩
  | behind _ ih =>
    obtain ⟨found', h⟩ := ih later'
    exact ⟨found', .behind h⟩
  | inside hother hmem _ ih =>
    obtain ⟨found', h⟩ := ih _
    exact ⟨found', .inside hother hmem h⟩

/-- Among entries stands what one of them is and what stands in its branches. -/
theorem Holds.of_mem {sort : Entries → Bool} {entries : List Value} {entry : Value} {o : Origin}
    {es : Entries} (hmem : entry ∈ entries) (hentry : entry.expose = .map o es)
    (h : sort es = true ∨ ∃ branch ∈ branches es, Holds sort branch) : Holds sort entries := by
  induction entries with
  | nil => cases hmem
  | cons other rest ih =>
    rcases List.mem_cons.1 hmem with rfl | hmem
    · rcases h with h | ⟨branch, hbranch, inner, found, o', es', hoccurs, hinner, h⟩
      · exact ⟨_, _, o, es, .here, hentry, h⟩
      · obtain ⟨found', hoccurs⟩ := hoccurs.exists_found (rest ++ [])
        exact ⟨inner, found', o', es', .inside hentry hbranch hoccurs, hinner, h⟩
    · obtain ⟨inner, found, o', es', hoccurs, hinner, h⟩ := ih hmem
      exact ⟨inner, found, o', es', .behind hoccurs, hinner, h⟩

end Entry

namespace Block

/-- Whether a block is a choice with an option. -/
def chooses : Block → Bool
  | step _ => false
  | choice options _ => !options.isEmpty

/-- Whether a block is a condition that is a step. -/
def isGate : Block → Bool
  | step node => node.kind.isCondition
  | choice _ _ => false

/-- Whether a block has a node of its own, outside of its branches. -/
def isNode : Block → Bool
  | step _ => true
  | choice options _ => !options.isEmpty

/-- Somewhere inside blocks, at any depth, stands one of some sort. -/
def Holds (sort : Block → Bool) (bs : List Block) : Prop :=
  ∃ b rest place, Within bs none (b :: rest) place ∧ sort b = true

/-- A block is gated when it is a gate, or one of its branches has one. -/
theorem gated_eq (b : Block) : b.gated = (b.isGate || b.branches.any listGated) := by
  cases b with
  | step n => simp [gated, isGate, branches]
  | choice options otherwise =>
    have hoptions : optionsGated options = (options.map (·.2)).any listGated := by
      induction options with
      | nil => rfl
      | cons o options ih => simp [optionsGated, ih]
    simp [gated, isGate, branches, hoptions]

/-- The nodes of a branch are nodes of the block. -/
theorem nodes_branch_subset {b : Block} {branch : List Block} (hmem : branch ∈ b.branches) :
    listNodes branch ⊆ nodes b := by
  cases b with
  | step n => cases hmem
  | choice options otherwise =>
    rw [nodes]
    rcases List.mem_append.1 hmem with hmem | hmem
    · obtain ⟨o, ho, rfl⟩ := List.mem_map.1 hmem
      refine List.subset_append_of_subset_left _ ?_
      induction options with
      | nil => cases ho
      | cons first options ih =>
        rw [optionNodes]
        rcases List.mem_cons.1 ho with rfl | ho
        · exact List.subset_append_of_subset_left _ (List.subset_cons_self _ _)
        · exact List.subset_append_of_subset_right _
            (ih ho (List.mem_append_left _ (List.mem_map_of_mem ho)) (List.mem_map_of_mem ho))
    · rw [List.mem_singleton.1 hmem]
      exact List.subset_append_right _ _

/-- Without a node of its own, and with no node in its branches, a block has none. -/
theorem exists_branch_of_nodes {b : Block} (hnode : b.isNode = false) (h : nodes b ≠ []) :
    ∃ branch ∈ b.branches, listNodes branch ≠ [] := by
  cases b with
  | step n => cases hnode
  | choice options otherwise =>
    cases options with
    | nil => exact ⟨otherwise, List.mem_singleton.2 rfl, h⟩
    | cons o options => cases hnode

/-- What holds of no blocks, and of a block in front when it holds of its branches, holds of all
blocks. -/
@[elab_as_elim]
theorem induction_branches {motive : List Block → Prop} (nil : motive [])
    (cons : ∀ b bs, (∀ branch ∈ b.branches, motive branch) → motive bs → motive (b :: bs)) :
    ∀ bs : List Block, motive bs
  | [] => nil
  | .step n :: bs => cons (.step n) bs (fun _ hmem => nomatch hmem) (induction_branches nil cons bs)
  | .choice options otherwise :: bs => cons (.choice options otherwise) bs (fun branch hmem => by
      have hsize : sizeOf branch < 1 + sizeOf options + sizeOf otherwise := by
        rcases List.mem_append.1 hmem with hmem | hmem
        · obtain ⟨o, ho, rfl⟩ := List.mem_map.1 hmem
          have := List.sizeOf_lt_of_mem ho
          have : sizeOf o = 1 + sizeOf o.1 + sizeOf o.2 := rfl
          omega
        · rw [List.mem_singleton.1 hmem]
          omega
      exact induction_branches nil cons branch) (induction_branches nil cons bs)
termination_by bs => sizeOf bs
decreasing_by
  all_goals
    simp only [List.cons.sizeOf_spec, Block.step.sizeOf_spec, Block.choice.sizeOf_spec]
    omega

namespace Within

variable {bs bs' : List Block} {next place : Option String}

/-- The nodes of a list further in are nodes of the list around it. -/
theorem subset (h : Within bs next bs' place) : listNodes bs' ⊆ listNodes bs := by
  induction h with
  | refl => exact List.Subset.refl _
  | behind _ ih => exact List.Subset.trans (List.subset_append_right _ _) ih
  | inside _ hmem ih =>
    exact List.Subset.trans (List.Subset.trans (nodes_branch_subset hmem)
      (List.subset_append_left _ _)) ih

/-- A gate further in is a gate of the list around it. -/
theorem gated (h : Within bs next bs' place) (hgate : listGated bs' = true) :
    listGated bs = true := by
  induction h with
  | refl => exact hgate
  | behind _ ih => exact ih (Bool.or_eq_true_iff.2 (.inr hgate))
  | @inside b _ _ _ _ hmem ih =>
    refine ih (Bool.or_eq_true_iff.2 (.inl ?_))
    rw [gated_eq, Bool.or_eq_true_iff]
    exact .inr (List.any_eq_true.2 ⟨_, hmem, hgate⟩)

/-- Where blocks stand inside others does not depend on what comes behind them. -/
theorem exists_place (h : Within bs next bs' place) (next' : Option String) :
    ∃ place', Within bs next' bs' place' := by
  induction h with
  | refl => exact ⟨next', .refl⟩
  | behind _ ih =>
    obtain ⟨place', h⟩ := ih
    exact ⟨place', h.behind⟩
  | inside _ hmem ih =>
    obtain ⟨place', h⟩ := ih
    exact ⟨_, h.inside hmem⟩

end Within

/-! ## Blocks of some sort -/

variable {sort : Block → Bool} {b : Block} {bs : List Block}

theorem Holds.here (h : sort b = true) : Holds sort (b :: bs) :=
  ⟨b, bs, none, .refl, h⟩

theorem Holds.behind (h : Holds sort bs) : Holds sort (b :: bs) := by
  obtain ⟨c, rest, place, hwithin, hsort⟩ := h
  exact ⟨c, rest, place, Within.refl.behind.trans hwithin, hsort⟩

/-- What is found in a branch is found in the list of the block. -/
theorem Holds.inside {branch : List Block} (hmem : branch ∈ b.branches) (h : Holds sort branch) :
    Holds sort (b :: bs) := by
  obtain ⟨c, rest, _, hwithin, hsort⟩ := h
  obtain ⟨place, hwithin⟩ := hwithin.exists_place (listFirst none bs)
  exact ⟨c, rest, place, (Within.refl.inside hmem).trans hwithin, hsort⟩

/-- A gate is found at some depth just if the list is gated. -/
theorem holds_isGate : Holds isGate bs ↔ listGated bs = true := by
  constructor
  · rintro ⟨b, rest, place, hwithin, hgate⟩
    refine hwithin.gated (Bool.or_eq_true_iff.2 (.inl ?_))
    rw [gated_eq, hgate]
    rfl
  · intro h
    induction bs using induction_branches with
    | nil => cases h
    | cons b bs ihBranches ih =>
      rcases Bool.or_eq_true_iff.1 h with h | h
      · rw [gated_eq, Bool.or_eq_true_iff] at h
        rcases h with hgate | hbranch
        · exact .here hgate
        · obtain ⟨branch, hmem, hgate⟩ := List.any_eq_true.1 hbranch
          exact (ihBranches branch hmem hgate).inside hmem
      · exact (ih h).behind

/-- A node is found at some depth just if the list has nodes. -/
theorem holds_isNode : Holds isNode bs ↔ listNodes bs ≠ [] := by
  constructor
  · rintro ⟨b, rest, place, hwithin, hnode⟩ hnil
    have hnone : nodes b = [] := by
      have hall : listNodes (b :: rest) = [] := List.subset_nil.1 (hnil ▸ hwithin.subset)
      exact (List.append_eq_nil_iff.1 hall).1
    cases b with
    | step n => cases hnone
    | choice options otherwise =>
      cases options with
      | nil => cases hnode
      | cons o options => cases hnone
  · intro h
    induction bs using induction_branches with
    | nil => exact absurd rfl h
    | cons b bs ihBranches ih =>
      by_cases hnode : b.isNode = true
      · exact .here hnode
      -- without a node behind it, the first block has one in a branch, as it is none itself
      by_cases hbs : listNodes bs = []
      · have hb : nodes b ≠ [] := fun hb => h (by rw [listNodes, hb, hbs]; rfl)
        obtain ⟨branch, hmem, hbranch⟩ := exists_branch_of_nodes (by simpa using hnode) hb
        exact (ihBranches branch hmem hbranch).inside hmem
      · exact (ih hbs).behind

/-- A list starts where its first part starts, and that at the rest. -/
theorem listFirst_append (next : Option String) (as bs : List Block) :
    listFirst next (as ++ bs) = listFirst (listFirst next bs) as := by
  induction as with
  | nil => rfl
  | cons a as ih => rw [List.cons_append, listFirst, listFirst, ih]

/-- Something is run where blocks start, unless they have no node and nothing comes behind them. -/
theorem listFirst_eq_none {next : Option String} :
    listFirst next bs = none ↔ listNodes bs = [] ∧ next = none := by
  induction bs using Block.induction generalizing next with
  | nil => simp [listFirst, listNodes]
  | step n bs => simp [listFirst, first, listNodes, nodes]
  | last otherwise bs ihOtherwise ih =>
    rw [listNodes_last, List.append_eq_nil_iff, and_assoc, ← ih, ← ihOtherwise]
    rfl
  | option n body options otherwise bs => simp [listFirst_option, listNodes_option]

end Block

namespace Program

variable {limits : Limits}

/-- An entry and a block that it is read as, with some levels left and behind some nodes. -/
def ReadAs (limits : Limits) (entry : Value) (b : Block) : Prop :=
  ∃ levels place created after, EntryRead limits levels place entry created b after

/-- The blocks of a list are what its entries are read as, one by one. -/
theorem ListRead.readAs {levels : Nat} {place : Place} {i : Nat} {entries : List Value}
    {created after : List NodeKind} {bs : List Block}
    (h : ListRead limits levels place i entries created bs after) :
    List.Forall₂ (ReadAs limits) entries bs := by
  induction entries generalizing i created bs with
  | nil =>
    cases h
    exact .nil
  | cons entry entries ih =>
    cases h with
    | cons hentry hrest => exact .cons ⟨_, _, _, _, hentry⟩ (ih hrest)

/-- The bodies of options are what the entries in the options are read as. -/
theorem OptionsRead.readAs {levels : Nat} {place : Place} {i : Nat} {flags : Entries}
    {options : List Value} {created after : List NodeKind} {read : List (Node × List Block)}
    (h : OptionsRead limits levels place i flags options created read after) :
    List.Forall₂ (List.Forall₂ (ReadAs limits)) (options.map Entry.optionEntries)
      (read.map (·.2)) := by
  induction options generalizing i flags created read with
  | nil =>
    cases h
    exact .nil
  | cons option options ih =>
    cases h with
    | cons hoption hhas hdata hbody hrest =>
      refine .cons ?_ (ih hrest)
      rw [Entry.optionEntries, hoption]
      exact hbody.readAs

/-- The branches of an entry are read as those of the block. -/
theorem ReadAs.branches {entry : Value} {b : Block} (h : ReadAs limits entry b) {o : Origin}
    {es : Entries} (hentry : entry.expose = .map o es) :
    List.Forall₂ (List.Forall₂ (ReadAs limits)) (Entry.branches es) b.branches := by
  obtain ⟨levels, place, created, after, h⟩ := h
  -- the branches of an entry and those of its block are told by the same cases
  cases h with
  | step hentry' hkind =>
    rw [hentry] at hentry'
    cases hentry'
    rw [Entry.branches, hkind]
    exact .nil
  | gate hentry' hkind =>
    rw [hentry] at hentry'
    cases hentry'
    rw [Entry.branches, hkind]
    exact .nil
  | ifBlock hentry' hkind hdata hthen helse =>
    rw [hentry] at hentry'
    cases hentry'
    rw [Entry.branches, hkind]
    exact .cons hthen.readAs (.cons helse.readAs .nil)
  | chooseBlock hentry' hkind hoptions hdefault =>
    rw [hentry] at hentry'
    cases hentry'
    rw [Entry.branches, hkind]
    exact List.rel_append hoptions.readAs (.cons hdefault.readAs .nil)

/-- An entry that is read is a mapping, and the block is of the same sort. -/
theorem ReadAs.exists_entries {entry : Value} {b : Block} (h : ReadAs limits entry b) :
    ∃ o es, entry.expose = .map o es ∧ b.chooses = Entry.chooses es ∧ b.isGate = Entry.isGate es
      ∧ b.isNode = Entry.isNode es := by
  obtain ⟨levels, place, created, after, h⟩ := h
  cases h with
  | @step _ _ _ o es kind _ hentry hkind =>
    refine ⟨o, es, hentry, ?_, ?_, ?_⟩
    · rw [Entry.chooses, hkind]
      rfl
    · rw [Entry.isGate, hkind]
      exact Entry.isCondition_of_kind hkind
    · rw [Entry.isNode, hkind]
      rfl
  | @gate _ _ _ o es _ _ hentry hkind =>
    refine ⟨o, es, hentry, ?_, ?_, ?_⟩
    · rw [Entry.chooses, hkind]
      rfl
    · rw [Entry.isGate, hkind]
      rfl
    · rw [Entry.isNode, hkind]
      rfl
  | @ifBlock _ _ _ o es _ _ _ _ _ _ hentry hkind =>
    refine ⟨o, es, hentry, ?_, ?_, ?_⟩
    · rw [Entry.chooses, hkind]
      rfl
    · rw [Entry.isGate, hkind]
      rfl
    · rw [Entry.isNode, hkind]
      rfl
  | @chooseBlock _ _ _ o es _ _ _ options _ hentry hkind hoptions =>
    -- a choose block is a node when it has an option, which its entry tells
    have hempty : options.isEmpty = (entriesOf (es.get "choose")).isEmpty := by
      generalize entriesOf (es.get "choose") = listed at hoptions
      cases hoptions <;> rfl
    refine ⟨o, es, hentry, ?_, ?_, ?_⟩
    · rw [Entry.chooses, hkind, Block.chooses, hempty]
    · rw [Entry.isGate, hkind]
      rfl
    · rw [Entry.isNode, hkind, Entry.chooses, hkind, Block.isNode, hempty]

/-! ## Where blocks come from -/

/-- An entry somewhere among others and the block at the same place among blocks, each with what
comes later: the rest of its own list, and of every list around it. -/
inductive Beside : List Value → List Value → List Block → List Block → Value → List Value → Block →
    List Block → Prop
  | here {entry : Value} {rest later : List Value} {b : Block} {bs laters : List Block} :
    Beside (entry :: rest) later (b :: bs) laters entry (rest ++ later) b (bs ++ laters)
  | behind {other entry : Value} {rest later found : List Value} {c b : Block}
    {bs laters behind : List Block} (h : Beside rest later bs laters entry found b behind) :
    Beside (other :: rest) later (c :: bs) laters entry found b behind
  | inside {other entry : Value} {o : Origin} {es : Entries} {i : Nat}
    {branch rest later found : List Value} {c b : Block} {body bs laters behind : List Block}
    (hother : other.expose = .map o es) (hbranch : (Entry.branches es)[i]? = some branch)
    (hbody : c.branches[i]? = some body)
    (h : Beside branch (rest ++ later) body (bs ++ laters) entry found b behind) :
    Beside (other :: rest) later (c :: bs) laters entry found b behind

/-- Wherever an entry stands among others, a block stands at the same place among those that they
are read as. -/
theorem exists_beside {entries later found : List Value} {entry : Value} {bs : List Block}
    (h : Entry.Occurs entries later entry found) (hread : List.Forall₂ (ReadAs limits) entries bs)
    (laters : List Block) : ∃ b behind, Beside entries later bs laters entry found b behind := by
  induction h generalizing bs laters with
  | here =>
    obtain _ | ⟨-, -⟩ := hread
    exact ⟨_, _, .here⟩
  | behind _ ih =>
    obtain _ | ⟨-, hrest⟩ := hread
    obtain ⟨b, behind, h⟩ := ih hrest laters
    exact ⟨b, behind, .behind h⟩
  | inside hother hmem _ ih =>
    obtain _ | ⟨hentry, hrest⟩ := hread
    have hbranches := hentry.branches hother
    obtain ⟨i, hi, rfl⟩ := List.mem_iff_getElem.1 hmem
    have hi' := hbranches.length_eq ▸ hi
    obtain ⟨b, behind, h⟩ := ih (hbranches.get hi hi') (_ ++ laters)
    exact ⟨b, behind, .inside hother (List.getElem?_eq_getElem hi) (List.getElem?_eq_getElem hi') h⟩

/-- The block at the place of an entry is what the entry is read as, and what comes later is read as
what is run behind it. -/
theorem Beside.exists_within {entries later found : List Value} {entry : Value}
    {bs laters behind : List Block} {b : Block}
    (h : Beside entries later bs laters entry found b behind)
    (hread : List.Forall₂ (ReadAs limits) entries bs)
    (hlater : List.Forall₂ (ReadAs limits) later laters) :
    ∃ rest place, Block.Within bs (Block.listFirst none laters) (b :: rest) place
      ∧ ReadAs limits entry b ∧ List.Forall₂ (ReadAs limits) found behind
      ∧ Block.listFirst place rest = Block.listFirst none behind
      ∧ Block.listNodes behind ⊆ Block.listNodes bs ++ Block.listNodes laters := by
  induction h with
  | here =>
    obtain _ | ⟨hentry, hrest⟩ := hread
    refine ⟨_, _, .refl, hentry, List.rel_append hrest hlater,
      (Block.listFirst_append none _ _).symm, ?_⟩
    rw [Block.listNodes_append, Block.listNodes, List.append_assoc]
    exact List.subset_append_right _ _
  | behind _ ih =>
    obtain _ | ⟨-, hrest⟩ := hread
    obtain ⟨rest, place, hwithin, hentry, hfound, hplace, hsubset⟩ := ih hrest hlater
    refine ⟨rest, place, Block.Within.refl.behind.trans hwithin, hentry, hfound, hplace, ?_⟩
    rw [Block.listNodes, List.append_assoc]
    exact List.Subset.trans hsubset (List.subset_append_right _ _)
  | inside hother hbranch hbody _ ih =>
    obtain _ | ⟨hentry, hrest⟩ := hread
    have hmem := List.mem_of_getElem? hbody
    -- branches at the same place among those of the entry and of the block
    obtain ⟨hi, rfl⟩ := List.getElem?_eq_some_iff.1 hbranch
    obtain ⟨hi', rfl⟩ := List.getElem?_eq_some_iff.1 hbody
    obtain ⟨rest, place, hwithin, hfound, hbehind, hplace, hsubset⟩ :=
      ih ((hentry.branches hother).get hi hi') (List.rel_append hrest hlater)
    rw [Block.listFirst_append] at hwithin
    refine ⟨rest, place, (Block.Within.refl.inside hmem).trans hwithin, hfound, hbehind, hplace, ?_⟩
    rw [Block.listNodes_append] at hsubset
    rw [Block.listNodes, List.append_assoc]
    exact List.Subset.trans hsubset (List.append_subset.2 ⟨List.subset_append_of_subset_left _
      (Block.nodes_branch_subset hmem), List.subset_append_right _ _⟩)

/-- The block of an entry stands inside the blocks where the entry stands among the others, and
what comes later is read as what is run behind it. -/
theorem exists_within {entries later found : List Value} {entry : Value} {bs laters : List Block}
    (h : Entry.Occurs entries later entry found) (hread : List.Forall₂ (ReadAs limits) entries bs)
    (hlater : List.Forall₂ (ReadAs limits) later laters) :
    ∃ b rest place behind, Block.Within bs (Block.listFirst none laters) (b :: rest) place
      ∧ ReadAs limits entry b ∧ List.Forall₂ (ReadAs limits) found behind
      ∧ Block.listFirst place rest = Block.listFirst none behind := by
  obtain ⟨b, behind, hbeside⟩ := exists_beside h hread laters
  obtain ⟨rest, place, hwithin, hentry, hfound, hplace, -⟩ := hbeside.exists_within hread hlater
  exact ⟨b, rest, place, behind, hwithin, hentry, hfound, hplace⟩

/-- Blocks inside the blocks come from entries that stand there among the others, and what is run
behind them from what comes later. -/
theorem exists_occurs {entries later : List Value} {bs bs' laters : List Block}
    {place : Option String} (h : Block.Within bs (Block.listFirst none laters) bs' place)
    (hread : List.Forall₂ (ReadAs limits) entries bs)
    (hlater : List.Forall₂ (ReadAs limits) later laters) :
    ∃ entries' later' behind, List.Forall₂ (ReadAs limits) entries' bs'
      ∧ List.Forall₂ (ReadAs limits) later' behind ∧ place = Block.listFirst none behind
      ∧ ∀ entry found, Entry.Occurs entries' later' entry found →
          Entry.Occurs entries later entry found := by
  -- on how the place is come to: each move among the blocks is made among the entries
  induction h with
  | refl => exact ⟨entries, later, laters, hread, hlater, rfl, fun _ _ h => h⟩
  | behind _ ih =>
    obtain ⟨entries', later', behind, hentries, hbehind, hplace, hoccurs⟩ := ih
    obtain _ | ⟨-, hrest⟩ := hentries
    exact ⟨_, later', behind, hrest, hbehind, hplace, fun _ _ h => hoccurs _ _ h.behind⟩
  | @inside b branch rest place _ hmem ih =>
    obtain ⟨entries', later', behind, hentries, hbehind, hplace, hoccurs⟩ := ih
    obtain _ | ⟨hentry, hrest⟩ := hentries
    obtain ⟨o, es, hexpose, -⟩ := hentry.exists_entries
    obtain ⟨held, hheld, hbody⟩ := exists_match_of_mem (hentry.branches hexpose).flip hmem
    refine ⟨held, _, rest ++ behind, hbody, List.rel_append hrest hbehind, ?_,
      fun _ _ h => hoccurs _ _ (h.inside hexpose hheld)⟩
    rw [Block.listFirst_append, hplace]

/-- Entries of some sort are read as blocks of some sort, wherever they stand. -/
theorem holds_iff {sort : Entries → Bool} {sort' : Block → Bool}
    (hsort : ∀ entry b o es, ReadAs limits entry b → entry.expose = .map o es → sort' b = sort es)
    {entries : List Value} {bs : List Block} (hread : List.Forall₂ (ReadAs limits) entries bs) :
    Entry.Holds sort entries ↔ Block.Holds sort' bs := by
  constructor
  · rintro ⟨entry, found, o, es, hoccurs, hentry, hes⟩
    obtain ⟨b, rest, place, -, hwithin, hb, -⟩ := exists_within hoccurs hread .nil
    exact ⟨b, rest, place, hwithin, (hsort _ _ _ _ hb hentry).trans hes⟩
  · rintro ⟨b, rest, place, hwithin, hb⟩
    obtain ⟨entries', later', -, hentries, -, -, hoccurs⟩ :=
      exists_occurs (by exact hwithin) hread .nil
    obtain _ | ⟨hentry, -⟩ := hentries
    obtain ⟨o, es, hexpose, -⟩ := hentry.exists_entries
    exact ⟨_, _, o, es, hoccurs _ _ .here, hexpose, (hsort _ _ _ _ hentry hexpose).symm.trans hb⟩

end Program

end Automation
