import Automation.Proofs.Program.Positions

/-!
# Entries inside blocks

How deep an entry stands inside blocks (`Entry.StandsIn`), and how many nodes entries and all that
is inside them create (`Entry.Counts`). Both are told from the entries alone. A statement about all
entries, wherever they stand, is one about those in front and one about those that they hold
(`Entry.throughout_iff`), and a reading makes as many nodes as the entries create
(`Program.ListRead.counts`).
-/

namespace Automation

open Program (entriesOf)

namespace Entry

/-- The entries that an entry holds, in all its branches. -/
def held (entry : Value) : List Value :=
  match entry.expose with
  | .map _ es => (branches es).flatten
  | _ => []

/-- Whether an entry is a branching block. -/
def isBlock (es : Entries) : Bool :=
  match kind es with
  | .ifBlock => true
  | .chooseBlock => true
  | _ => false

/-- An entry that stands among others inside so many blocks. -/
inductive StandsIn (entries : List Value) : Nat → Value → Prop
  | outermost {entry : Value} (h : entry ∈ entries) : StandsIn entries 0 entry
  | inside {depth : Nat} {outer entry : Value} (h : StandsIn entries depth outer)
    (hmem : entry ∈ held outer) : StandsIn entries (depth + 1) entry

/-- How many nodes are created for an entry itself: one for each condition of a block. -/
def ownNodes (es : Entries) : Nat :=
  match kind es with
  | .chooseBlock => (entriesOf (es.get "choose")).length
  | _ => 1

/-- How many nodes entries create, with all that is inside them. -/
inductive Counts : List Value → Nat → Prop
  | nil : Counts [] 0
  | cons {entry : Value} {rest : List Value} {o : Origin} {es : Entries} {inside others : Nat}
    (hentry : entry.expose = .map o es) (hinside : Counts (held entry) inside)
    (hrest : Counts rest others) : Counts (entry :: rest) (ownNodes es + inside + others)

section Held

variable {entry : Value} {o : Origin} {es : Entries} (hentry : entry.expose = .map o es)

include hentry

/-- A condition block holds the entries of its two branches. -/
theorem held_of_ifBlock (hkind : kind es = .ifBlock) :
    held entry = entriesOf (es.get "then") ++ entriesOf (es.get "else") := by
  rw [held, hentry]
  dsimp only
  rw [branches, hkind]
  simp

/-- A block of options holds the entries of its options and those of its default. -/
theorem held_of_chooseBlock (hkind : kind es = .chooseBlock) :
    held entry = ((entriesOf (es.get "choose")).map optionEntries).flatten
      ++ entriesOf (es.get "default") := by
  rw [held, hentry]
  dsimp only
  rw [branches, hkind]
  simp

/-- Only blocks hold entries. -/
theorem held_of_isBlock (hblock : isBlock es = false) : held entry = [] := by
  rw [held, hentry]
  dsimp only
  unfold branches
  unfold isBlock at hblock
  split at hblock <;> simp_all

end Held

/-! ## Counting -/

namespace Counts

variable {xs ys : List Value} {m n : Nat}

/-- Entries create one number of nodes. -/
theorem unique (h : Counts xs m) (h' : Counts xs n) : n = m := by
  induction h generalizing n with
  | nil =>
    cases h'
    rfl
  | cons hentry _ _ ihInside ihRest =>
    cases h' with
    | cons hentry' hinside' hrest' =>
      cases hentry.symm.trans hentry'
      rw [ihInside hinside', ihRest hrest']

/-- Counts of two lists add up. -/
theorem append (h : Counts xs m) (h' : Counts ys n) : Counts (xs ++ ys) (m + n) := by
  induction h with
  | nil =>
    rw [Nat.zero_add]
    exact h'
  | cons hentry hinside _ _ ihRest =>
    rw [Nat.add_assoc]
    exact .cons hentry hinside ihRest

/-- An entry by itself. -/
theorem single {entry : Value} {o : Origin} {es : Entries} (hentry : entry.expose = .map o es)
    (hinside : Counts (held entry) m) (hn : n = ownNodes es + m) : Counts [entry] n := by
  rw [hn, ← Nat.add_zero (_ + _)]
  exact .cons hentry hinside .nil

/-- What is no block creates one node. -/
theorem leaf {entry : Value} {o : Origin} {es : Entries} (hentry : entry.expose = .map o es)
    (hblock : isBlock es = false) : Counts [entry] 1 := by
  have hown : ownNodes es = 1 := by
    unfold ownNodes
    unfold isBlock at hblock
    split
    · rename_i hkind
      rw [hkind] at hblock
      cases hblock
    · rfl
  refine single hentry ?_ (congrArg (· + 0) hown.symm)
  rw [held_of_isBlock hentry hblock]
  exact .nil

end Counts

/-! ## What holds of all entries -/

/-- Something holds of all entries, each with how many blocks it stands in. -/
def Throughout (Q : Nat → Value → Prop) (entries : List Value) : Prop :=
  ∀ depth entry, StandsIn entries depth entry → Q depth entry

section Throughout

variable {Q R : Nat → Value → Prop} {xs ys : List Value} {entry : Value}

/-- What stands in an entry stands one level further down in the list around it. -/
theorem StandsIn.of_held {depth : Nat} {outer : Value} (h : StandsIn (held outer) depth entry)
    (hmem : outer ∈ xs) : StandsIn xs (depth + 1) entry := by
  induction h with
  | outermost h => exact .inside (.outermost hmem) h
  | inside _ hmem ih => exact .inside ih hmem

/-- An entry stands in front, or inside one that does. -/
theorem StandsIn.front {depth : Nat} (h : StandsIn xs depth entry) :
    depth = 0 ∧ entry ∈ xs
      ∨ ∃ outer ∈ xs, ∃ inside, depth = inside + 1 ∧ StandsIn (held outer) inside entry := by
  induction h with
  | outermost h => exact .inl ⟨rfl, h⟩
  | inside _ hmem ih =>
    rcases ih with ⟨rfl, hfront⟩ | ⟨outer, hfront, inside, rfl, h⟩
    · exact .inr ⟨_, hfront, 0, rfl, .outermost hmem⟩
    · exact .inr ⟨outer, hfront, inside + 1, rfl, .inside h hmem⟩

/-- What holds throughout entries holds of each in front, and of those inside it. -/
theorem throughout_iff : Throughout Q xs
    ↔ ∀ entry ∈ xs, Q 0 entry ∧ Throughout (fun depth => Q (depth + 1)) (held entry) := by
  constructor
  · intro h entry hmem
    exact ⟨h 0 entry (.outermost hmem), fun depth e hin => h (depth + 1) e (hin.of_held hmem)⟩
  · intro h depth entry hin
    rcases hin.front with ⟨rfl, hmem⟩ | ⟨outer, hmem, inside, rfl, hinside⟩
    · exact (h entry hmem).1
    · exact (h outer hmem).2 inside entry hinside

theorem throughout_nil : Throughout Q [] := throughout_iff.2 nofun

/-- A property holds throughout two lists when it does throughout each. -/
theorem throughout_append :
    Throughout Q (xs ++ ys) ↔ Throughout Q xs ∧ Throughout Q ys := by
  rw [throughout_iff, throughout_iff, @throughout_iff Q ys]
  exact List.forall_mem_append

/-- A property holds throughout an entry when it holds of the entry, and one level further down
throughout what it holds. -/
theorem throughout_singleton : Throughout Q [entry]
    ↔ Q 0 entry ∧ Throughout (fun depth => Q (depth + 1)) (held entry) := by
  rw [throughout_iff, List.forall_mem_singleton]

theorem throughout_congr (h : ∀ depth entry, Q depth entry ↔ R depth entry) :
    Throughout Q xs ↔ Throughout R xs :=
  forall_congr' fun depth => forall_congr' fun entry => imp_congr_right fun _ => h depth entry

end Throughout

end Entry

/-! ## What a reading creates -/

namespace Program

open Entry

variable {limits : Limits}

mutual
/-- An entry that is read creates the nodes of its block. -/
theorem EntryRead.counts {levels : Nat} {place : Place} {entry : Value}
    {created after : List NodeKind} {b : Block} :
    EntryRead limits levels place entry created b after → Counts [entry] b.nodes.length
  | .step hentry hkind _ => .leaf hentry (by rw [isBlock, hkind])
  | .gate hentry hkind _ => .leaf hentry (by rw [isBlock, hkind])
  | .ifBlock hentry hkind _ hthen helse => by
    have hinside := (ListRead.counts hthen).append (ListRead.counts helse)
    rw [← held_of_ifBlock hentry hkind] at hinside
    -- the first condition is the block's own, next to what its branches hold
    refine .single hentry hinside ?_
    rw [ownNodes, hkind, Block.nodes, Block.optionNodes, Block.optionNodes, List.append_nil,
      List.length_append, List.length_cons]
    dsimp only
    omega
  | .chooseBlock hentry hkind hoptions hdefault => by
    obtain ⟨inside, hoptions, hcount⟩ := OptionsRead.counts hoptions
    have hinside := hoptions.append (ListRead.counts hdefault)
    rw [← held_of_chooseBlock hentry hkind] at hinside
    refine .single hentry hinside ?_
    rw [ownNodes, hkind, Block.nodes, List.length_append, hcount]
    dsimp only
    omega

/-- Entries that are read create the nodes of their blocks. -/
theorem ListRead.counts {levels : Nat} {place : Place} {i : Nat} {entries : List Value}
    {created after : List NodeKind} {bs : List Block} :
    ListRead limits levels place i entries created bs after →
    Counts entries (Block.listNodes bs).length
  | .nil => .nil
  | .cons hentry hrest => by
    rw [Block.listNodes, List.length_append]
    exact (EntryRead.counts hentry).append (ListRead.counts hrest)

/-- Options that are read create a node for each, and those of the entries that they hold. -/
theorem OptionsRead.counts {levels : Nat} {place : Place} {i : Nat} {flags : Entries}
    {options : List Value} {created after : List NodeKind} {read : List (Node × List Block)} :
    OptionsRead limits levels place i flags options created read after →
    ∃ inside, Counts (options.map optionEntries).flatten inside
      ∧ (Block.optionNodes read).length = options.length + inside
  | .nil => ⟨0, .nil, rfl⟩
  | .cons hoption _ _ hbody hrest => by
    obtain ⟨inside, hinside, hcount⟩ := OptionsRead.counts hrest
    have hall := (ListRead.counts hbody).append hinside
    refine ⟨_, by rwa [List.map_cons, List.flatten_cons, optionEntries, hoption], ?_⟩
    rw [Block.optionNodes, List.length_append, List.length_cons, List.length_cons, hcount]
    omega
end

end Program

end Automation
