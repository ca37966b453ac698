import Automation.Proofs.Document.Classification
import Automation.Proofs.Program.Entries
import Automation.Proofs.Program.Skipping

/-!
# Disabled blocks of documents

A run that comes to a block of a document that is disabled goes on at the first node of what comes
later, in the list of the block or in the lists around it, and enters nothing inside the block
(`Document.runFrom_disabled`). When a gate stands in one of the branches, the run ends instead: the
graph has lost where the block ends, and goes by what all runs through the branches pass
(`Document.exists_disabled_not_passed`).
-/

namespace Automation

namespace Entry

/-- A block is disabled when its entry says so. -/
theorem get_enabled_flagsOf (es : Entries) : (flagsOf es).get "enabled" = es.get "enabled" := by
  rw [Entries.get, get?_flagsOf es (by decide), Entries.get]

end Entry

namespace Program

/-- A block that chooses is read as a choice whose first condition has the flags of the block. -/
theorem ReadAs.exists_head {limits : Limits} {entry : Value} {b : Block} (h : ReadAs limits entry b)
    {o : Origin} {es : Entries} (hentry : entry.expose = .map o es)
    (hchooses : Entry.chooses es = true) :
    ∃ n body options otherwise, b = .choice ((n, body) :: options) otherwise
      ∧ n.flags = Entry.flagsOf es := by
  obtain ⟨levels, place, created, after, h⟩ := h
  -- only a block that chooses has a first condition
  cases h with
  | step hentry' hkind | gate hentry' hkind =>
    rw [hentry] at hentry'
    cases hentry'
    rw [Entry.chooses, hkind] at hchooses
    cases hchooses
  | ifBlock hentry' hkind =>
    rw [hentry] at hentry'
    cases hentry'
    exact ⟨_, _, _, _, rfl, rfl⟩
  | chooseBlock hentry' hkind hoptions =>
    rw [hentry] at hentry'
    cases hentry'
    rw [Entry.chooses, hkind] at hchooses
    generalize entriesOf (es.get "choose") = listed at hchooses hoptions
    cases hoptions with
    | nil => cases hchooses
    | cons => exact ⟨_, _, _, _, rfl, rfl⟩

end Program

namespace Document

/-- The graph of a document is that of a program whose blocks its entries are read as, each entry as
the block at its place. A run that comes to the first node of the block of a disabled entry goes on
at the first node of what comes later, and enters nothing inside the block. It ends when nothing
comes later, and also when a gate stands in one of the branches. -/
theorem runFrom_disabled {limits : Limits} {freshId : String} {document : Value} {reading : Nat}
    {r : AutomationRecord} {g : Graph} (hrecord : outline document reading = .ok (r, none))
    (h : (parse limits freshId document reading).1 = .ok g) :
    ∃ p joins, Program.SectionsRead limits (modernTriggers r.triggers).1 r.conditions r.actions p
      ∧ g.nodes = p.nodes ∧ g.edges = p.edges ∧ g.blockJoins = .ok joins
      ∧ (∀ entry later, Entry.Occurs (r.actions.map .ofEntries) [] entry later →
        ∃ b behind, Program.Beside (r.actions.map .ofEntries) [] p.body [] entry later b behind)
      ∧ ∀ entry later b behind,
        Program.Beside (r.actions.map .ofEntries) [] p.body [] entry later b behind →
        ∀ o (es : Entries), entry.expose = .map o es → Entry.chooses es = true →
          (es.get "enabled").isFalse = true →
          Program.ReadAs limits entry b ∧ List.Forall₂ (Program.ReadAs limits) later behind
          ∧ Block.listNodes behind ⊆ g.nodes
          ∧ ∃ n body options otherwise, b = .choice ((n, body) :: options) otherwise
            ∧ n ∈ g.nodes ∧ n.flags = Entry.flagsOf es
            ∧ ((∀ branch ∈ Entry.branches es, ¬Entry.Holds Entry.isGate branch) →
              ∀ limit steps c, Run.start (g.runFrom joins limit (steps + 1) (some n.id)) c
                = Run.start
                  (g.runFrom joins limit steps ((Block.listNodes behind).head?.map (·.id)))
                  { c with trace := c.trace ++ [.str n.id] })
            ∧ ((∃ branch ∈ Entry.branches es, Entry.Holds Entry.isGate branch) →
              ∀ limit steps c, Run.start (g.runFrom joins limit (steps + 1) (some n.id)) c
                = (.ok (), { c with trace := c.trace ++ [.str n.id] })) := by
  obtain ⟨p, hread, hparsed, -⟩ := exists_parsed hrecord h
  obtain ⟨after, hbody⟩ := hread.body
  obtain ⟨joins, -, hjoins, -⟩ := hparsed.exists_blockJoins
  refine ⟨p, joins, hread, hparsed.nodes, hparsed.edges, hjoins,
    fun entry later hoccurs => Program.exists_beside hoccurs hbody.readAs [],
    fun entry later b behind hbeside o es hentry hchooses hdisabled => ?_⟩
  obtain ⟨rest, place, hwithin, hb, hbehind, hplace, hsubset⟩ :=
    hbeside.exists_within hbody.readAs .nil
  obtain ⟨n, body, options, otherwise, rfl, hflags⟩ := hb.exists_head hentry hchooses
  -- the block stands in the body of the program, with its first condition in front
  have hwithin := p.within_body.trans hwithin
  rw [← Entry.get_enabled_flagsOf, ← hflags] at hdisabled
  obtain ⟨joins', hjoins', hrun⟩ := hparsed.skips_disabled hwithin hdisabled
  cases hjoins.symm.trans hjoins'
  have hgated := holds_branches hb hentry rfl
  have hn : n ∈ Block.listNodes p.blocks := hwithin.subset <| by
    rw [Block.listNodes_option]
    exact List.mem_cons_self
  refine ⟨hb, hbehind, fun m hm => ?_, n, body, options, otherwise, rfl, hparsed.mem_nodes hn, hflags,
    fun hnone limit steps c => ?_, fun hgate limit steps c => ?_⟩
  · rw [hparsed.nodes, Program.nodes]
    refine List.mem_append_right _ ?_
    simpa [Block.listNodes] using hsubset hm
  · rw [hrun, if_neg, hplace, Block.listFirst_none]
    rw [← hgated]
    push Not
    exact hnone
  · rw [hrun, if_pos (hgated.1 hgate)]
    cases steps <;> rfl

/-- An automation with a disabled block, in which a gate stands, and an action behind the block. -/
def disabledHall : Value := .ofEntries [
  (.str "triggers", .ofItems [.ofEntries [(.str "trigger", .str "time")]]),
  (.str "actions", .ofItems [
    .ofEntries [
      (.str "if", .ofItems [.ofEntries [(.str "condition", .str "state"),
        (.str "entity_id", .str "light.hall"), (.str "state", .str "on")]]),
      (.str "enabled", .bool false),
      (.str "then", .ofItems [.ofEntries [(.str "condition", .str "state"),
        (.str "entity_id", .str "person.ada"), (.str "state", .str "home")]])],
    .ofEntries [(.str "action", .str "light.turn_on")]])]

theorem isSome_parse_disabledHall : (parse {} "new" disabledHall).1.toOption.isSome = true := by
  decide +kernel

theorem exists_outline_disabledHall : ∃ r entry later o, ∃ es : Entries,
    outline disabledHall = .ok (r, none)
      ∧ Entry.Occurs (r.actions.map .ofEntries) [] entry later ∧ entry.expose = .map o es
      ∧ Entry.chooses es = true ∧ (es.get "enabled").isFalse = true
      ∧ Entry.Holds Entry.isNode later
      ∧ ∃ branch ∈ Entry.branches es, Entry.Holds Entry.isGate branch := by
  refine ⟨_, _, _, _, _, rfl, .here, rfl, rfl, rfl, ?_, _, List.mem_cons_self, ?_⟩
  · exact ⟨_, _, _, _, .here, rfl, rfl⟩
  · exact ⟨_, _, _, _, .here, rfl, rfl⟩

theorem runFrom_disabledHall : ∃ r g n joins, outline disabledHall = .ok (r, none)
    ∧ (parse {} "new" disabledHall).1 = .ok g ∧ g.blockJoins = .ok joins ∧ n ∈ g.nodes
    ∧ Run.start (g.runFrom joins 1000 1000 (some n.id)) {}
      = (.ok (), { trace := [.str n.id] }) := by
  have hread := isSome_parse_disabledHall
  rcases hparse : (parse {} "new" disabledHall).1 with _ | g
  · rw [hparse] at hread
    cases hread
  obtain ⟨r, entry, later, o, es, hrecord, hoccurs, hentry, hchooses, hdisabled, -, hgate⟩ :=
    exists_outline_disabledHall
  obtain ⟨p, joins, -, -, -, hjoins, hbeside, hskips⟩ := runFrom_disabled hrecord hparse
  obtain ⟨b, behind, hbeside⟩ := hbeside entry later hoccurs
  obtain ⟨-, -, -, n, -, -, -, -, hn, -, -, hends⟩ :=
    hskips entry later b behind hbeside o es hentry hchooses hdisabled
  exact ⟨r, g, n, joins, hrecord, rfl, hjoins, hn, hends hgate 1000 999 {}⟩

/-- A run that comes to a disabled block can end there although an action is to be run behind the
block. -/
theorem exists_disabled_not_passed : ∃ r g,
    outline disabledHall = .ok (r, none) ∧ (parse {} "new" disabledHall).1 = .ok g
      ∧ (∃ entry later o, ∃ es : Entries, Entry.Occurs (r.actions.map .ofEntries) [] entry later
        ∧ entry.expose = .map o es ∧ Entry.chooses es = true ∧ (es.get "enabled").isFalse = true
        ∧ Entry.Holds Entry.isNode later)
      ∧ g.nodes.map (·.id) = ["trigger_1", "condition_1", "condition_2", "action_1"]
      ∧ (Run.start (g.run {} none) {}).1.toOption = some ()
      ∧ (Run.start (g.run {} none) {}).2.trace.map Value.text? = [some "condition_1"]
      ∧ (Run.start (g.run {} none) {}).2.logs.length = 0 := by
  have hread := isSome_parse_disabledHall
  have hrun : (parse {} "new" disabledHall).1.toOption.all (fun g =>
      g.nodes.map (·.id) = ["trigger_1", "condition_1", "condition_2", "action_1"]
        ∧ (Run.start (g.run {} none) {}).1.toOption = some ()
        ∧ (Run.start (g.run {} none) {}).2.trace.map Value.text? = [some "condition_1"]
        ∧ (Run.start (g.run {} none) {}).2.logs.length = 0) = true := by decide +kernel
  rcases hparse : (parse {} "new" disabledHall).1 with _ | g
  · rw [hparse] at hread
    cases hread
  rw [hparse] at hrun
  -- the document has an entry behind the disabled block, and the run never comes to it
  obtain ⟨r, entry, later, o, es, hrecord, hoccurs, hentry, hchooses, hdisabled, hlater, -⟩ :=
    exists_outline_disabledHall
  exact ⟨r, g, hrecord, rfl,
    ⟨entry, later, o, es, hoccurs, hentry, hchooses, hdisabled, hlater⟩, of_decide_eq_true hrun⟩

end Document

end Automation
