import Automation.Proofs.Document.Regeneration
import Automation.Proofs.Document.Sheet
import Automation.Proofs.Document.Tolerance
import Automation.Proofs.Program.Answers
import Automation.Proofs.Record.Editor

/-!
# Documents and graphs without faults

Whatever is wrong with a document or a graph, it is told in a refusal, as long as two things hold of
it: its integers can be written, and what its checks look up can be looked up. Those are the
platforms of triggers and, in a graph that an editor gives, the kinds of conditions; a document
makes texts of the latter when it is read. Of a document a third thing is asked, that no action is
found inside itself. Then `Document.parse` comes to a graph that keeps the invariants or to a
refusal, and `Document.transpileValue` to a document or to a refusal
(`Document.answers_parse_transpileValue`). A platform that is a collection is looked up all the same,
and an action inside itself is looked into without end (`Document.faults_listedPlatform`).
-/

namespace Automation

open Entries Outcome Reads

/-! ## What the checks of nodes look up -/

/-- A platform, if there is one, can be looked up. -/
def Entries.HasPlatform (es : Entries) : Prop :=
  (es.get "trigger").truthy = true → (es.get "trigger").isKey = true

/-- The kind of a condition, if there is one, can be looked up, and so can those of the conditions
that it groups. -/
inductive Condition.HasKinds : Entries → Prop where
  | intro {data : Entries}
    (kind : (data.get "condition").truthy = true → (data.get "condition").isKey = true)
    (parts : Node.isGroupKind (data.get "condition") = true → ∀ o items,
      data.get "conditions" = .list o items → ∀ p es, .map p es ∈ items → HasKinds es) :
    HasKinds data

/-- What the checks of a node look up can be looked up. -/
structure Node.HasKinds (n : Node) : Prop where
  platform : n.kind = .trigger → n.data.HasPlatform
  condition : n.kind = .condition → Condition.HasKinds n.data

namespace Node

theorem exists_triggerIssues {data : Entries} (h : data.HasPlatform) :
    ∃ issues, triggerIssues data = .ok issues := by
  unfold triggerIssues
  dsimp only
  split
  · exact ⟨_, rfl⟩
  · rename_i htruthy
    split
    · exact ⟨_, rfl⟩
    · rw [if_pos (h (by simpa using htruthy))]
      exact ⟨_, rfl⟩

theorem exists_conditionIssues {data : Entries} (h : Condition.HasKinds data) (depth : Nat) :
    ∃ issues, conditionIssues depth data = .ok issues := by
  induction h generalizing depth with
  | @intro data kind _ ih =>
    cases depth with
    | zero => exact ⟨[], rfl⟩
    | succ depth =>
      rw [conditionIssues]
      split
      · exact ⟨_, rfl⟩
      · rename_i htruthy
        split
        · rename_i hgroup
          split
          · rename_i o c cs hlist
            refine exists_foldlM_eq_ok _ fun issues sub hsub => ?_
            split
            · rename_i p es
              -- a part that is a mapping is looked into one level further down
              obtain ⟨more, hmore⟩ := ih hgroup o _ hlist p es hsub depth
              exact ⟨issues ++ more, by rw [hmore]; rfl⟩
            · exact ⟨issues, rfl⟩
          · exact ⟨_, rfl⟩
        · split
          · exact ⟨_, rfl⟩
          · -- a kind that counts as true is looked up among the fields, so it has to be one that
            -- can be
            rw [if_pos (kind (by simpa using htruthy))]
            exact ⟨_, rfl⟩

/-- What there is to say about a node can be told. -/
theorem HasKinds.told {n : Node} (h : n.HasKinds) (htext : n.data.HasText) (limits : Limits) :
    n.IsTold limits := by
  cases hkind : n.kind with
  | action => exact (isTold_action_iff hkind).2 fun action hget _ => htext.get? hget
  | trigger =>
    unfold IsTold issues
    rw [hkind]
    exact exists_triggerIssues (h.platform hkind)
  | condition =>
    unfold IsTold issues
    rw [hkind]
    exact exists_conditionIssues (h.condition hkind) _
  | _ =>
    unfold IsTold issues
    rw [hkind]
    exact ⟨_, rfl⟩

end Node

namespace Graph

variable {g : Graph} {limits : Limits}

/-- What is wrong with a graph of nodes of known kinds is told. -/
theorem answers_check (h : ∀ n ∈ g.nodes, n.kind.isKnown = true) :
    Answers (fun _ => g.check limits = .ok ()) (g.check limits) := by
  generalize hcheck : g.check limits = o
  unfold check at hcheck
  split at hcheck
  · exact hcheck ▸ .tooLarge _
  · split at hcheck
    · exact hcheck ▸ .ok rfl
    · rename_i problems _
      refine hcheck ▸ .malformed fun v hv => ?_
      obtain ⟨problem, hproblem, hv⟩ := List.mem_flatMap.1 hv
      rw [values_of_mem_problems h problem hproblem] at hv
      cases hv

theorem exists_notices (h : ∀ n ∈ g.nodes, n.IsTold limits) :
    ∃ notices, g.notices limits = .ok notices ∧ Notice.check notices = .ok () := by
  obtain ⟨notices, hnotices, hcheck, -⟩ := exists_notices_eq_ok h
  exact ⟨notices, hnotices, hcheck⟩

end Graph

namespace Document

variable {limits : Limits} {freshId : String} {document : Value} {reading : Nat} {raw : Entries}
  {r : AutomationRecord} {g : Graph}

/-! ## Sections -/

/-- Renaming the sections of a document quotes no values of it. -/
theorem answers_renameSections (whole : Entries) {notices : List Notice}
    (hnotices : ∀ notice ∈ notices, notice.values = []) (es : Entries) :
    (∀ notice ∈ (renameSections whole es notices).2, notice.values = [])
      ∧ Answers (fun _ => True) (renameSections whole es notices).1 := by
  induction es generalizing notices with
  | nil => exact ⟨hnotices, .ok trivial⟩
  | cons e es ih =>
    obtain ⟨k, v⟩ := e
    have hmap {o : Outcome Entries} {f : Entries → Entries} (ho : Answers (fun _ => True) o) :
        Answers (fun _ => True) (o.map f) := by
      cases ho with
      | ok h => exact .ok h
      | refused r => exact .refused r
    rw [renameSections]
    split
    · obtain ⟨hvalues, hanswers⟩ := ih hnotices
      exact ⟨hvalues, hmap hanswers⟩
    · -- a section under both names is refused, and one under an old name gives a notice
      rename_i new _
      split
      · exact ⟨hnotices, .malformed (List.forall_mem_nil _)⟩
      · have hall : ∀ notice ∈ notices ++ [.renamedSection k.plain new], notice.values = [] :=
          List.forall_mem_append.2 ⟨hnotices, List.forall_mem_singleton.2 rfl⟩
        obtain ⟨hvalues, hanswers⟩ := ih hall
        exact ⟨hvalues, hmap hanswers⟩

theorem answers_sections (raw : Entries) : Notice.check (sections raw).2 = .ok ()
    ∧ Answers (fun found => (sections raw).1 = .ok found) (sections raw).1 := by
  obtain ⟨hvalues, hanswers⟩ := answers_renameSections raw (List.forall_mem_nil _) raw
  refine ⟨Notice.check_of_forall fun notice hnotice v hv => ?_, ?_⟩
  · rw [hvalues notice hnotice] at hv
    cases hv
  · refine (hanswers.bind fun renamed _ => (?_ : Answers (fun _ => True) _)).self
    unfold completeSections
    split
    · exact .malformed (List.forall_mem_nil _)
    · split
      · exact .malformed (List.forall_mem_nil _)
      · dsimp only
        split
        · exact .malformed (List.forall_mem_nil _)
        · exact .ok trivial

theorem answers_record (es : Entries) : Answers (fun r => AutomationRecord.ofEntries es = .ok r)
    (AutomationRecord.ofEntries es) := by
  refine (?_ : Answers (fun _ => True) _).self
  unfold AutomationRecord.ofEntries
  split
  · exact .ok trivial
  · exact .malformed (List.forall_mem_nil _)

/-! ## Reading -/

variable {triggers : List Entries}

/-- The structure of a document is read, or it is told why it is not. -/
theorem answering_readStructure (m : Option Metadata)
    (htriggers : ∀ es ∈ triggers, ∀ n : Node, n.kind = .trigger → n.data = es → n.IsTold limits)
    (hr : r.HasText) (hends : ¬Entry.Holds Entry.isEndlessEntry (r.actions.map .ofEntries)) :
    Answering (fun g => Program.Sound limits g.nodes) (readStructure limits m triggers r) := by
  refine (Program.answering_read htriggers hr.conditions hr.actions hends).bind fun p hp => ?_
  cases m with
  | none => exact .pure hp
  | some m =>
    obtain ⟨hcheck, -, hsame⟩ := restoreIds_same p.graph m
    refine (Answering.note hcheck).bind fun _ _ => .pure fun n hn => ?_
    obtain ⟨n', hn', hkind, hdata⟩ := hsame n hn
    exact ⟨hkind ▸ (hp n' hn').known, (hp n' hn').told.of_eq hkind hdata⟩

/-- The graph of a document is made, or it is told why it is not. -/
theorem answering_readGraph (m : Option Metadata)
    (htriggers : ∀ es ∈ triggers, ∀ n : Node, n.kind = .trigger → n.data = es → n.IsTold limits)
    (hr : r.HasText) (hends : ¬Entry.Holds Entry.isEndlessEntry (r.actions.map .ofEntries)) :
    Answering (fun g => Program.Sound limits g.nodes) (readGraph limits m triggers r) := by
  have hstructure := answering_readStructure m htriggers hr hends
  unfold readGraph
  cases m with
  | none => exact hstructure
  | some block =>
    dsimp only
    split
    · have hdecides := decides_decodeLoop block htriggers hr.actions
      generalize decodeLoop limits block triggers r = o at hdecides
      -- a loop that cannot be decoded is read as blocks instead
      cases hdecides with
      | ok h => exact .pure fun n hn => ⟨h.1.isKnown hn, h.2 n hn⟩
      | malformed cause =>
        have hcheck : Notice.check [.notDispatch cause] = .ok () := rfl
        exact (Answering.note hcheck).bind fun _ _ => hstructure
      | tooLarge cause => exact ⟨fun _ => .refused _⟩
    · exact hstructure.bind fun g hg => .pure hg

/-- A graph is settled, or it is told why it is not. -/
theorem answering_settle (m : Option Metadata) (hid : ∀ v ∈ r.id, v.hasText = true)
    (hg : Program.Sound limits g.nodes) :
    Answering (fun g => g.check limits = .ok ()) (settle limits freshId m r g) := by
  have hwritten : ∃ automationId, r.id.mapM Value.written = .ok automationId := by
    cases h : r.id with
    | none => exact ⟨none, rfl⟩
    | some id => exact ⟨some id.plain, by simp [Value.written, hid id h]⟩
  obtain ⟨automationId, hwritten⟩ := hwritten
  -- giving positions to nodes changes neither their kinds nor their data
  have hplaced : Program.Sound limits (m.elim g (placeNodes g)).nodes := by
    cases m with
    | none => exact hg
    | some m =>
      intro n hn
      obtain ⟨n', hn', rfl⟩ := List.mem_map.1 hn
      have hsound := hg n' hn'
      exact ⟨(congrArg NodeKind.isKnown (m.place_kind n')).trans hsound.known,
        hsound.told.of_eq (m.place_kind n') (m.place_data n')⟩
  have hdescribe : Answering (fun g => Program.Sound limits g.nodes)
      (lift (describe (m.elim g (placeNodes g)) m r freshId)) := by
    unfold describe
    dsimp only
    rw [hwritten]
    exact .lift (.ok hplaced)
  rw [settle_eq]
  refine hdescribe.bind fun g hg => ?_
  refine (Answering.lift (Graph.answers_check fun n hn => (hg n hn).known)).bind fun _ hcheck => ?_
  obtain ⟨notices, hnotices, htext⟩ := Graph.exists_notices fun n hn => (hg n hn).told
  rw [hnotices]
  exact (Answering.note htext).bind fun _ _ => .pure hcheck

/-- What there is to say about triggers whose platforms can be looked up can be told. -/
theorem told_of_hasPlatform (h : ∀ es ∈ triggers, es.HasPlatform) :
    ∀ es ∈ triggers, ∀ n : Node, n.kind = .trigger → n.data = es → n.IsTold limits := by
  rintro es hes n hkind rfl
  unfold Node.IsTold Node.issues
  rw [hkind]
  exact Node.exists_triggerIssues (h _ hes)

theorem values_of_modernTriggers {triggers : List Entries} {notice : Notice}
    (h : notice ∈ (modernTriggers triggers).2) : notice.values = [] := by
  obtain ⟨t, ht, hnotice⟩ := List.mem_flatMap.1 h
  obtain ⟨x, -, rfl⟩ := List.mem_map.1 ht
  exact Entry.values_of_mem_modernKey hnotice

/-- A document that can be written, with platforms that can be looked up and an end to each of its
steps, is read or refused. -/
theorem answers_parse (hload : load document reading = .ok raw) (htext : raw.HasText)
    (hplatforms : ∀ r m, outline document reading = .ok (r, m) →
      ∀ es ∈ (modernTriggers r.triggers).1, Entries.HasPlatform es)
    (hends : ∀ r m, outline document reading = .ok (r, m) →
      ¬Entry.Holds Entry.isEndlessEntry (r.actions.map .ofEntries)) :
    Answers (fun g => g.check limits = .ok ()) (parse limits freshId document reading).1 := by
  suffices hread : Answering (fun g => g.check limits = .ok ())
      (read limits freshId document reading) from hread.answers {}
  obtain ⟨hnotices, hsections⟩ := answers_sections raw
  -- step by step: the sections, the record, the notices about both, the graph
  unfold read
  rw [hload]
  refine (Answering.lift (.ok (rfl : raw = raw))).bind fun _ heq => ?_
  cases heq
  dsimp only
  refine (Answering.note hnotices).bind fun _ _ => ?_
  refine (Answering.lift hsections).bind fun found hfound => ?_
  refine (Answering.lift (answers_record found)).bind fun r hrecord => ?_
  have hfoundText := hasText_of_sections htext hfound
  have hr := AutomationRecord.HasText.ofEntries hfoundText hrecord
  have houtline : outline document reading = .ok (r, (Metadata.find found).1) := by
    unfold outline
    rw [hload, ok_bind, hfound, ok_bind, hrecord]
    rfl
  have hcheck {notices : List Notice} (h : ∀ notice ∈ notices, notice.values = []) :
      Notice.check notices = .ok () :=
    Notice.check_of_forall fun notice hnotice v hv => by
      rw [h notice hnotice] at hv
      cases hv
  refine (Answering.note (hcheck fun _ => values_of_modernTriggers)).bind fun _ _ => ?_
  refine (Answering.note (hcheck (List.forall_mem_map.2 fun _ _ => rfl))).bind fun _ _ => ?_
  refine (Answering.note (Metadata.check_find hfoundText)).bind fun _ _ => ?_
  refine (answering_readGraph _ (told_of_hasPlatform (hplatforms r _ houtline)) hr
    (hends r _ houtline)).bind fun g hg => ?_
  exact answering_settle _ hr.id hg

end Document

/-! ## Graphs that an editor gives -/

open Reader

/-- A node that an editor keeps can be written when the mapping that it is kept as can. -/
theorem Record.hasText_of_node {v : Value} (hv : v.hasText = true) {n : Node}
    (h : node v = .value n) : n.HasText := by
  obtain ⟨o, es, hexpose, hn⟩ := node_eq_value_iff.1 h
  have hes := Value.hasText_of_expose_eq_map hv hexpose
  have hfields {name : String} {fields : Entries}
      (hread : fieldOr es name [] entries = .value fields) : fields.HasText :=
    of_fieldOr hes (fun v hv fields => hasText_of_entries hv) hasText_nil hread
  refine ⟨hfields hn.data, fun p hp => ?_, ?_, hfields hn.flags⟩
  · obtain ⟨v, -, hv⟩ := of_optionalField_eq_value hn.position p hp
    obtain ⟨x, y, rfl⟩ := exists_floats_of_position hv
    rfl
  · obtain ⟨label, -, hlabel⟩ := hn.label
    rw [hlabel]
    cases label <;> rfl

theorem Record.hasText_of_settings {v : Value} (hv : v.hasText = true) {s : Settings}
    (h : settings v = .value s) : s.HasText := by
  obtain ⟨o, es, hexpose, hs⟩ := settings_eq_value_iff.1 h
  have hes := Value.hasText_of_expose_eq_map hv hexpose
  obtain ⟨run, vars, hrun, hvars, hsame⟩ := hs.run
  have hrun := Record.hasText_of_runSettings hes hrun
  have hvars : Entries.HasText vars :=
    of_fieldOr hes (fun v hv fields => hasText_of_entries hv) hasText_nil hvars
  rw [hsame]
  refine ⟨hrun.max, fun t ht => ?_, ?_⟩
  · obtain ⟨t', ht', rfl⟩ := Option.map_eq_some_iff.1 ht
    exact entriesHaveText_iff.1
      ((Value.entriesHaveText_detachEntries t').trans (entriesHaveText_iff.2 (hrun.trace t' ht')))
  · exact entriesHaveText_iff.1
      ((Value.entriesHaveText_detachEntries vars).trans (entriesHaveText_iff.2 hvars))

namespace Graph

/-- A graph that an editor gives has nodes of known kinds, and can be written when it is given
so. -/
theorem sound_of_ofEntries {es : Entries} (hes : es.HasText) {g : Graph} (h : ofEntries es = .ok g) :
    g.HasText ∧ ∀ n ∈ g.nodes, n.kind.isKnown = true := by
  have heditable : g.Editable := @editable_of_ofValue (.ofEntries es) g h
  refine ⟨?_, fun n hn => (heditable.nodes n hn).kind⟩
  have hg := ofEntries_eq_ok_iff.1 h
  refine ⟨?_, ?_, ?_⟩
  · exact of_fieldOr hes (fun v hv ns hns =>
      forall_of_list hv (fun item hitem n => Record.hasText_of_node hitem) hns) (by simp) hg.nodes
  · obtain ⟨settings, hsettings, hgsettings⟩ := hg.settings
    rw [hgsettings]
    cases settings with
    | none => exact ⟨fun _ h => (by cases h), fun _ h => (by cases h), hasText_nil⟩
    | some s =>
      exact of_optionalField hes (fun v hv s => Record.hasText_of_settings hv) hsettings s rfl
  · obtain ⟨version, hversion, hgversion⟩ := hg.version
    rw [hgversion]
    exact of_fieldOr hes (fun v hv n => hasDecimal_of_integer hv) (by decide +kernel) hversion

variable {g : Graph} {limits : Limits}

/-- A graph of nodes of known kinds is reported on, or it is told what is wrong with it. -/
theorem answers_analyze (hknown : ∀ n ∈ g.nodes, n.kind.isKnown = true) :
    Answers (fun r => g.WellFormed ∧ r.Within g) (g.analyze limits) := by
  have hcheck : Answers (fun _ => g.check limits = .ok ()) (g.check limits) := answers_check hknown
  cases ho : g.check limits with
  | ok u =>
    obtain ⟨r, hr, hwithin⟩ := exists_analyze ho
    exact hr ▸ .ok ⟨(check_eq_ok_iff.1 ho).2, hwithin⟩
  | error failure =>
    rw [ho] at hcheck
    unfold analyze
    rw [ho]
    cases hcheck with
    | refused r => exact .refused r

end Graph

namespace Document

variable {limits : Limits} {g : Graph}

theorem answers_inText {config : Entries} (h : config.HasText) :
    Answers (fun _ => True) (inText config) := by
  unfold inText
  rw [if_pos (Value.hasText_ofEntries.2 h)]
  exact .ok trivial

/-- A graph is reported on with what there is to say about its nodes, or it is told what is wrong
with it. -/
theorem answers_examine (hknown : ∀ n ∈ g.nodes, n.kind.isKnown = true)
    (htold : ∀ n ∈ g.nodes, n.IsTold limits) :
    Answers (fun x => g.WellFormed ∧ x.1.Within g) (examine limits g) := by
  obtain ⟨notices, hnotices, -⟩ := Graph.exists_notices htold
  refine (Graph.answers_analyze hknown).bind fun r hr => ?_
  rw [hnotices]
  exact .ok hr

theorem answers_native (htext : g.HasText) (hknown : ∀ n ∈ g.nodes, n.kind.isKnown = true)
    (htold : ∀ n ∈ g.nodes, n.IsTold limits) : Answers (fun _ => True) (native limits g).1 := by
  have hexamine : Answers _ (examine limits g) := answers_examine hknown htold
  unfold native
  generalize examine limits g = o at hexamine
  cases hexamine with
  | refused r => exact .refused r
  | @ok x h =>
    obtain ⟨r, notices⟩ := x
    obtain ⟨hwf, hwithin⟩ := h
    dsimp only
    split
    · refine (?_ : Answers (fun _ => True) (Except.map Written.config _)).of_map
      rw [config_native hwf]
      refine ((Graph.answers_program hwf hwithin).bind fun p hp => .ok ?_).bind
        fun config hconfig => answers_inText hconfig
      -- the nodes of the program are nodes of the graph, so each part of it can be written
      have hnodes : ∀ n ∈ p.nodes, n.HasText := fun n hn => htext.nodes n (hp n hn)
      obtain ⟨hfront, hbody⟩ := List.forall_mem_append.1 hnodes
      obtain ⟨htriggers, hgates⟩ := List.forall_mem_append.1 hfront
      exact hasText_assemble htext _ _ (hasText_payloads htriggers) (hasText_payloads hgates)
        (Block.hasText_listValues _ hbody)
    · exact .refused _

theorem answers_dispatch (htext : g.HasText) (hknown : ∀ n ∈ g.nodes, n.kind.isKnown = true)
    (htold : ∀ n ∈ g.nodes, n.IsTold limits) : Answers (fun _ => True) (dispatch limits g).1 := by
  have hexamine : Answers _ (examine limits g) := answers_examine hknown htold
  unfold dispatch
  generalize examine limits g = o at hexamine
  cases hexamine with
  | refused r => exact .refused r
  | @ok x h =>
    obtain ⟨r, notices⟩ := x
    obtain ⟨hwf, -⟩ := h
    obtain ⟨joins, hjoins⟩ := hwf.exists_blockJoins
    obtain ⟨config, hconfig, hconfigText⟩ := exists_dispatchEntries limits r htext hjoins
    refine (?_ : Answers (fun _ => True) (Except.map Written.config _)).of_map
    dsimp only
    rw [config_dispatch, hconfig]
    exact answers_inText hconfigText

/-- The strategy that is asked for is known, or the text that asks for it is quoted. -/
theorem answers_selectStrategy {forced : Value} (hforced : forced.hasText = true)
    (hknown : ∀ n ∈ g.nodes, n.kind.isKnown = true) :
    Answers (fun _ => True) (selectStrategy limits g forced) := by
  unfold selectStrategy
  split
  · split
    · exact .ok trivial
    · exact (Graph.answers_analyze hknown).bind fun r _ => .ok trivial
  · split
    · exact .ok trivial
    · exact .refuse (List.forall_mem_singleton.2 hforced)

/-- A graph that can be written is written, or it is told why it is not. -/
theorem answers_transpile {forced : Value} (hforced : forced.hasText = true) (htext : g.HasText)
    (hknown : ∀ n ∈ g.nodes, n.kind.isKnown = true) (htold : ∀ n ∈ g.nodes, n.IsTold limits) :
    Answers (fun _ => True) (transpile limits g forced).1 := by
  have hstrategy : Answers (fun _ => True)
      (g.check limits >>= fun _ => selectStrategy limits g forced) :=
    (Graph.answers_check hknown).bind fun _ _ => answers_selectStrategy hforced hknown
  unfold transpile
  dsimp only
  generalize (g.check limits >>= fun _ => selectStrategy limits g forced) = o at hstrategy
  cases hstrategy with
  | refused r => exact .refused r
  | @ok strategy _ =>
    cases strategy with
    | native => exact answers_native htext hknown htold
    | dispatch => exact answers_dispatch htext hknown htold

/-- Whatever is wrong with a document or a graph is told in a refusal, when its integers can be
written, the platforms and kinds that its checks look up can be looked up, and there is an end to
each step of the document. -/
theorem answers_parse_transpileValue (limits : Limits) (freshId : String) {document : Value}
    {reading : Nat} {graph forced : Value}
    (hload : ∀ f, load document reading ≠ .error (.fault f))
    (htext : ∀ raw, load document reading = .ok raw → raw.HasText)
    (hplatforms : ∀ r m, outline document reading = .ok (r, m) →
      ∀ es ∈ (modernTriggers r.triggers).1, Entries.HasPlatform es)
    (hends : ∀ r m, outline document reading = .ok (r, m) →
      ¬Entry.Holds Entry.isEndlessEntry (r.actions.map .ofEntries))
    (hgraph : graph.hasText = true) (hforced : forced.hasText = true)
    (hkinds : ∀ g, graphOf graph = .ok g → ∀ n ∈ g.nodes, n.HasKinds) :
    Answers (fun g => g.check limits = .ok ()) (parse limits freshId document reading).1
      ∧ Answers (fun _ => True) (transpileValue limits graph forced).1 := by
  constructor
  · -- a document that is not even loaded is refused, by the hypothesis on what is loaded
    cases hloaded : load document reading with
    | ok raw => exact answers_parse hloaded (htext raw hloaded) hplatforms hends
    | error failure =>
      have hparse : (parse limits freshId document reading).1 = .error failure := by
        show (proceed (read limits freshId document reading) {}).1 = _
        unfold read
        rw [proceed_bind, proceed_lift, hloaded]
      rw [hparse]
      cases failure with
      | refused r => exact .refused r
      | fault f => exact absurd hloaded (hload f)
  · have hgraphOf : Answers (fun g => g.HasText ∧ ∀ n ∈ g.nodes, n.kind.isKnown = true)
        (graphOf graph) := by
      unfold graphOf
      split
      · rename_i o es
        have hes : Entries.HasText es := Value.hasText_map.1 hgraph
        unfold Graph.ofEntries
        split
        · rename_i g hread
          exact .ok (Graph.sound_of_ofEntries hes (by rw [Graph.ofEntries, hread]))
        · exact .malformed (List.forall_mem_nil _)
      · exact .malformed (List.forall_mem_nil _)
    unfold transpileValue
    generalize hg : graphOf graph = o at hgraphOf
    cases hgraphOf with
    | refused r => exact .refused r
    | @ok g h =>
      exact answers_transpile hforced h.1 h.2 fun n hn =>
        (hkinds g hg n hn).told (h.1.nodes n hn).data limits

/-- A lamp that is turned on when a door opens, by a trigger of some platform. -/
def doorLamp (platform : Value)
    (lamp : Value := .ofEntries [(.str "action", .str "light.turn_on")]) : Entries := [
  (.str "triggers", .ofItems [.ofEntries [(.str "platform", platform),
    (.str "entity_id", .str "binary_sensor.door")]]),
  (.str "actions", .ofItems [lamp])]

/-- An action that is found inside itself. -/
def lampInLamp : Value :=
  .map (.written 1 true) [(.str "action", .str "light.turn_on"),
    (.str "parallel", .ofItems [.enclosing (.written 1 true) true])]

/-- The graph of a trigger that leads to a group of a condition of some kind, as an editor has
it. -/
def checkedDoor (kind : Value) : Value :=
  .ofEntries [
    (.str "nodes", .ofItems [
      .ofEntries [(.str "id", .str "door"), (.str "type", .str "trigger"),
        (.str "data", .ofEntries [(.str "trigger", .str "state")])],
      .ofEntries [(.str "id", .str "check"), (.str "type", .str "condition"),
        (.str "data", .ofEntries [(.str "condition", .str "or"),
          (.str "conditions", .ofItems [.ofEntries [(.str "condition", kind)]])])]]),
    (.str "edges", .ofItems [
      .ofEntries [(.str "source", .str "door"), (.str "target", .str "check")]])]

theorem answers_doorLamp :
    load (.ofEntries (doorLamp (.str "state"))) = .ok (doorLamp (.str "state"))
      ∧ (checkedDoor (.str "sun")).hasText = true
      ∧ Answers (fun g => g.check {} = .ok ()) (parse {} "new" (.ofEntries (doorLamp (.str "state")))).1
      ∧ Answers (fun _ => True) (transpileValue {} (checkedDoor (.str "sun")) (.str "loop")).1 := by
  have hload : load (.ofEntries (doorLamp (.str "state"))) = .ok (doorLamp (.str "state")) := rfl
  have htext : (doorLamp (.str "state")).HasText := entriesHaveText_iff.1 (by decide +kernel)
  have hgraph : (checkedDoor (.str "sun")).hasText = true := by decide +kernel
  obtain ⟨r, houtline, hplatforms, hactions⟩ :
      ∃ r, outline (.ofEntries (doorLamp (.str "state"))) = .ok (r, none)
        ∧ ((modernTriggers r.triggers).1.all fun es => (Entries.get es "trigger").isKey) = true
        ∧ r.actions = [[(.str "action", .str "light.turn_on")]] :=
    ⟨_, rfl, by decide +kernel, rfl⟩
  have hends : ∀ r' m, outline (.ofEntries (doorLamp (.str "state"))) = .ok (r', m) →
      ¬Entry.Holds Entry.isEndlessEntry (r'.actions.map .ofEntries) := by
    rintro r' m h ⟨entry, found, o, es, hoccurs, hentry, hstep⟩
    cases houtline.symm.trans h
    rw [hactions] at hoccurs
    -- the only entry is a step with nothing inside it
    rcases hoccurs with _ | ⟨hoccurs⟩ | ⟨hother, hmem, hoccurs⟩
    · cases hentry
      cases hstep
    · cases hoccurs
    · cases hother
      cases hmem
  have hsun : Condition.HasKinds [(.str "condition", .str "sun")] :=
    .intro (fun _ => rfl) fun hgroup => absurd hgroup (by decide +kernel)
  obtain ⟨g, hg, hkinds⟩ : ∃ g, graphOf (checkedDoor (.str "sun")) = .ok g
      ∧ ∀ n ∈ g.nodes, n.HasKinds := by
    refine ⟨_, rfl, List.forall_mem_cons.2 ⟨⟨fun _ _ => rfl, fun h => (by cases h)⟩,
      List.forall_mem_singleton.2 ⟨fun h => (by cases h), fun _ => .intro (fun _ => rfl) ?_⟩⟩⟩
    rintro - o items heq p es hmem
    cases heq
    cases List.mem_singleton.1 hmem
    exact hsun
  have hforced : (Value.str "loop").hasText = true := rfl
  obtain ⟨hparse, htranspile⟩ := answers_parse_transpileValue {} "new"
    (fun f h => by cases hload.symm.trans h) (fun raw h => by cases hload.symm.trans h; exact htext)
    (fun r' m h es hes htruthy => by
      cases houtline.symm.trans h
      exact List.all_eq_true.1 hplatforms es hes)
    hends hgraph hforced (fun g' h => by cases hg.symm.trans h; exact hkinds)
  exact ⟨hload, hgraph, hparse, htranspile⟩

/-- The fault that an outcome is, if it is one. -/
def faultOf? {α : Type} : Outcome α → Option Fault
  | .error (.fault f) => some f
  | _ => none

theorem eq_fault_of_faultOf? {α : Type} {o : Outcome α} {f : Fault} (h : faultOf? o = some f) :
    o = .error (.fault f) := by
  unfold faultOf? at h
  split at h
  · cases h
    rfl
  · cases h

/-- A platform and a kind that are lists are looked up all the same, which is a fault, and so is an
action that is found inside itself: its old keys are looked for without end. -/
theorem faults_listedPlatform :
    (parse {} "new" (.ofEntries (doorLamp (.ofTexts ["state"])))).1 = .error (.fault .type)
      ∧ (transpileValue {} (checkedDoor (.ofTexts ["sun"])) .null).1 = .error (.fault .type)
      ∧ (parse {} "new" (.ofEntries (doorLamp (.str "state") lampInLamp))).1
        = .error (.fault .overflow) :=
  ⟨eq_fault_of_faultOf? (by decide +kernel), eq_fault_of_faultOf? (by decide +kernel),
    eq_fault_of_faultOf? (by decide +kernel)⟩

end Document

end Automation
