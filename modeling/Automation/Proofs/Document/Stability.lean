import Automation.Proofs.Document.Editing
import Automation.Proofs.Document.Regeneration
import Automation.Proofs.Document.Reordering
import Automation.Proofs.Document.Return

/-!
# Documents written twice

A graph that has returned (`Graph.Returned`) is written as it was, up to the origins of what stands
in the documents: with branching blocks because its program has the same shape
(`Document.exists_native_returned`), with a dispatch loop because its nodes also come in the same
order (`Document.exists_dispatch_returned`). So the document of a fresh graph is stable: what it is
read back as is written as the same document, by the same strategy.
-/

namespace Automation

open Entries

namespace Graph.Returned

variable {limits : Limits} {g g' : Graph}

section

variable (h : g.Returned limits g') (hdrawn : ∀ e ∈ g.edges, e.Drawn)

include h hdrawn

/-- Edges that are drawn between the same nodes are the same. -/
theorem edges_perm : g.edges.Perm g'.edges := by
  have hends {edges : List Edge} (hall : ∀ e ∈ edges, e.Drawn) :
      (edges.map Edge.ends).map (fun x => Edge.between x.1 x.2.1 x.2.2) = edges := by
    rw [List.map_map]
    exact (List.map_congr_left fun e he => (hall e he).symm).trans (List.map_id _)
  rw [← hends hdrawn, ← hends h.drawn]
  exact h.edges.map _

/-- A graph that comes back has the edges that it had. -/
theorem redrawn : Redrawn (fun e => e) g g' where
  kept := .refl
  kind? := h.kind?_eq
  triggers := (h.map_id h.triggers).trans (List.map_id _)
  outEdges id := by rw [List.map_id', h.left.outEdges_eq_of_perm (h.edges_perm hdrawn)]
  edges := by rw [List.map_id']; exact h.edges_perm hdrawn

end

end Graph.Returned

namespace Document

open Automation.Graph Outcome

variable {limits : Limits} {g g' : Graph} {r r' : TopologyReport} {w : Written}

/-! ## Documents without origins -/

/-- Two documents that are one document without their origins. -/
abbrev SameDocument (c c' : Entries) : Prop := Value.SameStripped (.ofEntries c) (.ofEntries c')

/-- Documents that are the same up to origins can both be written, or neither can. -/
theorem matches_inText_of_stripped {c c' : Entries} (h : SameDocument c c') :
    Matches SameDocument (inText c) (inText c') := by
  unfold inText
  rw [Value.hasText_of_stripped_eq h]
  split
  · exact .ok h
  · exact .error _

/-- What is written for the one graph is written for the other, when the entries are. -/
theorem exists_written_again {strategy : Strategy} {write write' : Graph → Outcome Entries}
    (hconfig : (written strategy g write).map (·.config) = write g >>= inText)
    (hconfig' : (written strategy g' write').map (·.config) = write' g' >>= inText)
    (h : Matches SameDocument (write g) (write' g')) (hw : written strategy g write = .ok w) :
    ∃ w', written strategy g' write' = .ok w' ∧ w'.strategy = w.strategy
      ∧ SameDocument w.config w'.config := by
  have hmatches := h.bind fun _ _ hc => matches_inText_of_stripped hc
  rw [← hconfig, ← hconfig', hw] at hmatches
  obtain ⟨c', hc', hsame⟩ := hmatches.exists_of_left rfl
  obtain ⟨w', hw', rfl⟩ := map_eq_ok.1 hc'
  exact ⟨w', hw', by rw [strategy_of_written_eq_ok hw, strategy_of_written_eq_ok hw'], hsame⟩

/-- Documents are the same up to origins when the graphs agree on the head and their payloads are
the same. -/
theorem sameDocument_assemble (h : g.SameFront g') {strategy : Strategy}
    {order order' : List String}
    {triggers triggers' conditions conditions' actions actions' : List Value}
    (horder : order' = order) (htriggers : List.Forall₂ Value.SameStripped triggers triggers')
    (hconditions : List.Forall₂ Value.SameStripped conditions conditions')
    (hactions : List.Forall₂ Value.SameStripped actions actions') :
    SameDocument (assemble g strategy order triggers conditions actions)
      (assemble g' strategy order' triggers' conditions' actions') := by
  have hQ := Value.isCongruence_sameStripped
  have hempty : conditions'.isEmpty = conditions.isEmpty := by cases hconditions <;> rfl
  have hhead : SameHead g g := ⟨rfl, rfl, rfl⟩
  rw [h.assemble, horder]
  refine hQ.entries (forall₂_assemble hQ.refl hhead ?_ (hQ.refl _) (hQ.items htriggers) hempty
    (hQ.items hconditions) (hQ.items hactions))
  cases g.settings.trace with
  | none => exact .none
  | some es => exact .some (hQ.refl _)

/-! ## Branching blocks -/

/-- A graph that comes back is written as the same blocks. -/
theorem matches_nativeEntries_returned (h : g.Returned limits g')
    (hr : r.Counterpart (Equiv.refl String) r') :
    Matches SameDocument (nativeEntries limits r g) (nativeEntries limits r' g') := by
  have hrelated (m n : Node) (hmn : m.Returned n) : m.Related Value.SameStripped n :=
    hmn.toRemade.related
  refine (h.matches_program hr).bind fun p q hpq => .ok ?_
  exact sameDocument_assemble h.toSameFront ((h.map_id hpq.nodes).trans (List.map_id _))
    (Program.related_payloads hrelated hpq.triggers) (Program.related_payloads hrelated hpq.gates)
    (hpq.related_actions hrelated Value.isCongruence_sameStripped)

/-- A graph that has returned is written with branching blocks as it was. -/
theorem exists_native_returned (h : g.Returned limits g') (hexit : g.NoExit)
    (hw : (native limits g).1 = .ok w) : ∃ w', (native limits g').1 = .ok w'
      ∧ w'.strategy = w.strategy ∧ SameDocument w.config w'.config := by
  unfold native at hw ⊢
  cases hexamine : examine limits g with
  | error failure =>
    rw [hexamine] at hw
    cases hw
  | ok x =>
    -- the graph that came back is reported on like the one that was written
    obtain ⟨r', hanalyze', hr⟩ := (h.matches_analyze rfl hexit).exists_of_left
      (of_examine_eq_ok hexamine).1
    obtain ⟨notices', hnotices'⟩ := h.told
    rw [hexamine] at hw
    rw [examine_eq_ok_iff.2 ⟨hanalyze', hnotices'⟩]
    dsimp only at hw ⊢
    rw [hr.isNative]
    split at hw
    · rename_i hnative
      rw [if_pos hnative]
      exact exists_written_again (config_native h.left) (config_native h.right)
        (matches_nativeEntries_returned h hr) hw
    · cases hw

/-! ## Dispatch loops -/

section Dispatch

variable (h : g.Returned limits g') (hdrawn : ∀ e ∈ g.edges, e.Drawn)
  (hnodes : List.Forall₂ Node.Returned g.nodes g'.nodes)

include h hdrawn hnodes

/-- A graph that comes back is emulated as before. -/
theorem matches_dispatchEntries_returned (hr : r.reachable = g.reachable)
    (hr' : r'.reachable = g'.reachable) :
    Matches SameDocument (dispatchEntries limits r g) (dispatchEntries limits r' g') := by
  have hredrawn := h.redrawn hdrawn
  have hids : g'.nodes.map (·.id) = g.nodes.map (·.id) := (h.map_id hnodes).trans (List.map_id _)
  have hbody : List.Forall₂ Node.Returned (loopNodes r g) (loopNodes r' g') := by
    unfold loopNodes
    rw [hr, hr', hredrawn.reachable_eq]
    exact filter_of_returned hnodes fun kind id => !kind.isTrigger && g.reachable.contains id
  unfold dispatchEntries
  rw [hredrawn.blockJoins_eq hids]
  refine (Matches.refl (fun _ => rfl) g.blockJoins).bind fun joins _ heq => heq ▸ .ok ?_
  refine sameDocument_assemble h.toSameFront
    ((h.map_id (List.rel_append h.triggers hbody)).trans (List.map_id _))
    (Program.related_payloads (fun m n hmn => hmn.toRemade.related) h.triggers) .nil ?_
  refine Dispatch.related_actions Value.isCongruence_sameStripped hredrawn h.title limits joins
    (hbody.imp fun m n hmn => ?_)
  exact { hmn.toRemade.related with id := hmn.id, kind := hmn.kind }

/-- A graph that has returned with its nodes in their order is written with a dispatch loop as it
was. -/
theorem exists_dispatch_returned (hexit : g.NoExit) (hw : (dispatch limits g).1 = .ok w) :
    ∃ w', (dispatch limits g').1 = .ok w' ∧ w'.strategy = w.strategy
      ∧ SameDocument w.config w'.config := by
  unfold dispatch at hw ⊢
  cases hexamine : examine limits g with
  | error failure =>
    rw [hexamine] at hw
    cases hw
  | ok x =>
    have hanalyze := (of_examine_eq_ok hexamine).1
    obtain ⟨r', hanalyze', -⟩ := (h.matches_analyze rfl hexit).exists_of_left hanalyze
    obtain ⟨notices', hnotices'⟩ := h.told
    rw [hexamine] at hw
    rw [examine_eq_ok_iff.2 ⟨hanalyze', hnotices'⟩]
    exact exists_written_again config_dispatch config_dispatch
      (matches_dispatchEntries_returned h hdrawn hnodes (of_analyze_eq_ok hanalyze).2
        (of_analyze_eq_ok hanalyze').2) hw

end Dispatch

/-! ## Both strategies -/

/-- A graph that names no strategy is written by the one that fits it. -/
theorem of_transpile_eq_ok (hstrategy : g.strategy = none)
    (hw : (transpile limits g .null).1 = .ok w) :
    g.classify limits = .ok .native ∧ (native limits g).1 = .ok w
      ∨ (dispatch limits g).1 = .ok w := by
  -- a fresh graph asks for no strategy, so the report decides
  have hselect : selectStrategy limits g .null = g.classify limits := by
    unfold selectStrategy
    rw [hstrategy]
    exact if_neg nofun
  unfold transpile at hw
  rw [hselect] at hw
  cases hcheck : g.check limits with
  | error failure =>
    rw [hcheck] at hw
    cases hw
  | ok _ =>
    rw [hcheck, Outcome.ok_bind] at hw
    cases hclassify : g.classify limits with
    | error failure =>
      rw [hclassify] at hw
      cases hw
    | ok strategy =>
      rw [hclassify] at hw
      cases strategy with
      | native => exact .inl ⟨rfl, hw⟩
      | dispatch => exact .inr hw

/-- A graph that asks for native blocks, and can have them, gets them. -/
theorem transpile_of_native (hcheck : g.check limits = .ok ())
    (hstrategy : g.strategy = some Strategy.native.name)
    (hclassify : g.classify limits = .ok .native) :
    transpile limits g .null = native limits g := by
  unfold transpile selectStrategy
  rw [hcheck, hstrategy, hclassify]
  rfl

/-- A graph that asks for an emulation gets it. -/
theorem transpile_of_dispatch (hcheck : g.check limits = .ok ())
    (hstrategy : g.strategy = some Strategy.dispatch.name) :
    transpile limits g .null = dispatch limits g := by
  unfold transpile selectStrategy
  rw [hcheck, hstrategy]
  rfl

/-- Regeneration is stable: what is written of a document without metadata is read back as a graph
of which the same is written, by the same strategy, and all there is to say about the reading are
notices about fields of nodes. This takes a document in which no condition has a key of a branching
block, and actions none of which has a byte string among its keys. -/
theorem stable_transpile {freshId freshId' : String} {document : Value} {reading reading' : Nat}
    {raw : Entries} {record : AutomationRecord} {notices : List Notice}
    (hfresh : freshId ≠ "") (hload : load document reading = .ok raw)
    (honce : (Value.ofEntries raw).keysOnce = true)
    (hrecord : outline document reading = .ok (record, none))
    (hread : (parse limits freshId document reading).1 = .ok g)
    (hunblocked : ∀ n ∈ g.nodes, n.kind.isCondition = true →
      n.data.has "if" = false ∧ n.data.has "choose" = false)
    (hw : (transpile limits g .null).1 = .ok w)
    (hbytes : ∀ v ∈ (w.config.get "actions").asItems, ∀ es, v.entries? = some es →
      ∀ e ∈ es, ∀ bs, e.1 ≠ .bytes bs)
    (hreread : parse limits freshId' (.ofEntries w.config) reading' = (.ok g', notices)) :
    (∃ w', (transpile limits g' .null).1 = .ok w' ∧ w'.strategy = w.strategy
        ∧ (Value.ofEntries w'.config).stripped = (Value.ofEntries w.config).stripped
        ∧ ((Value.ofEntries w.config).isTree = true →
          (Value.ofEntries w.config).same (.ofEntries w'.config) = true))
      ∧ ∀ notice ∈ notices, ∃ id issue, notice = .node id issue := by
  have hg := fresh_of_parse hload honce hrecord hread
  have hid : g.id ≠ "" := by
    obtain ⟨p, automationId, -, -, heq, -⟩ := exists_program hrecord hread
    rw [heq]
    exact hfresh
  -- documents that agree without origins are the same
  have hsame {w' : Written} (h : SameDocument w.config w'.config)
      (htree : (Value.ofEntries w.config).isTree = true) :
      (Value.ofEntries w.config).same (.ofEntries w'.config) = true :=
    Value.same_ofEntries_of_stripped_eq htree h.symm
  rcases of_transpile_eq_ok hg.strategy hw with ⟨hclassify, hw⟩ | hw
  · obtain ⟨hreturned, hstrategy, hnotices⟩ :=
      returned_of_native hg hid (hg.apparent hunblocked) hw hbytes hreread
    obtain ⟨w', hw', hsameStrategy, hdocument⟩ := exists_native_returned hreturned hg.exit hw
    refine ⟨⟨w', ?_, hsameStrategy, hdocument, hsame hdocument⟩, hnotices⟩
    rw [transpile_of_native hreturned.check hstrategy
      ((hreturned.classify_eq rfl hg.exit).trans hclassify), hw']
  · obtain ⟨hreturned, hnodes, hstrategy, hnotices⟩ := returned_of_dispatch hg hid hw hreread
    obtain ⟨w', hw', hsameStrategy, hdocument⟩ :=
      exists_dispatch_returned hreturned hg.drawn hnodes hg.exit hw
    refine ⟨⟨w', ?_, hsameStrategy, hdocument, hsame hdocument⟩, hnotices⟩
    rw [transpile_of_dispatch hreturned.check hstrategy, hw']

/-- What is written of the automation for the evening is stable. -/
theorem stable_transpile_eveningHall : ∃ raw record g w g' notices w', load eveningHall = .ok raw
    ∧ outline eveningHall = .ok (record, none) ∧ (parse {} "new" eveningHall).1 = .ok g
    ∧ (transpile {} g .null).1 = .ok w ∧ parse {} "newer" (.ofEntries w.config) = (.ok g', notices)
    ∧ (transpile {} g' .null).1 = .ok w'
    ∧ (Value.ofEntries w'.config).stripped = (Value.ofEntries w.config).stripped
    ∧ ∀ notice ∈ notices, ∃ id issue, notice = .node id issue := by
  have hruns : ((parse {} "new" eveningHall).1.toOption.bind fun g =>
      (transpile {} g .null).1.toOption.bind fun w =>
        (parse {} "newer" (.ofEntries w.config)).1.toOption.map fun _ =>
          (g.nodes.all fun n => !n.data.has "if" && !n.data.has "choose")
            && (w.config.get "actions").asItems.all fun v =>
              (v.entries?.getD []).all fun e => e.1.isStr) = some true := by
    decide +kernel
  obtain ⟨g, hg, hruns⟩ := Option.bind_eq_some_iff.1 hruns
  obtain ⟨w, hw, hruns⟩ := Option.bind_eq_some_iff.1 hruns
  obtain ⟨g', hg', hruns⟩ := Option.map_eq_some_iff.1 hruns
  rw [Bool.and_eq_true, List.all_eq_true, List.all_eq_true] at hruns
  obtain ⟨hunblocked, hstr⟩ := hruns
  obtain ⟨notices, hreread⟩ : ∃ notices,
      parse {} "newer" (.ofEntries w.config) = (.ok g', notices) := ⟨_, Prod.ext (toOption_eq_some.1 hg') rfl⟩
  have hload : ∃ raw, load eveningHall = .ok raw ∧ (Value.ofEntries raw).keysOnce = true :=
    ⟨_, rfl, by decide +kernel⟩
  obtain ⟨raw, hload, honce⟩ := hload
  obtain ⟨record, hrecord⟩ : ∃ record, outline eveningHall = .ok (record, none) := ⟨_, rfl⟩
  -- the theorem says what the second writing gives, so only its conditions were computed
  obtain ⟨⟨w', hw', -, hsame, -⟩, hnotices⟩ := stable_transpile (by decide) hload honce hrecord
    (toOption_eq_some.1 hg) (fun n hn _ => by simpa using hunblocked n hn) (toOption_eq_some.1 hw)
    (fun v hv es hes e he bs heq => by
      have hkey := hstr v hv
      rw [hes, Option.getD_some, List.all_eq_true] at hkey
      have hkey := hkey e he
      rw [heq] at hkey
      cases hkey) hreread
  exact ⟨raw, record, g, w, g', notices, w', hload, hrecord, toOption_eq_some.1 hg,
    toOption_eq_some.1 hw, hreread, hw', hsame, hnotices⟩

/-- An automation with a byte string among the keys of an action inside an if block. -/
def taggedDelay : Value := .ofEntries [
  (.str "triggers", .ofItems [.ofEntries [(.str "trigger", .str "state")]]),
  (.str "actions", .ofItems [.ofEntries [
    (.str "if", .str "c"),
    (.str "then", .ofItems [.ofEntries [(.str "delay", .int 5), (.bytes [120], .int 1)]])]])]

/-- A byte string among the keys of an action does not come back: the block is written as a gate,
behind which the action stands by itself, and of such an action the keys are read as texts. -/
theorem exists_transpile_changed : ∃ raw record g w g' notices w', load taggedDelay = .ok raw
    ∧ (Value.ofEntries raw).keysOnce = true ∧ outline taggedDelay = .ok (record, none)
    ∧ (parse {} "new" taggedDelay).1 = .ok g
    ∧ (∀ n ∈ g.nodes, n.kind.isCondition = true →
      n.data.has "if" = false ∧ n.data.has "choose" = false)
    ∧ (transpile {} g .null).1 = .ok w ∧ parse {} "newer" (.ofEntries w.config) = (.ok g', notices)
    ∧ (transpile {} g' .null).1 = .ok w'
    ∧ (Value.ofEntries w.config).same (.ofEntries w'.config) = false := by
  -- both writings are computed, as far as it takes to tell them apart
  have hruns : ((parse {} "new" taggedDelay).1.toOption.bind fun g =>
      (transpile {} g .null).1.toOption.bind fun w =>
        (parse {} "newer" (.ofEntries w.config)).1.toOption.bind fun g' =>
          (transpile {} g' .null).1.toOption.map fun w' =>
            (g.nodes.all fun n => !n.data.has "if" && !n.data.has "choose")
              && !(Value.ofEntries w.config).same (.ofEntries w'.config)) = some true := by
    decide +kernel
  obtain ⟨g, hg, hruns⟩ := Option.bind_eq_some_iff.1 hruns
  obtain ⟨w, hw, hruns⟩ := Option.bind_eq_some_iff.1 hruns
  obtain ⟨g', hg', hruns⟩ := Option.bind_eq_some_iff.1 hruns
  obtain ⟨w', hw', hruns⟩ := Option.map_eq_some_iff.1 hruns
  rw [Bool.and_eq_true, List.all_eq_true, Bool.not_eq_true'] at hruns
  obtain ⟨hunblocked, hsame⟩ := hruns
  exact ⟨_, _, g, w, g', _, w', rfl, by decide +kernel, rfl, toOption_eq_some.1 hg,
    fun n hn _ => by simpa using hunblocked n hn, toOption_eq_some.1 hw,
    Prod.ext (toOption_eq_some.1 hg') rfl, toOption_eq_some.1 hw', hsame⟩

end Document

end Automation
