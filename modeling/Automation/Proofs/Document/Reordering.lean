import Automation.Proofs.Dispatch.Writing
import Automation.Proofs.Document.Sheet
import Automation.Proofs.Topology.Listing

/-!
# The order in which a graph is listed does not matter

A graph and the graph with its nodes and edges listed in another order, the triggers apart, are
classified alike, and both can be written or neither can, by either strategy
(`Document.reordered_transpile`). The documents with branching blocks are the same: positions stand
in another order, and the order of the entries of a mapping does not count. In a dispatch loop the
options and the ids in the metadata follow the nodes.
-/

namespace Automation

open Entries

/-! ## Mappings that are the same -/

namespace Value

/-- Values that count as the same, and both of which can be put into text or neither. -/
structure Twin (v v' : Value) : Prop where
  agrees : v'.agrees v = true
  hasText : v'.hasText = v.hasText

theorem Twin.refl (v : Value) : Twin v v := ⟨agrees_refl v, rfl⟩

/-- Twins are the same value. -/
theorem Twin.same_ofEntries {es es' : Entries} (h : Twin (ofEntries es) (ofEntries es')) :
    (ofEntries es').same (ofEntries es) = true :=
  h.agrees

theorem related_refl (es : Entries) : Related Twin es es :=
  List.forall₂_same.2 fun e _ => ⟨rfl, .refl e.2⟩

/-- The entries of a mapping are found in a mapping with twins in their places. -/
theorem entriesIn_of_twins {es es' : Entries}
    (h : Related Twin es es') {others : Entries}
    (hsub : ∀ e ∈ es, e ∈ others) : entriesIn es' others = true := by
  induction h with
  | nil => rw [entriesIn]
  | @cons e e' _ _ he _ ih =>
    obtain ⟨hfirst, hsub⟩ := List.forall_mem_cons.1 hsub
    obtain ⟨k, v⟩ := e'
    obtain ⟨rfl, htwin⟩ := he
    have hkey := agrees_refl e.1
    have hvalue := htwin.agrees
    unfold agrees at hkey hvalue
    rw [entriesIn, Bool.and_eq_true, List.any_eq_true]
    exact ⟨⟨e, hfirst, by rw [hkey, hvalue]; rfl⟩, ih hsub⟩

/-- Mappings with twins in the places of each other are twins. -/
theorem twin_ofEntries {es es' : Entries}
    (h : Related Twin es es') :
    Twin (ofEntries es) (ofEntries es') := by
  constructor
  · have hin : entriesIn es' es = true := entriesIn_of_twins h fun _ he => he
    simp [agrees, ofEntries, same, isOneUndefined, h.length_eq, hin]
  · exact hasText_ofEntries_of_forall₂ (h.imp fun _ _ he => ⟨he.1, he.2.hasText⟩)

/-- Entries in another order are the same mapping. -/
theorem twin_ofEntries_of_perm {es es' : Entries} (h : es.Perm es') :
    Twin (ofEntries es) (ofEntries es') := by
  constructor
  · unfold agrees
    rw [same_ofEntries_of_perm h.symm, Bool.or_true]
  · rw [Bool.eq_iff_iff, hasText_ofEntries, hasText_ofEntries]
    exact ⟨fun htext => htext.of_subset h.subset, fun htext => htext.of_subset h.symm.subset⟩

end Value

/-! ## Positions -/

/-- The positions of nodes with ids of their own are written in the order of the nodes. -/
theorem Metadata.positionEntries_eq_filterMap {nodes : List Node}
    (h : (nodes.map (·.id)).Nodup) : positionEntries nodes
      = nodes.filterMap fun n => n.position.map fun p => (.str n.id, p.toValue) := by
  rw [Document.positionEntries_eq_foldl]
  -- ids are pairwise different, so no position is set twice
  have hall : ∀ (nodes : List Node) (acc : Entries), (nodes.map (·.id)).Nodup →
      (∀ n ∈ nodes, acc.has n.id = false) →
      nodes.foldl (fun acc n => n.position.elim acc fun p => Entries.set acc n.id p.toValue) acc
      = acc ++ nodes.filterMap fun n => n.position.map fun p => (.str n.id, p.toValue) := by
    intro nodes
    induction nodes with
    | nil => exact fun acc _ _ => (List.append_nil acc).symm
    | cons n nodes ih =>
      intro acc hnodup hnew
      obtain ⟨hid, hnodup⟩ := List.nodup_cons.1 hnodup
      obtain ⟨hn, hnew⟩ := List.forall_mem_cons.1 hnew
      rw [List.foldl_cons, List.filterMap_cons]
      cases hp : n.position with
      | none => exact ih acc hnodup hnew
      | some p =>
        have hset : acc.set n.id p.toValue = acc ++ [(.str n.id, p.toValue)] := by
          rw [Entries.set, if_neg (by rw [hn]; decide)]
        dsimp only [Option.map_some, Option.elim_some]
        rw [hset, ih _ hnodup fun m hm => ?_, List.append_assoc, List.singleton_append]
        have hne : n.id ≠ m.id := fun heq => hid (List.mem_map.2 ⟨m, hm, heq.symm⟩)
        rw [has, List.any_append, ← has, hnew m hm]
        simp [Value.isText, hne]
  exact (hall nodes [] h fun _ _ => rfl).trans (List.nil_append _)

namespace Document

open Automation.Graph Outcome Value

variable {g g' : Graph} {limits : Limits} {r r' : TopologyReport}

section Reordered

variable (h : Reordered g g') (hwf : g.WellFormed)

include h

theorem settings_eq : g'.settings = g.settings := by rw [h.rest]

theorem titleOf_eq : Dispatch.titleOf g' = Dispatch.titleOf g := by rw [h.rest]; rfl

include hwf

/-- Of the documents only the order of positions differs. -/
theorem twin_assemble (strategy : Strategy) (order : List String)
    (triggers conditions actions : List Value) :
    Twin (.ofEntries (assemble g strategy order triggers conditions actions))
      (.ofEntries (assemble g' strategy order triggers conditions actions)) := by
  have hids := hwf.nodup
  -- positions come in the order of the nodes, and make the same mapping in any order
  have hpositions :
      (Metadata.positionEntries g.nodes).Perm (Metadata.positionEntries g'.nodes) := by
    rw [Metadata.positionEntries_eq_filterMap hids,
      Metadata.positionEntries_eq_filterMap (h.ids.nodup_iff.1 hids)]
    exact h.nodes.filterMap _
  have hkept (k v : Value) (es : Entries) {es' : Entries}
      (hrest : Related Twin es es') :
      Related Twin ((k, v) :: es) ((k, v) :: es') :=
    .cons ⟨rfl, .refl v⟩ hrest
  have hblock : Twin (.ofEntries (Metadata.encode g strategy.name order))
      (.ofEntries (Metadata.encode g' strategy.name order)) := by
    unfold Metadata.encode
    rw [show g'.id = g.id by rw [h.rest], show g'.version = g.version by rw [h.rest]]
    exact twin_ofEntries (hkept _ _ _ (hkept _ _ _
      (.cons ⟨rfl, twin_ofEntries_of_perm hpositions⟩ (related_refl _))))
  have hvars : Twin (.ofEntries (vars g strategy order)) (.ofEntries (vars g' strategy order)) := by
    unfold vars
    rw [settings_eq h]
    exact twin_ofEntries (related_set .refl _ _ hblock)
  refine twin_ofEntries (forall₂_assemble .refl ⟨by rw [h.rest], by rw [h.rest], ?_⟩ ?_ hvars
    (.refl _) rfl (.refl _) (.refl _))
  · rw [settings_eq h]
  · rw [settings_eq h]
    cases g.settings.trace with
    | none => exact .none
    | some es => exact .some (.refl _)

/-! ## Branching blocks -/

/-- A graph in another order is written as the same blocks. -/
theorem matches_nativeEntries_reordered (hr : r.Counterpart (Equiv.refl String) r') :
    Matches (fun c c' => Twin (.ofEntries c) (.ofEntries c')) (nativeEntries limits r g)
      (nativeEntries limits r' g') := by
  have halike (m n : Node) (heq : m = n) : m.WrittenAlike n := heq ▸ ⟨rfl, rfl, rfl⟩
  refine ((h.counterpart hwf).matches_program hr).bind fun p q hpq => .ok ?_
  have hnodes : q.nodes = p.nodes := (List.forall₂_eq_eq_eq ▸ hpq.nodes).symm
  rw [hnodes, Program.payloads_eq halike hpq.triggers, Program.payloads_eq halike hpq.gates,
    hpq.actions_eq halike]
  exact twin_assemble h hwf ..

omit h hwf in
/-- The documents in text, when both or neither can be put into text. -/
theorem matches_inText {c c' : Entries} (h : Twin (.ofEntries c) (.ofEntries c')) :
    Matches (fun c c' => Twin (.ofEntries c) (.ofEntries c')) (inText c) (inText c') := by
  unfold inText
  rw [h.hasText]
  split
  · exact .ok h
  · exact .error _

/-- A graph in another order is written natively, or fails to be, as the graph is. -/
theorem matches_native_reordered (limits : Limits) (hr : r.Counterpart (Equiv.refl String) r') :
    Matches (fun c c' => Twin (.ofEntries c) (.ofEntries c'))
      ((written .native g (nativeEntries limits r)).map (·.config))
      ((written .native g' (nativeEntries limits r')).map (·.config)) := by
  rw [config_native hwf, config_native (h.wellFormed hwf)]
  exact (matches_nativeEntries_reordered h hwf hr).bind fun _ _ hc => matches_inText hc

/-! ## Dispatch loops -/

theorem actions_eq (joins : List (String × Option String)) (body : List Node) :
    Dispatch.actions limits g' joins body = Dispatch.actions limits g joins body :=
  Dispatch.actions_congr (h.redrawn hwf) (titleOf_eq h) limits joins
    (List.forall₂_same.2 fun _ _ => Dispatch.runAlike_of_writtenAlike ⟨rfl, rfl, rfl⟩ rfl rfl)

end Reordered

/-- The document with a dispatch loop that runs the given nodes in the given order. -/
def loopEntries (limits : Limits) (g : Graph) (joins : List (String × Option String))
    (body : List Node) : Entries :=
  assemble g .dispatch ((g.triggers ++ body).map (·.id)) (Program.payloads g.triggers) []
    (Dispatch.actions limits g joins body)

/-- The emulation of a graph is made of its joins and of the nodes of its loop. -/
theorem dispatchEntries_eq (limits : Limits) (r : TopologyReport) (g : Graph) :
    dispatchEntries limits r g = g.blockJoins.map fun joins =>
      loopEntries limits g joins (loopNodes r g) := by
  unfold dispatchEntries loopEntries
  cases g.blockJoins <;> rfl

/-- A loop has a text whatever the order of its nodes. -/
theorem hasText_loopEntries_of_perm (limits : Limits) (g : Graph)
    (joins : List (String × Option String)) {body body' : List Node} (h : body.Perm body') :
    (Value.ofEntries (loopEntries limits g joins body')).hasText
      = (Value.ofEntries (loopEntries limits g joins body)).hasText := by
  -- a list can be written when what it holds can, in whatever order
  have hoptions : TextAlike (.ofItems (body.map (Dispatch.option g joins)))
      (.ofItems (body'.map (Dispatch.option g joins))) := by
    unfold TextAlike
    rw [Bool.eq_iff_iff, hasText_ofItems, hasText_ofItems]
    simp only [List.mem_map, h.mem_iff]
  have hchoice : TextAlike (Dispatch.choice g joins body) (Dispatch.choice g joins body') :=
    hasText_ofEntries_of_forall₂ (.cons ⟨rfl, hoptions⟩ (.cons ⟨rfl, rfl⟩ .nil))
  have hactions : List.Forall₂ TextAlike (Dispatch.actions limits g joins body)
      (Dispatch.actions limits g joins body') := by
    unfold Dispatch.actions
    rw [h.isEmpty_eq]
    split
    · exact .nil
    · refine .cons rfl (.cons ?_ (.cons rfl .nil))
      refine hasText_ofEntries_of_forall₂ (.cons ⟨rfl, ?_⟩ .nil)
      exact hasText_ofEntries_of_forall₂ (.cons ⟨rfl, hasText_ofItems_eq (.cons hchoice .nil)⟩
        (.cons ⟨rfl, rfl⟩ .nil))
  have hblock (order order' : List String) :
      TextAlike (.ofEntries (Metadata.encode g Strategy.dispatch.name order))
        (.ofEntries (Metadata.encode g Strategy.dispatch.name order')) := by
    have htexts (ids : List String) : (Value.ofTexts ids).hasText = true := by
      refine hasText_list.2 fun v hv => ?_
      obtain ⟨id, -, rfl⟩ := List.mem_map.1 hv
      rfl
    have hids : TextAlike (.ofTexts order) (.ofTexts order') :=
      (htexts order').trans (htexts order).symm
    exact hasText_ofEntries_of_forall₂ (.cons ⟨rfl, TextAlike.refl _⟩ (.cons ⟨rfl, hids⟩
      (List.forall₂_same.2 fun e _ => ⟨rfl, TextAlike.refl e.2⟩)))
  have hhead : SameHead g g := ⟨rfl, rfl, rfl⟩
  refine hasText_assemble_eq hhead ?_ ?_ (List.forall₂_same.2 fun v _ => TextAlike.refl v) .nil
    hactions
  · cases g.settings.trace with
    | none => exact .none
    | some es => exact .some (TextAlike.refl _)
  · exact hasText_ofEntries_of_forall₂ (related_set TextAlike.refl _ _ (hblock _ _))

section Reordered

variable (h : Reordered g g') (hwf : g.WellFormed)

include h hwf

/-- The nodes that a loop runs, in the order of the other graph. -/
theorem loopNodes_perm (hr : r.reachable = g.reachable) (hr' : r'.reachable = g'.reachable) :
    (loopNodes r g).Perm (loopNodes r' g') := by
  unfold loopNodes
  rw [hr, hr', (h.redrawn hwf).reachable_eq]
  exact h.nodes.filter _

/-- The documents with a loop differ in the order of the nodes that it runs. -/
theorem matches_dispatch_reordered (limits : Limits) (hids : (g.edges.map (·.id)).Nodup)
    (hr : r.reachable = g.reachable) (hr' : r'.reachable = g'.reachable) :
    Matches (fun c c' => ∃ joins, g.blockJoins = .ok joins
        ∧ c = loopEntries limits g joins (loopNodes r g)
        ∧ Twin (.ofEntries (loopEntries limits g joins (loopNodes r' g'))) (.ofEntries c'))
      ((written .dispatch g (dispatchEntries limits r)).map (·.config))
      ((written .dispatch g' (dispatchEntries limits r')).map (·.config)) := by
  rw [config_dispatch, config_dispatch, dispatchEntries_eq, dispatchEntries_eq,
    h.blockJoins_eq hwf hids]
  cases hjoins : g.blockJoins with
  | error failure => exact .error failure
  | ok joins =>
    -- with the nodes in one order, only the positions are still in another
    have htwin : Twin (.ofEntries (loopEntries limits g joins (loopNodes r' g')))
        (.ofEntries (loopEntries limits g' joins (loopNodes r' g'))) := by
      unfold loopEntries
      rw [actions_eq h hwf, h.triggers]
      exact twin_assemble h hwf ..
    have htext := htwin.hasText.trans
      (hasText_loopEntries_of_perm limits g joins (loopNodes_perm h hwf hr hr'))
    simp only [Except.map, Outcome.ok_bind, inText]
    rw [htext]
    split
    · exact .ok ⟨joins, rfl, rfl, htwin⟩
    · exact .error _

end Reordered

/-! ## Both strategies -/

/-- What is made of an outcome is there when the outcome is. -/
theorem map_eq_ok {α β : Type} {o : Outcome α} {f : α → β} {b : β} :
    o.map f = .ok b ↔ ∃ a, o = .ok a ∧ f a = b := by
  cases o with
  | error failure =>
    constructor
    · intro h
      cases h
    · rintro ⟨_, h, -⟩
      cases h
  | ok a =>
    constructor
    · intro h
      cases h
      exact ⟨a, rfl, rfl⟩
    · rintro ⟨_, h, rfl⟩
      cases h
      rfl

/-- The notices about the nodes of a graph can be given when those about each node can. -/
theorem exists_notices_iff : (∃ notices, g.notices limits = .ok notices)
    ↔ ∀ n ∈ g.nodes, ∃ issues, n.issues limits = .ok issues := by
  unfold notices
  generalize ([] : List Notice) = acc
  induction g.nodes generalizing acc with
  | nil => exact ⟨fun _ => nofun, fun _ => ⟨acc, rfl⟩⟩
  | cons n nodes ih =>
    rw [List.foldlM_cons, List.forall_mem_cons]
    cases hissues : n.issues limits with
    | error failure =>
      constructor
      · rintro ⟨_, h⟩
        cases h
      · rintro ⟨⟨_, h⟩, -⟩
        cases h
    | ok issues =>
      rw [Outcome.ok_bind]
      exact (ih _).trans ⟨fun h => ⟨⟨issues, rfl⟩, h⟩, And.right⟩

/-- A graph is examined when it is reported on and its notices can be written. -/
theorem examine_eq_ok_iff {notices : List Notice} : examine limits g = .ok (r, notices)
    ↔ g.analyze limits = .ok r ∧ g.notices limits = .ok notices := by
  refine ⟨of_examine_eq_ok, fun h => ?_⟩
  unfold examine
  rw [h.1, h.2]
  rfl

/-- Both graphs can be examined or neither can. -/
theorem exists_examine_reordered (h : Reordered g g') {x : TopologyReport × List Notice}
    (hx : examine limits g = .ok x) : ∃ x', examine limits g' = .ok x'
      ∧ x.1.Counterpart (Equiv.refl String) x'.1 ∧ x.1.reachable = g.reachable
      ∧ x'.1.reachable = g'.reachable := by
  obtain ⟨r, notices⟩ := x
  obtain ⟨hanalyze, hnotices⟩ := of_examine_eq_ok hx
  obtain ⟨hcheck, hr⟩ := of_analyze_eq_ok hanalyze
  have hwf := (check_eq_ok_iff.1 hcheck).2
  obtain ⟨r', hanalyze', hcounterpart⟩ := (h.matches_analyze hwf).exists_of_left hanalyze
  obtain ⟨notices', hnotices'⟩ : ∃ notices', g'.notices limits = .ok notices' :=
    exists_notices_iff.2 fun n hn =>
      exists_notices_iff.1 ⟨notices, hnotices⟩ n (h.nodes.mem_iff.2 hn)
  exact ⟨(r', notices'), examine_eq_ok_iff.2 ⟨hanalyze', hnotices'⟩, hcounterpart, hr,
    (of_analyze_eq_ok hanalyze').2⟩

/-- A document with branching blocks is written for both graphs or for neither. -/
theorem exists_native_reordered (h : Reordered g g') (hwf : g.WellFormed) {w : Written}
    (hw : (native limits g).1 = .ok w) : ∃ w', (native limits g').1 = .ok w'
      ∧ Twin (.ofEntries w.config) (.ofEntries w'.config) := by
  unfold native at hw ⊢
  cases hexamine : examine limits g with
  | error failure =>
    rw [hexamine] at hw
    cases hw
  | ok x =>
    -- what is reported of the one graph is reported of the other
    obtain ⟨x', hexamine', hr, -⟩ := exists_examine_reordered h hexamine
    rw [hexamine] at hw
    rw [hexamine']
    dsimp only at hw ⊢
    rw [hr.isNative]
    split at hw
    · rename_i hnative
      rw [if_pos hnative]
      have hmatches := matches_native_reordered h hwf limits hr
      dsimp only at hw ⊢
      rw [hw] at hmatches
      obtain ⟨c', hc', htwin⟩ := hmatches.exists_of_left rfl
      obtain ⟨w', hw', rfl⟩ := map_eq_ok.1 hc'
      exact ⟨w', hw', htwin⟩
    · cases hw

/-- A document with a loop is written for both graphs or for neither. -/
theorem exists_dispatch_reordered (h : Reordered g g') (hwf : g.WellFormed)
    (hids : (g.edges.map (·.id)).Nodup) {w : Written} (hw : (dispatch limits g).1 = .ok w) :
    ∃ w' r joins, (dispatch limits g').1 = .ok w' ∧ g.analyze limits = .ok r
      ∧ g.blockJoins = .ok joins ∧ w.config = loopEntries limits g joins (loopNodes r g)
      ∧ Twin (.ofEntries (loopEntries limits g joins (loopNodes r g'))) (.ofEntries w'.config) := by
  obtain ⟨r, notices, -, hanalyze, hnotices, -⟩ := of_dispatch_eq_ok hw
  have hexamine := examine_eq_ok_iff.2 ⟨hanalyze, hnotices⟩
  obtain ⟨⟨r', notices'⟩, hexamine', -, hr, hr'⟩ := exists_examine_reordered h hexamine
  unfold dispatch at hw ⊢
  rw [hexamine] at hw
  rw [hexamine']
  dsimp only at hw hr hr' ⊢
  have hmatches := matches_dispatch_reordered h hwf limits hids hr hr'
  rw [hw] at hmatches
  obtain ⟨c', hc', joins, hjoins, hconfig, htwin⟩ := hmatches.exists_of_left rfl
  obtain ⟨w', hw', rfl⟩ := map_eq_ok.1 hc'
  -- both loops go through the nodes that are reached, in the order of the second graph
  have hnodes : loopNodes r g' = loopNodes r' g' := by
    unfold loopNodes
    rw [hr, hr', (h.redrawn hwf).reachable_eq]
  exact ⟨w', r, joins, hw', hanalyze, hjoins, hconfig, hnodes ▸ htwin⟩

/-- The order in which a graph is listed does not matter: a well-formed graph whose edges have ids
of their own, and the graph with its nodes and edges in another order, the triggers apart, are
classified alike, and each strategy can write both or neither. The documents with branching blocks
are the same. Of the documents with a dispatch loop, the second is the one that the first graph has
when the nodes of the loop are taken in the order of the second. -/
theorem reordered_transpile (h : Reordered g g') (hwf : g.WellFormed)
    (hids : (g.edges.map (·.id)).Nodup) :
    g'.classify limits = g.classify limits
      ∧ ((∃ w, (native limits g).1 = .ok w) ↔ ∃ w', (native limits g').1 = .ok w')
      ∧ ((∃ w, (dispatch limits g).1 = .ok w) ↔ ∃ w', (dispatch limits g').1 = .ok w')
      ∧ (∀ w w', (native limits g).1 = .ok w → (native limits g').1 = .ok w' →
        (Value.ofEntries w'.config).same (.ofEntries w.config) = true)
      ∧ ∀ w w', (dispatch limits g).1 = .ok w → (dispatch limits g').1 = .ok w' →
        ∃ r joins, g.analyze limits = .ok r ∧ g.blockJoins = .ok joins
          ∧ w.config = loopEntries limits g joins (loopNodes r g)
          ∧ (loopNodes r g).Perm (loopNodes r g')
          ∧ (Value.ofEntries w'.config).same
              (.ofEntries (loopEntries limits g joins (loopNodes r g'))) = true := by
  have hwf' := h.wellFormed hwf
  have hids' : (g'.edges.map (·.id)).Nodup := (h.edges.map _).nodup_iff.1 hids
  refine ⟨h.classify_eq hwf, ⟨?_, ?_⟩, ⟨?_, ?_⟩, fun w w' hw hw' => ?_, fun w w' hw hw' => ?_⟩
  · rintro ⟨w, hw⟩
    obtain ⟨w', hw', -⟩ := exists_native_reordered h hwf hw
    exact ⟨w', hw'⟩
  · rintro ⟨w', hw'⟩
    obtain ⟨w, hw, -⟩ := exists_native_reordered h.symm hwf' hw'
    exact ⟨w, hw⟩
  · rintro ⟨w, hw⟩
    obtain ⟨w', _, _, hw', -⟩ := exists_dispatch_reordered h hwf hids hw
    exact ⟨w', hw'⟩
  · rintro ⟨w', hw'⟩
    obtain ⟨w, _, _, hw, -⟩ := exists_dispatch_reordered h.symm hwf' hids' hw'
    exact ⟨w, hw⟩
  · -- there is one outcome for each graph, so the two are those that were compared
    obtain ⟨w'', hw'', htwin⟩ := exists_native_reordered h hwf hw
    cases hw''.symm.trans hw'
    exact htwin.same_ofEntries
  · obtain ⟨w'', r, joins, hw'', hanalyze, hjoins, hconfig, htwin⟩ :=
      exists_dispatch_reordered h hwf hids hw
    cases hw''.symm.trans hw'
    exact ⟨r, joins, hanalyze, hjoins, hconfig, h.nodes.filter _, htwin.same_ofEntries⟩

/-- Two lamps that are told to go on or off, the first of them by a block that is disabled. -/
def landingLamps : Graph where
  nodes := [
    { id := "t1", kind := .trigger, data := [(.str "trigger", .str "time")] },
    { id := "c1", kind := .condition, data := [(.str "condition", .str "sun")],
      flags := [(.str "enabled", .bool false)], position := some { x := .int 1, y := .int 2 } },
    { id := "on", kind := .action, data := [(.str "action", .str "light.turn_on")],
      position := some { x := .int 3, y := .int 4 } },
    { id := "off", kind := .action, data := [(.str "action", .str "light.turn_off")] }]
  edges := [.between "t1" "c1", .between "c1" "on" (some handleTrue),
    .between "c1" "off" (some handleFalse)]

/-- The same lamps, listed from the last to the first. -/
def landingLampsReversed : Graph :=
  { landingLamps with
    nodes := landingLamps.nodes.take 1 ++ (landingLamps.nodes.drop 1).reverse
    edges := landingLamps.edges.reverse }

theorem reordered_transpile_landingLamps : ∃ w w' loop loop',
    (native {} landingLamps).1 = .ok w ∧ (native {} landingLampsReversed).1 = .ok w'
    ∧ (Value.ofEntries w'.config).same (.ofEntries w.config) = true
    ∧ (dispatch {} landingLamps).1 = .ok loop ∧ (dispatch {} landingLampsReversed).1 = .ok loop' := by
  have hreordered : Reordered landingLamps landingLampsReversed :=
    ⟨(List.reverse_perm _).symm.cons _, rfl, (List.reverse_perm _).symm, rfl⟩
  obtain ⟨-, hnative, hdispatch, hsame, -⟩ := @reordered_transpile landingLamps landingLampsReversed
    {} hreordered (List.isEmpty_iff.1 (by decide +kernel)) (by decide +kernel)
  obtain ⟨w, hw⟩ : ∃ w, (native {} landingLamps).1 = .ok w := isSome_toOption.1 (by decide +kernel)
  obtain ⟨loop, hloop⟩ : ∃ w, (dispatch {} landingLamps).1 = .ok w :=
    isSome_toOption.1 (by decide +kernel)
  obtain ⟨w', hw'⟩ := hnative.1 ⟨w, hw⟩
  obtain ⟨loop', hloop'⟩ := hdispatch.1 ⟨loop, hloop⟩
  exact ⟨w, w', loop, loop', hw, hw', hsame w w' hw hw', hloop, hloop'⟩

end Document

end Automation
