import Automation.Proofs.Document.Assembly
import Automation.Proofs.Graph.Apart
import Automation.Proofs.Program.Counterpart
import Automation.Proofs.Program.Writing
import Automation.Proofs.Topology.Redrawing
import Automation.Proofs.Value.Copies

/-!
# The sheet of a document

A document is written twice, once with the payloads of its nodes apart (`written`). Both times the
program has the same shape, and what stands in it are copies, so one can be put into text when the
other can. What is written for a graph, and whether it is, can therefore be told from the graph
itself (`Document.config_native`, `Document.config_dispatch`).
-/

namespace Automation

open Entries

/-- Two values both of which can be put into text, or neither. -/
abbrev Value.TextAlike (v v' : Value) : Prop := v'.hasText = v.hasText

theorem Value.TextAlike.refl (v : Value) : v.TextAlike v := Eq.refl v.hasText

namespace Value

/-- Lists with values alike in the places of each other. -/
theorem hasText_ofItems_eq {items items' : List Value}
    (h : List.Forall₂ Value.TextAlike items items') :
    (ofItems items').hasText = (ofItems items).hasText := by
  show haveText items' = haveText items
  induction h with
  | nil => rfl
  | cons hv _ ih => rw [haveText, haveText, hv, ih]

theorem hasText_ofEntries_of_forall₂ {es es' : Entries}
    (h : Related TextAlike es es') :
    (ofEntries es').hasText = (ofEntries es).hasText := by
  show entriesHaveText es' = entriesHaveText es
  induction h with
  | nil => rfl
  | @cons e e' _ _ he _ ih =>
    obtain ⟨k, v⟩ := e'
    obtain ⟨rfl, hv⟩ := he
    rw [entriesHaveText, hv, ih]
    rfl

/-- A copy of entries can be written just if the entries can. -/
theorem hasText_ofEntries_eq {f : Origin → Origin} {es es' : Entries} (h : Copied f es es') :
    (ofEntries es').hasText = (ofEntries es).hasText := by
  rw [Bool.eq_iff_iff, hasText_ofEntries, hasText_ofEntries, h.hasText_iff]

end Value

namespace Entries

variable {f : Origin → Origin}

/-- A field is found in entries with other origins as in the entries. -/
theorem get?_mapEntries (f : Origin → Origin) (es : Entries) (name : String) :
    get? (Value.mapEntries f es) name = (get? es name).map (Value.mapOrigin f) := by
  induction es with
  | nil => rfl
  | cons e es ih =>
    obtain ⟨k, v⟩ := e
    rw [Value.mapEntries, get?_cons, get?_cons, Value.isText_mapOrigin, ih]
    split <;> rfl

theorem get_mapEntries (f : Origin → Origin) (es : Entries) (name : String) :
    Entries.get (Value.mapEntries f es) name = (Entries.get es name).mapOrigin f := by
  unfold Entries.get
  rw [get?_mapEntries]
  cases get? es name <;> rfl

/-- A field that may be missing is copied when its value can be written alike. -/
theorem copied_field (f : Origin → Origin) (name : String) {o o' : Option Value}
    (h : Option.Rel Value.TextAlike o o') :
    Copied f (field name o) (field name o') := by
  cases h with
  | none => exact .nil
  | some hv => exact Copied.single f name hv

/-- A copy stays one when a field for a list is set in both. -/
theorem Copied.setAny {es es' : Entries} (h : Copied f es es') (name : String)
    {items items' : List Value}
    (hitems : List.Forall₂ Value.TextAlike items items') :
    Copied f (es.setAny name items) (es'.setAny name items') := by
  unfold Entries.setAny
  cases hitems with
  | nil => exact h
  | cons hv hrest => exact h.set name (Value.hasText_ofItems_eq (.cons hv hrest))

end Entries

/-- The conditions of a copied payload are copies. -/
theorem Condition.spread_mapEntries (f : Origin → Origin) (data : Entries) :
    List.Forall₂ Value.TextAlike (spread data)
      (spread (Value.mapEntries f data)) := by
  have hitself : List.Forall₂ Value.TextAlike [.ofEntries data]
      [.ofEntries (Value.mapEntries f data)] :=
    .cons (Value.hasText_ofEntries_eq (copied_mapEntries f data)) .nil
  unfold spread
  rw [get_mapEntries, get_mapEntries, Value.isText_mapOrigin]
  cases data.get "conditions" with
  | list o parts =>
    rw [Value.mapOrigin]
    dsimp only
    rw [Value.mapEntries_eq_map, List.length_map, Value.mapItems_eq_map, List.length_map,
      ← Value.mapEntries_eq_map]
    split
    · rw [List.forall₂_map_right_iff, List.forall₂_same]
      exact fun v _ => Value.hasText_mapOrigin f v
    · exact hitself
  | _ => exact hitself

namespace Block

/-! ## Entries -/

/-- Nodes of which the second is a copy of the first. -/
def ApartNode (m n : Node) : Prop := ∃ i, n = m.apart i

variable {m n : Node}

/-- The name of a node apart is a copy of the name of the node. -/
theorem copied_aliasOf (f : Origin → Origin) (h : ApartNode m n) :
    Copied f (aliasOf m) (aliasOf n) := by
  obtain ⟨i, rfl⟩ := h
  refine copied_field f "alias" ?_
  unfold Value.ifTruthy
  rw [show (m.apart i).label.truthy = m.label.truthy from Value.truthy_mapOrigin _ _]
  split
  · exact .some (Value.hasText_inside _ _)
  · exact .none

/-- The conditions of a node apart can be written just if those of the node can. -/
theorem hasText_conditionsOf_eq (h : ApartNode m n) :
    (conditionsOf n).hasText = (conditionsOf m).hasText := by
  obtain ⟨i, rfl⟩ := h
  exact Value.hasText_ofItems_eq (Condition.spread_mapEntries _ m.data)

theorem hasText_data_eq (h : ApartNode m n) :
    (Value.ofEntries n.data).hasText = (Value.ofEntries m.data).hasText := by
  obtain ⟨i, rfl⟩ := h
  exact Value.hasText_ofEntries_eq (copied_mapEntries _ m.data)

/-- The flags of a node are copied with their keys told apart as before. -/
theorem exists_copied_flags (h : ApartNode m n) :
    ∃ f, Function.Injective f ∧ Copied f m.flags n.flags := by
  obtain ⟨i, rfl⟩ := h
  exact ⟨_, Origin.inside_injective _, copied_mapEntries _ m.flags⟩

variable {items items' otherwise otherwise' : List Value}
  (hitems : List.Forall₂ Value.TextAlike items items')
  (hotherwise : List.Forall₂ Value.TextAlike otherwise otherwise')

include hitems hotherwise

/-- The entry for a node apart can be written just if that for the node can. -/
theorem hasText_ifEntry_eq (h : ApartNode m n) :
    (Value.ofEntries (ifEntry n items' otherwise')).hasText
      = (Value.ofEntries (ifEntry m items otherwise)).hasText := by
  obtain ⟨f, hf, hflags⟩ := exists_copied_flags h
  have hhead := ((copied_aliasOf f h).merge hf hflags).set "if" (hasText_conditionsOf_eq h)
  exact Value.hasText_ofEntries_eq
    ((hhead.set "then" (Value.hasText_ofItems_eq hitems)).setAny "else" hotherwise)

/-- An entry for options can be written just if one with copies of its flags can. -/
theorem hasText_chooseEntry_eq {f : Origin → Origin} (hf : Function.Injective f)
    {flags flags' : Entries} (hflags : Copied f flags flags') :
    (Value.ofEntries (chooseEntry flags' items' otherwise')).hasText
      = (Value.ofEntries (chooseEntry flags items otherwise)).hasText :=
  Value.hasText_ofEntries_eq (((Copied.merge hf .nil hflags).set "choose"
    (Value.hasText_ofItems_eq hitems)).setAny "default" hotherwise)

omit hotherwise in
theorem hasText_optionEntry_eq (h : ApartNode m n) :
    (Value.ofEntries (optionEntry n items')).hasText
      = (Value.ofEntries (optionEntry m items)).hasText :=
  Value.hasText_ofEntries_eq ((copied_aliasOf id h).append
    ((Copied.single id "conditions" (hasText_conditionsOf_eq h)).append
      (Copied.single id "sequence" (Value.hasText_ofItems_eq hitems))))

end Block

/-! ## Blocks -/

namespace Block

variable {options others : List (Node × List Block)}

/-- Options of copied conditions have texts where their bodies have. -/
theorem hasText_optionEntries_eq (h : OptionsAlike ApartNode options others)
    (hbodies : List.Forall₂ (List.Forall₂ Value.TextAlike)
      (bodyValues options) (bodyValues others)) :
    List.Forall₂ Value.TextAlike
      ((options.zip (bodyValues options)).map fun o => .ofEntries (optionEntry o.1.1 o.2))
      ((others.zip (bodyValues others)).map fun o => .ofEntries (optionEntry o.1.1 o.2)) := by
  induction options generalizing others with
  | nil =>
    cases h
    exact .nil
  | cons o options ih =>
    cases h with
    | cons hnode _ hrest =>
      rw [bodyValues, bodyValues] at hbodies ⊢
      obtain ⟨hbody, hbodies⟩ := List.forall₂_cons.1 hbodies
      exact .cons (hasText_optionEntry_eq hbody hnode) (ih hrest hbodies)

mutual
/-- Blocks of one shape have texts where their nodes have. -/
theorem Alike.hasText_eq {a b : Block} : Alike ApartNode a b →
    (Value.ofEntries (toEntries b)).hasText = (Value.ofEntries (toEntries a)).hasText
  | .step hnode => by
    rw [toEntries, toEntries]
    exact hasText_data_eq hnode
  | .choice hoptions hotherwise => by
    have hrest := ListAlike.hasText_eq hotherwise
    have hbodies := OptionsAlike.hasText_eq hoptions
    have hentries := hasText_optionEntries_eq hoptions hbodies
    cases hoptions with
    | nil => exact hasText_chooseEntry_eq .nil hrest Function.injective_id .nil
    | cons hnode _ hmore =>
      cases hmore with
      | nil =>
        simp only [bodyValues, List.forall₂_cons] at hbodies
        exact hasText_ifEntry_eq hbodies.1 hrest hnode
      | cons =>
        obtain ⟨f, hf, hflags⟩ := exists_copied_flags hnode
        exact hasText_chooseEntry_eq hentries hrest hf hflags

/-- Lists whose nodes are apart from each other are written alike. Induction on the blocks. -/
theorem ListAlike.hasText_eq {as bs : List Block} : ListAlike ApartNode as bs →
    List.Forall₂ Value.TextAlike (listValues as) (listValues bs)
  | .nil => .nil
  | .cons hblock hrest => by
    rw [listValues, listValues]
    exact .cons (Alike.hasText_eq hblock) (ListAlike.hasText_eq hrest)

/-- The bodies of options whose nodes are apart are written alike. -/
theorem OptionsAlike.hasText_eq {options others : List (Node × List Block)} :
    OptionsAlike ApartNode options others →
    List.Forall₂ (List.Forall₂ Value.TextAlike) (bodyValues options)
      (bodyValues others)
  | .nil => .nil
  | .cons _ hbody hrest => by
    rw [bodyValues, bodyValues]
    exact .cons (ListAlike.hasText_eq hbody) (OptionsAlike.hasText_eq hrest)
end

end Block

/-! ## Graphs with their payloads apart -/

namespace Graph

open Block

variable {g : Graph}

/-- The nodes of a marked graph are copies of the nodes of the graph. -/
theorem forall₂_apart (nodes : List Node) (k : Nat) :
    List.Forall₂ ApartNode nodes ((nodes.zipIdx k).map fun n => n.1.apart n.2) := by
  induction nodes generalizing k with
  | nil => exact .nil
  | cons n nodes ih =>
    rw [List.zipIdx_cons, List.map_cons]
    exact .cons ⟨k, rfl⟩ (ih (k + 1))

/-- The copies of nodes that pass a test of ids and kinds. -/
theorem forall₂_filter {p : Node → Bool} (hp : ∀ (n : Node) (i : Nat), p (n.apart i) = p n)
    {nodes copies : List Node} (h : List.Forall₂ ApartNode nodes copies) :
    List.Forall₂ ApartNode (nodes.filter p) (copies.filter p) := by
  induction h with
  | nil => exact .nil
  | @cons m n _ _ hmn _ ih =>
    obtain ⟨i, rfl⟩ := hmn
    rw [List.filter_cons, List.filter_cons, hp]
    split
    · exact .cons ⟨i, rfl⟩ ih
    · exact ih

/-- The triggers of a graph apart are those of the graph, each apart. -/
theorem apart_triggers : List.Forall₂ ApartNode g.triggers g.apart.triggers :=
  forall₂_filter (fun _ _ => rfl) (forall₂_apart g.nodes 0)

/-- Nodes apart keep their ids. -/
theorem map_id_eq {nodes copies : List Node} (h : List.Forall₂ ApartNode nodes copies) :
    copies.map (·.id) = nodes.map (·.id) := by
  induction h with
  | nil => rfl
  | cons hmn _ ih =>
    obtain ⟨i, rfl⟩ := hmn
    rw [List.map_cons, List.map_cons, ih]
    rfl

/-- A graph apart has the edges of the graph. -/
theorem redrawn_apart (g : Graph) : Redrawn (fun e => e) g g.apart where
  kept := .refl
  kind? := kind?_apart
  triggers := map_id_eq apart_triggers
  outEdges id := (List.map_id' _).symm
  edges := by rw [List.map_id']; exact .refl _

/-- Joins depend on ids and kinds, which stay. -/
theorem blockJoins_apart (g : Graph) : g.apart.blockJoins = g.blockJoins :=
  (redrawn_apart g).blockJoins_eq g.apart_ids

/-- The graph apart is a counterpart of the graph, under the same ids. -/
theorem WellFormed.counterpart_apart (hwf : g.WellFormed) :
    Counterpart (Equiv.refl String) ApartNode g g.apart where
  left := hwf
  right := hwf.apart
  node := by
    rintro m _ ⟨i, rfl⟩
    refine ⟨rfl, rfl, Value.truthy_mapOrigin _ _, ?_⟩
    show (Value.mapEntries _ m.flags).isEmpty = _
    rw [Value.mapEntries_eq_map, List.isEmpty_map]
  nodes := ⟨_, forall₂_apart g.nodes 0, .refl _⟩
  triggers := apart_triggers
  edges := .refl _

end Graph

namespace Document

open Automation.Graph Block Outcome

variable {g : Graph} {limits : Limits} {r : TopologyReport}

/-- The positions are set one node after the other. -/
theorem positionEntries_eq_foldl (nodes : List Node) : Metadata.positionEntries nodes
    = nodes.foldl (fun acc n => n.position.elim acc fun p => Entries.set acc n.id p.toValue) [] := by
  unfold Metadata.positionEntries
  congr 1
  funext acc n
  cases n.position <;> rfl

/-- Positions stay where they are. -/
theorem positionEntries_apart (g : Graph) :
    Metadata.positionEntries g.apart.nodes = Metadata.positionEntries g.nodes := by
  rw [positionEntries_eq_foldl, positionEntries_eq_foldl]
  generalize ([] : Entries) = acc
  have h : List.Forall₂ ApartNode g.nodes g.apart.nodes := forall₂_apart g.nodes 0
  generalize g.nodes = nodes at h ⊢
  generalize g.apart.nodes = copies at h ⊢
  induction h generalizing acc with
  | nil => rfl
  | cons hmn _ ih =>
    obtain ⟨i, rfl⟩ := hmn
    rw [List.foldl_cons, List.foldl_cons]
    exact ih _

/-- The payloads of nodes apart can be written just if those of the nodes can. -/
theorem hasText_payloads_eq {nodes copies : List Node} (h : List.Forall₂ ApartNode nodes copies) :
    List.Forall₂ Value.TextAlike (Program.payloads nodes)
      (Program.payloads copies) := by
  unfold Program.payloads
  rw [List.forall₂_map_left_iff, List.forall₂_map_right_iff]
  exact h.imp fun _ _ hmn => hasText_data_eq hmn

/-- Two graphs with the same name and the same settings, traces and variables apart. -/
structure SameHead (g g' : Graph) : Prop where
  name : g'.name = g.name
  description : g'.description = g.description
  settings : g'.settings
    = { g.settings with trace := g'.settings.trace, vars := g'.settings.vars }

/-- Documents correspond when their sections, traces and variables do. -/
theorem forall₂_assemble {Q : Value → Value → Prop} (hQ : ∀ v, Q v v) {g' : Graph}
    (h : SameHead g g') {strategy : Strategy} {order order' : List String}
    {triggers triggers' conditions conditions' actions actions' : List Value}
    (htrace : Option.Rel Q (g.settings.trace.map .ofEntries) (g'.settings.trace.map .ofEntries))
    (hvars : Q (.ofEntries (vars g strategy order)) (.ofEntries (vars g' strategy order')))
    (htriggers : Q (.ofItems triggers) (.ofItems triggers'))
    (hempty : conditions'.isEmpty = conditions.isEmpty)
    (hconditions : Q (.ofItems conditions) (.ofItems conditions'))
    (hactions : Q (.ofItems actions) (.ofItems actions')) :
    Related Q
      (assemble g strategy order triggers conditions actions)
      (assemble g' strategy order' triggers' conditions' actions') := by
  have hkept (es : Entries) : Related Q es es :=
    List.forall₂_same.2 fun e _ => ⟨rfl, hQ e.2⟩
  have hfield : Related Q
      (field "trace" (g.settings.trace.map .ofEntries))
      (field "trace" (g'.settings.trace.map .ofEntries)) := by
    generalize g.settings.trace.map Value.ofEntries = trace at htrace ⊢
    generalize g'.settings.trace.map Value.ofEntries = trace' at htrace ⊢
    cases htrace with
    | none => exact .nil
    | some hv => exact .cons ⟨rfl, hv⟩ .nil
  have hmaybe : Related Q
      (if conditions.isEmpty then [] else [(Value.str "conditions", .ofItems conditions)])
      (if conditions'.isEmpty then [] else [(Value.str "conditions", .ofItems conditions')]) := by
    rw [hempty]
    split
    · exact .nil
    · exact .cons ⟨rfl, hconditions⟩ .nil
  unfold assemble
  dsimp only
  rw [h.name, h.description, show g'.settings.automationId = g.settings.automationId by
    rw [h.settings], show g'.settings.mode = g.settings.mode by rw [h.settings],
    show g'.settings.max = g.settings.max by rw [h.settings],
    show g'.settings.maxExceeded = g.settings.maxExceeded by rw [h.settings],
    show g'.settings.initialState = g.settings.initialState by rw [h.settings],
    show g'.settings.hideEntity = g.settings.hideEntity by rw [h.settings]]
  refine List.rel_append (List.rel_append (List.rel_append (List.rel_append (hkept _) hfield) ?_)
    hmaybe) ?_
  · exact .cons ⟨rfl, hvars⟩ (.cons ⟨rfl, htriggers⟩ .nil)
  · exact .cons ⟨rfl, hactions⟩ .nil

/-- Both documents have texts when their sections have. -/
theorem hasText_assemble_eq {g' : Graph} (h : SameHead g g') {strategy : Strategy}
    {order order' : List String}
    {triggers triggers' conditions conditions' actions actions' : List Value}
    (htrace : Option.Rel Value.TextAlike (g.settings.trace.map .ofEntries)
      (g'.settings.trace.map .ofEntries))
    (hvars : (Value.ofEntries (vars g' strategy order')).hasText
      = (Value.ofEntries (vars g strategy order)).hasText)
    (htriggers : List.Forall₂ Value.TextAlike triggers triggers')
    (hconditions : List.Forall₂ Value.TextAlike conditions conditions')
    (hactions : List.Forall₂ Value.TextAlike actions actions') :
    (Value.ofEntries (assemble g' strategy order' triggers' conditions' actions')).hasText
      = (Value.ofEntries (assemble g strategy order triggers conditions actions)).hasText := by
  have hempty : conditions'.isEmpty = conditions.isEmpty := by cases hconditions <;> rfl
  exact Value.hasText_ofEntries_of_forall₂ (forall₂_assemble (Q := Value.TextAlike)
    Value.TextAlike.refl h htrace hvars (Value.hasText_ofItems_eq htriggers) hempty
    (Value.hasText_ofItems_eq hconditions) (Value.hasText_ofItems_eq hactions))

/-- The documents of a graph and of the marked graph have texts when their sections have. -/
theorem hasText_assemble_apart (strategy : Strategy) (order : List String)
    {triggers triggers' conditions conditions' actions actions' : List Value}
    (htriggers : List.Forall₂ Value.TextAlike triggers triggers')
    (hconditions : List.Forall₂ Value.TextAlike conditions conditions')
    (hactions : List.Forall₂ Value.TextAlike actions actions') :
    (Value.ofEntries (assemble g.apart strategy order triggers' conditions' actions')).hasText
      = (Value.ofEntries (assemble g strategy order triggers conditions actions)).hasText := by
  have hhead : SameHead g g.apart := ⟨rfl, rfl, rfl⟩
  refine hasText_assemble_eq hhead ?_ ?_ htriggers hconditions hactions
  · show Option.Rel _ _ ((g.settings.trace.map (Entries.inside commonPlace)).map Value.ofEntries)
    cases g.settings.trace with
    | none => exact .none
    | some es => exact .some (Value.hasText_ofEntries_eq (copied_mapEntries _ es))
  · have hencode : Metadata.encode g.apart strategy.name order
        = Metadata.encode g strategy.name order := by
      unfold Metadata.encode
      rw [positionEntries_apart]
      rfl
    unfold vars
    rw [hencode]
    exact Value.hasText_ofEntries_eq ((copied_mapEntries _ g.settings.vars).set _ rfl)

/-- The native documents of a graph and of the marked graph. -/
theorem matches_nativeEntries_apart (hwf : g.WellFormed) (limits : Limits) (r : TopologyReport) :
    Matches (fun c s => (Value.ofEntries s).hasText = (Value.ofEntries c).hasText)
      (nativeEntries limits r g) (nativeEntries limits r g.apart) := by
  have hr : r.Counterpart (Equiv.refl String) r := by
    refine ⟨rfl, ?_, fun id => ?_⟩
    · exact Option.map_id'.symm
    · exact Option.map_id'.symm
  refine (hwf.counterpart_apart.matches_program hr).bind fun p q hpq => .ok ?_
  rw [map_id_eq hpq.nodes]
  exact hasText_assemble_apart .native _ (hasText_payloads_eq hpq.triggers)
    (hasText_payloads_eq hpq.gates) (ListAlike.hasText_eq hpq.body)

/-- The entries of a dispatch loop have texts where those of its nodes have. -/
theorem hasText_steps_eq {joins : List (String × Option String)} {m n : Node}
    (h : ApartNode m n) : List.Forall₂ Value.TextAlike
      (Dispatch.steps g joins m) (Dispatch.steps g.apart joins n) := by
  have hassign (target : Option String) : List.Forall₂ Value.TextAlike
      [Dispatch.assign target] [Dispatch.assign target] := .cons rfl .nil
  have hdata := hasText_data_eq h
  have hblock := hasText_ifEntry_eq (hassign (g.whenTrue? m.id)) (hassign (g.whenFalse? m.id)) h
  obtain ⟨i, rfl⟩ := h
  -- whether a node is enabled does not depend on origins
  have henabled : ((m.apart i).flags.get "enabled").isFalse = (m.flags.get "enabled").isFalse := by
    show (Entries.get (Value.mapEntries _ m.flags) "enabled").isFalse = _
    rw [get_mapEntries]
    cases m.flags.get "enabled" <;> rfl
  unfold Dispatch.steps
  rw [henabled, show (m.apart i).kind = m.kind from rfl]
  split
  · refine List.rel_append ?_ (.cons hblock .nil)
    split
    · exact hassign _
    · exact .nil
  · exact .cons hdata (hassign _)

/-- The emulation of a graph apart can be written just if that of the graph can. -/
theorem hasText_actions_eq {joins : List (String × Option String)} {body copies : List Node}
    (h : List.Forall₂ ApartNode body copies) :
    List.Forall₂ Value.TextAlike (Dispatch.actions limits g joins body)
      (Dispatch.actions limits g.apart joins copies) := by
  have hoptions : List.Forall₂ Value.TextAlike
      (body.map (Dispatch.option g joins)) (copies.map (Dispatch.option g.apart joins)) := by
    rw [List.forall₂_map_left_iff, List.forall₂_map_right_iff]
    refine h.imp fun m n hmn => Value.hasText_ofEntries_eq (f := id) (.cons ?_ ?_)
    · obtain ⟨i, rfl⟩ := hmn
      exact ⟨rfl, rfl⟩
    · exact Copied.single id _ (Value.hasText_ofItems_eq (hasText_steps_eq hmn))
  have hchoice : (Dispatch.choice g.apart joins copies).hasText
      = (Dispatch.choice g joins body).hasText :=
    Value.hasText_ofEntries_eq (f := id) ((Copied.single id "choose"
      (Value.hasText_ofItems_eq hoptions)).append (Copied.single id "default" rfl))
  unfold Dispatch.actions
  rw [(redrawn_apart g).firstNodes_eq]
  -- without nodes there is nothing to write, with or without copies
  cases h with
  | nil => exact .nil
  | cons =>
    refine .cons rfl (.cons ?_ (.cons rfl .nil))
    refine Value.hasText_ofEntries_eq (f := id) (Copied.single id "repeat" ?_)
    exact Value.hasText_ofEntries_eq (f := id) ((Copied.single id "sequence"
      (Value.hasText_ofItems_eq (.cons hchoice .nil))).append (Copied.single id "until" rfl))

/-- The dispatch documents of a graph and of the marked graph. -/
theorem matches_dispatchEntries_apart (limits : Limits) (r : TopologyReport) (g : Graph) :
    Matches (fun c s => (Value.ofEntries s).hasText = (Value.ofEntries c).hasText)
      (dispatchEntries limits r g) (dispatchEntries limits r g.apart) := by
  have hbody : List.Forall₂ ApartNode (loopNodes r g) (loopNodes r g.apart) :=
    forall₂_filter (fun _ _ => rfl) (forall₂_apart g.nodes 0)
  unfold dispatchEntries
  rw [blockJoins_apart]
  refine (Matches.refl (fun _ => rfl) g.blockJoins).bind fun joins _ heq => ?_
  subst heq
  refine .ok ?_
  rw [List.map_append, map_id_eq apart_triggers, map_id_eq hbody, ← List.map_append]
  exact hasText_assemble_apart .dispatch _ (hasText_payloads_eq apart_triggers) .nil
    (hasText_actions_eq hbody)

/-- The entries when they can be put into text, else the fault of their text. -/
def inText (config : Entries) : Outcome Entries :=
  if (Value.ofEntries config).hasText then .ok config else Outcome.fault .value

/-- What a document is written as, when the marked graph is written alike. -/
theorem config_written {strategy : Strategy} {write : Graph → Outcome Entries}
    (h : Matches (fun c s => (Value.ofEntries s).hasText = (Value.ofEntries c).hasText) (write g)
      (write g.apart)) :
    (written strategy g write).map (·.config) = write g >>= inText := by
  unfold written Yaml.render inText
  generalize write g = config at h ⊢
  generalize write g.apart = sheet at h ⊢
  cases h with
  | error failure => rfl
  | ok htext =>
    rw [Outcome.ok_bind, Outcome.ok_bind, Outcome.ok_bind, htext]
    split <;> rfl

/-- What a graph is written as with branching blocks: its document, when that has a text. -/
theorem config_native (hwf : g.WellFormed) :
    (written .native g (nativeEntries limits r)).map (·.config)
      = nativeEntries limits r g >>= inText :=
  config_written (matches_nativeEntries_apart hwf limits r)

/-- An emulation is written when its entries have text, and then as they are. -/
theorem config_dispatch :
    (written .dispatch g (dispatchEntries limits r)).map (·.config)
      = dispatchEntries limits r g >>= inText :=
  config_written (matches_dispatchEntries_apart limits r g)

end Document

end Automation
