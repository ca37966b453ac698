import Automation.Proofs.Dispatch.Accepting
import Automation.Proofs.Entry.Once
import Automation.Proofs.Program.Derivation
import Automation.Proofs.Record.Editor

/-!
# Nodes that an editor can keep

A document is regular when its mappings have texts for keys and its blocks are named by texts or not
at all (`Value.Regular`). The nodes that are read out of it then have payloads and flags with texts
for keys, and names (`Node.Regular`), whether its structure is read (`Program.SectionsRead.regular`)
or the loop that it was written with is decoded (`Dispatch.regular_of_decode`).
-/

namespace Automation

open Entries

/-! ## Mappings inside a value -/

namespace Value

/-- A mapping that stands somewhere in a value. -/
inductive Holds : Value → Entries → Prop where
  | here {v : Value} {o : Origin} {es : Entries} (hv : v.expose = .map o es) : Holds v es
  | entry {v : Value} {o : Origin} {es inner : Entries} {e : Value × Value}
    (hv : v.expose = .map o es) (he : e ∈ es) (hin : Holds e.2 inner) : Holds v inner
  | item {v w : Value} {items : List Value} {inner : Entries}
    (hv : Reader.sequence? v = some items) (hw : w ∈ items) (hin : Holds w inner) : Holds v inner

end Value

/-- A mapping with texts for keys that is named by a text, if at all, when it is an if block, and so
is each option when it is a choose block. -/
structure Entries.Regular (es : Entries) : Prop where
  keyed : es.Keyed
  name : es.has "if" = true → (es.get "alias").IsName
  options : ∀ option ∈ Program.entriesOf (es.get "choose"), ∀ o fields,
    option.expose = .map o fields → (Entries.get fields "alias").IsName

/-- A value all mappings in which are regular. -/
def Value.Regular (v : Value) : Prop := ∀ es, v.Holds es → es.Regular

namespace Value

mutual
/-- What was filled in is filled in no further. Induction on the value. -/
theorem fill_fill {o : Origin} {whole new : Value} (h : fill o new whole = whole) :
    ∀ v : Value, fill o new (fill o whole v) = fill o whole v
  | .null | .bool _ | .int _ | .float _ | .str _ | .bytes _ | .date .. | .moment .. | .set .. => rfl
  | .enclosing p isMap => by
    rw [fill]
    split
    · exact h
    · rename_i hne
      rw [fill, if_neg hne]
  | .list p items => by
    rw [fill]
    split
    · rename_i heq
      rw [fill, if_pos heq]
    · rename_i hne
      rw [fill, if_neg hne, fillItems_fillItems h items]
  | .tuple p items => by rw [fill, fill, fillItems_fillItems h items]
  | .map p es => by
    rw [fill]
    split
    · rename_i heq
      rw [fill, if_pos heq]
    · rename_i hne
      rw [fill, if_neg hne, fillEntries_fillEntries h es]

theorem fillItems_fillItems {o : Origin} {whole new : Value} (h : fill o new whole = whole) :
    ∀ items : List Value, fillItems o new (fillItems o whole items) = fillItems o whole items
  | [] => rfl
  | v :: vs => by rw [fillItems, fillItems, fill_fill h v, fillItems_fillItems h vs]

theorem fillEntries_fillEntries {o : Origin} {whole new : Value} (h : fill o new whole = whole) :
    ∀ es : List (Value × Value),
      fillEntries o new (fillEntries o whole es) = fillEntries o whole es
  | [] => rfl
  | (k, v) :: es => by rw [fillEntries, fillEntries, fill_fill h v, fillEntries_fillEntries h es]
end

/-- What stands in full stands in full. -/
theorem expose_expose (v : Value) : v.expose.expose = v.expose := by
  cases v with
  | list o items =>
    have hself : ∀ new, fill o new (.list o items) = .list o items := fun new => by
      rw [fill, if_pos rfl]
    simp only [expose, partItems]
    split
    · rw [fillItems_fillItems (hself _)]
    · rfl
  | map o es =>
    have hself : ∀ new, fill o new (.map o es) = .map o es := fun new => by
      rw [fill, if_pos rfl]
    simp only [expose, partEntries]
    split
    · rw [fillEntries_fillEntries (hself _)]
    · rfl
  | _ => rfl

variable {v : Value} {o : Origin} {es : Entries}

namespace Regular

/-- A regular mapping has texts as keys. -/
theorem of_expose_eq_map (h : v.Regular) (hv : v.expose = .map o es) : es.Regular := h es (.here hv)

/-- What a regular mapping holds is regular. -/
theorem entry (h : v.Regular) (hv : v.expose = .map o es) {e : Value × Value} (he : e ∈ es) :
    e.2.Regular := fun _ hin => h _ (.entry hv he hin)

/-- What a regular list holds is regular. -/
theorem item (h : v.Regular) {items : List Value} (hv : Reader.sequence? v = some items) {w : Value}
    (hw : w ∈ items) : w.Regular := fun _ hin => h _ (.item hv hw hin)

theorem expose (h : v.Regular) : v.expose.Regular := by
  intro inner hin
  refine h inner ?_
  have hsequence : Reader.sequence? v.expose = Reader.sequence? v := by
    unfold Reader.sequence?
    rw [expose_expose]
  cases hin with
  | here hv => exact .here (v.expose_expose ▸ hv)
  | entry hv he hin => exact .entry (v.expose_expose ▸ hv) he hin
  | item hv hw hin => exact .item (hsequence ▸ hv) hw hin

theorem null : Value.null.Regular := by
  intro es h
  cases h with
  | here hv => cases hv
  | entry hv => cases hv
  | item hv => cases hv

/-- The value of a field. -/
theorem get (h : v.Regular) (hv : v.expose = .map o es) (name : String) :
    (es.get name).Regular := by
  unfold Entries.get
  cases hget : Entries.get? es name with
  | none => exact null
  | some w =>
    obtain ⟨e, he, rfl⟩ := Option.map_eq_some_iff.1 hget
    exact h.entry hv (List.mem_of_find?_eq_some he)

/-- Items of a regular value are regular, a single value being an item of its own. -/
theorem of_mem_asItems (h : v.Regular) {w : Value} (hw : w ∈ v.expose.asItems) : w.Regular := by
  cases hv : v.expose with
  | list p items =>
    rw [hv] at hw
    have hitems : Reader.sequence? v = some items := by
      unfold Reader.sequence?
      rw [hv]
    exact h.item hitems hw
  | _ =>
    rw [hv] at hw
    rw [List.mem_singleton.1 hw, ← hv]
    exact h.expose

end Regular

end Value

/-! ## Keys -/

namespace Entries

variable {es : Entries}

/-- Whether keys are texts, pairwise different, can be told from the keys. -/
theorem Keyed.of_keys {es' : Entries} (h : es.Keyed) (hkeys : es'.map (·.1) = es.map (·.1)) :
    es'.Keyed := by
  have hstr : ∀ k ∈ es.map (·.1), Value.isStr k = true := List.forall_mem_map.2 h.isStr
  rw [← hkeys] at hstr
  exact ⟨List.forall_mem_map.1 hstr, h.distinct.of_keys hkeys⟩

theorem Keyed.erase (h : es.Keyed) (name : String) : Keyed (es.erase name) :=
  ⟨fun e he => h.isStr e (List.mem_filter.1 he).1, h.distinct.erase name⟩

/-- Keys stay texts and pairwise different behind a new name that was not there. -/
theorem Keyed.rename (h : es.Keyed) {old new : String} (hnew : es.has new = false) :
    Keyed (es.rename old new) := by
  refine ⟨fun e he => ?_, h.distinct.rename hnew⟩
  obtain ⟨e', he', rfl⟩ := List.mem_map.1 he
  split
  · rfl
  · exact h.isStr e' he'

/-- What holds of mappings whatever is done to their fields. -/
structure Lasting (P : Entries → Prop) : Prop where
  nil : P []
  cons {es : Entries} {name : String} (h : P es) (hnew : es.has name = false) (v : Value) :
    P ((.str name, v) :: es)
  erase {es : Entries} (h : P es) (name : String) : P (es.erase name)
  set {es : Entries} (h : P es) (name : String) (v : Value) : P (es.set name v)

theorem lasting_keyed : Lasting Keyed := ⟨keyed_nil, .cons, .erase, .set⟩

theorem lasting_distinct : Lasting Distinct where
  nil := List.Pairwise.nil
  cons h hnew _ := List.pairwise_cons.2
    ⟨fun e he => by simpa using List.any_eq_false.1 hnew e he, h⟩
  erase := .erase
  set := .set

end Entries

/-! ## Payloads -/

namespace Condition

variable {limits : Limits} {P : Entries → Prop}

/-- The keys of options are those of the mapping, but for the kind and for the parts of a group. -/
theorem of_kindOf? (hP : Lasting P) {v : Value} {es options : Entries} {kind : String} (hes : P es)
    (h : kindOf? v es = .ok (kind, options)) : P options ∧ options.has "condition" = false := by
  have herased := hP.erase hes "condition"
  have hnone : (es.erase "condition").has "condition" = false := has_erase es "condition"
  have hset {options : Entries} {name : String} (v : Value) (hname : "condition" ≠ name)
      (hoptions : options.has "condition" = false) : (options.set name v).has "condition" = false := by
    rw [Block.has_set_of_ne hname.symm, hoptions]
  unfold kindOf? at h
  dsimp only at h
  split at h
  · split at h
    · cases h
      refine ⟨hP.set (hP.erase herased _) _ _, hset _ (by decide) ?_⟩
      exact List.any_eq_false.2 fun e he => List.any_eq_false.1 hnone e (List.mem_filter.1 he).1
    · cases h
  · split at h
    · cases h
      exact ⟨hP.set herased _ _, hset _ (by decide) hnone⟩
    · cases h
      exact ⟨herased, hnone⟩
  · cases h

/-- What lasts through the building of entries holds of a condition as it is written. -/
theorem of_toEntries (hP : Lasting P) {kind : String} {options : Entries} {parts : List Condition}
    (hoptions : P options) (hcondition : options.has "condition" = false)
    (hparts : groupKinds.contains kind = true → options.has "conditions" = false) :
    P (toEntries (.mk kind options parts)) := by
  have hcons : P ((.str "condition", .str kind) :: options) := hP.cons hoptions hcondition _
  rw [toEntries]
  split
  · rename_i hgroup
    have hset : Entries.set ((.str "condition", .str kind) :: options) "conditions"
        (.ofItems (toValues parts))
        = (.str "condition", .str kind) :: options
          ++ [(.str "conditions", .ofItems (toValues parts))] := by
      rw [Entries.set, if_neg]
      simpa [has, Value.isText] using hparts hgroup
    rw [← hset]
    exact hP.set hcons _ _
  · rwa [List.append_nil]

/-- What holds of the mapping that a condition is written as, and whatever is done to its fields,
holds of its payload, in whatever form it is written. -/
theorem of_normalize (hP : Lasting P) {v : Value} {data : Entries}
    (hv : ∀ o es, v.expose = .map o es → P es) (h : normalize limits v = .ok data) : P data := by
  unfold normalize ofValue at h
  generalize (limits.maxConditionDepth + 1).toNat = levels at h
  cases hread : (read limits levels v).run 0 with
  | error failure =>
    rw [hread] at h
    cases h
  | ok result =>
    rw [hread] at h
    cases h
    cases levels with
    | zero => cases hread
    | succ levels =>
      rw [read] at hread
      obtain ⟨⟨n, m⟩, -, hread⟩ := run_bind_eq_ok.1 hread
      dsimp only at hread
      -- nothing is read beyond the bound, else a text is a template and a mapping tells its kind
      split at hread
      · obtain ⟨_, htoo, -⟩ := run_bind_eq_ok.1 hread
        cases htoo
      · obtain ⟨_, -, hread⟩ := run_bind_eq_ok.1 hread
        split at hread
        · cases hread
          exact of_toEntries hP (hP.cons hP.nil rfl _) rfl fun _ => rfl
        · rename_i hexpose
          split at hread
          · cases hread
          · rename_i kind options hkind
            obtain ⟨hoptions, hcondition⟩ := of_kindOf? hP (hv _ _ hexpose) hkind
            split at hread
            · obtain ⟨⟨parts, last⟩, -, hread⟩ := run_bind_eq_ok.1 hread
              cases hread
              refine of_toEntries hP (hP.erase hoptions _) ?_
                fun _ => has_erase options "conditions"
              exact List.any_eq_false.2 fun e he =>
                List.any_eq_false.1 hcondition e (List.mem_filter.1 he).1
            · rename_i hgroup
              cases hread
              exact of_toEntries hP hoptions hcondition fun h => absurd h hgroup
        · cases hread

/-- So it does of the payload of one condition or of a list of them. -/
theorem of_payload (hP : Lasting P) {v : Value} {data : Entries}
    (hself : ∀ o es, v.expose.expose = .map o es → P es)
    (hsingle : ∀ o single, v.expose = .list o [single] → ∀ o es, single.expose = .map o es → P es)
    (h : payload limits v = .ok data) : P data := by
  unfold payload at h
  split at h
  · exact of_normalize hP (hsingle _ _ ‹_›) h
  · refine of_normalize hP (fun o es hexpose => ?_) h
    cases hexpose
    exact hP.cons (hP.cons hP.nil rfl _) rfl _
  · exact of_normalize hP hself h

/-- The payload of a condition has texts as keys when the mapping it is read from has. -/
theorem keyed_of_normalize {v : Value} {data : Entries}
    (hv : ∀ o es, v.expose = .map o es → Entries.Keyed es) (h : normalize limits v = .ok data) :
    data.Keyed :=
  of_normalize lasting_keyed hv h

/-- The payload of a regular condition has texts as keys. -/
theorem keyed_of_payload {v : Value} {data : Entries} (hv : v.Regular)
    (h : payload limits v = .ok data) : data.Keyed := by
  refine of_payload lasting_keyed (fun _ _ hexpose => (hv.expose.of_expose_eq_map hexpose).keyed)
    (fun o single hlist _ _ hexpose => ?_) h
  have hitems : Reader.sequence? v = some [single] := by
    unfold Reader.sequence?
    rw [hlist]
  exact ((hv.item hitems List.mem_cons_self).of_expose_eq_map hexpose).keyed

end Condition

namespace Entry

variable {place : Place} {es : Entries}

/-- A new name is a text, and it is not put beside one that is there. -/
theorem keyed_modernKey {old new : String} (h : es.Keyed) : (modernKey old new place es).1.Keyed := by
  unfold modernKey
  split
  · split
    · exact h.erase old
    · rename_i hnew
      exact h.rename (by simpa using hnew)
  · exact h

theorem keyed_modernWait (h : es.Keyed) : (modernWait place es).1.Keyed := by
  rcases modernWait_cases place es with ⟨o, items, -, hresult⟩ | ⟨o, inner, -, hresult⟩
      | ⟨-, -, hresult⟩
  · rw [hresult]
    exact h.set _ _
  · rw [hresult]
    exact h.set _ _
  · rw [hresult]
    exact h

/-- A condition block has conditions. -/
theorem has_if_of_kind (h : Entry.kind es = .ifBlock) : es.has "if" = true := by
  by_contra hnone
  unfold Entry.kind at h
  rw [if_neg hnone] at h
  repeat' split at h
  all_goals cases h

/-- The payload of a step has texts for keys when its entry has. -/
theorem keyed_modernStep (kind : NodeKind) (h : es.Keyed) :
    (modernStep kind place (apart kind place es)).1.Keyed := by
  unfold modernStep apart
  cases kind with
  | action =>
    have hapart := h.of_keys (fieldsApart_keys place es)
    exact keyed_modernWait (keyed_modernKey
      ((keyed_modernKey hapart).of_keys (modernFields_keys place _)))
  | wait =>
    refine keyed_modernWait (h.of_keys ?_)
    rw [List.map_map]
    refine List.map_congr_left fun e _ => ?_
    rw [Function.comp_apply]
    split <;> rfl
  | _ => exact h

end Entry

/-! ## Nodes -/

/-- A node that an editor can keep once it is placed. -/
structure Node.Regular (n : Node) : Prop where
  data : n.data.Keyed
  position : n.position = none
  label : n.label.IsName
  flags : n.flags.Keyed

namespace Program

variable {limits : Limits}

/-- The entries of a regular value are regular. -/
theorem regular_of_mem_entriesOf {v w : Value} (h : v.Regular) (hw : w ∈ entriesOf v) :
    w.Regular := by
  unfold entriesOf at hw
  split at hw
  · cases hw
  · exact h.of_mem_asItems hw

/-- A node that is created is regular when its fields have texts as keys and its label is a name. -/
theorem regular_fresh {created : List NodeKind} {kind : NodeKind} {data flags : Entries}
    {label : Value} (hdata : data.Keyed) (hlabel : label.IsName) (hflags : flags.Keyed) :
    (fresh created kind data label flags).Regular :=
  ⟨hdata, rfl, hlabel, hflags⟩

theorem isName_null : Value.null.IsName := ⟨none, rfl⟩

mutual
/-- The nodes of a regular entry are regular. -/
theorem EntryRead.regular {levels : Nat} {place : Place} {entry : Value}
    {created after : List NodeKind} {b : Block} (h : entry.Regular) :
    EntryRead limits levels place entry created b after → ∀ n ∈ b.nodes, n.Regular
  | .step hentry _ _ => by
    simpa [Block.nodes] using regular_fresh
      (Entry.keyed_modernStep _ (h.of_expose_eq_map hentry).keyed) isName_null keyed_nil
  | .gate _ _ hdata => by
    have hdata := Condition.keyed_of_normalize
      (fun _ _ hexpose => (h.of_expose_eq_map hexpose).keyed) hdata
    simpa [Block.nodes] using regular_fresh hdata isName_null keyed_nil
  | .ifBlock hentry hkind hdata hthen helse => by
    have hin := ListRead.regular (fun v => regular_of_mem_entriesOf (h.get hentry "then")) hthen
    have hout := ListRead.regular (fun v => regular_of_mem_entriesOf (h.get hentry "else")) helse
    have hname := (h.of_expose_eq_map hentry).name (Entry.has_if_of_kind hkind)
    have hdata := Condition.keyed_of_payload (h.get hentry "if") hdata
    rw [Block.nodes, Block.optionNodes, Block.optionNodes, List.append_nil]
    exact List.forall_mem_append.2 ⟨List.forall_mem_cons.2
      ⟨regular_fresh hdata hname (Entry.keyed_flagsOf _), hin⟩, hout⟩
  | .chooseBlock hentry _ hoptions hdefault => by
    rw [Block.nodes]
    exact List.forall_mem_append.2
      ⟨OptionsRead.regular (fun v => regular_of_mem_entriesOf (h.get hentry "choose"))
          (h.of_expose_eq_map hentry).options (Entry.keyed_flagsOf _) hoptions,
        ListRead.regular (fun v => regular_of_mem_entriesOf (h.get hentry "default")) hdefault⟩

/-- The nodes of a list of regular entries are regular. -/
theorem ListRead.regular {levels : Nat} {place : Place} {i : Nat} {entries : List Value}
    {created after : List NodeKind} {bs : List Block} (h : ∀ entry ∈ entries, entry.Regular) :
    ListRead limits levels place i entries created bs after → ∀ n ∈ Block.listNodes bs, n.Regular
  | .nil => by simp [Block.listNodes]
  | .cons hentry hrest => by
    obtain ⟨hfirst, hothers⟩ := List.forall_mem_cons.1 h
    rw [Block.listNodes]
    exact List.forall_mem_append.2 ⟨EntryRead.regular hfirst hentry, ListRead.regular hothers hrest⟩

/-- The nodes of regular options are regular, as long as their names are texts. -/
theorem OptionsRead.regular {levels : Nat} {place : Place} {i : Nat} {flags : Entries}
    {entries : List Value} {created after : List NodeKind} {options : List (Node × List Block)}
    (h : ∀ option ∈ entries, option.Regular)
    (hnames : ∀ option ∈ entries, ∀ o fields, option.expose = .map o fields →
      (Entries.get fields "alias").IsName) (hflags : flags.Keyed) :
    OptionsRead limits levels place i flags entries created options after →
    ∀ n ∈ Block.optionNodes options, n.Regular
  | .nil => by simp [Block.optionNodes]
  | .cons hoption _ hdata hbody hrest => by
    obtain ⟨hfirst, hothers⟩ := List.forall_mem_cons.1 h
    obtain ⟨hname, hnames⟩ := List.forall_mem_cons.1 hnames
    have hnode : (fresh created .condition _ _ _).Regular :=
      regular_fresh (Condition.keyed_of_payload (hfirst.get hoption "conditions") hdata)
        (hname _ _ hoption) hflags
    have hin := ListRead.regular
      (fun v => regular_of_mem_entriesOf (hfirst.get hoption "sequence")) hbody
    rw [Block.optionNodes]
    exact List.forall_mem_append.2 ⟨List.forall_mem_cons.2 ⟨hnode, hin⟩,
      OptionsRead.regular hothers hnames keyed_nil hrest⟩
end

/-- The nodes that are read out of regular sections are regular. -/
theorem SectionsRead.regular {triggers actions : List Entries} {conditions : List Value}
    {p : Program} (h : SectionsRead limits triggers conditions actions p)
    (htriggers : ∀ es ∈ triggers, es.Keyed) (hconditions : ∀ v ∈ conditions, v.Regular)
    (hactions : ∀ es ∈ actions, (Value.ofEntries es).Regular) : ∀ n ∈ p.nodes, n.Regular := by
  have hfresh {kind : NodeKind} {created : List NodeKind} {datas : List Entries}
      (hdatas : ∀ es ∈ datas, es.Keyed) : ∀ n ∈ freshNodes kind created datas, n.Regular := by
    induction datas generalizing created with
    | nil => exact nofun
    | cons es datas ih =>
      obtain ⟨hes, hdatas⟩ := List.forall_mem_cons.1 hdatas
      exact List.forall_mem_cons.2 ⟨regular_fresh hes isName_null keyed_nil, ih hdatas⟩
  obtain ⟨tests, htests, hgates⟩ := h.gates
  obtain ⟨after, hbody⟩ := h.body
  -- the gates are made of conditions, and normalizing keeps keys
  have hkeyed : ∀ es ∈ tests, es.Keyed := by
    intro es hes
    obtain ⟨v, hv, hdata⟩ := Outcome.exists_of_mem_mapM htests hes
    exact Condition.keyed_of_normalize
      (fun _ _ hexpose => ((hconditions v hv).of_expose_eq_map hexpose).keyed) hdata
  unfold nodes
  rw [h.triggers, hgates]
  refine List.forall_mem_append.2 ⟨List.forall_mem_append.2 ⟨hfresh htriggers, hfresh hkeyed⟩, ?_⟩
  exact hbody.regular (List.forall_mem_map.2 hactions)

end Program

/-! ## Edges -/

/-- An edge as it is drawn between two nodes: its ends name it, and it has no label. -/
def Edge.Drawn (e : Edge) : Prop := e = .between e.source e.target e.handle

/-- An edge that was drawn can be read from the editor's shape: it has an id. -/
theorem Edge.Drawn.editable {e : Edge} (h : e.Drawn) : e.Editable := by
  rw [h]
  exact ⟨Record.between_id_ne _ _ _ .null, Program.isName_null⟩

namespace Block

theorem drawn_join (ends : List OpenEnd) (id : String) : ∀ e ∈ join ends id, e.Drawn :=
  List.forall_mem_map.2 fun _ _ => rfl

mutual
/-- The edges of a program are drawn between its nodes. -/
theorem drawn_wire (ends : List OpenEnd) : ∀ b : Block, ∀ e ∈ (wire ends b).1, e.Drawn
  | step node => by
    rw [wire]
    exact drawn_join ends node.id
  | choice options otherwise => by
    rw [wire]
    exact List.forall_mem_append.2 ⟨drawn_wireOptions ends options, drawn_wireList _ otherwise⟩

/-- The edges of a list are those of its blocks, and all are drawn by joining. -/
theorem drawn_wireList (ends : List OpenEnd) : ∀ bs : List Block,
    ∀ e ∈ (wireList ends bs).1, e.Drawn
  | [] => by simp [wireList]
  | b :: bs => by
    rw [wireList]
    exact List.forall_mem_append.2 ⟨drawn_wire ends b, drawn_wireList _ bs⟩

theorem drawn_wireOptions (ends : List OpenEnd) : ∀ options : List (Node × List Block),
    ∀ e ∈ (wireOptions ends options).edges, e.Drawn
  | [] => by simp [wireOptions]
  | (node, body) :: rest => by
    rw [wireOptions]
    exact List.forall_mem_append.2 ⟨List.forall_mem_append.2
      ⟨drawn_join ends node.id, drawn_wireList _ body⟩, drawn_wireOptions _ rest⟩
end

theorem drawn_wireGates (ends : List OpenEnd) (gates : List Node) :
    ∀ e ∈ (wireGates ends gates).1, e.Drawn := by
  induction gates generalizing ends with
  | nil => exact nofun
  | cons gate gates ih => exact List.forall_mem_append.2 ⟨drawn_join ends gate.id, ih _⟩

end Block

/-- The edges of a program are drawn. -/
theorem Program.drawn_edges (p : Program) : ∀ e ∈ p.edges, e.Drawn :=
  List.forall_mem_append.2 ⟨Block.drawn_wireGates _ _, Block.drawn_wireList _ _⟩

/-! ## Dispatch loops -/

namespace Dispatch

variable {limits : Limits}

/-- Items stand in a sequence. -/
theorem exists_of_mem_items {v w : Value} (h : w ∈ items v) :
    ∃ found, Reader.sequence? v = some found ∧ ∃ item ∈ found, w = item.expose := by
  unfold items at h
  split at h
  · rename_i found hexpose
    obtain ⟨item, hitem, rfl⟩ := List.mem_map.1 h
    refine ⟨found, ?_, item, hitem, rfl⟩
    unfold Reader.sequence?
    rw [hexpose]
  · cases h

/-- A mapping among the items of a regular list. -/
theorem regular_of_mem_items {v : Value} {o : Origin} {es : Entries} (h : v.Regular)
    (hmem : Value.map o es ∈ items v) : ∃ w : Value, w.Regular ∧ w.expose = .map o es := by
  obtain ⟨found, hfound, item, hitem, heq⟩ := exists_of_mem_items hmem
  exact ⟨item, h.item hfound hitem, heq.symm⟩

/-- The options of a loop in regular actions are regular. -/
theorem regular_of_readLoop {actions : List Entries} {start : String} {options : List Value}
    (h : ∀ es ∈ actions, (Value.ofEntries es).Regular)
    (hread : readLoop (actions.map .ofEntries) = .ok (start, options)) :
    ∀ option ∈ options, option.Regular := by
  generalize hvalues : actions.map Value.ofEntries = values at hread
  -- at each step down, what is looked at is a field or an item of a regular value
  unfold readLoop readLoop.refuse at hread
  split at hread
  · rename_i first o es rest
    have hmem : Value.map o es ∈ actions.map Value.ofEntries := by
      rw [hvalues]
      exact List.mem_cons_of_mem _ List.mem_cons_self
    obtain ⟨es', hes, heq⟩ := List.mem_map.1 hmem
    cases heq
    have hes := h es hes
    split at hread
    · rename_i loop _ hloop
      have hloop := (hes.get rfl "repeat").get hloop
      split at hread
      · rename_i p choice hchoice
        have hmem : Value.map p choice ∈ items (Entries.get loop "sequence") := by
          rw [hchoice]
          exact List.mem_cons_self
        obtain ⟨w, hw, hexpose⟩ := regular_of_mem_items (hloop "sequence") hmem
        split at hread
        · rename_i found hfound
          cases hread
          have hoptions : Reader.sequence? (Entries.get choice "choose") = some options := by
            unfold Reader.sequence?
            rw [hfound]
          exact fun option hoption => (hw.get hexpose "choose").item hoptions hoption
        · cases hread
      · cases hread
    · cases hread
  · cases hread
  · cases hread

/-- The if block of a state is among its steps. -/
theorem exists_of_branchOf? {steps : List Value} {block : Entries}
    (h : branchOf? steps = some block) :
    ∃ o, Value.map o block ∈ steps ∧ Entry.kind block = .ifBlock := by
  -- the kind is asked for by a test, of which it is the only case
  have hkind {es : Entries} (hif : (Entry.kind es).isIf = true) : Entry.kind es = .ifBlock := by
    cases hk : Entry.kind es <;> rw [hk] at hif <;> first | rfl | cases hif
  unfold branchOf? at h
  split at h
  · rename_i o es
    split at h
    · rename_i hif
      cases h
      exact ⟨o, List.mem_cons_self, hkind hif⟩
    · cases h
  · rename_i skip o es
    split at h
    · rename_i hif
      cases h
      exact ⟨o, List.mem_cons_of_mem _ List.mem_cons_self, hkind (Bool.and_eq_true_iff.1 hif).2⟩
    · cases h
  · cases h

/-- The node of a regular option is regular. -/
theorem regular_of_readOption {v : Value} {d : Decoded} (h : v.Regular)
    (hread : readOption limits v = .ok d) : d.node.Regular := by
  obtain ⟨o, es, hes, -, hnode⟩ := of_readOption_eq_ok hread
  have hsequence := h.get hes "sequence"
  rcases hnode with ⟨block, hblock, hd⟩ | ⟨p, next, -, hitems, -, -, -, hnode⟩
  · obtain ⟨data, -, -, hdata, -, -, hnode, -⟩ := of_readCondition_eq_ok hd
    obtain ⟨q, hmem, hkind⟩ := exists_of_branchOf? hblock
    obtain ⟨w, hw, hexpose⟩ := regular_of_mem_items hsequence hmem
    rw [hnode]
    exact ⟨Condition.keyed_of_payload (hw.get hexpose "if") hdata, rfl,
      (hw.of_expose_eq_map hexpose).name (Entry.has_if_of_kind hkind), Entry.keyed_flagsOf _⟩
  · have hmem : Value.map p d.node.data ∈ items (Entries.get es "sequence") := by
      rw [hitems]
      exact List.mem_cons_self
    obtain ⟨w, hw, hexpose⟩ := regular_of_mem_items hsequence hmem
    rw [hnode]
    exact ⟨(hw.of_expose_eq_map hexpose).keyed, rfl, Program.isName_null, keyed_nil⟩

/-- The nodes that are decoded out of regular actions are regular, and edges are drawn without
labels. -/
theorem regular_of_decode {triggers actions : List Entries} {ids : List String} {g : Graph}
    (htriggers : ∀ es ∈ triggers, es.Keyed) (hactions : ∀ es ∈ actions, (Value.ofEntries es).Regular)
    (h : decode limits triggers (actions.map .ofEntries) ids = .ok g) :
    (∀ n ∈ g.nodes, n.Regular) ∧ ∀ e ∈ g.edges, e.Editable := by
  refine ⟨fun n hn => ?_, fun e he => ?_⟩
  · obtain ⟨id, es, hes, rfl⟩ | ⟨start, options, hloop, v, hv, d, hread, rfl⟩ := of_mem_decode h hn
    · exact ⟨htriggers es hes, rfl, Program.isName_null, keyed_nil⟩
    · exact regular_of_readOption (regular_of_readLoop hactions hloop v hv) hread
  · obtain ⟨-, rfl⟩ | ⟨-, start, options, decoded, edges, -, -, hedges, rfl⟩ := decode_eq_ok.1 h
    · cases he
    · obtain ⟨t, -, -, rfl⟩ := (mem_edges_iff hedges e).1 he
      exact Edge.Drawn.editable rfl

end Dispatch

end Automation
