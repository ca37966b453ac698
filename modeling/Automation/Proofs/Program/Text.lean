import Automation.Proofs.Condition
import Automation.Proofs.Program.Derivation
import Automation.Proofs.Value.Text

/-!
# Programs that can be written

Reading keeps what can be written. The payload of a condition is made of the integers of the
condition it was read from (`Condition.hasText_of_normalize`), that of a step of those of its entry
(`Entry.HasText.modernStep`), and the label and flags of a block stand in its entry. So the nodes of
a program that was read hold no integer that its sections do not hold
(`Program.SectionsRead.hasText`), and neither do the entries that the program is written as
(`Block.hasText_toEntries`).
-/

namespace Automation

open Entries

/-! ## Conditions -/

namespace Condition

/-- A condition can be written when its options and its parts can. -/
theorem hasText_toEntries {kind : String} {options : Entries} {parts : List Condition}
    (hoptions : options.HasText) (hparts : ∀ part ∈ parts, (toEntries part).HasText) :
    (toEntries (.mk kind options parts)).HasText := by
  rw [toEntries]
  refine HasText.append (hasText_cons.2 ⟨⟨rfl, rfl⟩, hoptions⟩) ?_
  split
  · refine hasText_single (Value.hasText_ofItems.2 fun v hv => ?_)
    rw [toValues_eq_map] at hv
    obtain ⟨part, hpart, rfl⟩ := List.mem_map.1 hv
    exact Value.hasText_ofEntries.2 (hparts part hpart)
  · exact hasText_nil

/-- The options of a condition stand in its mapping. -/
theorem hasText_of_kindOf? {v : Value} {es options : Entries} {kind : String} (hes : es.HasText)
    (h : kindOf? v es = .ok (kind, options)) : options.HasText := by
  have herased := hes.erase "condition"
  unfold kindOf? at h
  dsimp only at h
  split at h
  · split at h
    · cases h
      exact (herased.erase _).set _ (herased.get _)
    · cases h
  · split at h
    · cases h
      exact herased.set _ rfl
    · cases h
      exact herased
  · cases h

/-- The parts of a group stand in its options. -/
theorem hasText_of_mem_partsOf {options : Entries} (h : options.HasText) {part : Value}
    (hpart : part ∈ partsOf options) : part.hasText = true := by
  unfold partsOf at hpart
  split at hpart
  · rename_i v hget
    exact Value.hasText_of_mem_asItems (Value.hasText_expose (h.get? hget)) hpart
  · cases hpart

/-- A condition that is read holds the integers of what it is read from. -/
theorem hasText_of_read {limits : Limits} {levels : Nat} {v : Value} {count after : Nat}
    {c : Condition} (hv : v.hasText = true)
    (h : (read limits levels v).run count = .ok (c, after)) : (toEntries c).HasText := by
  induction levels generalizing v count c after with
  | zero => cases h
  | succ levels ih =>
    rw [read] at h
    obtain ⟨⟨n, m⟩, -, h⟩ := run_bind_eq_ok.1 h
    dsimp only at h
    split at h
    · obtain ⟨_, htoo, -⟩ := run_bind_eq_ok.1 h
      cases htoo
    · obtain ⟨_, -, h⟩ := run_bind_eq_ok.1 h
      split at h
      · -- a template by itself
        cases h
        exact hasText_toEntries (hasText_single hv) (by simp)
      · rename_i hexpose
        have hes := Value.hasText_of_expose_eq_map hv hexpose
        split at h
        · cases h
        · rename_i kind options hkind
          have hoptions := hasText_of_kindOf? hes hkind
          split at h
          · obtain ⟨⟨parts, last⟩, hparts, h⟩ := run_bind_eq_ok.1 h
            cases h
            refine hasText_toEntries (hoptions.erase _) fun part hpart => ?_
            obtain ⟨w, hw, before, behind, hread⟩ := exists_of_mapM_run_eq_ok hparts part hpart
            exact ih (hasText_of_mem_partsOf hoptions hw) hread
          · cases h
            exact hasText_toEntries hoptions (by simp)
      · cases h

/-- Normalizing makes no integers that were not there. -/
theorem hasText_of_normalize {limits : Limits} {v : Value} {es : Entries} (hv : v.hasText = true)
    (h : normalize limits v = .ok es) : es.HasText := by
  unfold normalize ofValue at h
  cases hread : (read limits (limits.maxConditionDepth + 1).toNat v).run 0 with
  | error failure =>
    rw [hread] at h
    cases h
  | ok result =>
    rw [hread] at h
    cases h
    exact hasText_of_read hv (c := result.1) hread

theorem hasText_of_payload {limits : Limits} {v : Value} {es : Entries} (hv : v.hasText = true)
    (h : payload limits v = .ok es) : es.HasText := by
  have hexpose := Value.hasText_expose hv
  unfold payload at h
  split at h
  · rename_i hlist
    rw [hlist] at hexpose
    exact hasText_of_normalize (Value.hasText_list.1 hexpose _ List.mem_cons_self) h
  · exact hasText_of_normalize
      (Value.hasText_ofEntries.2 (hasText_cons.2 ⟨⟨rfl, rfl⟩, hasText_single hv⟩)) h
  · exact hasText_of_normalize hexpose h

/-- The conditions that a payload is spread to stand in it. -/
theorem hasText_of_mem_spread {data : Entries} (h : data.HasText) {v : Value}
    (hv : v ∈ spread data) : v.hasText = true := by
  have hself : ∀ v ∈ [Value.ofEntries data], v.hasText = true := by
    simpa using Value.hasText_ofEntries.2 h
  unfold spread at hv
  split at hv
  · rename_i hparts
    split at hv
    · have hlist := h.get "conditions"
      rw [hparts] at hlist
      exact Value.hasText_list.1 hlist v hv
    · exact hself v hv
  · exact hself v hv

end Condition

/-! ## Entries -/

namespace Entry

theorem hasText_flagsOf {es : Entries} (h : es.HasText) : (flagsOf es).HasText := by
  intro e he
  obtain ⟨key, -, hkey⟩ := List.mem_filterMap.1 he
  obtain ⟨v, hget, rfl⟩ := Option.map_eq_some_iff.1 hkey
  exact ⟨rfl, h.get? hget⟩

/-- Copies of triggers can be written when the triggers can. -/
theorem hasText_triggersApart {place : Place} {v : Value} (h : v.hasText = true) :
    (triggersApart place v).hasText = true := by
  unfold triggersApart
  split
  · refine Value.hasText_list.2 fun w hw => ?_
    obtain ⟨⟨item, i⟩, hitem, rfl⟩ := List.mem_map.1 hw
    have htext := Value.haveText_partItems h (Value.hasText_list.1 h) item
      (List.fst_mem_of_mem_zipIdx hitem)
    cases item with
    | map o es =>
      show (Value.inside _ _).hasText = true
      rwa [Value.hasText_inside]
    | _ => exact htext
  · rwa [Value.hasText_inside]
  · exact h

mutual
/-- A copy can be written when the value can. Induction on the value, in the order of its
copying. -/
theorem hasText_valueApart (place : Place) : ∀ v : Value, v.hasText = true →
    (valueApart place v).hasText = true
  | .null | .bool _ | .int _ | .float _ | .str _ | .bytes _ | .date .. | .moment .. => id
  | .tuple .. | .set .. | .enclosing .. => id
  | .list o items => by
    intro h
    rw [valueApart]
    exact Value.hasText_list.2 (Value.haveText_partItems h
      (hasText_itemsApart place items 0 (Value.hasText_list.1 h)))
  | .map o es => by
    intro h
    have hinner := Value.hasText_partEntries (o := o) h
      (hasText_fieldsApart place es (Value.hasText_map.1 h))
    rw [valueApart]
    refine Value.hasText_map.2 ?_
    split
    · exact hinner.inside place
    · exact hinner

theorem hasText_itemsApart (place : Place) : ∀ (items : List Value) (i : Nat),
    (∀ v ∈ items, v.hasText = true) → ∀ v ∈ itemsApart place i items, v.hasText = true
  | [], _ => by simp [itemsApart]
  | v :: vs, i => by
    intro h
    rw [itemsApart]
    exact List.forall_mem_cons.2 ⟨hasText_valueApart _ v (h v List.mem_cons_self),
      hasText_itemsApart place vs (i + 1) fun w hw => h w (List.mem_cons_of_mem _ hw)⟩

theorem hasText_fieldsApart (place : Place) : ∀ es : List (Value × Value), Entries.HasText es →
    Entries.HasText (fieldsApart place es)
  | [] => by simp [fieldsApart]
  | (k, v) :: es => by
    intro h
    obtain ⟨⟨hk, hv⟩, hes⟩ := hasText_cons.1 h
    unfold fieldsApart
    refine hasText_cons.2 ⟨⟨hk, ?_⟩, hasText_fieldsApart place es hes⟩
    split
    · split
      · exact hasText_valueApart _ v hv
      · split
        · exact hasText_triggersApart hv
        · exact hv
    · exact hv
end

theorem hasText_apart {kind : NodeKind} {place : Place} {es : Entries} (h : es.HasText) :
    (apart kind place es).HasText := by
  unfold apart
  split
  · exact hasText_fieldsApart place es h
  · intro e he
    obtain ⟨e', he', rfl⟩ := List.mem_map.1 he
    split
    · exact ⟨(h e' he').1, hasText_triggersApart (h e' he').2⟩
    · exact h e' he'
  · exact h

/-- A new name for a field is a text. -/
theorem hasText_modernKey {old new : String} {place : Place} {es : Entries} (h : es.HasText) :
    (modernKey old new place es).1.HasText := by
  unfold modernKey
  split
  · split
    · exact h.erase old
    · exact h.rename old new
  · exact h

theorem hasText_modernTriggers {place : Place} {items : List Value} {i : Nat}
    (h : ∀ v ∈ items, v.hasText = true) :
    ∀ v ∈ (modernTriggers place i items).1, v.hasText = true := by
  induction items generalizing i with
  | nil => simp [modernTriggers]
  | cons v vs ih =>
    have hv := h v List.mem_cons_self
    have hvs := ih (i := i + 1) fun w hw => h w (List.mem_cons_of_mem _ hw)
    unfold modernTriggers
    dsimp only
    split
    · rename_i hexpose
      have hfirst : (modernTrigger (place.item i) _).1.HasText :=
        hasText_modernKey (Value.hasText_of_expose_eq_map hv hexpose)
      exact List.forall_mem_cons.2 ⟨Value.hasText_ofEntries.2 hfirst, hvs⟩
    · exact List.forall_mem_cons.2 ⟨hv, hvs⟩

theorem hasText_modernWait {place : Place} {es : Entries} (h : es.HasText) :
    (modernWait place es).1.HasText := by
  have hexpose := Value.hasText_expose (h.get "wait_for_trigger")
  unfold modernWait
  dsimp only
  split
  · rename_i hlist
    rw [hlist] at hexpose
    exact h.set _ (Value.hasText_ofItems.2 (hasText_modernTriggers (Value.hasText_list.1 hexpose)))
  · rename_i hmap
    rw [hmap] at hexpose
    exact h.set _ (Value.hasText_ofItems.2 (hasText_modernTriggers (by simpa using hexpose)))
  · exact h

/-- Fields that were read one by one are put together from what was read. -/
theorem hasText_joinFields {place : Place} {fields : List ((Value × Value) × List Notice)}
    (h : Entries.HasText (fields.map (·.1))) : (joinFields place fields).1.HasText :=
  hasText_modernWait (hasText_modernKey h)

mutual
/-- Present names can be written: nothing else is put in the place of old ones. -/
theorem hasText_modernNested (place : Place) : ∀ v : Value, v.hasText = true →
    (modernNested place v).1.hasText = true
  | .null | .bool _ | .int _ | .float _ | .str _ | .bytes _ | .date .. | .moment .. => id
  | .tuple .. | .set .. | .enclosing .. => id
  | .list o items => by
    intro h
    rw [modernNested]
    exact Value.hasText_ofItems.2 (hasText_modernItems place items 0 (Value.hasText_list.1 h))
  | .map o es => by
    intro h
    rw [modernNested]
    exact Value.hasText_ofEntries.2
      (hasText_joinFields (hasText_modernFields place es (Value.hasText_map.1 h)))

theorem hasText_modernItems (place : Place) : ∀ (items : List Value) (i : Nat),
    (∀ v ∈ items, v.hasText = true) → ∀ v ∈ (modernItems place i items).1, v.hasText = true
  | [], _ => by simp [modernItems]
  | v :: vs, i => by
    intro h
    rw [modernItems]
    exact List.forall_mem_cons.2 ⟨hasText_modernNested _ v (h v List.mem_cons_self),
      hasText_modernItems place vs (i + 1) fun w hw => h w (List.mem_cons_of_mem _ hw)⟩

theorem hasText_modernFields (place : Place) : ∀ es : List (Value × Value), Entries.HasText es →
    Entries.HasText ((modernFields place es).map (·.1))
  | [] => by simp [modernFields]
  | (k, v) :: es => by
    intro h
    obtain ⟨⟨hk, hv⟩, hes⟩ := hasText_cons.1 h
    unfold modernFields
    refine List.forall_mem_cons.2 ⟨?_, hasText_modernFields place es hes⟩
    split
    · split
      · exact ⟨hk, hasText_modernNested _ v hv⟩
      · exact ⟨hk, hv⟩
    · exact ⟨hk, hv⟩
end

/-- The payload of a step holds the integers of its entry. -/
theorem hasText_modernStep {kind : NodeKind} {place : Place} {es : Entries} (h : es.HasText) :
    (modernStep kind place es).1.HasText := by
  unfold modernStep
  split
  · exact hasText_joinFields (hasText_modernFields place _ (hasText_modernKey h))
  · exact hasText_modernWait h
  · exact h

end Entry

/-! ## Nodes -/

/-- What a node holds can be written. -/
structure Node.HasText (n : Node) : Prop where
  data : n.data.HasText
  position : ∀ p ∈ n.position, p.toValue.hasText = true
  label : n.label.hasText = true
  flags : n.flags.HasText

namespace Program

variable {limits : Limits}

/-- A node that is created can be written when what it is created with can. -/
theorem hasText_fresh {created : List NodeKind} {kind : NodeKind} {data flags : Entries}
    {label : Value} (hdata : data.HasText) (hlabel : label.hasText = true) (hflags : flags.HasText) :
    (fresh created kind data label flags).HasText :=
  ⟨hdata, nofun, hlabel, hflags⟩

theorem hasText_of_mem_entriesOf {v w : Value} (h : v.hasText = true) (hw : w ∈ entriesOf v) :
    w.hasText = true := by
  unfold entriesOf at hw
  split at hw
  · cases hw
  · exact Value.hasText_of_mem_asItems (Value.hasText_expose h) hw

mutual
/-- The nodes of an entry can be written when the entry can. -/
theorem EntryRead.hasText {levels : Nat} {place : Place} {entry : Value}
    {created after : List NodeKind} {b : Block} (htext : entry.hasText = true) :
    EntryRead limits levels place entry created b after → ∀ n ∈ b.nodes, n.HasText
  | .step hentry _ _ => by
    have hes := Value.hasText_of_expose_eq_map htext hentry
    simpa [Block.nodes] using
      hasText_fresh (Entry.hasText_modernStep (Entry.hasText_apart hes)) rfl hasText_nil
  | .gate hentry _ hdata => by
    simpa [Block.nodes] using
      hasText_fresh (Condition.hasText_of_normalize htext hdata) rfl hasText_nil
  | .ifBlock hentry _ hdata hthen helse => by
    have hes := Value.hasText_of_expose_eq_map htext hentry
    have hnode : (fresh created .condition _ _ _).HasText :=
      hasText_fresh (Condition.hasText_of_payload (hes.get "if") hdata) (hes.get "alias")
        (Entry.hasText_flagsOf hes)
    have hin := ListRead.hasText (fun v => hasText_of_mem_entriesOf (hes.get "then")) hthen
    have hout := ListRead.hasText (fun v => hasText_of_mem_entriesOf (hes.get "else")) helse
    rw [Block.nodes, Block.optionNodes, Block.optionNodes, List.append_nil]
    exact List.forall_mem_append.2 ⟨List.forall_mem_cons.2 ⟨hnode, hin⟩, hout⟩
  | .chooseBlock hentry _ hoptions hdefault => by
    have hes := Value.hasText_of_expose_eq_map htext hentry
    rw [Block.nodes]
    exact List.forall_mem_append.2
      ⟨OptionsRead.hasText (fun v => hasText_of_mem_entriesOf (hes.get "choose"))
          (Entry.hasText_flagsOf hes) hoptions,
        ListRead.hasText (fun v => hasText_of_mem_entriesOf (hes.get "default")) hdefault⟩

/-- The nodes of a list can be written when its entries can. -/
theorem ListRead.hasText {levels : Nat} {place : Place} {i : Nat} {entries : List Value}
    {created after : List NodeKind} {bs : List Block}
    (htext : ∀ entry ∈ entries, entry.hasText = true) :
    ListRead limits levels place i entries created bs after →
    ∀ n ∈ Block.listNodes bs, n.HasText
  | .nil => by simp [Block.listNodes]
  | .cons hentry hrest => by
    obtain ⟨hfirst, hothers⟩ := List.forall_mem_cons.1 htext
    rw [Block.listNodes]
    exact List.forall_mem_append.2 ⟨EntryRead.hasText hfirst hentry, ListRead.hasText hothers hrest⟩

/-- The nodes of options can be written when the options can. Each condition has the flags of its
block. -/
theorem OptionsRead.hasText {levels : Nat} {place : Place} {i : Nat} {flags : Entries}
    {entries : List Value} {created after : List NodeKind} {options : List (Node × List Block)}
    (htext : ∀ option ∈ entries, option.hasText = true) (hflags : flags.HasText) :
    OptionsRead limits levels place i flags entries created options after →
    ∀ n ∈ Block.optionNodes options, n.HasText
  | .nil => by simp [Block.optionNodes]
  | .cons hoption _ hdata hbody hrest => by
    obtain ⟨hfirst, hothers⟩ := List.forall_mem_cons.1 htext
    have hes := Value.hasText_of_expose_eq_map hfirst hoption
    have hnode : (fresh created .condition _ _ _).HasText :=
      hasText_fresh (Condition.hasText_of_payload (hes.get "conditions") hdata) (hes.get "alias") hflags
    rw [Block.optionNodes, List.cons_append]
    exact List.forall_mem_cons.2 ⟨hnode, List.forall_mem_append.2
      ⟨ListRead.hasText (fun v => hasText_of_mem_entriesOf (hes.get "sequence")) hbody,
        OptionsRead.hasText hothers hasText_nil hrest⟩⟩
end

theorem hasText_of_mem_freshNodes {kind : NodeKind} {datas : List Entries}
    {created : List NodeKind} (h : ∀ data ∈ datas, Entries.HasText data) :
    ∀ n ∈ freshNodes kind created datas, n.HasText := by
  induction datas generalizing created with
  | nil => simp [freshNodes]
  | cons data datas ih =>
    obtain ⟨hdata, hdatas⟩ := List.forall_mem_cons.1 h
    exact List.forall_mem_cons.2 ⟨hasText_fresh hdata rfl hasText_nil, ih hdatas⟩

/-- A program holds the integers of the sections it is read from. -/
theorem SectionsRead.hasText {triggers actions : List Entries} {conditions : List Value}
    {p : Program} (h : SectionsRead limits triggers conditions actions p)
    (htriggers : ∀ es ∈ triggers, Entries.HasText es)
    (hconditions : ∀ v ∈ conditions, v.hasText = true)
    (hactions : ∀ es ∈ actions, Entries.HasText es) : ∀ n ∈ p.nodes, n.HasText := by
  obtain ⟨tests, htests, hgates⟩ := h.gates
  obtain ⟨after, hbody⟩ := h.body
  have htests : ∀ data ∈ tests, Entries.HasText data := by
    intro data hdata
    obtain ⟨v, hv, hnormal⟩ := Outcome.exists_of_mem_mapM htests hdata
    exact Condition.hasText_of_normalize (hconditions v hv) hnormal
  have hentries : ∀ v ∈ actions.map Value.ofEntries, v.hasText = true := by
    intro v hv
    obtain ⟨es, hes, rfl⟩ := List.mem_map.1 hv
    exact Value.hasText_ofEntries.2 (hactions es hes)
  unfold nodes
  rw [h.triggers, hgates]
  exact List.forall_mem_append.2 ⟨List.forall_mem_append.2
    ⟨hasText_of_mem_freshNodes htriggers, hasText_of_mem_freshNodes htests⟩,
    hbody.hasText hentries⟩

end Program

/-! ## Writing -/

namespace Block

theorem hasText_aliasOf {n : Node} (h : n.HasText) : (aliasOf n).HasText := by
  refine hasText_field fun v hv => ?_
  unfold Value.ifTruthy at hv
  split at hv
  · cases hv
    exact h.label
  · cases hv

theorem hasText_conditionsOf {n : Node} (h : n.HasText) : (conditionsOf n).hasText = true :=
  Value.hasText_ofItems.2 fun _ hv => Condition.hasText_of_mem_spread h.data hv

/-- A field for a list is set only if the list has something in it. -/
theorem hasText_setAny {es : Entries} {name : String} {items : List Value} (h : es.HasText)
    (hitems : ∀ v ∈ items, v.hasText = true) : (es.setAny name items).HasText := by
  unfold setAny
  split
  · exact h
  · exact h.set name (Value.hasText_ofItems.2 hitems)

/-- An entry for a condition can be written when the node and its branches can. -/
theorem hasText_ifEntry {n : Node} {whenTrue whenFalse : List Value} (h : n.HasText)
    (htrue : ∀ v ∈ whenTrue, v.hasText = true) (hfalse : ∀ v ∈ whenFalse, v.hasText = true) :
    (ifEntry n whenTrue whenFalse).HasText :=
  hasText_setAny (((((hasText_aliasOf h).merge h.flags).set "if" (hasText_conditionsOf h))).set
    "then" (Value.hasText_ofItems.2 htrue)) hfalse

theorem hasText_optionEntry {n : Node} {body : List Value} (h : n.HasText)
    (hbody : ∀ v ∈ body, v.hasText = true) : (optionEntry n body).HasText :=
  (hasText_aliasOf h).append (hasText_cons.2 ⟨⟨rfl, hasText_conditionsOf h⟩,
    hasText_single (Value.hasText_ofItems.2 hbody)⟩)

/-- An entry for options can be written when the options can. -/
theorem hasText_chooseEntry {flags : Entries} {options otherwise : List Value}
    (hflags : flags.HasText) (hoptions : ∀ v ∈ options, v.hasText = true)
    (hotherwise : ∀ v ∈ otherwise, v.hasText = true) :
    (chooseEntry flags options otherwise).HasText :=
  hasText_setAny ((hasText_nil.merge hflags).set "choose" (Value.hasText_ofItems.2 hoptions))
    hotherwise

mutual
/-- The entry of a block holds the integers of its nodes. -/
theorem hasText_toEntries : ∀ b : Block, (∀ n ∈ b.nodes, n.HasText) → b.toEntries.HasText
  | .step n => fun h => by
    rw [toEntries]
    exact (h n (by simp [nodes])).data
  | .choice options otherwise => fun h => by
    rw [nodes] at h
    obtain ⟨hoptions, hotherwise⟩ := List.forall_mem_append.1 h
    have hbodies := hasText_bodyValues options hoptions
    have hlast := hasText_listValues otherwise hotherwise
    unfold toEntries
    dsimp only
    split
    · rename_i n body
      refine hasText_ifEntry (hoptions n (by simp [optionNodes])) ?_ hlast
      simpa [bodyValues] using hbodies
    · refine hasText_chooseEntry ?_ (fun v hv => ?_) hlast
      · cases options with
        | nil => exact hasText_nil
        | cons o options => exact (hoptions o.1 (by simp [optionNodes])).flags
      · obtain ⟨⟨o, body⟩, hmem, rfl⟩ := List.mem_map.1 hv
        obtain ⟨ho, hbody⟩ := List.of_mem_zip hmem
        have hnode : o.1 ∈ optionNodes options := mem_optionNodes.2 ⟨o, ho, .inl rfl⟩
        exact Value.hasText_ofEntries.2 (hasText_optionEntry (hoptions _ hnode) (hbodies body hbody))

/-- The entries of a list of blocks can be written when its nodes can. -/
theorem hasText_listValues : ∀ bs : List Block, (∀ n ∈ listNodes bs, n.HasText) →
    ∀ v ∈ listValues bs, v.hasText = true
  | [] => by simp [listValues]
  | b :: bs => fun h => by
    rw [listNodes] at h
    obtain ⟨hb, hbs⟩ := List.forall_mem_append.1 h
    rw [listValues]
    exact List.forall_mem_cons.2 ⟨Value.hasText_ofEntries.2 (hasText_toEntries b hb),
      hasText_listValues bs hbs⟩

theorem hasText_bodyValues : ∀ options : List (Node × List Block),
    (∀ n ∈ optionNodes options, n.HasText) →
    ∀ body ∈ bodyValues options, ∀ v ∈ body, v.hasText = true
  | [] => by simp [bodyValues]
  | (n, body) :: options => fun h => by
    rw [optionNodes, List.cons_append] at h
    obtain ⟨-, h⟩ := List.forall_mem_cons.1 h
    obtain ⟨hbody, hoptions⟩ := List.forall_mem_append.1 h
    rw [bodyValues]
    exact List.forall_mem_cons.2 ⟨hasText_listValues body hbody, hasText_bodyValues options hoptions⟩
end

end Block

end Automation
