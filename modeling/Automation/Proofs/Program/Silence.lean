import Automation.Proofs.Program.Rereading
import Automation.Proofs.Entry.Modern

/-!
# Nothing to say about written programs

A reader has nothing to say about the entries of a program that was written, when its steps have
present names: no key of them is renamed, and none is left out of a branching block
(`Program.silent_read`).
-/

namespace Automation

namespace Reads

variable {α β : Type}

/-- A reading that has nothing to say, whether it succeeds or not. -/
def Silent (r : Reads α) : Prop := ∀ s : Intake, (proceed r s).2.notices = s.notices

namespace Silent

variable {r : Reads α}

theorem pure (a : α) : Silent (pure a : Reads α) := fun _ => rfl

theorem lift (o : Outcome α) : Silent (lift o) := fun _ => rfl

theorem get : Silent get := fun _ => rfl

/-- To note nothing is silent. -/
theorem note {notices : List Notice} (h : notices = []) : Silent (note notices) := by
  intro s
  rw [h, proceed_note_nil]

/-- Two silent steps are silent one behind the other. -/
theorem bind {f : α → Reads β} (h : Silent r) (hf : ∀ a, Silent (f a)) : Silent (r >>= f) := by
  intro s
  have hs := h s
  rw [proceed_bind]
  generalize proceed r s = result at hs
  obtain ⟨_ | a, t⟩ := result
  · exact hs
  · exact (hf a t).trans hs

/-- Only what comes of an outcome has to be silent. -/
theorem lift_bind {o : Outcome α} {f : α → Reads β} (hf : ∀ a, o = .ok a → Silent (f a)) :
    Silent (Reads.lift o >>= f) := by
  intro s
  rcases o with _ | a
  · rfl
  · exact hf a rfl s

/-- Reading each of some values is silent when reading each one is. -/
theorem mapM {f : β → Reads α} {xs : List β} (hf : ∀ x ∈ xs, Silent (f x)) :
    Silent (xs.mapM f) := by
  induction xs with
  | nil => exact pure []
  | cons x xs ih =>
    obtain ⟨hx, hxs⟩ := List.forall_mem_cons.1 hf
    rw [List.mapM_cons]
    exact hx.bind fun a => (ih hxs).bind fun as => pure (a :: as)

/-- What a silent reading leaves behind when it succeeds. -/
theorem notices_eq {a : α} {s s' : Intake} (h : Silent r) (hr : proceed r s = (.ok a, s')) :
    s'.notices = s.notices := by
  have hs := h s
  rwa [hr] at hs

end Silent

end Reads

/-! ## Keys of branching blocks -/

namespace Entries

/-- The keys of mappings that are put together are keys of one of them. -/
theorem key_mem_merge {es more : Entries} {e : Value × Value} (h : e ∈ es.merge more) :
    (∃ e' ∈ es, e.1 = e'.1) ∨ ∃ e' ∈ more, e.1 = e'.1 := by
  have hall : ∀ e ∈ es.merge more, (∃ e' ∈ es, e.1 = e'.1) ∨ ∃ e' ∈ more, e.1 = e'.1 := by
    unfold merge
    refine List.foldlRecOn (motive := fun acc : Entries => ∀ e ∈ acc,
      (∃ e' ∈ es, e.1 = e'.1) ∨ ∃ e' ∈ more, e.1 = e'.1) more _ (fun e he => .inl ⟨e, he, rfl⟩)
      fun acc hacc f hf e he => ?_
    unfold insert at he
    split at he
    · obtain ⟨e', he', rfl⟩ := List.mem_map.1 he
      split <;> exact hacc e' he'
    · rcases List.mem_append.1 he with he | he
      · exact hacc e he
      · exact .inr ⟨f, hf, by rw [List.mem_singleton.1 he]⟩
  exact hall e h

end Entries

namespace Block

/-- The keys of a mapping are among some names. -/
def KeysAmong (names : List String) (es : Entries) : Prop :=
  ∀ e ∈ es, ∃ name ∈ names, e.1 = .str name

variable {names : List String} {es : Entries} {n : Node}

/-- Keys stay among the names when one of these is set. -/
theorem KeysAmong.set (h : KeysAmong names es) {name : String} (hname : name ∈ names) (v : Value) :
    KeysAmong names (es.set name v) := by
  intro e he
  rcases Entries.key_mem_set he with ⟨e', he', hkey⟩ | hkey
  · rw [hkey]
    exact h e' he'
  · exact ⟨name, hname, hkey⟩

theorem KeysAmong.setAny (h : KeysAmong names es) {name : String} (hname : name ∈ names)
    (items : List Value) : KeysAmong names (es.setAny name items) := by
  unfold Entries.setAny
  split
  · exact h
  · exact h.set hname _

/-- The keys of two mappings lie among the names when those of each do. -/
theorem KeysAmong.merge {more : Entries} (h : KeysAmong names es) (hmore : KeysAmong names more) :
    KeysAmong names (es.merge more) := by
  intro e he
  rcases Entries.key_mem_merge he with ⟨e', he', hkey⟩ | ⟨e', he', hkey⟩
  · rw [hkey]
    exact h e' he'
  · rw [hkey]
    exact hmore e' he'

/-- Flags have the keys of flags. -/
theorem AreFlags.keysAmong {flags : Entries} (h : AreFlags flags)
    (hnames : ∀ key ∈ blockFlags, key ∈ names) : KeysAmong names flags := by
  intro e he
  obtain ⟨key, hkey, hkeyed⟩ := h e he
  exact ⟨key, hnames key hkey, hkeyed⟩

/-- A branching block has the keys that a graph can hold. -/
theorem keysAmong_ifEntry (hflags : AreFlags n.flags) (whenTrue whenFalse : List Value) :
    KeysAmong Program.ifKeys (ifEntry n whenTrue whenFalse) := by
  have halias : KeysAmong Program.ifKeys (aliasOf n) := by
    intro e he
    unfold aliasOf Entries.field at he
    split at he
    · exact ⟨"alias", by decide, by rw [List.mem_singleton.1 he]⟩
    · cases he
  exact (((halias.merge (hflags.keysAmong (by decide))).set (by decide) _).set (by decide) _).setAny
    (by decide) _

/-- An entry for options has known keys only. -/
theorem keysAmong_chooseEntry {flags : Entries} (hflags : AreFlags flags)
    (options otherwise : List Value) :
    KeysAmong Program.chooseKeys (chooseEntry flags options otherwise) := by
  have hnone : KeysAmong Program.chooseKeys [] := nofun
  exact ((hnone.merge (hflags.keysAmong (by decide))).set (by decide) _).setAny (by decide) _

end Block

namespace Program

open Reads Block

variable {limits : Limits}

/-- Nothing is told of a mapping with known keys only. -/
theorem silent_noteExtraKeys {known : List String} {es : Entries} (h : KeysAmong known es)
    (place : Place) : Silent (noteExtraKeys es known place) := by
  refine .note (List.map_eq_nil_iff.2 (List.filter_eq_nil_iff.2 fun e he => ?_))
  obtain ⟨name, hname, hkey⟩ := h e he
  have hany : known.any (e.1.isText ·) = true :=
    List.any_eq_true.2 ⟨name, hname, by rw [hkey]; exact Value.isText_iff.2 rfl⟩
  rw [hany]
  decide

theorem silent_create (kind : NodeKind) (data : Entries) (label : Value) (flags : Entries) :
    Silent (create limits kind data label flags) := by
  intro s
  unfold create
  simp only [proceed_bind, proceed_get, proceed_ite]
  split <;> rfl

theorem silent_checkBudget (began options : Nat) (place : Place) :
    Silent (checkBudget limits began options place) := by
  refine .bind .get fun s => ?_
  dsimp only
  split
  · exact .lift _
  · exact .pure _

section Inner

variable {inner : Inner} {es : Entries} {place : Place}

/-- A condition block with known keys is read in silence when its branches are. -/
theorem silent_readIf (hkeys : KeysAmong ifKeys es)
    (hthen : Silent (inner (es.get "then") (place.field "then")))
    (helse : Silent (inner (es.get "else") (place.field "else"))) :
    Silent (readIf limits inner es place) :=
  .bind (silent_noteExtraKeys hkeys place) fun _ => .bind (.lift _) fun _ =>
    .bind (silent_create _ _ _ _) fun _ => .bind hthen fun _ => .bind helse fun _ => .pure _

/-- An option is read in silence when its body is. -/
theorem silent_readOption {flags : Entries}
    (hbody : Silent (inner (es.get "sequence") (place.field "sequence"))) :
    Silent (readOption limits inner flags (.ofEntries es) place) := by
  have hrest : Silent (do
      let data ← Reads.lift (Condition.payload limits (es.get "conditions"))
      let node ← create limits .condition data (es.get "alias") flags
      return (node, ← inner (es.get "sequence") (place.field "sequence")) :
        Reads (Node × List Block)) :=
    .bind (.lift _) fun _ => .bind (silent_create _ _ _ _) fun _ => .bind hbody fun _ => .pure _
  unfold readOption
  show Silent (if !es.has "conditions" then _ else _)
  split
  · exact .bind (.lift _) fun _ => hrest
  · exact hrest

theorem silent_readChoose (hkeys : KeysAmong chooseKeys es)
    (hoptions : ∀ option ∈ entriesOf (es.get "choose"), ∀ flags place,
      Silent (readOption limits inner flags option place))
    (hdefault : Silent (inner (es.get "default") (place.field "default"))) :
    Silent (readChoose limits inner es place) := by
  refine .bind (silent_noteExtraKeys hkeys place) fun _ => .bind .get fun began => ?_
  refine .bind (.mapM fun option hoption => ?_) fun _ => ?_
  · exact .bind (hoptions _ (List.fst_mem_of_mem_zipIdx hoption) _ _) fun _ =>
      .bind (silent_checkBudget _ _ _) fun _ => .pure _
  · exact .bind hdefault fun _ => .bind (silent_checkBudget _ _ _) fun _ => .pure _

end Inner

/-! ## Written entries -/

/-- A branch of a choice that can be told from what it is written as can be told so, too. -/
theorem shaped_of_branch {options : List (Node × List Block)} {otherwise branch : List Block}
    (h : Shaped (.choice options otherwise))
    (hbranch : branch ∈ (Block.choice options otherwise).branches) : ListShaped branch := by
  obtain ⟨-, hoptions, hotherwise⟩ := h
  rcases List.mem_append.1 hbranch with hbranch | hbranch
  · obtain ⟨o, ho, rfl⟩ := List.mem_map.1 hbranch
    exact (optionsShaped_iff.1 hoptions o ho).2
  · exact List.mem_singleton.1 hbranch ▸ hotherwise

variable {g : Graph}

section Written

variable (hg : g.Apparent) (hmodern : ∀ n ∈ g.nodes, n.kind.isTrigger = false →
  n.kind.isCondition = false → Entry.IsModernStep n.kind n.data)

include hg hmodern

theorem silent_step {n : Node} (hn : n ∈ g.nodes) (htrigger : n.kind.isTrigger = false)
    (inner? : Option Inner) (place : Place) :
    Silent (readEntry limits inner? (.ofEntries n.data) place) := by
  have hexpose : (Value.ofEntries n.data).expose = .map {} n.data := rfl
  have hkind := kind_data hg.toTold hn htrigger
  unfold readEntry
  rw [hexpose]
  dsimp only
  rw [hkind]
  cases hcondition : n.kind.isCondition with
  | true => exact .bind (.lift _) fun _ => .bind (silent_create _ _ _ _) fun _ => .pure _
  | false =>
    have hnone := (Entry.modernStep_apart (hmodern n hn htrigger hcondition) place).2
    refine .lift_bind fun renewed hrenewed => ?_
    obtain ⟨-, rfl⟩ := Entry.renewStep_eq_ok_iff.1 hrenewed
    exact .bind (.note hnone) fun _ => .bind (silent_create _ _ _ _) fun _ => .pure _

omit hmodern in
/-- The entry of a choice is read in silence when its branches are. -/
theorem silent_choice {options : List (Node × List Block)} {otherwise : List Block}
    (hshaped : Shaped (.choice options otherwise))
    (hnodes : Inside g (Block.nodes (.choice options otherwise))) {inner : Inner}
    (hinner : ∀ branch ∈ (Block.choice options otherwise).branches, ∀ v place,
      entriesOf v = listValues branch → Silent (inner v place)) (place : Place) :
    Silent (readEntry limits (some inner)
      (.ofEntries (toEntries (.choice options otherwise))) place) := by
  have hotherwise := hinner otherwise (List.mem_append_right _ (List.mem_singleton.2 rfl))
  have hbodies : ∀ o ∈ options, ∀ v place, entriesOf v = listValues o.2 → Silent (inner v place) :=
    fun o ho => hinner o.2 (List.mem_append_left _ (List.mem_map_of_mem ho))
  -- one option is read as an if block, several as a choose block, with known keys only
  rcases toEntries_choice hg.toTold hshaped hnodes with
    ⟨hkind, n, body, rfl⟩ | ⟨hkind, o, rest, -, ho, hcondition, htext⟩
  · obtain ⟨hn, -⟩ := hnodes n List.mem_cons_self
    have hflags := hg.flags n hn hshaped.2.1.1
    rw [readEntry_ifBlock hkind, toEntries_choice_singleton]
    refine silent_readIf (keysAmong_ifEntry hflags _ _) (hbodies _ List.mem_cons_self _ _ ?_)
      (hotherwise _ _ (entriesOf_get_ifEntry_else (hflags.has_eq_false (by decide))))
    rw [Entries.get, get?_ifEntry_then]
    rfl
  · have hflags := hg.flags o.1 ho hcondition
    rw [readEntry_chooseBlock hkind, htext]
    refine silent_readChoose (keysAmong_chooseEntry hflags _ _)
      (fun option hoption flags place => ?_)
      (hotherwise _ _ (entriesOf_get_chooseEntry_default (hflags.has_eq_false (by decide))))
    rw [Entries.get, get?_chooseEntry_choose] at hoption
    obtain ⟨o', ho', rfl⟩ := List.mem_map.1 hoption
    refine silent_readOption (hbodies o' ho' _ _ ?_)
    rw [Entries.get, get?_optionEntry (by decide)]
    rfl

omit hmodern in
/-- Where no level is left, a choice is refused in silence. -/
theorem silent_choice_of_none {options : List (Node × List Block)} {otherwise : List Block}
    (hshaped : Shaped (.choice options otherwise))
    (hnodes : Inside g (Block.nodes (.choice options otherwise))) (place : Place) :
    Silent (readEntry limits none (.ofEntries (toEntries (.choice options otherwise))) place) := by
  have hexpose (es : Entries) : (Value.ofEntries es).expose = .map {} es := rfl
  unfold readEntry
  rw [hexpose]
  dsimp only
  rcases toEntries_choice hg.toTold hshaped hnodes with ⟨hkind, -⟩ | ⟨hkind, -⟩ <;> rw [hkind] <;>
    exact .lift _

/-- Entries are read in silence, one after the other, when choices are. -/
theorem silent_readEach {inner? : Option Inner}
    (hchoice : ∀ options otherwise, Shaped (.choice options otherwise) →
      Inside g (Block.nodes (.choice options otherwise)) → ∀ place,
        Silent (readEntry limits inner? (.ofEntries (toEntries (.choice options otherwise))) place))
    {bs : List Block} (hshaped : ListShaped bs) (hnodes : Inside g (listNodes bs)) {v : Value}
    (place : Place) (hv : entriesOf v = listValues bs) :
    Silent (readEach inner? limits v place) := by
  -- each entry is that of a block, wherever it stands
  have hall : ∀ b ∈ bs, ∀ place,
      Silent (readEntry limits inner? (.ofEntries b.toEntries) place) := by
    clear hv
    induction bs with
    | nil => exact nofun
    | cons b bs ih =>
      obtain ⟨hfirst, hrest⟩ := Inside.of_append hnodes
      refine List.forall_mem_cons.2 ⟨fun place => ?_, ih hshaped.2 hrest⟩
      cases b with
      | step n =>
        obtain ⟨hn, htrigger⟩ := hfirst n (List.mem_singleton.2 rfl)
        exact silent_step hg hmodern hn htrigger inner? place
      | choice options otherwise => exact hchoice options otherwise hshaped.1 hfirst place
  unfold readEach
  rw [hv, listValues_eq_map]
  refine .mapM fun entry hentry => ?_
  obtain ⟨b, hb, heq⟩ := List.mem_map.1 (List.fst_mem_of_mem_zipIdx hentry)
  rw [← heq]
  exact hall b hb _

/-- The entries of blocks are read in silence, however many levels are left. -/
theorem silent_readList {bs : List Block} (hshaped : ListShaped bs)
    (hnodes : Inside g (listNodes bs)) (levels : Nat) {v : Value} (place : Place) (hv : entriesOf v = listValues bs) :
    Silent (readList limits levels v place) := by
  induction levels generalizing bs v place with
  | zero =>
    exact silent_readEach hg hmodern (fun _ _ => silent_choice_of_none hg) hshaped hnodes place hv
  | succ levels ih =>
    refine silent_readEach hg hmodern (fun options otherwise hshaped hnodes => ?_) hshaped hnodes
      place hv
    refine silent_choice hg hshaped hnodes fun branch hbranch v place hv => ?_
    refine ih (shaped_of_branch hshaped hbranch) (fun n hn => ?_) place hv
    exact hnodes n (mem_nodes_of_branch hbranch hn)

/-- The sections that a program is written as are read in silence. -/
theorem silent_read {p : Program} (hp : g.Programmed p) {actions : List Entries}
    (hactions : p.actions = actions.map .ofEntries) (triggers : List Entries)
    (conditions : List Value) :
    Silent (read limits triggers conditions actions) :=
  .bind (.mapM fun _ _ => silent_create _ _ _ _) fun _ =>
    .bind (.mapM fun _ _ => .bind (.lift _) fun _ => silent_create _ _ _ _) fun _ =>
      .bind (silent_readList hg hmodern hp.shaped hp.inside _ _ hactions.symm) fun _ => .pure _

end Written

end Program

end Automation
