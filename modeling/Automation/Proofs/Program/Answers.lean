import Automation.Proofs.Dispatch.Refusing
import Automation.Proofs.Program.Positions
import Automation.Proofs.Topology.Levels

/-!
# Programs without faults

The program of a graph that keeps the invariants is found, or goes over the limit on levels
(`Graph.answers_program`): every walk that writes it stays among the nodes of the graph. The
sections of a document that can be written are read, or refused, and what there is to say about the
nodes that are read out of them can be told, when it can be told of the triggers and there is an end
to each step (`Program.answering_read`).
-/

namespace Automation

open Outcome Block

/-! ## Programs of graphs -/

namespace Graph

variable {g : Graph} {limits : Limits} {r : TopologyReport}

/-- A node is found under each id of the graph. -/
theorem exists_nodeAt {id : String} (hid : id ∈ g.nodes.map (·.id)) :
    ∃ n ∈ g.nodes, g.nodeAt id = .ok n := by
  obtain ⟨n, hn, rfl⟩ := List.mem_map.1 hid
  have hsome : (g.lastNode? n.id).isSome = true :=
    List.find?_isSome.2 ⟨n, List.mem_reverse.2 hn, beq_self_eq_true _⟩
  obtain ⟨m, hm⟩ := Option.isSome_iff_exists.1 hsome
  exact ⟨m, (mem_of_lastNode?_eq_some hm).1, by rw [nodeAt, hm]; rfl⟩

/-- The gates at the start are found, and behind them lies a node or nothing. -/
theorem WellFormed.exists_leadingGates (hwf : g.WellFormed) (steps : Nat) {start : Option String}
    (hstart : ∀ id ∈ start, id ∈ g.nodes.map (·.id)) :
    ∃ gates next, g.leadingGates steps start = .ok (gates, next) ∧ (∀ n ∈ gates, n ∈ g.nodes)
      ∧ ∀ id ∈ next, id ∈ g.nodes.map (·.id) := by
  induction steps generalizing start with
  | zero =>
    cases start with
    | none => exact ⟨[], none, rfl, List.forall_mem_nil _, hstart⟩
    | some id => exact ⟨[], some id, rfl, List.forall_mem_nil _, hstart⟩
  | succ steps ih =>
    cases start with
    | none => exact ⟨[], none, rfl, List.forall_mem_nil _, hstart⟩
    | some id =>
      obtain ⟨n, hmem, hn⟩ := exists_nodeAt (hstart id rfl)
      rw [leadingGates, hn, Outcome.ok_bind]
      split
      · obtain ⟨gates, next, hgates, hmore, hnext⟩ := @ih (g.whenTrue? id) fun _ => hwf.mem_of_branch?
        exact ⟨n :: gates, next, by rw [hgates]; rfl, List.forall_mem_cons.2 ⟨hmem, hmore⟩, hnext⟩
      · exact ⟨[], some id, rfl, List.forall_mem_nil _, hstart⟩

/-- The walk through the options of a block comes to an end: each step finds a node. -/
theorem WellFormed.exists_furtherOptions (hwf : g.WellFormed) (r : TopologyReport)
    (join : Option String) (steps : Nat) (id : String) :
    ∃ more, g.furtherOptions r join steps id = .ok more ∧ ∀ n ∈ more, n ∈ g.nodes := by
  induction steps generalizing id with
  | zero => exact ⟨[], rfl, List.forall_mem_nil _⟩
  | succ steps ih =>
    rw [furtherOptions]
    split
    · exact ⟨[], rfl, List.forall_mem_nil _⟩
    · rename_i target htarget
      split
      · exact ⟨[], rfl, List.forall_mem_nil _⟩
      · obtain ⟨n, hmem, hn⟩ := exists_nodeAt (hwf.mem_of_branch? htarget)
        obtain ⟨more, hmore, hall⟩ := ih target
        rw [hn, Outcome.ok_bind]
        split
        · exact ⟨n :: more, by rw [hmore]; rfl, List.forall_mem_cons.2 ⟨hmem, hall⟩⟩
        · exact ⟨[], rfl, List.forall_mem_nil _⟩

/-- The walk stays among the nodes. -/
theorem WellFormed.mem_of_behind? (hwf : g.WellFormed) (hr : r.Within g) {n : Node} :
    ∀ id ∈ g.behind? r n, id ∈ g.nodes.map (·.id) := by
  rw [behind?]
  split
  · exact fun id => hwf.mem_of_successor?
  · split
    · exact fun id => hwf.mem_of_branch?
    · exact hr.join n.id

/-- The choice of a condition is found, or is too many levels deep, when walks with fewer steps are. -/
theorem answers_lowerChoice (hwf : g.WellFormed) {steps levels : Nat}
    (hwalks : ∀ {levels : Nat} {stop current : Option String},
      (∀ id ∈ current, id ∈ g.nodes.map (·.id)) →
      Answers (fun bs => ∀ n ∈ listNodes bs, n ∈ g.nodes)
        (g.lowerFrom limits r stop steps levels current))
    {n : Node} (hn : n ∈ g.nodes) :
    Answers (fun b => ∀ m ∈ b.nodes, m ∈ g.nodes) (g.lowerChoice limits r steps levels n) := by
  -- a branch is walked on one level further down, unless there is none left
  have hbranch (target : Option String) (htarget : ∀ id ∈ target, id ∈ g.nodes.map (·.id)) :
      Answers (fun bs => ∀ n ∈ listNodes bs, n ∈ g.nodes)
        (g.lowerBranch limits r (r.join? n.id) steps levels target) := by
    cases target with
    | none => exact .ok (List.forall_mem_nil _)
    | some target =>
      cases levels with
      | zero => exact .tooLarge _
      | succ levels => exact hwalks htarget
  obtain ⟨more, hmore, hall⟩ := hwf.exists_furtherOptions r (r.join? n.id) steps n.id
  have hchain : ∀ m ∈ n :: more, m ∈ g.nodes := List.forall_mem_cons.2 ⟨hn, hall⟩
  have hoptions : Answers
      (fun options => ∀ o ∈ options, ∀ m, m = o.1 ∨ m ∈ listNodes o.2 → m ∈ g.nodes)
      (g.lowerOptions limits r (r.join? n.id) steps levels (n :: more)) :=
    .mapM fun m hm => (hbranch (g.whenTrue? m.id) fun _ => hwf.mem_of_branch?).bind
      fun body hbody => .ok fun k hk => hk.elim (fun h => h ▸ hchain m hm) (hbody k)
  rw [lowerChoice, hmore, Outcome.ok_bind]
  refine hoptions.bind fun options hoptions => (hbranch _ fun target htarget => ?_).bind
    fun otherwise hotherwise => .ok (List.forall_mem_append.2 ⟨fun m hm => ?_, hotherwise⟩)
  · obtain ⟨last, -, htarget⟩ := Option.bind_eq_some_iff.1 htarget
    exact hwf.mem_of_branch? htarget
  · obtain ⟨o, ho, hm⟩ := mem_optionNodes.1 hm
    exact hoptions o ho m hm

/-- The blocks from a node on are found, or are too many levels deep. -/
theorem answers_lowerFrom (hwf : g.WellFormed) (hr : r.Within g) {steps levels : Nat}
    {stop current : Option String} (hcurrent : ∀ id ∈ current, id ∈ g.nodes.map (·.id)) :
    Answers (fun bs => ∀ n ∈ listNodes bs, n ∈ g.nodes)
      (g.lowerFrom limits r stop steps levels current) := by
  induction steps generalizing levels stop current with
  | zero => exact .ok (List.forall_mem_nil _)
  | succ steps ih =>
    cases current with
    | none => exact .ok (List.forall_mem_nil _)
    | some id =>
      by_cases hstop : stop = some id
      · rw [← hstop, lowerFrom_stop]
        exact .ok (List.forall_mem_nil _)
      obtain ⟨n, hmem, hn⟩ := exists_nodeAt (hcurrent id rfl)
      -- a node is lowered to a block of nodes of the graph, or its branches are too deep
      have hblock : Answers (fun b => ∀ m ∈ b.nodes, m ∈ g.nodes)
          (g.lowerNode limits r steps levels n) := by
        rw [lowerNode]
        split
        · exact answers_lowerChoice hwf ih hmem
        · exact .ok (List.forall_mem_singleton.2 hmem)
      rw [lowerFrom_succ hstop, hn, Outcome.ok_bind]
      exact hblock.bind fun b hb => (ih (hwf.mem_of_behind? hr)).bind
        fun bs hbs => .ok (List.forall_mem_append.2 ⟨hb, hbs⟩)

/-- The program of a graph is found among its nodes, or is too many levels deep. -/
theorem answers_program (hwf : g.WellFormed) (hr : r.Within g) :
    Answers (fun p => ∀ n ∈ p.nodes, n ∈ g.nodes) (g.program limits r) := by
  obtain ⟨gates, next, hgates, hmem, hnext⟩ := hwf.exists_leadingGates g.stepBound hr.entry
  unfold program
  rw [hgates, Outcome.ok_bind]
  dsimp only
  split
  · have hlarge : Answers (fun _ : PUnit => False)
        (Outcome.tooLarge (.branchDepth limits.maxNesting)) := .tooLarge _
    exact hlarge.bind fun _ h => h.elim
  · refine (answers_lowerFrom hwf hr hnext).bind fun body hbody => .ok ?_
    exact List.forall_mem_append.2
      ⟨List.forall_mem_append.2 ⟨fun n hn => (List.mem_filter.1 hn).1, hmem⟩, hbody⟩

end Graph

/-! ## Readings -/

/-- A node of a list is one of a block in it. -/
theorem Block.exists_of_mem_listNodes {n : Node} {bs : List Block} (hn : n ∈ listNodes bs) :
    ∃ b ∈ bs, n ∈ b.nodes := by
  induction bs with
  | nil => cases hn
  | cons b bs ih =>
    rcases List.mem_append.1 hn with hn | hn
    · exact ⟨b, List.mem_cons_self, hn⟩
    · obtain ⟨b', hb', hn⟩ := ih hn
      exact ⟨b', List.mem_cons_of_mem _ hb', hn⟩

namespace Reads

variable {α β : Type} {good : α → Prop} {good' : β → Prop}

/-- A reading that comes to a good result or to a refusal, wherever it goes on from. -/
structure Answering (good : α → Prop) (r : Reads α) : Prop where
  answers : ∀ s, Answers good (proceed r s).1

namespace Answering

theorem pure {a : α} (h : good a) : Answering good (pure a : Reads α) := ⟨fun _ => .ok h⟩

theorem lift {o : Outcome α} (h : Answers good o) : Answering good (lift o) := ⟨fun _ => h⟩

theorem get : Answering (fun _ => True) (get : Reads Intake) := ⟨fun _ => .ok trivial⟩

/-- A reader that answers, and readers that answer whatever it gives, answer in turn. -/
theorem bind {r : Reads α} {f : α → Reads β} (h : Answering good r)
    (hf : ∀ a, good a → Answering good' (f a)) : Answering good' (r >>= f) := by
  constructor
  intro s
  have hr := h.answers s
  rw [proceed_bind]
  generalize proceed r s = x at hr ⊢
  obtain ⟨o, t⟩ := x
  cases hr with
  | ok ha => exact (hf _ ha).answers t
  | refused r => exact .refused r

/-- What is good is good enough. -/
theorem mono {better : α → Prop} {r : Reads α} (h : Answering good r)
    (hgood : ∀ a, good a → better a) : Answering better r := ⟨fun s => (h.answers s).mono hgood⟩

/-- Readings one behind the other can be put together from the front. -/
theorem of_bind_assoc {γ : Type} {r : Reads α} {f : α → Reads β} {k : β → Reads γ}
    {good : γ → Prop} (h : Answering good ((r >>= f) >>= k)) :
    Answering good (r >>= fun a => f a >>= k) := by
  rwa [bind_assoc] at h

/-- Nothing is read behind a refusal. -/
theorem refused {o : Outcome α} {f : α → Reads β} (h : Answers (fun _ => False) o) :
    Answering good' (Reads.lift o >>= f) := (lift h).bind fun _ h => h.elim

/-- Notices that can be written are taken down. -/
theorem note {notices : List Notice} (h : Notice.check notices = .ok ()) :
    Answering (fun _ => True) (note notices) := by
  constructor
  intro s
  rw [proceed_note h]
  exact .ok trivial

theorem malformed (problem : DocumentProblem) : Answering good (malformed problem : Reads α) :=
  lift (.malformed (List.forall_mem_nil _))

/-- Reading each of some values is answered when reading each one is. -/
theorem mapM {f : β → Reads α} {xs : List β} (h : ∀ x ∈ xs, Answering good (f x)) :
    Answering (fun as : List α => ∀ a ∈ as, good a) (xs.mapM f) := by
  induction xs with
  | nil => exact pure (List.forall_mem_nil _)
  | cons x xs ih =>
    obtain ⟨hx, hxs⟩ := List.forall_mem_cons.1 h
    rw [List.mapM_cons]
    exact hx.bind fun _ ha => (ih hxs).bind fun _ has => pure (List.forall_mem_cons.2 ⟨ha, has⟩)

end Answering

end Reads

namespace Program

open Reads

variable {limits : Limits}

/-- The nodes of what was read are of known kinds, and what there is to say about them can be
told. -/
abbrev Sound (limits : Limits) (nodes : List Node) : Prop := ∀ n ∈ nodes, Dispatch.IsSound limits n

/-- An option that was read. -/
abbrev SoundOption (limits : Limits) (o : Node × List Block) : Prop :=
  Dispatch.IsSound limits o.1 ∧ Sound limits (listNodes o.2)

variable (limits) in
/-- A node is created, or there are too many of them. -/
theorem answering_create (kind : NodeKind) (data : Entries) (label : Value) (flags : Entries) :
    Answering (fun n => n.kind = kind ∧ n.data = data) (create limits kind data label flags) := by
  refine Answering.get.bind fun s _ => ?_
  split
  · exact .refused (.tooLarge _)
  · exact ⟨fun _ => .ok ⟨rfl, rfl⟩⟩

variable (limits) in
theorem answering_checkBudget (began options : Nat) (place : Place) :
    Answering (fun _ => True) (checkBudget limits began options place) := by
  refine Answering.get.bind fun s _ => ?_
  dsimp only
  split
  · exact .lift (.tooLarge _)
  · exact .pure trivial

/-- What stands beside the known keys is told of in a notice that can be written. -/
theorem answering_noteExtraKeys {es : Entries} (hes : es.HasText) (known : List String)
    (place : Place) : Answering (fun _ => True) (noteExtraKeys es known place) := by
  refine .note (Notice.check_of_forall fun notice hnotice v hv => ?_)
  obtain ⟨e, he, rfl⟩ := List.mem_map.1 hnotice
  rw [List.mem_singleton.1 hv]
  exact (hes e (List.mem_filter.1 he).1).1

/-- A node for conditions that can be written is created, or it is told what is wrong with them. -/
theorem answering_condition {v : Value} (hv : v.hasText = true) (label : Value) (flags : Entries) :
    Answering (Dispatch.IsSound limits) (do
      let data ← lift (Condition.payload limits v)
      create limits .condition data label flags) := by
  refine (Answering.lift (Condition.decides_payload hv).answers).bind fun data hdata => ?_
  refine (answering_create ..).mono fun n hn => ⟨by rw [hn.1]; rfl, ?_⟩
  exact isTold_of_payload hdata n hn.1 hn.2

/-- A gate is created, or it is told what is wrong with it. -/
theorem answering_gate {v : Value} (hv : v.hasText = true) :
    Answering (Dispatch.IsSound limits) (do
      let data ← lift (Condition.normalize limits v)
      create limits .condition data .null []) := by
  refine (Answering.lift (Condition.decides_normalize hv).self.answers).bind fun data hdata => ?_
  refine (answering_create ..).mono fun n hn => ⟨by rw [hn.1]; rfl, ?_⟩
  exact isTold_of_normalize hdata n hn.1 hn.2

/-- Lists of entries are read or refused, when they can be written and there is an end to each step
among them. -/
abbrev AnswersLists (limits : Limits) (inner : Inner) : Prop :=
  ∀ v place, v.hasText = true → ¬Entry.Holds Entry.isEndlessEntry (entriesOf v) →
    Answering (fun bs => Sound limits (listNodes bs)) (inner v place)

section Inner

variable {inner : Inner} {es : Entries} (hinner : AnswersLists limits inner)

include hinner

/-- A condition block is answered when no action in its branches is found inside itself. -/
theorem answering_readIf (hes : es.HasText)
    (hends : ∀ branch ∈ [entriesOf (es.get "then"), entriesOf (es.get "else")],
      ¬Entry.Holds Entry.isEndlessEntry branch) (place : Place) :
    Answering (fun b => Sound limits b.nodes) (readIf limits inner es place) := by
  have hthen := hends _ List.mem_cons_self
  have helse := hends _ (List.mem_cons_of_mem _ (List.mem_singleton.2 rfl))
  refine (answering_noteExtraKeys hes _ _).bind fun _ _ => ?_
  refine .of_bind_assoc ((answering_condition (hes.get "if") _ _).bind fun node hnode => ?_)
  refine (hinner _ _ (hes.get "then") hthen).bind fun whenTrue htrue => ?_
  refine (hinner _ _ (hes.get "else") helse).bind fun whenFalse hfalse => .pure ?_
  rw [Block.nodes, optionNodes, optionNodes, List.append_nil]
  exact List.forall_mem_append.2 ⟨List.forall_mem_cons.2 ⟨hnode, htrue⟩, hfalse⟩

/-- An option is answered when no action in it is found inside itself. -/
theorem answering_readOption (flags : Entries) {option : Value} (hoption : option.hasText = true)
    (hends : ¬Entry.Holds Entry.isEndlessEntry (Entry.optionEntries option)) (place : Place) :
    Answering (SoundOption limits) (readOption limits inner flags option place) := by
  unfold readOption
  unfold Entry.optionEntries at hends
  split
  · rename_i es hexpose
    rw [hexpose] at hends
    have hes := Value.hasText_of_expose_eq_map hoption hexpose
    split
    · exact .refused (.malformed (List.forall_mem_nil _))
    · refine .of_bind_assoc ((answering_condition (hes.get "conditions") _ _).bind
        fun node hnode => ?_)
      exact (hinner _ _ (hes.get "sequence") hends).bind fun body hbody => .pure ⟨hnode, hbody⟩
  · exact .malformed _

/-- A block of options is answered when no action in them, or behind them, is found inside
itself. -/
theorem answering_readChoose (hes : es.HasText)
    (hends : ∀ branch ∈ (entriesOf (es.get "choose")).map Entry.optionEntries
      ++ [entriesOf (es.get "default")], ¬Entry.Holds Entry.isEndlessEntry branch) (place : Place) :
    Answering (fun b => Sound limits b.nodes) (readChoose limits inner es place) := by
  obtain ⟨hoptions, hdefault⟩ := List.forall_mem_append.1 hends
  refine (answering_noteExtraKeys hes _ _).bind fun _ _ => Answering.get.bind fun s _ => ?_
  dsimp only
  refine (@Answering.mapM _ _ (SoundOption limits) _ _ fun option hoption => ?_).bind
    fun read hread => ?_
  · have hmem := List.fst_mem_of_mem_zipIdx hoption
    refine (answering_readOption hinner _ (hasText_of_mem_entriesOf (hes.get "choose") hmem)
      (hoptions _ (List.mem_map_of_mem hmem)) _).bind fun branch hbranch => ?_
    exact (answering_checkBudget ..).bind fun _ _ => .pure hbranch
  · refine (hinner _ _ (hes.get "default") (hdefault _ (List.mem_singleton.2 rfl))).bind fun otherwise hotherwise => ?_
    refine (answering_checkBudget ..).bind fun _ _ => .pure ?_
    refine List.forall_mem_append.2 ⟨fun n hn => ?_, hotherwise⟩
    obtain ⟨o, ho, rfl | hn⟩ := mem_optionNodes.1 hn
    · exact (hread o ho).1
    · exact (hread o ho).2 n hn

end Inner

section Entry

variable {inner? : Option Inner} (hinner : ∀ inner ∈ inner?, AnswersLists limits inner)

include hinner

theorem answering_readEntry {entry : Value} (hentry : entry.hasText = true)
    (hends : ∀ o es, entry.expose = .map o es → Entry.isEndlessEntry es = false
      ∧ ∀ branch ∈ Entry.branches es, ¬Entry.Holds Entry.isEndlessEntry branch) (place : Place) :
    Answering (fun b => Sound limits b.nodes) (readEntry limits inner? entry place) := by
  unfold readEntry
  split
  · rename_i es hexpose
    have hes := Value.hasText_of_expose_eq_map hentry hexpose
    obtain ⟨hstep, hbranches⟩ := hends _ es hexpose
    unfold Entry.isEndlessEntry at hstep
    unfold Entry.branches at hbranches
    dsimp only
    split
    · rename_i hkind
      rw [hkind] at hbranches
      cases inner? with
      | none => exact .lift (.tooLarge _)
      | some inner => exact answering_readIf (hinner inner rfl) hes hbranches place
    · rename_i hkind
      rw [hkind] at hbranches
      cases inner? with
      | none => exact .lift (.tooLarge _)
      | some inner => exact answering_readChoose (hinner inner rfl) hes hbranches place
    · exact .of_bind_assoc ((answering_gate hentry).bind fun node hnode =>
        .pure (List.forall_mem_singleton.2 hnode))
    · rename_i kind hkind
      rw [hkind] at hstep
      -- a step with an end is renewed, so that it has present names and nothing is left to go wrong
      rw [Entry.renewStep_eq_ok_iff.2 ⟨by rwa [Entry.isEndlessStep_apart], rfl⟩]
      refine (Answering.lift (.ok rfl)).bind fun renewed hrenewed => ?_
      cases hrenewed
      refine (Answering.note (Entry.check_modernStep ..)).bind fun _ _ =>
        (answering_create ..).bind fun node hnode => .pure (List.forall_mem_singleton.2 ?_)
      refine Dispatch.isSound_of_kind hkind node hnode.1 ?_
      rw [hnode.2]
      exact Entry.hasText_modernStep (Entry.hasText_apart hes)
  · exact .malformed _

/-- Entries are answered one by one. -/
theorem answering_readEach {entries : Value} (hentries : entries.hasText = true)
    (hends : ¬Entry.Holds Entry.isEndlessEntry (entriesOf entries)) (place : Place) :
    Answering (fun bs => Sound limits (listNodes bs)) (readEach inner? limits entries place) := by
  have hentry (entry : Value) (hmem : entry ∈ entriesOf entries) (place : Place) :
      Answering (fun b => Sound limits b.nodes) (readEntry limits inner? entry place) := by
    refine answering_readEntry hinner (hasText_of_mem_entriesOf hentries hmem)
      (fun o es hexpose => ⟨?_, fun branch hbranch hholds => ?_⟩) place
    · rw [Bool.eq_false_iff]
      exact fun hstep => hends (.of_mem hmem hexpose (.inl hstep))
    · exact hends (.of_mem hmem hexpose (.inr ⟨branch, hbranch, hholds⟩))
  refine (Answering.mapM fun entry hmem =>
    hentry entry.1 (List.fst_mem_of_mem_zipIdx hmem) _).mono fun bs hbs n hn => ?_
  obtain ⟨b, hb, hn⟩ := exists_of_mem_listNodes hn
  exact hbs b hb n hn

end Entry

/-- Reading a list answers. Induction on the levels that may still be entered. -/
theorem answering_readList (levels : Nat) : AnswersLists limits (readList limits levels) := by
  induction levels with
  | zero => exact fun v place hv hends => answering_readEach (fun _ h => by cases h) hv hends place
  | succ levels ih =>
    refine fun v place hv hends => answering_readEach (fun inner hinner => ?_) hv hends place
    cases hinner
    exact ih

/-- Sections that can be written are read, or it is told why they are not. What there is to say
about their nodes can be told when it can be of the triggers and there is an end to each step. -/
theorem answering_read {triggers : List Entries} {conditions : List Value} {actions : List Entries}
    (htriggers : ∀ es ∈ triggers, ∀ n : Node, n.kind = .trigger → n.data = es → n.IsTold limits)
    (hconditions : ∀ v ∈ conditions, v.hasText = true)
    (hactions : ∀ es ∈ actions, Entries.HasText es)
    (hends : ¬Entry.Holds Entry.isEndlessEntry (actions.map .ofEntries)) :
    Answering (fun p => Sound limits p.nodes) (read limits triggers conditions actions) := by
  have hentries : (Value.ofItems (actions.map .ofEntries)).hasText = true := by
    rw [Value.hasText_ofItems, List.forall_mem_map]
    exact fun es hes => Value.hasText_ofEntries.2 (hactions es hes)
  have hstarts : Answering (Sound limits)
      (triggers.mapM fun data => create limits .trigger data .null []) :=
    .mapM fun data hdata => (answering_create ..).mono fun n hn =>
      ⟨by rw [hn.1]; rfl, htriggers data hdata n hn.1 hn.2⟩
  refine hstarts.bind fun starts hstarts => ?_
  refine (Answering.mapM fun v hv => answering_gate (hconditions v hv)).bind fun gates hgates => ?_
  exact (answering_readList _ _ _ hentries hends).bind fun body hbody =>
    .pure (List.forall_mem_append.2 ⟨List.forall_mem_append.2 ⟨hstarts, hgates⟩, hbody⟩)

end Program

end Automation
