import Automation.Program.Entries
import Automation.Program.Reading
import Automation.Proofs.Record.Reading
import Automation.Proofs.Value.Same
import Mathlib.Data.List.Nodup

/-!
# The fields of block entries

What stands in the entry of a block: each field is found under its name, the name of the block is
the label of its node, and the flags are those of the node (`Block.flagsOf_ifEntry`), which a reader
gives back in an order of its own (`Entry.perm_flagsOf`).
-/

namespace Automation

/-- A name that does not count and no name are written alike. -/
theorem Value.ifTruthy_getD_ifTruthy (v : Value) :
    (v.ifTruthy.getD .null).ifTruthy = v.ifTruthy := by
  unfold Value.ifTruthy
  split
  · rename_i htruthy
    exact if_pos htruthy
  · rfl

namespace Block

/-! ## The fields of an if block -/

variable {n : Node} {whenTrue whenFalse : List Value}

theorem get?_ifEntry_if :
    Entries.get? (ifEntry n whenTrue whenFalse) "if" = some (conditionsOf n) := by
  unfold ifEntry Entries.setAny
  split
  · rw [Entries.get?_set_of_ne (by decide), Entries.get?_set_self]
  · rw [Entries.get?_set_of_ne (by decide), Entries.get?_set_of_ne (by decide),
      Entries.get?_set_self]

theorem get?_ifEntry_then :
    Entries.get? (ifEntry n whenTrue whenFalse) "then" = some (.ofItems whenTrue) := by
  unfold ifEntry Entries.setAny
  split
  · rw [Entries.get?_set_self]
  · rw [Entries.get?_set_of_ne (by decide), Entries.get?_set_self]

/-- What is run otherwise is written only if there is something to run. -/
theorem get?_ifEntry_else (h : whenFalse ≠ []) :
    Entries.get? (ifEntry n whenTrue whenFalse) "else" = some (.ofItems whenFalse) := by
  unfold ifEntry Entries.setAny
  rw [if_neg (by simpa using h), Entries.get?_set_self]

/-- Any other field of the block is one of its flags or the name. -/
theorem get?_ifEntry_of_ne {name : String} (hif : "if" ≠ name) (hthen : "then" ≠ name)
    (helse : "else" ≠ name) :
    Entries.get? (ifEntry n whenTrue whenFalse) name
      = Entries.get? ((aliasOf n).merge n.flags) name := by
  unfold ifEntry Entries.setAny
  split
  · rw [Entries.get?_set_of_ne hthen, Entries.get?_set_of_ne hif]
  · rw [Entries.get?_set_of_ne helse, Entries.get?_set_of_ne hthen, Entries.get?_set_of_ne hif]

/-- The name of a block is its only field besides the flags. -/
theorem get?_aliasOf_of_ne {name : String} (h : "alias" ≠ name) :
    Entries.get? (aliasOf n) name = none := by
  unfold aliasOf Entries.field
  split
  · simp [h]
  · rfl

/-- A flag of the block is one of the node. -/
theorem get?_merge_flags (hflags : n.flags.Distinct) {name : String} (h : "alias" ≠ name) :
    Entries.get? ((aliasOf n).merge n.flags) name = Entries.get? n.flags name := by
  cases hhas : Entries.has n.flags name with
  | true => exact Entries.get?_merge_of_has hflags hhas
  | false =>
    rw [Entries.get?_merge_of_not_has hhas, get?_aliasOf_of_ne h,
      Entries.get?_eq_none_iff.2 hhas]

/-- The entry for a condition is enabled as its node is. -/
theorem get_ifEntry_enabled (hflags : n.flags.Distinct) :
    Entries.get (ifEntry n whenTrue whenFalse) "enabled" = n.flags.get "enabled" := by
  unfold Entries.get
  rw [get?_ifEntry_of_ne (by decide) (by decide) (by decide), get?_merge_flags hflags (by decide)]

/-- A label that counts, or none. -/
def IsLabel (v : Value) : Prop := v = .null ∨ ∃ s, s ≠ "" ∧ v = .str s

/-- Flags under the keys that blocks have for them. -/
def AreFlags (flags : Entries) : Prop := ∀ e ∈ flags, ∃ key ∈ blockFlags, e.1 = .str key

/-- Flags have no other fields. -/
theorem AreFlags.has_eq_false {flags : Entries} (h : AreFlags flags) {name : String}
    (hname : name ∉ blockFlags) : flags.has name = false := by
  simp only [Entries.has, List.any_eq_false]
  intro e he
  obtain ⟨key, hkey, heq⟩ := h e he
  rw [heq, Value.isText_str, beq_iff_eq]
  rintro rfl
  exact hname hkey

/-- Flags that have each key once are a mapping from texts. -/
theorem AreFlags.keyed {flags : Entries} (h : AreFlags flags) (hdistinct : flags.Distinct) :
    flags.Keyed := by
  refine ⟨fun e he => ?_, hdistinct⟩
  obtain ⟨key, -, heq⟩ := h e he
  rw [heq]
  rfl

/-- The name of a node is its label, if that counts. -/
theorem get_aliasOf (n : Node) : Entries.get (aliasOf n) "alias" = n.label.ifTruthy.getD .null := by
  unfold aliasOf
  cases n.label.ifTruthy <;> rfl

/-- A label is null or counts as true. -/
theorem IsLabel.getD_ifTruthy {v : Value} (h : IsLabel v) : v.ifTruthy.getD .null = v := by
  rcases h with rfl | ⟨s, hs, rfl⟩
  · rfl
  · simp [Value.ifTruthy, Value.truthy, hs]

/-- The entry for a condition has the label of its node. -/
theorem get_ifEntry_alias (hflags : n.flags.has "alias" = false) :
    Entries.get (ifEntry n whenTrue whenFalse) "alias" = n.label.ifTruthy.getD .null := by
  rw [← get_aliasOf]
  unfold Entries.get
  rw [get?_ifEntry_of_ne (by decide) (by decide) (by decide), Entries.get?_merge_of_not_has hflags]

/-- The flags of a block are those of its node. -/
theorem flagsOf_ifEntry (hflags : n.flags.Distinct) :
    Entry.flagsOf (ifEntry n whenTrue whenFalse) = Entry.flagsOf n.flags := by
  have hkeys : ∀ key ∈ blockFlags, "if" ≠ key ∧ "then" ≠ key ∧ "else" ≠ key ∧ "alias" ≠ key := by
    decide
  unfold Entry.flagsOf
  refine List.filterMap_congr fun key hkey => ?_
  obtain ⟨hif, hthen, helse, halias⟩ := hkeys key hkey
  rw [get?_ifEntry_of_ne hif hthen helse, get?_merge_flags hflags halias]

/-! ## The fields of a choose block -/

theorem get?_setAny_of_ne {es : Entries} {name other : String} (h : name ≠ other)
    (items : List Value) : Entries.get? (es.setAny name items) other = Entries.get? es other := by
  unfold Entries.setAny
  split
  · rfl
  · exact Entries.get?_set_of_ne h _

/-- Entries that are left out when there are none are read as none. -/
theorem entriesOf_get_setAny {es : Entries} {name : String} (h : es.has name = false)
    (items : List Value) :
    Program.entriesOf (Entries.get (es.setAny name items) name) = items := by
  unfold Entries.setAny Entries.get
  split
  · rename_i hempty
    rw [Entries.get?_eq_none_iff.2 h, List.isEmpty_iff.1 hempty]
    rfl
  · rw [Entries.get?_set_self]
    rfl

theorem has_set_of_ne {es : Entries} {name other : String} (h : name ≠ other) (v : Value) :
    (es.set name v).has other = es.has other := by
  rw [Entries.has_eq_isSome_get?, Entries.has_eq_isSome_get?, Entries.get?_set_of_ne h]

/-- What is run otherwise is read from where it was written, and nothing from where nothing was. -/
theorem entriesOf_get_ifEntry_else (helse : n.flags.has "else" = false) :
    Program.entriesOf (Entries.get (ifEntry n whenTrue whenFalse) "else") = whenFalse := by
  refine entriesOf_get_setAny ?_ whenFalse
  rw [has_set_of_ne (by decide), has_set_of_ne (by decide), ← Entries.get?_eq_none_iff,
    Entries.get?_merge_of_not_has helse, get?_aliasOf_of_ne (by decide)]

section Choose

variable {flags : Entries} {options otherwise : List Value}

/-- Any other field of a choose block is one of its flags. -/
theorem get?_chooseEntry_of_ne (hflags : flags.Distinct) {name : String} (hchoose : "choose" ≠ name)
    (hdefault : "default" ≠ name) :
    Entries.get? (chooseEntry flags options otherwise) name = Entries.get? flags name := by
  unfold chooseEntry
  rw [get?_setAny_of_ne hdefault, Entries.get?_set_of_ne hchoose]
  cases hhas : Entries.has flags name with
  | true => exact Entries.get?_merge_of_has hflags hhas
  | false => rw [Entries.get?_merge_of_not_has hhas, Entries.get?_eq_none_iff.2 hhas]; rfl

theorem get?_chooseEntry_choose :
    Entries.get? (chooseEntry flags options otherwise) "choose" = some (.ofItems options) := by
  unfold chooseEntry
  rw [get?_setAny_of_ne (by decide), Entries.get?_set_self]

/-- What is run when no option holds is read from where it was written. -/
theorem entriesOf_get_chooseEntry_default (hdefault : flags.has "default" = false) :
    Program.entriesOf (Entries.get (chooseEntry flags options otherwise) "default") = otherwise := by
  refine entriesOf_get_setAny ?_ otherwise
  rw [has_set_of_ne (by decide), ← Entries.get?_eq_none_iff,
    Entries.get?_merge_of_not_has hdefault, Entries.get?_nil]

/-- The flags of an entry for options are those it was written with. -/
theorem flagsOf_chooseEntry (hflags : flags.Distinct) :
    Entry.flagsOf (chooseEntry flags options otherwise) = Entry.flagsOf flags := by
  have hkeys : ∀ key ∈ blockFlags, "choose" ≠ key ∧ "default" ≠ key := by decide
  unfold Entry.flagsOf
  refine List.filterMap_congr fun key hkey => ?_
  rw [get?_chooseEntry_of_ne hflags (hkeys key hkey).1 (hkeys key hkey).2]

end Choose

theorem get?_optionEntry {body : List Value} {name : String} (h : "alias" ≠ name) :
    Entries.get? (optionEntry n body) name = Entries.get? [(.str "conditions", conditionsOf n),
      (.str "sequence", .ofItems body)] name := by
  unfold optionEntry
  rw [Entries.get?_append, get?_aliasOf_of_ne h, Option.none_or]

/-- The entry for an option has the label of its condition. -/
theorem get_optionEntry_alias (n : Node) (body : List Value) :
    Entries.get (optionEntry n body) "alias" = n.label.ifTruthy.getD .null := by
  rw [← get_aliasOf]
  unfold Entries.get optionEntry
  rw [Entries.get?_append]
  cases Entries.get? (aliasOf n) "alias" <;> rfl

theorem keyed_aliasOf (n : Node) : (aliasOf n).Keyed := by
  unfold aliasOf Entries.field
  split
  · exact Entries.keyed_nil.cons rfl _
  · exact Entries.keyed_nil

/-- A field for a list is under a text. -/
theorem keyed_setAny {es : Entries} (h : es.Keyed) (name : String) (items : List Value) :
    (es.setAny name items).Keyed := by
  unfold Entries.setAny
  split
  · exact h
  · exact h.set ..

/-- The entry for a condition has texts as keys when the flags of its node have. -/
theorem keyed_ifEntry (hflags : n.flags.Keyed) : (ifEntry n whenTrue whenFalse).Keyed :=
  keyed_setAny ((((keyed_aliasOf n).merge hflags).set ..).set ..) ..

end Block

namespace Program

theorem payloads_eq_map (ns : List Node) : payloads ns = (ns.map (·.data)).map .ofEntries := by
  rw [payloads, List.map_map]
  rfl

theorem actions_eq_map (p : Program) :
    p.actions = (p.body.map Block.toEntries).map .ofEntries := by
  rw [actions, Block.listValues_eq_map, List.map_map]
  rfl

end Program

namespace Entry

/-- An if block is known by its first field. -/
theorem kind_of_has_if {es : Entries} (h : es.has "if" = true) : kind es = .ifBlock := by
  rw [kind, if_pos h]

/-- A choose block is known by its field when it has no conditions of its own. -/
theorem kind_of_has_choose {es : Entries} (hif : es.has "if" = false) (h : es.has "choose" = true) :
    kind es = .chooseBlock := by
  rw [kind, if_neg (by simp [hif]), if_pos h]

/-- A condition by itself is known by its kind. -/
theorem kind_of_has_condition {es : Entries} (hif : es.has "if" = false)
    (hchoose : es.has "choose" = false) (h : es.has "condition" = true) : kind es = .gate := by
  rw [kind, if_neg (by simp [hif]), if_neg (by simp [hchoose]), if_pos h]

/-- What a reader takes for flags are flags. -/
theorem areFlags_flagsOf (es : Entries) : Block.AreFlags (flagsOf es) := by
  intro e he
  obtain ⟨key, hkey, he⟩ := List.mem_filterMap.1 he
  obtain ⟨v, -, rfl⟩ := Option.map_eq_some_iff.1 he
  exact ⟨key, hkey, rfl⟩

/-- The flags of an entry are two fields of it, as far as they are there. -/
theorem flagsOf_eq_append (es : Entries) :
    flagsOf es = Entries.field "enabled" (es.get? "enabled")
      ++ Entries.field "continue_on_error" (es.get? "continue_on_error") := by
  simp only [flagsOf, blockFlags, List.filterMap_cons, List.filterMap_nil]
  cases es.get? "enabled" <;> cases es.get? "continue_on_error" <;> rfl

theorem keyed_flagsOf (es : Entries) : (flagsOf es).Keyed := by
  rw [flagsOf_eq_append]
  cases es.get? "enabled" <;> cases es.get? "continue_on_error"
  · exact Entries.keyed_nil
  · exact Entries.keyed_nil.cons rfl _
  · exact Entries.keyed_nil.cons rfl _
  · exact (Entries.keyed_nil.cons rfl _).cons rfl _

/-- Each flag is read as it stands. -/
theorem get?_flagsOf (es : Entries) {key : String} (hkey : key ∈ blockFlags) :
    (flagsOf es).get? key = es.get? key := by
  rw [flagsOf_eq_append, Entries.get?_append]
  simp only [blockFlags, List.mem_cons, List.not_mem_nil, or_false] at hkey
  rcases hkey with rfl | rfl
  · cases es.get? "enabled" <;> cases es.get? "continue_on_error" <;> rfl
  · cases es.get? "enabled" <;> cases es.get? "continue_on_error" <;> rfl

/-- Flags that were read are read as the same flags. -/
@[simp] theorem flagsOf_flagsOf (es : Entries) : flagsOf (flagsOf es) = flagsOf es := by
  show blockFlags.filterMap (fun key => ((flagsOf es).get? key).map (Value.str key, ·)) = flagsOf es
  refine List.filterMap_congr fun key hkey => ?_
  rw [get?_flagsOf es hkey]

/-- The flags that a reader finds are those that are there. -/
theorem perm_flagsOf {flags : Entries} (hdistinct : flags.Distinct) (h : Block.AreFlags flags) :
    (flagsOf flags).Perm flags := by
  have hmem {key : String} {v : Value} :
      (.str key, v) ∈ flagsOf flags ↔ key ∈ blockFlags ∧ flags.get? key = some v := by
    simp [flagsOf]
  have hnodup : flags.Nodup := hdistinct.imp fun {a b} hab heq => by
    rw [heq, Value.agrees_refl] at hab
    cases hab
  -- flags are looked up once each, under different keys
  have hnodup' : (flagsOf flags).Nodup := by
    refine List.Nodup.filterMap (fun a b e ha hb => ?_) (by decide : blockFlags.Nodup)
    obtain ⟨v, -, rfl⟩ := Option.map_eq_some_iff.1 ha
    obtain ⟨w, -, heq⟩ := Option.map_eq_some_iff.1 hb
    injection (Prod.mk.inj heq).1 with hkey
    exact hkey.symm
  refine (List.perm_ext_iff_of_nodup hnodup' hnodup).2 fun e => ⟨fun he => ?_, fun he => ?_⟩
  · obtain ⟨key, -, he⟩ := List.mem_filterMap.1 he
    obtain ⟨v, hv, rfl⟩ := Option.map_eq_some_iff.1 he
    exact Entries.mem_of_get?_eq_some hv
  · obtain ⟨key, hkey, heq⟩ := h e he
    obtain ⟨k, v⟩ := e
    subst heq
    exact hmem.2 ⟨hkey, Entries.get?_of_mem hdistinct he⟩

end Entry

end Automation
