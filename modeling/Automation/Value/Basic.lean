import Automation.Number.Binary64
import Automation.Calendar
import Automation.Place

/-!
# Document values

The values that documents are made of, and what programs ask of them: the fields of a mapping, when
two values count as the same, truth, and order.

A mapping is a list of entries in written order, whose keys are pairwise not the same. Collections
and dates carry an `Origin`: where in a text they were written. It tells which occurrences are one
shared value and decides nothing but how that sharing is written again; `same`, `truthy` and all
look-ups ignore it (`same_setOrigin`).

A collection may occur inside itself. Such an inner occurrence is `Value.enclosing`, and
`Value.expose` puts the collection in its place, so that the parts of what was exposed can be looked
at by themselves.
-/

namespace Automation

/-- Where a value was written, when it was read from a text: its place there, behind the places of
the copies that it has been through. Values of one origin are occurrences of one value. -/
structure Origin where
  path : Option (List Place) := none
  /-- whether the value can occur inside itself -/
  isKnot : Bool := false
  deriving DecidableEq, Repr, Inhabited

/-- The origin of what was written at a numbered place of a text. -/
def Origin.written (number : Nat) (isKnot : Bool := false) : Origin :=
  { path := some [{ root := "text", steps := [.index number] }], isKnot }

/-- The origin of a part that has no place of its own in a text. -/
def Origin.part (number part : Nat) : Origin :=
  { path := some [{ root := "text", steps := [.index number, .index part] }] }

/-- The origin of a value inside a copy at a place. Values without an origin stay without one. -/
def Origin.inside (place : Place) (o : Origin) : Origin :=
  { o with path := o.path.map (place :: ·) }

/-- A value of a document. -/
inductive Value where
  | null
  | bool (b : Bool)
  | int (n : Int)
  | float (x : Binary64)
  | str (s : String)
  | bytes (bs : List UInt8)
  | date (origin : Origin) (d : Date)
  | moment (origin : Origin) (t : Moment)
  | list (origin : Origin) (items : List Value)
  | tuple (origin : Origin) (items : List Value)
  | set (origin : Origin) (items : List Value)
  | map (origin : Origin) (entries : List (Value × Value))
  /-- the mapping or list of an origin, somewhere inside itself -/
  | enclosing (origin : Origin) (isMap : Bool)
  deriving Repr, Inhabited

/-- The entries of a mapping, in written order. -/
abbrev Entries := List (Value × Value)

namespace Value

/-- A mapping of its own. -/
def ofEntries (entries : Entries) : Value := .map {} entries

/-- A list of its own. -/
def ofItems (items : List Value) : Value := .list {} items

/-- A list of texts. -/
def ofTexts (texts : List String) : Value := .list {} (texts.map .str)

/-- The name of the kind of a value, as messages give it. -/
def kindName : Value → String
  | .null => "NoneType"
  | .bool _ => "bool"
  | .int _ => "int"
  | .float _ => "float"
  | .str _ => "str"
  | .bytes _ => "bytes"
  | .date .. => "date"
  | .moment .. => "datetime"
  | .list .. => "list"
  | .tuple .. => "tuple"
  | .set .. => "set"
  | .map .. => "dict"
  | .enclosing _ isMap => if isMap then "dict" else "list"

/-- Whether a value is the given text. -/
def isText : Value → String → Bool
  | .str s, name => s == name
  | _, _ => false

/-- Whether a value is a text. -/
def isStr : Value → Bool
  | .str _ => true
  | _ => false

def isNull : Value → Bool
  | .null => true
  | _ => false

/-- Only the truth value false, and not the number zero. -/
def isFalse : Value → Bool
  | .bool false => true
  | _ => false

/-- The text of a value that is a text. -/
def text? : Value → Option String
  | .str s => some s
  | _ => none

/-- The items of a value that is a list. -/
def items? : Value → Option (List Value)
  | .list _ items => some items
  | _ => none

/-- The entries of a value that is a mapping. -/
def entries? : Value → Option Entries
  | .map _ es => some es
  | _ => none

/-- The items of a list, and any other value as its own single item. -/
def asItems : Value → List Value
  | .list _ items => items
  | v => [v]

/-- What counts as true in a condition: everything but null, false, zero and what is empty. -/
def truthy : Value → Bool
  | .null => false
  | .bool b => b
  | .int n => n != 0
  | .float x => !x.isZero
  | .str s => s != ""
  | .bytes bs => !bs.isEmpty
  | .date .. => true
  | .moment .. => true
  | .list _ items => !items.isEmpty
  | .tuple _ items => !items.isEmpty
  | .set _ items => !items.isEmpty
  | .map _ es => !es.isEmpty
  | .enclosing .. => true

/-- The exact value of a number or a truth value. -/
def numeric? : Value → Option Binary64.Exact
  | .bool b => some (.ofInt (if b then 1 else 0))
  | .int n => some (.ofInt n)
  | .float x => some x.exact
  | _ => none

/-- Whether a value is a number or truth value that equals a given number. -/
def sameNumber : Binary64.Exact → Value → Bool
  | x, .bool b => x.compare? (.ofInt (if b then 1 else 0)) == some .eq
  | x, .int n => x.compare? (.ofInt n) == some .eq
  | x, .float y => x.compare? y.exact == some .eq
  | _, _ => false

/-- Whether two values are one undefined number. Undefined numbers are told apart by their marks. -/
def isOneUndefined : Value → Value → Bool
  | .float x, .float y => x.isNaN && x == y
  | _, _ => false

mutual
/-- Whether two values count as the same: numbers and truth values by their value, mappings and sets
in any order, all else by kind and content. An undefined number is not the same as itself, but as a
part of a collection it matches itself. -/
def same : Value → Value → Bool
  | .null, b => b.isNull
  | .bool a, b => sameNumber (.ofInt (if a then 1 else 0)) b
  | .int a, b => sameNumber (.ofInt a) b
  | .float a, b => sameNumber a.exact b
  | .str a, b => b.isText a
  | .bytes a, b => match b with | .bytes b => a == b | _ => false
  | .date _ a, b => match b with | .date _ b => a == b | _ => false
  | .moment _ a, b => match b with | .moment _ b => a.compare? b == some .eq | _ => false
  | .list _ a, b => match b with | .list _ b => sameItems a b | _ => false
  | .tuple _ a, b => match b with | .tuple _ b => sameItems a b | _ => false
  | .set _ a, b => match b with | .set _ b => a.length == b.length && allIn a b | _ => false
  | .map _ a, b => match b with | .map _ b => a.length == b.length && entriesIn a b | _ => false
  | .enclosing o _, b => match b with | .enclosing p _ => o == p | _ => false
termination_by structural x => x

/-- Whether two lists have the same items in the same order. -/
def sameItems : List Value → List Value → Bool
  | [], b => b.isEmpty
  | x :: xs, b => match b with
    | y :: ys => (isOneUndefined x y || same x y) && sameItems xs ys
    | [] => false
termination_by structural x => x

/-- Whether each item of the first list is the same as some item of the second. -/
def allIn : List Value → List Value → Bool
  | [], _ => true
  | x :: xs, b => (b.any fun y => isOneUndefined x y || same x y) && allIn xs b
termination_by structural x => x

/-- Whether each entry of the first mapping is in the second, with the same key and value. -/
def entriesIn : List (Value × Value) → List (Value × Value) → Bool
  | [], _ => true
  | (k, v) :: es, b =>
    (b.any fun e => (isOneUndefined k e.1 || same k e.1) && (isOneUndefined v e.2 || same v e.2))
      && entriesIn es b
termination_by structural x => x
end

/-- Whether a value matches another as a part of a collection, such as a key or an item. -/
def agrees (a b : Value) : Bool := isOneUndefined a b || same a b

mutual
/-- Whether a value can be a key: all but lists, sets and mappings, and what contains them. -/
def isKey : Value → Bool
  | .list .. => false
  | .set .. => false
  | .map .. => false
  | .enclosing .. => false
  | .tuple _ items => areKeys items
  | _ => true

/-- Whether all values can be keys. -/
def areKeys : List Value → Bool
  | [] => true
  | v :: vs => isKey v && areKeys vs
end

mutual
/-- Whether a value is the same thing in every copy: what has no parts, dates apart, and tuples of
such values. -/
def isAtom : Value → Bool
  | .date .. => false
  | .moment .. => false
  | .list .. => false
  | .tuple _ items => areAtoms items
  | .set .. => false
  | .map .. => false
  | .enclosing .. => false
  | _ => true

/-- Whether all values are the same things in every copy. -/
def areAtoms : List Value → Bool
  | [] => true
  | v :: vs => isAtom v && areAtoms vs
end

mutual
/-- A value with every origin in it replaced. Tuples of atoms keep theirs. -/
def mapOrigin (f : Origin → Origin) : Value → Value
  | .date o d => .date (f o) d
  | .moment o t => .moment (f o) t
  | .list o items => .list (f o) (mapItems f items)
  | .tuple o items => .tuple (if areAtoms items then o else f o) (mapItems f items)
  | .set o items => .set (f o) (mapItems f items)
  | .map o es => .map (f o) (mapEntries f es)
  | .enclosing o isMap => .enclosing (f o) isMap
  | v => v

/-- The items of a list with every origin in them replaced. -/
def mapItems (f : Origin → Origin) : List Value → List Value
  | [] => []
  | v :: vs => mapOrigin f v :: mapItems f vs

/-- The entries of a mapping with every origin in them replaced. -/
def mapEntries (f : Origin → Origin) : List (Value × Value) → List (Value × Value)
  | [] => []
  | (k, v) :: es => (mapOrigin f k, mapOrigin f v) :: mapEntries f es
end

/-- A copy of a value at a place: what was shared inside it is shared inside the copy alone. -/
def inside (place : Place) (v : Value) : Value := v.mapOrigin (.inside place)

/-- The origin of a value of a kind that can be shared. An empty tuple is not shared. -/
def origin : Value → Origin
  | .date o _ => o
  | .moment o _ => o
  | .list o _ => o
  | .tuple o items => if items.isEmpty then {} else o
  | .set o _ => o
  | .map o _ => o
  | .enclosing o _ => o
  | _ => {}

mutual
/-- A value in which the occurrences of an enclosing collection are replaced. -/
def fill (o : Origin) (new : Value) : Value → Value
  | .list p items => if p = o then .list p items else .list p (fillItems o new items)
  | .tuple p items => .tuple p (fillItems o new items)
  | .map p es => if p = o then .map p es else .map p (fillEntries o new es)
  | .enclosing p isMap => if p = o then new else .enclosing p isMap
  | v => v

/-- The items of a list in which the occurrences of an enclosing collection are replaced. -/
def fillItems (o : Origin) (new : Value) : List Value → List Value
  | [] => []
  | v :: vs => fill o new v :: fillItems o new vs

/-- The entries of a mapping in which the occurrences of an enclosing collection are replaced. -/
def fillEntries (o : Origin) (new : Value) : List (Value × Value) → List (Value × Value)
  | [] => []
  | (k, v) :: es => (k, fill o new v) :: fillEntries o new es
end

/-- The items of a list, each by itself: an item that holds the list holds all of it. -/
def partItems (o : Origin) (whole : Value) (items : List Value) : List Value :=
  if o.isKnot then fillItems o whole items else items

/-- The entries of a mapping, each by itself. -/
def partEntries (o : Origin) (whole : Value) (es : List (Value × Value)) : List (Value × Value) :=
  if o.isKnot then fillEntries o whole es else es

/-- A collection that stands in full for its occurrences inside itself. -/
def expose (v : Value) : Value :=
  match v with
  | .list o items => .list o (partItems o v items)
  | .map o es => .map o (partEntries o v es)
  | v => v

/-- What cannot occur inside itself is exposed as it is. -/
theorem expose_of_not_knot {v : Value} (h : v.origin.isKnot = false) : v.expose = v := by
  cases v <;> simp_all [expose, partItems, partEntries, origin]

mutual
/-- A value whose collections are all its own, while its dates may be shared. A collection that
occurs inside itself is copied once, and the occurrences inside the copy are the collection as it
was. -/
def detach : Value → Value
  | .list o items => .list {} (partItems o (.list o items) (detachItems items))
  | .tuple _ items => .tuple {} (detachItems items)
  | .set _ items => .set {} (detachItems items)
  | .map o es => .map {} (partEntries o (.map o es) (detachEntries es))
  | v => v

/-- The items of a list, detached. -/
def detachItems : List Value → List Value
  | [] => []
  | v :: vs => detach v :: detachItems vs

/-- The entries of a mapping, detached. -/
def detachEntries : List (Value × Value) → List (Value × Value)
  | [] => []
  | (k, v) :: es => (detach k, detach v) :: detachEntries es
end

/-- The outermost origin replaced. -/
def setOrigin (o : Origin) : Value → Value
  | .date _ d => .date o d
  | .moment _ t => .moment o t
  | .list _ items => .list o items
  | .tuple _ items => .tuple o items
  | .set _ items => .set o items
  | .map _ es => .map o es
  | v => v

/-- What a value is the same as does not depend on where it was written. -/
@[simp] theorem same_setOrigin (o : Origin) (a b : Value) : same (a.setOrigin o) b = same a b := by
  cases a <;> rfl

@[simp] theorem truthy_setOrigin (o : Origin) (a : Value) : truthy (a.setOrigin o) = a.truthy := by
  cases a <;> rfl

@[simp] theorem same_str (s : String) (b : Value) : same (.str s) b = b.isText s := by
  simp [same]

theorem isText_iff {v : Value} {s : String} : v.isText s = true ↔ v = .str s := by
  cases v <;> simp [isText]

end Value

namespace Entries

/-- The value of the field with the given name. -/
def get? (es : Entries) (name : String) : Option Value :=
  (es.find? fun e => e.1.isText name).map (·.2)

/-- The value of a field, null when there is none. -/
def get (es : Entries) (name : String) : Value := (get? es name).getD .null

/-- Whether there is a field with the given name. -/
def has (es : Entries) (name : String) : Bool := es.any fun e => e.1.isText name

/-- The entries with a field set: in its place if it is there, else at the end. -/
def set (es : Entries) (name : String) (v : Value) : Entries :=
  if has es name then es.map fun e => if e.1.isText name then (e.1, v) else e
  else es ++ [(.str name, v)]

/-- A copy of entries at a place. -/
def inside (place : Place) (es : Entries) : Entries := Value.mapEntries (.inside place) es

/-- The entries without a field. -/
def erase (es : Entries) (name : String) : Entries := es.filter fun e => !e.1.isText name

/-- The entries with a field renamed in its place. -/
def rename (es : Entries) (old new : String) : Entries :=
  es.map fun e => if e.1.isText old then (.str new, e.2) else e

/-- The entries with a further key set: in the place of a key that is the same, else at the end. -/
def insert (es : Entries) (k v : Value) : Entries :=
  if es.any fun e => e.1.agrees k then es.map fun e => if e.1.agrees k then (e.1, v) else e
  else es ++ [(k, v)]

/-- The value of a key. -/
def find? (es : Entries) (k : Value) : Option Value :=
  (List.find? (fun e => e.1.agrees k) es).map (·.2)

/-- The entries with those of another mapping set in turn. -/
def merge (es more : Entries) : Entries := more.foldl (fun acc e => insert acc e.1 e.2) es

/-- A field is there exactly when it has a value. -/
theorem has_eq_isSome_get? (es : Entries) (name : String) :
    has es name = (get? es name).isSome := by
  induction es with
  | nil => rfl
  | cons e es ih =>
    by_cases h : e.1.isText name <;> simp_all [has, get?]

@[simp] theorem get?_nil (name : String) : get? [] name = none := rfl

theorem get?_cons (k v : Value) (es : Entries) (name : String) :
    get? ((k, v) :: es) name = if k.isText name then some v else get? es name := by
  by_cases h : k.isText name <;> simp [get?, h]

/-- Erasing a field that is not there changes nothing. -/
theorem erase_of_not_has {es : Entries} {name : String} (h : has es name = false) :
    erase es name = es := by
  simp only [has, List.any_eq_false] at h
  exact List.filter_eq_self.2 fun e mem => by simpa using h e mem

/-- An erased field is gone. -/
theorem has_erase (es : Entries) (name : String) : has (erase es name) name = false := by
  simp [has, erase]

/-- Renaming a field that is not there changes nothing. -/
theorem rename_of_not_has {es : Entries} {old : String} (new : String) (h : has es old = false) :
    rename es old new = es := by
  simp only [has, List.any_eq_false] at h
  unfold rename
  rw [List.map_congr_left (g := id) fun e mem => by simp [h e mem], List.map_id]

end Entries

end Automation
