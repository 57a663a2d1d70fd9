import SynapseOperator.Api

/-! Decoded YAML documents as the controllers hold them: Go values of static
type `interface{}`, each tagged with its dynamic type, because the mutation
functions branch on type assertions (`.([]string)`,
`.(map[interface{}]interface{})`). A round trip through gopkg.in/yaml.v2
forgets the typed containers the controllers build (`[]string`,
`map[string]string`, nested `map[string]interface{}`) and yields the generic
ones the decoder builds; `normalize` is that forgetting, and `YamlCodec`
states it as the one law the library is taken to satisfy. -/
namespace SynapseOperator.Document
open SynapseOperator.Api

mutual
/-- A decoded value, tagged with its Go dynamic type. -/
inductive Value where
  | null
  | bool (b : Bool)
  | int (i : Int)
  | str (s : Bytes)
  /-- Any other scalar (a float, a timestamp), by its text: no controller
  inspects one. -/
  | other (text : Bytes)
  /-- `[]interface{}`, what the decoder builds for a sequence. -/
  | list (items : Items)
  /-- `[]string`, what a controller builds. -/
  | strings (items : List Bytes)
  /-- `map[interface{}]interface{}`, what the decoder builds for a nested mapping. -/
  | map (entries : Entries)
  /-- `map[string]interface{}`. -/
  | object (fields : Fields)
  /-- `map[string]string`. -/
  | stringMap (entries : List (Bytes × Bytes))
  deriving DecidableEq, Repr

inductive Items where
  | nil
  | cons (head : Value) (tail : Items)
  deriving DecidableEq, Repr

/-- The entries of a `map[interface{}]interface{}`, in a fixed order. -/
inductive Entries where
  | nil
  | cons (key : Value) (value : Value) (tail : Entries)
  deriving DecidableEq, Repr

/-- The entries of a `map[string]interface{}`. A whole decoded homeserver.yaml
or config.yaml is one. -/
inductive Fields where
  | nil
  | cons (key : Bytes) (value : Value) (tail : Fields)
  deriving DecidableEq, Repr
end

/-! ## Map access

A Go map is modelled by its entries; an index reads the first entry with the
key and an assignment overwrites that entry in place, or appends one. -/

namespace Fields

/-- `m[key]`, with `none` for an absent key. -/
def get? : Fields → Bytes → Option Value
  | .nil, _ => none
  | .cons k v rest, key => if k = key then some v else rest.get? key

/-- `m[key] = value`. -/
def set : Fields → Bytes → Value → Fields
  | .nil, key, value => .cons key value .nil
  | .cons k v rest, key, value =>
    if k = key then .cons k value rest else .cons k v (rest.set key value)

variable {key other : Bytes} {value : Value}

@[simp] theorem get?_set_self : ∀ {m : Fields}, (m.set key value).get? key = some value
  | .nil => by simp [set, get?]
  | .cons k v rest => by by_cases same : k = key <;> simp [set, get?, same, get?_set_self]

@[simp] theorem get?_set_of_ne (different : other ≠ key) :
    ∀ {m : Fields}, (m.set key value).get? other = m.get? other
  | .nil => by simp [set, get?, Ne.symm different]
  | .cons k v rest => by
    by_cases same : k = key
    · subst same; simp [set, get?, Ne.symm different]
    · by_cases here : k = other
      · subst here; simp [set, get?, same]
      · simp [set, get?, same, here, get?_set_of_ne different]

/-- Assigning the value a key already has changes nothing. -/
theorem set_of_get? : ∀ {m : Fields}, m.get? key = some value → m.set key value = m
  | .nil, held => by cases held
  | .cons k v rest, held => by
    by_cases same : k = key
    · simp only [get?, same, ↓reduceIte, Option.some.injEq] at held
      simp [set, same, held]
    · simp only [get?, same, ↓reduceIte] at held
      simp [set, same, set_of_get? held]

theorem set_set_self (first second : Value) :
    ∀ {m : Fields}, (m.set key first).set key second = m.set key second
  | .nil => by simp [set]
  | .cons k v rest => by by_cases same : k = key <;> simp [set, same, set_set_self first second]

end Fields

namespace Entries

/-- `m[key]` on a `map[interface{}]interface{}`. -/
def get? : Entries → Value → Option Value
  | .nil, _ => none
  | .cons k v rest, key => if k = key then some v else rest.get? key

/-- `m[key] = value` on a `map[interface{}]interface{}`. -/
def set : Entries → Value → Value → Entries
  | .nil, key, value => .cons key value .nil
  | .cons k v rest, key, value =>
    if k = key then .cons k value rest else .cons k v (rest.set key value)

variable {key other value : Value}

@[simp] theorem get?_set_self : ∀ {m : Entries}, (m.set key value).get? key = some value
  | .nil => by simp [set, get?]
  | .cons k v rest => by by_cases same : k = key <;> simp [set, get?, same, get?_set_self]

@[simp] theorem get?_set_of_ne (different : other ≠ key) :
    ∀ {m : Entries}, (m.set key value).get? other = m.get? other
  | .nil => by simp [set, get?, Ne.symm different]
  | .cons k v rest => by
    by_cases same : k = key
    · subst same; simp [set, get?, Ne.symm different]
    · by_cases here : k = other
      · subst here; simp [set, get?, same]
      · simp [set, get?, same, here, get?_set_of_ne different]

theorem set_of_get? : ∀ {m : Entries}, m.get? key = some value → m.set key value = m
  | .nil, held => by cases held
  | .cons k v rest, held => by
    by_cases same : k = key
    · simp only [get?, same, ↓reduceIte, Option.some.injEq] at held
      simp [set, same, held]
    · simp only [get?, same, ↓reduceIte] at held
      simp [set, same, set_of_get? held]

end Entries

/-! ## Type assertions -/

/-- `v.(map[interface{}]interface{})`: a type assertion with the `ok` form. -/
def Value.asMap : Option Value → Option Entries
  | some (.map entries) => some entries
  | _ => none

/-- `v.([]string)`: a type assertion with the `ok` form. -/
def Value.asStrings : Option Value → Option (List Bytes)
  | some (.strings items) => some items
  | _ => none

/-! ## What a YAML round trip keeps -/

/-- The generic `[]interface{}` the decoder builds for a list of strings. -/
def Items.ofStrings : List Bytes → Items
  | [] => .nil
  | item :: rest => .cons (.str item) (Items.ofStrings rest)

/-- The generic map the decoder builds for a `map[string]string`. -/
def Entries.ofStringPairs : List (Bytes × Bytes) → Entries
  | [] => .nil
  | (k, v) :: rest => .cons (.str k) (.str v) (Entries.ofStringPairs rest)

mutual
/-- The value yaml.v2 reads back after writing `v`: every container becomes
`[]interface{}` or `map[interface{}]interface{}`, scalars are unchanged. -/
def Value.normalize : Value → Value
  | .list items => .list items.normalize
  | .strings items => .list (Items.ofStrings items)
  | .map entries => .map entries.normalize
  | .object fields => .map fields.toEntries
  | .stringMap entries => .map (Entries.ofStringPairs entries)
  | v => v

def Items.normalize : Items → Items
  | .nil => .nil
  | .cons v rest => .cons v.normalize rest.normalize

def Entries.normalize : Entries → Entries
  | .nil => .nil
  | .cons k v rest => .cons k.normalize v.normalize rest.normalize

/-- A nested `map[string]interface{}` as the decoder rebuilds it. -/
def Fields.toEntries : Fields → Entries
  | .nil => .nil
  | .cons k v rest => .cons (.str k) v.normalize rest.toEntries
end

/-- A whole document read back: the top level is decoded into a
`map[string]interface{}` again, every value below it is normalized. -/
def Fields.normalize : Fields → Fields
  | .nil => .nil
  | .cons k v rest => .cons k v.normalize rest.normalize

/-- A key of a document read back holds the value it held, normalized. -/
theorem Fields.get?_normalize {key : Bytes} :
    ∀ {doc : Fields}, doc.normalize.get? key = (doc.get? key).map Value.normalize
  | .nil => rfl
  | .cons k v rest => by
    by_cases same : k = key
    · simp [Fields.normalize, Fields.get?, same]
    · simp [Fields.normalize, Fields.get?, same, Fields.get?_normalize]

/-- What the controllers use of gopkg.in/yaml.v2: `yaml.Marshal` of a whole
document and `yaml.Unmarshal` of a text into a `map[string]interface{}`. The
text type is left abstract: the library is assumed only to read back what it
wrote, with the typed containers made generic. -/
structure YamlCodec (Text : Type) where
  marshal : Fields → Text
  unmarshal : Text → Except Bytes Fields
  unmarshal_marshal : ∀ doc, unmarshal (marshal doc) = .ok doc.normalize

/-- Documents as their own text: the codec in which only the typed containers
are lost. It satisfies the law and serves as a concrete library where a
statement has to be evaluated. -/
def documentCodec : YamlCodec Fields where
  marshal := Fields.normalize
  unmarshal := .ok
  unmarshal_marshal _ := rfl

/-! ## Paths -/

/-- The value reached from `v` by a path of keys through nested maps of either
kind; a `map[string]interface{}` has string keys only. -/
def Value.lookup : Value → List Value → Option Value
  | v, [] => some v
  | .map entries, key :: rest => (entries.get? key).bind (·.lookup rest)
  | .object fields, .str key :: rest => (fields.get? key).bind (·.lookup rest)
  | _, _ :: _ => none

/-- The path of string keys `keys`. -/
def keyPath (keys : List String) : List Value := keys.map fun key => .str (lit key)

section lookup
variable {key : Value} {rest : List Value}

@[simp] theorem lookup_nil (v : Value) : v.lookup [] = some v := by
  cases v <;> rfl

@[simp] theorem lookup_object_str (fields : Fields) (k : Bytes) :
    (Value.object fields).lookup (.str k :: rest) = (fields.get? k).bind (·.lookup rest) := rfl

@[simp] theorem lookup_map_cons (entries : Entries) :
    (Value.map entries).lookup (key :: rest) = (entries.get? key).bind (·.lookup rest) := rfl

end lookup

/-! ## What a write leaves alone -/

/-- Two paths are apart when neither is a prefix of the other: a write at one
leaves what is read at the other. -/
def Apart (p q : List Value) : Prop := ¬ p <+: q ∧ ¬ q <+: p

instance : DecidableRel Apart := fun _ _ => inferInstanceAs (Decidable (_ ∧ _))

/-- `after` reads as `before` at every path apart from all the `written` ones. -/
def ChangesOnly (written : List (List Value)) (before after : Value) : Prop :=
  ∀ path, (∀ w ∈ written, Apart path w) → after.lookup path = before.lookup path

section changesOnly
variable {written more : List (List Value)} {a b c child child' x : Value} {key : Value}

theorem not_apart_nil (q : List Value) : ¬ Apart [] q := fun apart => apart.1 (List.nil_prefix)

theorem apart_cons_cons {p q : List Value} : Apart (key :: p) (key :: q) ↔ Apart p q := by
  simp [Apart, List.cons_prefix_cons]

theorem Apart.head_ne {key' : Value} {rest : List Value} (apart : Apart (key' :: rest) [key]) :
    key' ≠ key := by
  rintro rfl
  exact apart.2 (List.cons_prefix_cons.mpr ⟨rfl, List.nil_prefix⟩)

theorem ChangesOnly.trans (first : ChangesOnly written a b) (second : ChangesOnly more b c) :
    ChangesOnly (written ++ more) a c := fun path apart =>
  (second path fun w mem => apart w (List.mem_append_right _ mem)).trans
    (first path fun w mem => apart w (List.mem_append_left _ mem))

/-- Where nothing may change, nothing does. -/
theorem ChangesOnly.eq_of_nil (same : ChangesOnly [] a b) : b = a := by
  simpa using same [] (by simp)

/-- Assigning a key of a `map[interface{}]interface{}` changes only that key. -/
theorem changesOnly_map_set (entries : Entries) :
    ChangesOnly [[key]] (.map entries) (.map (entries.set key x))
  | [], apart => absurd (apart [key] (List.mem_singleton_self _)) (not_apart_nil _)
  | key' :: rest, apart => by
    simp [Entries.get?_set_of_ne (apart [key] (List.mem_singleton_self _)).head_ne]

/-- Assigning a key of a `map[string]interface{}` changes only that key. -/
theorem changesOnly_object_set (fields : Fields) (k : Bytes) :
    ChangesOnly [[.str k]] (.object fields) (.object (fields.set k x))
  | [], apart => absurd (apart [.str k] (List.mem_singleton_self _)) (not_apart_nil _)
  | .str k' :: rest, apart => by
    have different : k' ≠ k := by
      simpa using (apart [.str k] (List.mem_singleton_self _)).head_ne
    simp [Fields.get?_set_of_ne different]
  | .null :: _, _ | .bool _ :: _, _ | .int _ :: _, _ | .other _ :: _, _ | .list _ :: _, _
  | .strings _ :: _, _ | .map _ :: _, _ | .object _ :: _, _ | .stringMap _ :: _, _ => rfl

/-- A nested map replaced by one that changes only `written` changes, seen from
the parent, only those paths below its key. -/
theorem changesOnly_map_nested {entries : Entries} (held : entries.get? key = some child)
    (inner : ChangesOnly written child child') :
    ChangesOnly (written.map (key :: ·)) (.map entries) (.map (entries.set key child'))
  | [], apart => by
    cases written with
    | nil => rw [inner.eq_of_nil, Entries.set_of_get? held]
    | cons w _ => exact absurd (apart (key :: w) (List.mem_cons_self _ _)) (not_apart_nil _)
  | key' :: rest, apart => by
    by_cases same : key' = key
    · subst same
      simp only [lookup_map_cons, Entries.get?_set_self, held, Option.some_bind]
      exact inner rest fun w mem => apart_cons_cons.mp (apart _ (List.mem_map_of_mem _ mem))
    · simp [Entries.get?_set_of_ne same]

/-- The same for a section of a whole document. -/
theorem changesOnly_object_nested {fields : Fields} {k : Bytes} (held : fields.get? k = some child)
    (inner : ChangesOnly written child child') :
    ChangesOnly (written.map (.str k :: ·)) (.object fields) (.object (fields.set k child'))
  | [], apart => by
    cases written with
    | nil => rw [inner.eq_of_nil, Fields.set_of_get? held]
    | cons w _ => exact absurd (apart (.str k :: w) (List.mem_cons_self _ _)) (not_apart_nil _)
  | .str k' :: rest, apart => by
    by_cases same : k' = k
    · subst same
      simp only [lookup_object_str, Fields.get?_set_self, held, Option.some_bind]
      exact inner rest fun w mem => apart_cons_cons.mp (apart _ (List.mem_map_of_mem _ mem))
    · simp [Fields.get?_set_of_ne same]
  | .null :: _, _ | .bool _ :: _, _ | .int _ :: _, _ | .other _ :: _, _ | .list _ :: _, _
  | .strings _ :: _, _ | .map _ :: _, _ | .object _ :: _, _ | .stringMap _ :: _, _ => rfl

end changesOnly

end SynapseOperator.Document
