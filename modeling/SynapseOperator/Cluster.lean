import SynapseOperator.Document
import SynapseOperator.Naming

/-!
The object store both controllers work against, and the helpers their steps
share: the subreconciler library's loop, `reconcile.ReconcileResource`,
`utils.UpdateConfigMap`, `utils.GetConfigMapCopy` and
`utils.LoadYAMLFileFromConfigMapData`. None of these helpers is among the
sources; each is modelled from the spec (§4.1, §4.2, §4.4).

The store maps an identity to the object stored under it and answers every
call: there is no I/O error and no Conflict, as in a run where every store call
succeeds and no other party writes. An object that is not found is the one
failure the store keeps; the errors of the functions the steps hand data to
are kept as they are. Every Create and Patch is recorded in `writes`.

Two lemmas lift what each step does to a whole run of `runSubreconcilers`:
`runSubreconcilers_preserve`, for a relation every step keeps whatever it
returns, and `runSubreconcilers_requeue`, for a measure that a step returning
`Requeue` lowers and a step returning `ContinueReconciling` keeps.
`runSubreconcilers_doNotRequeue` says what holds after a run that ended with
every step continuing. `runSubreconcilers_editsConfigMap` says what such a run
leaves in one ConfigMap: when its steps, in order, keep the ConfigMap or make
one `UpdateConfigMap` of it (`EditsConfigMap`), the ConfigMap ends with the
data `applyEdits` computes from those edits.
-/

namespace SynapseOperator.Cluster
open SynapseOperator.Api SynapseOperator.Document SynapseOperator.Naming

/-- What a subreconciler returns, as the library's constructors build it. -/
inductive Outcome where
  | continueReconciling
  | doNotRequeue
  | requeue
  | requeueWithError (err : Bytes)
  /-- `RequeueWithDelayAndError` with a nil error: a requeue after the delay
  that reports nothing. -/
  | requeueWithDelay (delay : Nat)
  | requeueWithDelayAndError (delay : Nat) (err : Bytes)
  deriving DecidableEq, Repr

/-- An outcome that reports an error: `RequeueWithError` or
`RequeueWithDelayAndError`. -/
def Outcome.IsError : Outcome → Prop
  | .requeueWithError _ | .requeueWithDelayAndError _ _ => True
  | _ => False

instance : DecidablePred Outcome.IsError := fun o => by
  cases o <;> unfold Outcome.IsError <;> infer_instance

/-- An error ends the run, and the run's caller requeues it for the error,
not as a plain `Requeue`. -/
theorem Outcome.IsError.ne {o : Outcome} (error : o.IsError) :
    o ≠ .continueReconciling ∧ o ≠ .requeue ∧ o ≠ .doNotRequeue := by
  cases o <;> simp_all [Outcome.IsError]

/-- The message of the store's NotFound error for `resource` `name`. -/
def notFound (resource : String) (name : Bytes) : Bytes :=
  lit resource ++ lit " \"" ++ name ++ lit "\" not found"

/-- The panic of a nil pointer dereference, which the model returns as an error. -/
def nilDereference : Bytes := lit "invalid memory address or nil pointer dereference"

/-! ## Map data -/

/-- `data[key]` of a `map[string]string`, with the `ok` form. -/
def dataGet? {V : Type} : List (Bytes × V) → Bytes → Option V
  | [], _ => none
  | (k, v) :: rest, key => if k = key then some v else dataGet? rest key

/-- `data[key] = value`. -/
def dataSet {V : Type} : List (Bytes × V) → Bytes → V → List (Bytes × V)
  | [], key, value => [(key, value)]
  | (k, v) :: rest, key, value =>
    if k = key then (key, value) :: rest else (k, v) :: dataSet rest key value

@[simp] theorem dataGet?_dataSet_self {V : Type} (key : Bytes) (value : V) :
    ∀ data : List (Bytes × V), dataGet? (dataSet data key value) key = some value
  | [] => by simp [dataSet, dataGet?]
  | (k, v) :: rest => by
    by_cases same : k = key
    · simp [dataSet, dataGet?, same]
    · simp [dataSet, dataGet?, same, dataGet?_dataSet_self key value rest]

theorem dataSet_of_dataGet? {V : Type} {key : Bytes} {value : V} :
    ∀ {data : List (Bytes × V)}, dataGet? data key = some value → dataSet data key value = data
  | [], held => by simp [dataGet?] at held
  | (k, v) :: rest, held => by
    by_cases same : k = key
    · simp only [dataGet?, same, ↓reduceIte, Option.some.injEq] at held
      simp [dataSet, same, held]
    · simp only [dataGet?, same, ↓reduceIte] at held
      simp [dataSet, same, dataSet_of_dataGet? held]

/-! ## The store -/

/-- What the store holds under an identity. `built` is an object whose builder
is not among the sources, as that builder returns it. -/
inductive Object (Text Body : Type) where
  | synapse (s : Synapse)
  | mautrixSignal (ms : MautrixSignal)
  | configMap (data : List (Bytes × Text))
  | secret (data : List (Bytes × Bytes))
  | built (body : Body)
  deriving DecidableEq

/-- A write the store received. A patch of a Status is a patch of its object. -/
inductive Write where
  | create (id : Identity)
  | patch (id : Identity)
  deriving DecidableEq, Repr

structure Store (Text Body : Type) where
  objects : Identity → Option (Object Text Body)
  /-- Whether listing PostgresClusters succeeds, which is what
  `isPostgresOperatorInstalled` asks. -/
  postgresOperatorInstalled : Bool
  writes : List Write

variable {Text Body : Type}

namespace Store

/-- Store `object` under `id`. -/
def put (store : Store Text Body) (id : Identity) (object : Object Text Body) : Store Text Body :=
  { store with objects := Function.update store.objects id (some object) }

/-- Record a write. -/
def record (store : Store Text Body) (w : Write) : Store Text Body :=
  { store with writes := store.writes ++ [w] }

/-- `Get` of a Synapse. -/
def synapse? (store : Store Text Body) (key : ObjectRef) : Option Synapse :=
  match store.objects (.of .synapse key) with
  | some (.synapse s) => some s
  | _ => none

/-- `Get` of a MautrixSignal. -/
def mautrixSignal? (store : Store Text Body) (key : ObjectRef) : Option MautrixSignal :=
  match store.objects (.of .mautrixSignal key) with
  | some (.mautrixSignal ms) => some ms
  | _ => none

/-- `Get` of a ConfigMap: its data. -/
def configMap? (store : Store Text Body) (key : ObjectRef) : Option (List (Bytes × Text)) :=
  match store.objects (.of .configMap key) with
  | some (.configMap data) => some data
  | _ => none

/-- `Get` of a Secret: its data. -/
def secret? (store : Store Text Body) (key : ObjectRef) : Option (List (Bytes × Bytes)) :=
  match store.objects (.of .secret key) with
  | some (.secret data) => some data
  | _ => none

@[simp] theorem put_objects (store : Store Text Body) (id : Identity) (object : Object Text Body) :
    (store.put id object).objects = Function.update store.objects id (some object) := rfl

@[simp] theorem put_writes (store : Store Text Body) (id : Identity) (object : Object Text Body) :
    (store.put id object).writes = store.writes := rfl

@[simp] theorem put_postgresOperatorInstalled (store : Store Text Body) (id : Identity)
    (object : Object Text Body) :
    (store.put id object).postgresOperatorInstalled = store.postgresOperatorInstalled := rfl

@[simp] theorem record_objects (store : Store Text Body) (w : Write) :
    (store.record w).objects = store.objects := rfl

@[simp] theorem record_writes (store : Store Text Body) (w : Write) :
    (store.record w).writes = store.writes ++ [w] := rfl

@[simp] theorem record_postgresOperatorInstalled (store : Store Text Body) (w : Write) :
    (store.record w).postgresOperatorInstalled = store.postgresOperatorInstalled := rfl

/-- A read sees only the object under the identity it reads. -/
theorem synapse?_congr {store store' : Store Text Body} {key : ObjectRef}
    (same : store'.objects (.of .synapse key) = store.objects (.of .synapse key)) :
    store'.synapse? key = store.synapse? key := by
  simp only [synapse?, same]

theorem mautrixSignal?_congr {store store' : Store Text Body} {key : ObjectRef}
    (same : store'.objects (.of .mautrixSignal key) = store.objects (.of .mautrixSignal key)) :
    store'.mautrixSignal? key = store.mautrixSignal? key := by
  simp only [mautrixSignal?, same]

theorem configMap?_congr {store store' : Store Text Body} {key : ObjectRef}
    (same : store'.objects (.of .configMap key) = store.objects (.of .configMap key)) :
    store'.configMap? key = store.configMap? key := by
  simp only [configMap?, same]

theorem secret?_congr {store store' : Store Text Body} {key : ObjectRef}
    (same : store'.objects (.of .secret key) = store.objects (.of .secret key)) :
    store'.secret? key = store.secret? key := by
  simp only [secret?, same]

@[simp] theorem synapse?_record (store : Store Text Body) (w : Write) (key : ObjectRef) :
    (store.record w).synapse? key = store.synapse? key := rfl

@[simp] theorem mautrixSignal?_record (store : Store Text Body) (w : Write) (key : ObjectRef) :
    (store.record w).mautrixSignal? key = store.mautrixSignal? key := rfl

@[simp] theorem configMap?_record (store : Store Text Body) (w : Write) (key : ObjectRef) :
    (store.record w).configMap? key = store.configMap? key := rfl

@[simp] theorem secret?_record (store : Store Text Body) (w : Write) (key : ObjectRef) :
    (store.record w).secret? key = store.secret? key := rfl

@[simp] theorem synapse?_put_self (store : Store Text Body) (key : ObjectRef) (s : Synapse) :
    (store.put (.of .synapse key) (.synapse s)).synapse? key = some s := by
  simp [synapse?]

@[simp] theorem mautrixSignal?_put_self (store : Store Text Body) (key : ObjectRef)
    (ms : MautrixSignal) :
    (store.put (.of .mautrixSignal key) (.mautrixSignal ms)).mautrixSignal? key = some ms := by
  simp [mautrixSignal?]

@[simp] theorem configMap?_put_self (store : Store Text Body) (key : ObjectRef)
    (data : List (Bytes × Text)) :
    (store.put (.of .configMap key) (.configMap data)).configMap? key = some data := by
  simp [configMap?]

@[simp] theorem configMap?_iff {store : Store Text Body} {key : ObjectRef} {data : List (Bytes × Text)} :
    store.configMap? key = some data ↔ store.objects (.of .configMap key) = some (.configMap data) := by
  unfold configMap?
  split <;> simp_all

theorem synapse?_iff {store : Store Text Body} {key : ObjectRef} {s : Synapse} :
    store.synapse? key = some s ↔ store.objects (.of .synapse key) = some (.synapse s) := by
  unfold synapse?
  split <;> simp_all

theorem mautrixSignal?_iff {store : Store Text Body} {key : ObjectRef} {ms : MautrixSignal} :
    store.mautrixSignal? key = some ms ↔ store.objects (.of .mautrixSignal key) = some (.mautrixSignal ms) := by
  unfold mautrixSignal?
  split <;> simp_all

/-- Every write from one store to the other is a Patch of an identity that
`allowed` admits. -/
def PatchesOnly (allowed : Identity → Prop) (store store' : Store Text Body) : Prop :=
  ∃ more, store'.writes = store.writes ++ more ∧ ∀ w ∈ more, ∃ id, allowed id ∧ w = .patch id

theorem PatchesOnly.refl {allowed : Identity → Prop} (store : Store Text Body) :
    store.PatchesOnly allowed store :=
  ⟨[], by simp, by simp⟩

theorem PatchesOnly.trans {allowed : Identity → Prop} {a b c : Store Text Body}
    (first : a.PatchesOnly allowed b) (second : b.PatchesOnly allowed c) : a.PatchesOnly allowed c := by
  obtain ⟨more, written, patches⟩ := first
  obtain ⟨more', written', patches'⟩ := second
  exact ⟨more ++ more', by simp [written', written], fun w listed => by
    rcases List.mem_append.mp listed with listed | listed
    exacts [patches w listed, patches' w listed]⟩

/-- A Patch of an admitted identity. -/
theorem PatchesOnly.patch {allowed : Identity → Prop} {id : Identity} (admitted : allowed id)
    (store : Store Text Body) : store.PatchesOnly allowed (store.record (.patch id)) :=
  ⟨[.patch id], rfl, by simpa using admitted⟩

end Store

/-! ## The loop of `Reconcile` -/

/-- The loop that ends both `Reconcile`s: run the steps in order, stop at the
first that does not return `ContinueReconciling` (`ShouldHaltOrRequeue`) and
return what it returned, and return `DoNotRequeue` when every step continued. -/
def runSubreconcilers {σ : Type} : List (σ → Outcome × σ) → σ → Outcome × σ
  | [], store => (.doNotRequeue, store)
  | f :: rest, store =>
    match f store with
    | (.continueReconciling, store') => runSubreconcilers rest store'
    | result => result

section Lifting
variable {σ : Type} {Inv : σ → Prop}

/-- The three things a step can do: continue, or end the run with what it
returned. -/
theorem runSubreconcilers_cons (f : σ → Outcome × σ) (rest : List (σ → Outcome × σ)) (a : σ) :
    runSubreconcilers (f :: rest) a =
      if (f a).1 = .continueReconciling then runSubreconcilers rest (f a).2 else f a := by
  simp only [runSubreconcilers]
  split
  · simp_all
  · rename_i halted
    rw [if_neg fun continued => halted _ (Prod.ext continued rfl)]

/-- A relation that every step keeps, from stores satisfying an invariant that
continuing steps keep, holds between the start and the end of a run. -/
theorem runSubreconcilers_preserve {R : σ → σ → Prop} (refl : ∀ a, R a a)
    (trans : ∀ {a b c}, R a b → R b c → R a c) :
    ∀ {steps : List (σ → Outcome × σ)},
      (∀ f ∈ steps, ∀ a, Inv a → R a (f a).2 ∧ ((f a).1 = .continueReconciling → Inv (f a).2)) →
      ∀ {a}, Inv a → R a (runSubreconcilers steps a).2
  | [], _, a, _ => refl a
  | f :: rest, each, a, held => by
    obtain ⟨first, kept⟩ := each f (List.mem_cons_self _ _) a held
    rw [runSubreconcilers_cons]
    split
    · exact trans first (runSubreconcilers_preserve refl trans
        (fun g listed => each g (List.mem_cons_of_mem _ listed)) (kept ‹_›))
    · exact first

/-- A run that returns `Requeue` lowers a measure when every step that returns
`Requeue` lowers it and every step that continues keeps it; what every step
that returns `Requeue` leaves true holds at the end. -/
theorem runSubreconcilers_requeue {μ : σ → Nat} {Post : σ → Prop} :
    ∀ {steps : List (σ → Outcome × σ)},
      (∀ f ∈ steps, ∀ a, Inv a →
        ((f a).1 = .continueReconciling → Inv (f a).2 ∧ μ (f a).2 = μ a) ∧
        ((f a).1 = .requeue → Post (f a).2 ∧ μ (f a).2 < μ a)) →
      ∀ {a}, Inv a → (runSubreconcilers steps a).1 = .requeue →
        Post (runSubreconcilers steps a).2 ∧ μ (runSubreconcilers steps a).2 < μ a
  | [], _, _, _, requeued => by simp [runSubreconcilers] at requeued
  | f :: rest, each, a, held, requeued => by
    obtain ⟨continued, lowered⟩ := each f (List.mem_cons_self _ _) a held
    rw [runSubreconcilers_cons] at requeued ⊢
    split at requeued
    · rw [if_pos ‹_›]
      obtain ⟨kept, same⟩ := continued ‹_›
      rw [← same]
      exact runSubreconcilers_requeue (fun g listed => each g (List.mem_cons_of_mem _ listed))
        kept requeued
    · rw [if_neg ‹_›]
      exact lowered requeued

/-- A fact every continuing step keeps holds at the end of a run that returned
`DoNotRequeue`, from a store where no step returns `DoNotRequeue`: every step
continued. -/
theorem runSubreconcilers_keep {Post : σ → Prop} :
    ∀ {steps : List (σ → Outcome × σ)},
      (∀ g ∈ steps, ∀ a, Inv a → (g a).1 ≠ .doNotRequeue ∧
        ((g a).1 = .continueReconciling → Inv (g a).2 ∧ (Post a → Post (g a).2))) →
      ∀ {a b}, Inv a → Post a → runSubreconcilers steps a = (.doNotRequeue, b) → Post b
  | [], _, _, _, _, post, ran => by
    simp only [runSubreconcilers, Prod.mk.injEq, true_and] at ran
    exact ran ▸ post
  | g :: rest, each, a, _, held, post, ran => by
    obtain ⟨never, continued⟩ := each g (List.mem_cons_self _ _) a held
    rw [runSubreconcilers_cons] at ran
    split at ran
    · obtain ⟨kept, keeps⟩ := continued ‹_›
      exact runSubreconcilers_keep (fun g' listed => each g' (List.mem_cons_of_mem _ listed))
        kept (keeps post) ran
    · exact absurd (congrArg Prod.fst ran) never

/-- After a run that returned `DoNotRequeue`, a fact that one listed step
establishes when it continues, and that every continuing step keeps, holds at
the end. -/
theorem runSubreconcilers_doNotRequeue {Post : σ → Prop} :
    ∀ {steps : List (σ → Outcome × σ)} {f : σ → Outcome × σ}, f ∈ steps →
      (∀ g ∈ steps, ∀ a, Inv a → (g a).1 ≠ .doNotRequeue ∧
        ((g a).1 = .continueReconciling → Inv (g a).2 ∧ (Post a → Post (g a).2))) →
      (∀ a, Inv a → (f a).1 = .continueReconciling → Post (f a).2) →
      ∀ {a b}, Inv a → runSubreconcilers steps a = (.doNotRequeue, b) → Post b
  | [], _, listed, _, _, _, _, _, _ => absurd listed (List.not_mem_nil _)
  | g :: rest, _, listed, each, makes, a, _, held, ran => by
    obtain ⟨never, continued⟩ := each g (List.mem_cons_self _ _) a held
    rw [runSubreconcilers_cons] at ran
    split at ran
    · have later := fun g' listed' => each g' (List.mem_cons_of_mem _ listed')
      obtain ⟨kept, -⟩ := continued ‹_›
      rcases List.mem_cons.mp listed with rfl | listed
      · exact runSubreconcilers_keep later kept (makes a held ‹_›) ran
      · exact runSubreconcilers_doNotRequeue listed later makes kept ran
    · exact absurd (congrArg Prod.fst ran) never

/-- A run returns `DoNotRequeue` or what a step that did not continue
returned, so a property of outcomes that holds of those holds of the run's. -/
theorem runSubreconcilers_outcome {P : Outcome → Prop} (done : P .doNotRequeue) :
    ∀ {steps : List (σ → Outcome × σ)},
      (∀ f ∈ steps, ∀ a, Inv a → ((f a).1 = .continueReconciling → Inv (f a).2) ∧
        ((f a).1 ≠ .continueReconciling → P (f a).1)) →
      ∀ {a}, Inv a → P (runSubreconcilers steps a).1
  | [], _, _, _ => done
  | f :: rest, each, a, held => by
    obtain ⟨kept, halted⟩ := each f (List.mem_cons_self _ _) a held
    rw [runSubreconcilers_cons]
    split
    · exact runSubreconcilers_outcome done (fun g listed => each g (List.mem_cons_of_mem _ listed))
        (kept ‹_›)
    · exact halted ‹_›

end Lifting

/-! ## Chains of runs -/

/-- The runs the manager makes for one object when each run is started because
the one before returned `Requeue`: run `k` is `run k`, and at most `fuel` runs
follow the first. The outcome and store of the last run made. -/
def runChain {σ : Type} (run : Nat → σ → Outcome × σ) (k : Nat) (store : σ) : Nat → Outcome × σ
  | 0 => run k store
  | fuel + 1 =>
    match run k store with
    | (.requeue, store') => runChain run (k + 1) store' fuel
    | ended => ended

section Chains
variable {σ : Type} {Inv : σ → Prop} {run : Nat → σ → Outcome × σ}

theorem runChain_succ (k : Nat) (store : σ) (fuel : Nat) :
    runChain run k store (fuel + 1) =
      if (run k store).1 = .requeue then runChain run (k + 1) (run k store).2 fuel
      else run k store := by
  simp only [runChain]
  split
  · simp_all
  · rename_i halted
    rw [if_neg fun requeued => halted _ (Prod.ext requeued rfl)]

/-- The last run of a chain starts from a store the invariant holds of, when
every run that returns `Requeue` keeps it. -/
theorem runChain_last (keeps : ∀ k a, Inv a → (run k a).1 = .requeue → Inv (run k a).2) :
    ∀ fuel k a, Inv a → ∃ k' a', Inv a' ∧ runChain run k a fuel = run k' a'
  | 0, k, a, held => ⟨k, a, held, rfl⟩
  | fuel + 1, k, a, held => by
    rw [runChain_succ]
    split
    · exact runChain_last keeps fuel (k + 1) _ (keeps k a held ‹_›)
    · exact ⟨k, a, held, rfl⟩

/-- A chain ends with a run that does not return `Requeue` within as many runs
after the first as a measure starts from, when every run that returns
`Requeue` lowers it. -/
theorem runChain_ends {μ : σ → Nat}
    (lowers : ∀ k a, Inv a → (run k a).1 = .requeue → Inv (run k a).2 ∧ μ (run k a).2 < μ a) :
    ∀ fuel k a, Inv a → μ a ≤ fuel → (runChain run k a fuel).1 ≠ .requeue
  | 0, k, a, held, bounded => fun requeued => by
    have := (lowers k a held requeued).2
    omega
  | fuel + 1, k, a, held, bounded => by
    rw [runChain_succ]
    split
    · obtain ⟨kept, lower⟩ := lowers k a held ‹_›
      exact runChain_ends lowers fuel (k + 1) _ kept (by omega)
    · assumption

end Chains

/-! ## ConfigMaps -/

/-- `utils.GetConfigMapCopy`: the data of the ConfigMap `key`, which the caller
stores under the copy's own identity. -/
def getConfigMapCopy (key : ObjectRef) (store : Store Text Body) :
    Except Bytes (List (Bytes × Text)) :=
  match store.configMap? key with
  | some data => .ok data
  | none => .error (notFound "configmaps" key.name)

/-- `utils.LoadYAMLFileFromConfigMapData`, modelled from the spec (§4.4): the
artifact `filename` of a ConfigMap's data, decoded. -/
def loadYAMLFileFromConfigMapData (codec : YamlCodec Text) (data : List (Bytes × Text))
    (filename : Bytes) : Except Bytes Fields :=
  match dataGet? data filename with
  | some text => codec.unmarshal text
  | none => .error (lit "missing " ++ filename ++ lit " in ConfigMap")

/-- What successive `updateConfigMap`s with `edits` make of a ConfigMap's data:
the artifact `filename` decoded, edited and encoded again after each edit, and
the first error. A Patch that `updateConfigMap` skips because the text did not
change is the same data. -/
def applyEdits (codec : YamlCodec Text) (filename : Bytes) :
    List (Fields → Except Bytes Fields) → List (Bytes × Text) → Except Bytes (List (Bytes × Text))
  | [], data => .ok data
  | edit :: rest, data => do
    let config ← loadYAMLFileFromConfigMapData codec data filename
    let updated ← edit config
    applyEdits codec filename rest (dataSet data filename (codec.marshal updated))

/-- The edits keep the artifact in the data. -/
theorem applyEdits_keeps {codec : YamlCodec Text} {filename : Bytes} :
    ∀ {edits : List (Fields → Except Bytes Fields)} {data data' : List (Bytes × Text)},
      applyEdits codec filename edits data = .ok data' → dataGet? data filename ≠ none →
        dataGet? data' filename ≠ none
  | [], _, _, applied, present => by
    cases applied
    exact present
  | _ :: _, _, _, applied, _ => by
    obtain ⟨_, -, applied⟩ := except_bind_eq_ok.mp applied
    obtain ⟨_, -, applied⟩ := except_bind_eq_ok.mp applied
    exact applyEdits_keeps applied (by simp)

section Text
variable [DecidableEq Text]

/-- `utils.UpdateConfigMap`, modelled from the spec (§4.4): decode the artifact
`filename` of the ConfigMap `key`, run `updateData` on it, encode it again, and
patch the artifact when the text changed. -/
def updateConfigMap (codec : YamlCodec Text) (key : ObjectRef)
    (updateData : Fields → Except Bytes Fields) (filename : Bytes) (store : Store Text Body) :
    Except Bytes (Store Text Body) := do
  let some data := store.configMap? key | throw (notFound "configmaps" key.name)
  let config ← loadYAMLFileFromConfigMapData codec data filename
  let updated ← updateData config
  let text := codec.marshal updated
  if dataGet? data filename = some text then pure store
  else pure ((store.put (.of .configMap key) (.configMap (dataSet data filename text))).record
    (.patch (.of .configMap key)))

/-- A successful `updateConfigMap` changes at most the ConfigMap's object and
writes at most one Patch of it; the ConfigMap stays there. -/
theorem updateConfigMap_eq_ok {codec : YamlCodec Text} {key : ObjectRef}
    {updateData : Fields → Except Bytes Fields} {filename : Bytes} {store store' : Store Text Body}
    (success : updateConfigMap codec key updateData filename store = .ok store') :
    ∃ data config updated, store.configMap? key = some data ∧
      loadYAMLFileFromConfigMapData codec data filename = .ok config ∧
      updateData config = .ok updated ∧
      store' = if dataGet? data filename = some (codec.marshal updated) then store
        else (store.put (.of .configMap key)
          (.configMap (dataSet data filename (codec.marshal updated)))).record
            (.patch (.of .configMap key)) := by
  unfold updateConfigMap at success
  split at success
  · rename_i data found
    obtain ⟨config, loaded, success⟩ := except_bind_eq_ok.mp success
    obtain ⟨updated, made, success⟩ := except_bind_eq_ok.mp success
    refine ⟨data, config, updated, found, loaded, made, ?_⟩
    dsimp only at success
    split_ifs at success ⊢ <;> exact (Except.ok.inj success).symm
  · cases success

/-- A successful `updateConfigMap` writes at most a Patch of its ConfigMap. -/
theorem updateConfigMap_patchesOnly {codec : YamlCodec Text} {key : ObjectRef}
    {updateData : Fields → Except Bytes Fields} {filename : Bytes} {store store' : Store Text Body}
    {allowed : Identity → Prop} (admitted : allowed (.of .configMap key))
    (success : updateConfigMap codec key updateData filename store = .ok store') :
    store.PatchesOnly allowed store' := by
  obtain ⟨data, config, updated, -, -, -, rfl⟩ := updateConfigMap_eq_ok success
  split_ifs
  · exact .refl store
  · exact .patch admitted _

/-- A successful `updateConfigMap` leaves in its ConfigMap what one edit of
`applyEdits` makes of the data it read. -/
theorem updateConfigMap_applyEdits {codec : YamlCodec Text} {key : ObjectRef}
    {updateData : Fields → Except Bytes Fields} {filename : Bytes} {store store' : Store Text Body}
    {data : List (Bytes × Text)}
    (success : updateConfigMap codec key updateData filename store = .ok store')
    (stored : store.configMap? key = some data) :
    ∃ data', store'.configMap? key = some data' ∧ ∀ edits,
      applyEdits codec filename (updateData :: edits) data = applyEdits codec filename edits data' := by
  obtain ⟨data0, config, updated, found, loaded, made, rfl⟩ := updateConfigMap_eq_ok success
  cases stored.symm.trans found
  refine ⟨dataSet data filename (codec.marshal updated), ?_,
    fun edits => by simp only [applyEdits, loaded, made, except_ok_bind]⟩
  split_ifs with same
  · rw [dataSet_of_dataGet? same]
    exact stored
  · simp

/-- A successful `updateConfigMap` changes no object but its ConfigMap. -/
theorem updateConfigMap_objects {codec : YamlCodec Text} {key : ObjectRef}
    {updateData : Fields → Except Bytes Fields} {filename : Bytes} {store store' : Store Text Body}
    (success : updateConfigMap codec key updateData filename store = .ok store') {id : Identity}
    (other : id ≠ .of .configMap key) : store'.objects id = store.objects id := by
  obtain ⟨data, config, updated, -, -, -, rfl⟩ := updateConfigMap_eq_ok success
  split_ifs
  · rfl
  · simp [Function.update_noteq other]

/-! ### A run's effect on one ConfigMap -/

/-- How a list of steps moves the artifact `filename` of the ConfigMap `key`.
Every step, from a store `Inv` holds of, never returns `DoNotRequeue` and keeps
`Inv` when it continues; it leaves the ConfigMap as it was, or it is an
`updateConfigMap` of it with the next of `edits`. -/
inductive EditsConfigMap (Inv : Store Text Body → Prop) (codec : YamlCodec Text) (key : ObjectRef)
    (filename : Bytes) :
    List (Store Text Body → Outcome × Store Text Body) → List (Fields → Except Bytes Fields) → Prop
  | nil : EditsConfigMap Inv codec key filename [] []
  | keep {f steps edits} (step : ∀ a, Inv a → (f a).1 ≠ .doNotRequeue ∧
      ((f a).1 = .continueReconciling → Inv (f a).2 ∧ (f a).2.configMap? key = a.configMap? key))
      (rest : EditsConfigMap Inv codec key filename steps edits) :
      EditsConfigMap Inv codec key filename (f :: steps) edits
  | edit {f steps edits} (updateData : Fields → Except Bytes Fields)
      (step : ∀ a, Inv a → (f a).1 ≠ .doNotRequeue ∧ ((f a).1 = .continueReconciling →
        Inv (f a).2 ∧ updateConfigMap codec key updateData filename a = .ok (f a).2))
      (rest : EditsConfigMap Inv codec key filename steps edits) :
      EditsConfigMap Inv codec key filename (f :: steps) (updateData :: edits)

namespace EditsConfigMap
variable {Inv : Store Text Body → Prop} {codec : YamlCodec Text} {key : ObjectRef} {filename : Bytes}

theorem append {steps steps' : List (Store Text Body → Outcome × Store Text Body)}
    {edits edits' : List (Fields → Except Bytes Fields)}
    (first : EditsConfigMap Inv codec key filename steps edits)
    (second : EditsConfigMap Inv codec key filename steps' edits') :
    EditsConfigMap Inv codec key filename (steps ++ steps') (edits ++ edits') := by
  induction first with
  | nil => exact second
  | keep step _ ih => exact .keep step ih
  | edit updateData step _ ih => exact .edit updateData step ih

/-- Steps listed only under a condition apply their edits only under it. -/
theorem ite {P : Prop} [Decidable P] {steps : List (Store Text Body → Outcome × Store Text Body)}
    {edits : List (Fields → Except Bytes Fields)}
    (moves : P → EditsConfigMap Inv codec key filename steps edits) :
    EditsConfigMap Inv codec key filename (if P then steps else []) (if P then edits else []) := by
  split
  · exact moves ‹P›
  · exact .nil

/-- Steps that all leave the ConfigMap as it was apply no edit. -/
theorem keeping {steps : List (Store Text Body → Outcome × Store Text Body)}
    (each : ∀ f ∈ steps, ∀ a, Inv a → (f a).1 ≠ .doNotRequeue ∧
      ((f a).1 = .continueReconciling → Inv (f a).2 ∧ (f a).2.configMap? key = a.configMap? key)) :
    EditsConfigMap Inv codec key filename steps [] := by
  induction steps with
  | nil => exact .nil
  | cons f rest ih =>
    exact .keep (each f (List.mem_cons_self _ _))
      (ih fun g listed => each g (List.mem_cons_of_mem _ listed))

end EditsConfigMap

/-- A run that returned `DoNotRequeue` leaves in the ConfigMap what its edits,
in order, make of the data the ConfigMap held at the start. -/
theorem runSubreconcilers_editsConfigMap {Inv : Store Text Body → Prop} {codec : YamlCodec Text}
    {key : ObjectRef} {filename : Bytes} {steps : List (Store Text Body → Outcome × Store Text Body)}
    {edits : List (Fields → Except Bytes Fields)} (moves : EditsConfigMap Inv codec key filename steps edits) :
    ∀ {a b : Store Text Body} {data : List (Bytes × Text)}, Inv a → a.configMap? key = some data →
      runSubreconcilers steps a = (.doNotRequeue, b) →
      ∃ data', applyEdits codec filename edits data = .ok data' ∧ b.configMap? key = some data' ∧ Inv b := by
  induction moves with
  | nil =>
    intro a b data held stored ran
    cases ran
    exact ⟨data, rfl, stored, held⟩
  | @keep f _ _ step _ ih =>
    intro a b data held stored ran
    obtain ⟨never, continued⟩ := step a held
    rw [runSubreconcilers_cons] at ran
    split at ran
    · obtain ⟨kept, same⟩ := continued ‹_›
      exact ih kept (same.trans stored) ran
    · exact absurd (congrArg Prod.fst ran) never
  | @edit f _ _ updateData step _ ih =>
    intro a b data held stored ran
    obtain ⟨never, continued⟩ := step a held
    rw [runSubreconcilers_cons] at ran
    split at ran
    · obtain ⟨kept, success⟩ := continued ‹_›
      obtain ⟨data', stored', applied⟩ := updateConfigMap_applyEdits success stored
      rw [applied]
      exact ih kept stored' ran
    · exact absurd (congrArg Prod.fst ran) never

end Text

/-! ## Resources -/

section Resources
variable [DecidableEq Text] [DecidableEq Body]

/-- `reconcile.ReconcileResource`, modelled from the spec (§4.2): create the
desired object when none has its identity, patch it when the stored one
differs, and write nothing when it is already the desired one. -/
def reconcileResource (id : Identity) (desired : Object Text Body) (store : Store Text Body) :
    Store Text Body :=
  match store.objects id with
  | none => (store.put id desired).record (.create id)
  | some existing => if existing = desired then store else (store.put id desired).record (.patch id)

/-- Afterwards the identity holds the desired object, whatever it held before. -/
@[simp] theorem reconcileResource_objects (id : Identity) (desired : Object Text Body)
    (store : Store Text Body) :
    (reconcileResource id desired store).objects = Function.update store.objects id (some desired) := by
  unfold reconcileResource
  split
  · simp
  · rename_i existing found
    split
    · rw [← ‹existing = desired›, ← found, Function.update_eq_self]
    · simp

@[simp] theorem reconcileResource_postgresOperatorInstalled (id : Identity)
    (desired : Object Text Body) (store : Store Text Body) :
    (reconcileResource id desired store).postgresOperatorInstalled =
      store.postgresOperatorInstalled := by
  unfold reconcileResource
  split
  · simp
  · split <;> simp

/-- It writes nothing when the desired object is stored already, and otherwise
one Create or Patch of the identity. -/
theorem reconcileResource_writes (id : Identity) (desired : Object Text Body)
    (store : Store Text Body) :
    (reconcileResource id desired store).writes =
      store.writes ++ match store.objects id with
        | none => [.create id]
        | some existing => if existing = desired then [] else [.patch id] := by
  unfold reconcileResource
  split
  · simp
  · split <;> simp

theorem reconcileResource_of_stored {id : Identity} {desired : Object Text Body}
    {store : Store Text Body} (stored : store.objects id = some desired) :
    reconcileResource id desired store = store := by
  simp [reconcileResource, stored]

/-- A write of one identity leaves every other identity, and the identity
itself when it already holds the object. -/
theorem reconcileResource_objects_eq {store : Store Text Body} {id id' : Identity}
    {object : Object Text Body} (kept : id' = id → store.objects id = some object) :
    (reconcileResource id object store).objects id' = store.objects id' := by
  rw [reconcileResource_objects]
  by_cases same : id' = id
  · subst same
    rw [Function.update_same, kept rfl]
  · exact Function.update_noteq same _ _

/-- On an identity that holds an object, it writes at most a Patch of it. -/
theorem reconcileResource_patchesOnly {allowed : Identity → Prop} {id : Identity}
    (admitted : allowed id) (desired : Object Text Body) {store : Store Text Body}
    {existing : Object Text Body} (stored : store.objects id = some existing) :
    store.PatchesOnly allowed (reconcileResource id desired store) := by
  simp only [reconcileResource, stored]
  split_ifs
  · exact .refl store
  · exact .patch admitted _

end Resources

end SynapseOperator.Cluster
