import SynapseOperator.Api

/-!
Which bridges a Synapse's Status records.

`updateSynapseStatusBridges` lists every Heisenbridge and every MautrixSignal,
in all namespaces, and runs one loop over each list: a bridge whose
`Spec.Synapse.Name` is the Synapse's name marks that kind of bridge enabled
and records its name. `markBridges_eq` says once what a loop computes: the
last listed bridge that matches wins, and with none the Status is left as it
was read. From it, `markBridges_recordsReference`: a bridge that references
the Synapse, namespace included, enables it, and the recorded name is the last
referencing bridge's whenever no bridge elsewhere names a Synapse of the same
name.

The loop compares names only, where `fetchSynapseInstance` resolves the
namespace too, and it never clears a flag; neither is relied on below.
-/

namespace SynapseOperator.Bridges
open SynapseOperator.Api

/-- One `for _, b := range list.Items` loop of `updateSynapseStatusBridges`:
a bridge whose `Spec.Synapse.Name` is the Synapse's name marks the bridge
enabled under its own name. -/
def markBridges {Bridge : Type} (name synapseName : Bridge → Bytes) (s : Synapse)
    (status : BridgeStatus) (items : List Bridge) : BridgeStatus :=
  items.foldl (fun status b =>
    if synapseName b = s.name then { status with enabled := true, name := name b } else status)
    status

/-- The Synapse `updateSynapseStatusBridges` hands to `updateSynapseStatus`,
built from the Synapse it read and the two List results. The code ignores an
error of List, which leaves the list empty. -/
def markListedBridges (s : Synapse) (hList : List Heisenbridge) (msList : List MautrixSignal) :
    Synapse :=
  { s with status.bridges :=
    { heisenbridge :=
        markBridges Heisenbridge.name (·.synapse.name) s s.status.bridges.heisenbridge hList
      mautrixSignal :=
        markBridges MautrixSignal.name (·.spec.synapse.name) s s.status.bridges.mautrixSignal
          msList } }

section markBridges
variable {Bridge : Type} (name synapseName : Bridge → Bytes) (s : Synapse)

/-- A loop's result: the last listed bridge naming the Synapse, or the Status
as it was read when there is none. -/
theorem markBridges_eq (status : BridgeStatus) (items : List Bridge) :
    markBridges name synapseName s status items =
      match (items.filter (synapseName · = s.name)).getLast? with
      | some b => { status with enabled := true, name := name b }
      | none => status := by
  induction items using List.reverseRecOn with
  | nil => rfl
  | append_singleton items b previous =>
    unfold markBridges at previous ⊢
    by_cases hit : synapseName b = s.name <;>
      simp [List.foldl_append, List.filter_append, hit, previous]

/-- The name one loop records: that of the last listed bridge whose
`Spec.Synapse.Name` is the Synapse's name, if there is one. -/
def lastMarked (items : List Bridge) : Option Bytes :=
  ((items.filter (synapseName · = s.name)).getLast?).map name

/-- A loop depends on the list only through the name it records. -/
theorem markBridges_congr {items items' : List Bridge}
    (same : lastMarked name synapseName s items = lastMarked name synapseName s items')
    (status : BridgeStatus) :
    markBridges name synapseName s status items = markBridges name synapseName s status items' := by
  unfold lastMarked at same
  rw [markBridges_eq, markBridges_eq]
  split <;> split <;> simp_all

/-- A loop reads the Synapse's name only. -/
@[simp] theorem markBridges_with_status (st : SynapseStatus) :
    markBridges name synapseName { s with status := st } = markBridges name synapseName s := rfl

/-- Running a loop again over the same list changes nothing. -/
theorem markBridges_idem (status : BridgeStatus) (items : List Bridge) :
    markBridges name synapseName s (markBridges name synapseName s status items) items =
      markBridges name synapseName s status items := by
  rw [markBridges_eq, markBridges_eq]
  split <;> simp_all

/-- What the Status says about one kind of bridge: enabled when a listed bridge
references the Synapse, and, when every listed bridge naming a Synapse of that
name references this one, under the name of the last that does. -/
def RecordsReference (synapseKey : Bridge → ObjectRef) (items : List Bridge)
    (status : BridgeStatus) : Prop :=
  ((∃ b ∈ items, synapseKey b = s.key) → status.enabled = true) ∧
    ((∀ b ∈ items, (synapseKey b).name = s.name → synapseKey b = s.key) →
      ∀ b, (items.filter (synapseKey · = s.key)).getLast? = some b → status.name = name b)

theorem markBridges_recordsReference {synapseKey : Bridge → ObjectRef}
    (named : ∀ b, (synapseKey b).name = synapseName b) (status : BridgeStatus)
    (items : List Bridge) :
    RecordsReference name s synapseKey items (markBridges name synapseName s status items) := by
  rw [markBridges_eq]
  constructor
  · rintro ⟨b, listed, references⟩
    have matched : b ∈ items.filter (synapseName · = s.name) := by
      simp [listed, ← named, references, Synapse.key]
    obtain ⟨last, found⟩ := Option.ne_none_iff_exists'.mp
      (mt List.getLast?_eq_none_iff.mp (List.ne_nil_of_mem matched))
    simp [found]
  · intro onlyReferences b found
    have sameFilter : items.filter (synapseName · = s.name) =
        items.filter (synapseKey · = s.key) := List.filter_congr fun b listed => by
      by_cases sameName : synapseName b = s.name
      · simp [sameName, onlyReferences b listed ((named b).trans sameName)]
      · have different : synapseKey b ≠ s.key := fun same => sameName (by rw [← named, same]; rfl)
        simp [sameName, different]
    simp [sameFilter, found]

end markBridges

/-- A Synapse `synapse` in the namespace `matrix`. -/
def exampleSynapse : Synapse :=
  { name := lit "synapse", ns := lit "matrix",
    spec := { configMap := none, values := ⟨lit "example.com", false⟩,
              createNewPostgreSQL := false, isOpenshift := false } }

/-- Two Heisenbridges next to it that both reference it. -/
def heisenbridgeA : Heisenbridge := ⟨lit "heisenbridge-a", lit "matrix", ⟨lit "synapse", []⟩⟩

def heisenbridgeB : Heisenbridge := ⟨lit "heisenbridge-b", lit "matrix", ⟨lit "synapse", []⟩⟩

end SynapseOperator.Bridges
