import SynapseOperator.Status

/-!
`updateSynapseStatus` against a concurrent writer.

A status step reads the Synapse (`getLatestSynapse`), edits its Status, and
calls `updateSynapseStatus`, which reads the Synapse again and, when the
Status differs, patches it with `client.MergeFrom(current)`. Any number of
writes by another party (`MautrixSignalReconciler.triggerSynapseReconciliation`
setting `NeedsReconcile`, say) may fall before, between and after these. The
merge patch is the JSON difference between `current` and the step's object:
it carries the step's resourceVersion exactly when that differs from
`current`'s, and the store then refuses it with Conflict unless that version
is the stored one.

`Inv` holds of every state a run reaches (`run_inv`): the step's version is
never ahead of the store, and while it is the version of the Status the step
compares against, its candidate agrees with that Status outside the step's
fields. `patch_keeps_field` derives from it that the step's patch leaves every
leaf outside the step's fields as the store held it just before.
-/

namespace SynapseOperator.StatusPatch
open SynapseOperator.Api SynapseOperator.Status
open SynapseOperator.Bridges (exampleSynapse)

/-- The Synapse as the store holds it: its Status and its resourceVersion. -/
structure Stored where
  resourceVersion : Nat
  status : SynapseStatus
  deriving DecidableEq, Repr

/-- Where the step is: before its first read; holding the version it read and
its candidate; also holding what `updateSynapseStatus` read; done. -/
inductive Phase where
  | ready
  | read (version : Nat) (candidate : SynapseStatus)
  | compared (version : Nat) (candidate : SynapseStatus) (current : Stored)
  | finished
  deriving Repr

/-- What can happen next: another party's write, or the step's next action. -/
inductive Event where
  | write (status : SynapseStatus)
  | get
  | reread
  | patch
  deriving Repr

structure System where
  stored : Stored
  phase : Phase

/-- The store's answer to the step's merge patch; `none` is Conflict. -/
def applyPatch (version : Nat) (candidate : SynapseStatus) (current stored : Stored) :
    Option Stored :=
  if version ≠ current.resourceVersion ∧ version ≠ stored.resourceVersion then none
  else some ⟨stored.resourceVersion + 1, mergeStatus current.status candidate stored.status⟩

/-- One event. Another party's write stores any Status under a new version;
each action of the step applies only in its phase. -/
def step (edit : SynapseStatus → Option SynapseStatus) (sys : System) : Event → System
  | .write status => { sys with stored := ⟨sys.stored.resourceVersion + 1, status⟩ }
  | .get =>
    match sys.phase with
    | .ready =>
      match edit sys.stored.status with
      | some candidate => { sys with phase := .read sys.stored.resourceVersion candidate }
      | none => { sys with phase := .finished }
    | _ => sys
  | .reread =>
    match sys.phase with
    | .read version candidate =>
      if candidate = sys.stored.status then { sys with phase := .finished }
      else { sys with phase := .compared version candidate sys.stored }
    | _ => sys
  | .patch =>
    match sys.phase with
    | .compared version candidate current =>
      { stored := (applyPatch version candidate current sys.stored).getD sys.stored,
        phase := .finished }
    | _ => sys

/-- A run: the events in order. -/
def run (edit : SynapseStatus → Option SynapseStatus) (sys : System) (events : List Event) :
    System :=
  events.foldl (step edit) sys

/-! ## What every reachable state satisfies -/

/-- The step's version is never ahead of the store; while it is the version
of the Status the step compares against, the candidate agrees with that Status
outside `fields`. -/
def Inv (fields : List StatusField) (sys : System) : Prop :=
  match sys.phase with
  | .ready | .finished => True
  | .read version candidate =>
    version ≤ sys.stored.resourceVersion ∧
      (version = sys.stored.resourceVersion → Agrees fields candidate sys.stored.status)
  | .compared version candidate current =>
    version ≤ current.resourceVersion ∧ current.resourceVersion ≤ sys.stored.resourceVersion ∧
      (version = current.resourceVersion → Agrees fields candidate current.status)

section
variable {fields : List StatusField} {edit : SynapseStatus → Option SynapseStatus}

/-- Every event keeps `Inv`, for an edit that changes only `fields`. -/
theorem step_inv (agrees : ∀ status candidate, edit status = some candidate →
      Agrees fields candidate status)
    {sys : System} (held : Inv fields sys) : ∀ event, Inv fields (step edit sys event)
  | .write status => by
    rcases sys with ⟨stored, _ | ⟨version, candidate⟩ | ⟨version, candidate, current⟩ | _⟩ <;>
      simp only [Inv, step] at held ⊢
    · exact ⟨by omega, fun same => absurd same (by omega)⟩
    · exact ⟨held.1, by omega, held.2.2⟩
  | .get => by
    rcases sys with ⟨stored, _ | _ | _ | _⟩ <;> simp only [step] <;> try exact held
    cases made : edit stored.status with
    | none => trivial
    | some candidate => exact ⟨le_refl _, fun _ => agrees _ _ made⟩
  | .reread => by
    rcases sys with ⟨stored, _ | ⟨version, candidate⟩ | _ | _⟩ <;> simp only [step] <;>
      try exact held
    split
    · trivial
    · exact ⟨held.1, le_refl _, held.2⟩
  | .patch => by
    rcases sys with ⟨stored, _ | _ | _ | _⟩ <;> simp only [step] <;> first | exact held | trivial

/-- `Inv` holds all along a run that starts with the step ready. -/
theorem run_inv (agrees : ∀ status candidate, edit status = some candidate →
      Agrees fields candidate status)
    (events : List Event) {sys : System} (held : Inv fields sys) :
    Inv fields (run edit sys events) := by
  induction events generalizing sys with
  | nil => exact held
  | cons event rest later => exact later (step_inv agrees held event)

/-- From a state satisfying `Inv`, the step's patch keeps every leaf outside
`fields`: a patch from a stale read carries its version and is refused, a
patch from a fresh read carries only leaves in `fields`. -/
theorem patch_keeps_field {sys : System} (held : Inv fields sys) {f : StatusField}
    (unowned : f ∉ fields) : (step edit sys .patch).stored.status.field f = sys.stored.status.field f := by
  rcases sys with ⟨stored, _ | _ | ⟨version, candidate, current⟩ | _⟩ <;> simp only [step]
  obtain ⟨behind, notAhead, fresh⟩ : version ≤ current.resourceVersion ∧
    current.resourceVersion ≤ stored.resourceVersion ∧
      (version = current.resourceVersion → Agrees fields candidate current.status) := held
  unfold applyPatch
  by_cases stale : version = current.resourceVersion
  · rw [if_neg (fun refused => refused.1 stale), Option.getD_some, field_mergeStatus,
      if_pos (fresh stale f unowned)]
  · rw [if_pos ⟨stale, by omega⟩, Option.getD_none]

end

/-- Whatever another party writes, and wherever its writes fall among the
step's two reads and its patch, the patch of a status-writing step leaves
every Status leaf outside the step's fields with the value the store held
just before it. -/
theorem status_patch_keeps_unowned_fields (w : StatusWriter) (s : Synapse) (stored : Stored)
    (events : List Event) (f : StatusField) (unowned : f ∉ w.fields) :
    (step (w.edit s) (run (w.edit s) ⟨stored, .ready⟩ events) .patch).stored.status.field f =
      (run (w.edit s) ⟨stored, .ready⟩ events).stored.status.field f :=
  patch_keeps_field
    (@run_inv w.fields _ (fun _ _ built => StatusWriter.edit_agrees built) events ⟨stored, .ready⟩
      trivial)
    unowned

/-- `triggerSynapseReconciliation` sets `NeedsReconcile` between
`updateSynapseStatus`'s read and its patch of a Synapse whose Status does not
yet hold its server name: the flag survives. -/
theorem status_patch_keeps_unowned_fields_example :
    StatusField.needsReconcile ∉ StatusWriter.setStatusHomeserverConfiguration.fields ∧
      (step (StatusWriter.setStatusHomeserverConfiguration.edit exampleSynapse)
          (run (StatusWriter.setStatusHomeserverConfiguration.edit exampleSynapse) ⟨⟨0, {}⟩, .ready⟩
            [.get, .reread, .write { needsReconcile := true }]) .patch).stored.status.field
          .needsReconcile = .flag true :=
  ⟨by decide, status_patch_keeps_unowned_fields _ _ _ _ _ (by decide)⟩

end SynapseOperator.StatusPatch
