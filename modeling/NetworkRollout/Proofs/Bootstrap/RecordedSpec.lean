import NetworkRollout.Proofs.Bootstrap.Prepare
import NetworkRollout.Proofs.Bootstrap.Store
import NetworkRollout.Proofs.Spec.RoundTrip

/-!
# The record of an applied spec

A pass records the spec that it applied as a text, and the next pass reads the text. What the text
leaves out, such as a section that is not there, is filled in again when it is read, and nothing
else is. So the record is that spec, and no two specs have one record.

* `Surroundings.KeepsText`: a store that gives back what it was given.
* `Surroundings.KeepsText.bind_ofText?`: what a pass reads of a record.
* `recordedSpec`: a record reads back as the spec that was recorded.
-/

namespace NetworkRollout

open PassM

variable {σ : Type} {env : Surroundings σ}

/-- What is recorded under a key in a world is recalled, if the store takes it and answers. -/
def Surroundings.KeepsText (env : Surroundings σ) (key value : String) (w : σ) : Prop :=
  (env.record key value w).1 = .ok () →
    ∀ text, (env.recorded key (env.record key value w).2).1 = .ok text → text = some value

/-- Surroundings with a store keep every text. -/
theorem Surroundings.StoresIn.keepsText {store : TextStore σ} (h : env.StoresIn store)
    (key value : String) (w : σ) : env.KeepsText key value w := by
  intro hrecord text hrecall
  rw [h.recorded hrecall, (h.record_ok hrecord).entry]

/-- The text of a spec, recorded and recalled, reads as that spec. -/
theorem Surroundings.KeepsText.bind_ofText? {spec : NetworkSpec} {w : σ} {text : Option String}
    (h : env.KeepsText Names.appliedSpecKey spec.toText w)
    (hrecord : (env.record Names.appliedSpecKey spec.toText w).1 = .ok ())
    (hrecall : (env.recorded Names.appliedSpecKey
      (env.record Names.appliedSpecKey spec.toText w).2).1 = .ok text) :
    text.bind NetworkSpec.ofText? = some spec := by
  rw [h hrecord text hrecall, Option.bind_some, NetworkSpec.ofText?_toText]

namespace Prepared

/-- Records a spec as the one applied last, and reads the record. -/
def recordAndRead (env : Surroundings σ) (spec : NetworkSpec) : PassM σ (Option NetworkSpec) := do
  PassM.ask (env.record Names.appliedSpecKey spec.toText)
  appliedSpec env

end Prepared

/-- Every spec, whatever it holds and leaves out, is read as it was recorded, unless the store fails
one of the two; and two specs with the same text are the same. -/
theorem recordedSpec (env : Surroundings σ) (spec : NetworkSpec) (run : Run σ)
    (hkeeps : env.KeepsText Names.appliedSpecKey spec.toText run.world) :
    let recording := env.record Names.appliedSpecKey spec.toText run.world
    let recalling := env.recorded Names.appliedSpecKey recording.2
    ((Prepared.recordAndRead env spec).run.run run).1 =
        (do recording.1; let _ ← recalling.1; return some spec) ∧
      ∀ other : NetworkSpec, other.toText = spec.toText → other = spec := by
  intro recording recalling
  refine ⟨?_, fun other hsame => NetworkSpec.toText_injective hsame⟩
  suffices hends : Ends (Prepared.recordAndRead env spec) run fun answer _ =>
      answer = (do recording.1; let _ ← recalling.1; return some spec) from hends
  have hrecording : recording = env.record Names.appliedSpecKey spec.toText run.world := rfl
  unfold Prepared.recordAndRead
  rw [ends_bind, ends_ask, ← hrecording]
  cases hrecord : recording.1 with
  | error e => rfl
  | ok _ =>
    have hrecalling : recalling = env.recorded Names.appliedSpecKey
      (asked run (env.record Names.appliedSpecKey spec.toText)).world := rfl
    dsimp only
    rw [Prepared.ends_appliedSpec, ← hrecalling]
    cases hrecall : recalling.1 with
    | error e => rfl
    | ok text => exact congrArg Except.ok (hkeeps.bind_ofText? hrecord hrecall)

namespace NetworkSpec

/-- A spec with empty sections, lists and texts, and with texts that are escaped when written. -/
def awkward : NetworkSpec where
  serviceNetwork := ["", "\u0041 \"\\\n\x00 é😀"]
  defaultNetwork :=
    { overlay := some
        { genevePort := some 4294967295
          hybridOverlay := some {}
          ipsec := some {}
          policyAudit := some {} } }
  migration := some { mtu := some { machine := some {} } }
  flowExport := some { ipfix := some { endpoints := [""] } }

end NetworkSpec

/-- In a store that answers, such a spec comes back. -/
theorem recordedSpec_awkward :
    let env := Script.surroundings {}
    env.KeepsText Names.appliedSpecKey NetworkSpec.awkward.toText {} ∧
      ((Prepared.recordAndRead env .awkward).run.run { world := {} }).1 =
        .ok (some .awkward) := by
  intro env
  have hkeeps : env.KeepsText Names.appliedSpecKey NetworkSpec.awkward.toText {} :=
    (Script.storesIn {}).keepsText _ _ _
  exact ⟨hkeeps, (recordedSpec env .awkward { world := {} } hkeeps).1⟩

end NetworkRollout
