import ChainBroker.Broker
import ChainBroker.Proofs.Dialogue

/-!
# Operations of the broker in their surroundings

What an operation says to a platform, to servers and to a workbench is what its own questions come
to, one after the other. The parts of a setup do not see each other: what a platform is asked is on
the left of the log, and everything else on the right.
-/

namespace ChainBroker

open Dialogue Attempt

namespace Broker

variable {I : Interface} {α : Type} {s : Setup I} {log : List (Exchange (Surroundings I))}

theorem transcript_run_iff {a : Attempt interface Failure α} {r : Except Failure α} :
    Transcript (s.run a).run log r ↔
      ∃ outer, Transcript a.run outer r ∧ Spelled s.answer outer log :=
  transcript_interpret_iff

/-- A provision looks the plan up and leaves the rest to the platform. -/
theorem transcript_provision {catalog : Catalog} {serviceId planId instanceId : String}
    {log : List (Exchange interface)} {r : Except Failure Unit}
    (h : Transcript (provision catalog serviceId planId instanceId).run log r) :
    (∃ e, catalog.plan serviceId planId = .error e ∧ log = [] ∧ r = .error e) ∨
      ∃ plan, catalog.plan serviceId planId = .ok plan ∧
        log = [⟨.provision (plan.workload instanceId), r⟩] := by
  unfold provision at h
  cases lookup : catalog.plan serviceId planId with
  | error e =>
    rw [lookup, ofExcept_error_bind] at h
    obtain ⟨rfl, rfl⟩ := transcript_throw_iff.mp h
    exact .inl ⟨e, rfl, rfl, rfl⟩
  | ok plan =>
    rw [lookup, ofExcept_ok_bind] at h
    obtain ⟨answer, rest, rfl, h1⟩ := transcript_question_bind_iff.mp h
    obtain ⟨rfl, rfl⟩ := transcript_ofExcept_iff.mp h1
    rw [mapError_id]
    exact .inr ⟨plan, rfl, rfl⟩

/-! ## The parts of a setup -/

theorem transcript_onPlatform_iff {a : Attempt I Failure α} {r : Except Failure α} :
    Transcript (Setup.answer.onPlatform a) log r ↔
      ∃ inner, Transcript a.run inner r ∧ log = inner.map .inl :=
  transcript_interpret_iff.trans (exists_congr fun _ => and_congr_right fun _ => spelled_inl_iff)

theorem transcript_besides_iff {a : Attempt Contract.interface Failure α} {r : Except Failure α} :
    Transcript (Setup.answer.besides (I := I) a) log r ↔
      ∃ inner, Transcript a.run inner r ∧ log = inner.map .inr :=
  transcript_interpret_iff.trans (exists_congr fun _ => and_congr_right fun _ => spelled_inr_iff)

/-- An exchange with the workbench, among all others. -/
def atWorkbench (e : Exchange Workbench.interface) : Exchange (Surroundings I) :=
  ⟨.inr (.inr e.1), e.2⟩

/-- The deploy tool speaks to the workbench only. -/
theorem transcript_deploy_iff {contract : Contract} {inst : Instance} {port : String}
    {r : Except Failure Deployment} :
    Transcript (s.answer (.deploy contract inst port)) log r ↔
      ∃ inner, Transcript (s.tool.deploy contract inst port).run inner r ∧
        log = inner.map atWorkbench := by
  show Transcript (Setup.answer.besides _) log r ↔ _
  rw [transcript_besides_iff]
  constructor
  · rintro ⟨middle, h, rfl⟩
    obtain ⟨inner, hinner, spelled⟩ := transcript_interpret_iff.mp h
    rw [spelled_inr_iff.mp spelled, List.map_map]
    exact ⟨inner, hinner, rfl⟩
  · rintro ⟨inner, h, rfl⟩
    refine ⟨inner.map .inr, transcript_interpret_iff.mpr ⟨inner, h, spelled_inr_iff.mpr rfl⟩, ?_⟩
    rw [List.map_map]
    rfl

end Broker

end ChainBroker
