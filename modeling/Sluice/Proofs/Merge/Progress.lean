import Sluice.Proofs.Input.Effort
import Sluice.Proofs.Merge.Cancellation
import Sluice.Proofs.Merge.Wakeup
import Sluice.Proofs.Stage.Reordering

set_option autoImplicit false

/-! Progress of a rendezvous. A visit goes back to its first field only with a packet above the floor that it
has just taken, so a call that finds no more packets returns or comes to rest. It waits for the first field by
name that is behind, with all fields before it at the floor, and takes nothing from a field that has arrived. -/

namespace Sluice

/-- How many steps a wait is from its rest, as long as its link has nothing for it. -/
def Posture.toRest : Posture → Nat
  | .looking => 3
  | .turning => 2
  | .parked => 1

namespace Link

variable {accept : Packet → Bool} {fired cancelFirst : Bool} {posture : Posture} {link : Link}
  {stepped : WaitStep}

theorem Attended.nears {next : Posture} (attended : link.Attended accept fired posture stepped)
    (waits : stepped.outcome = .waiting next) :
    stepped.link.load + 1 ≤ link.load ∨ next.toRest + 1 ≤ posture.toRest := by
  cases attended with
  | took | quit | abandoned => cases waits
  | refused slot => exact Or.inl (Nat.le_of_eq (load_occupied slot))
  | turned | parked =>
      cases waits
      exact Or.inr (Nat.le_refl _)
  | spent permitted =>
      have spent := Bell.load_spendPermit permitted
      have less := @load_bell link link.bell.spendPermit
      apply Or.inl
      change Link.load { link with bell := link.bell.spendPermit } + 1 ≤ link.load
      omega
  | woke woken =>
      have left := Bell.load_leave woken
      have less := @load_bell link link.bell.leave
      apply Or.inl
      change Link.load { link with bell := link.bell.leave } + 1 ≤ link.load
      omega

end Link

/-- How many steps a call over so many fields is from its rest, as long as nothing is taken from a link. -/
def MergeCall.toRest (fields : Nat) : MergeCall → Nat
  | .visiting position => 4 * (fields - position) + 4
  | .waiting position posture => 4 * (fields - position) + posture.toRest
  | .collapsed => 1

namespace Merge

variable {fired cancelFirst : Bool} {links : LinkStore} {merge : Merge} {call : MergeCall}
  {stepped : MergeStep}

theorem step_blocked (steady : merge.Steady (some call))
    (blocked : merge.step fired cancelFirst links call = none) :
    call = .collapsed ∨ fired = false ∧ ∃ position field, call = .waiting position .parked ∧
      merge.fields[position]? = some field ∧ (links.get field.link).bell.listener ≠ .woken := by
  cases call with
  | collapsed => exact Or.inl rfl
  | visiting position =>
      simp only [step] at blocked
      split at blocked
      · split at blocked <;> cases blocked
      · split at blocked
        · split at blocked <;> cases blocked
        · cases blocked
  | waiting position posture =>
      obtain ⟨field, found, _⟩ := steady.awaited position posture rfl
      cases waits : (links.get field.link).stepWait (Link.acceptFrom merge.floor) fired cancelFirst
          posture with
      | none =>
          obtain ⟨parked, unwoken, unfired⟩ := Link.stepWait_blocked waits
          subst parked
          exact Or.inr ⟨unfired, position, field, rfl, found, unwoken⟩
      | some waited =>
          simp only [step, found, waits] at blocked
          split at blocked <;> cases blocked

theorem Stepped.spares (apart : merge.Apart) (steady : merge.Steady (some call))
    (moved : Stepped links merge call stepped) {field : MergeField} (member : field ∈ merge.fields)
    (stands : StandsAt field merge.floor) :
    (stepped.links.get field.link).slot = (links.get field.link).slot := by
  obtain ⟨index, atIndex⟩ := List.mem_iff_getElem?.mp member
  have elsewhere : ∀ {position : Nat} {posture : Posture} {awaited : MergeField} {link : Link},
      call = .waiting position posture → merge.fields[position]? = some awaited →
      ((links.set awaited.link link).get field.link).slot = (links.get field.link).slot := by
    intro position posture awaited link waits found
    obtain ⟨other, there, lies⟩ := steady.awaited position posture (congrArg some waits)
    cases there.symm.trans found
    have different : awaited.link ≠ field.link := by
      intro same
      have here := apart.at found atIndex same
      subst here
      cases found.symm.trans atIndex
      obtain ⟨packet, cached, level⟩ := stands
      have below := lies packet cached
      omega
    rw [LinkStore.get_set_other different]
  cases moved with
  | emitted | overflowed | reused | turned => rfl
  | waited found | discarded found | cancelled found | kept found => exact elsewhere rfl found

end Merge

namespace MergeSession

variable {links : LinkStore} {bindings : List Binding} {session next later : MergeSession}
  {action : MergeAction} {actions : List MergeAction} {fired cancelFirst : Bool}

end MergeSession
end Sluice
