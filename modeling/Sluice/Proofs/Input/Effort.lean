import Sluice.Proofs.Input.Carrying
import Sluice.Proofs.Link.Load

set_option autoImplicit false

/-! How far a fetch is from its end once its token has fired. Each step brings it nearer, or takes
something from one of its links, which can send a merge back to its first field. -/

namespace Sluice

namespace MergeCall

/-- The steps to the end of a call over so many fields, as long as nothing is taken from a link. -/
def effort (fields : Nat) : MergeCall → Nat
  | .visiting position => 4 * (fields - position) + 3
  | .waiting position posture => 4 * (fields - position) + posture.effort
  | .collapsed => 0

theorem effort_le {fields : Nat} (call : MergeCall) : call.effort fields ≤ 4 * fields + 3 := by
  cases call with
  | visiting position =>
      simp only [effort]
      omega
  | waiting position posture =>
      have bound := posture.effort_le
      simp only [effort]
      omega
  | collapsed => exact Nat.zero_le _

end MergeCall

namespace Merge

def links (merge : Merge) : List LinkId :=
  merge.fields.map (·.link)

theorem links_eq (merge : Merge) : merge.links = merge.layout.map Prod.snd := by
  unfold links layout
  rw [List.map_map]
  rfl

variable {fired cancelFirst : Bool} {links : LinkStore} {merge : Merge} {call : MergeCall}
  {stepped : MergeStep} {weight : LinkId → Nat} {gauge : LinkStore → Nat}

theorem step_touched (moved : merge.step fired cancelFirst links call = some stepped) :
    links.Touched merge.links stepped.links := by
  cases call with
  | visiting position =>
      cases step_stepped moved with
      | emitted | overflowed | reused | turned => exact .same
  | waiting position posture =>
      obtain ⟨field, waited, found, waits, stored, _⟩ := step_waiting moved
      rw [stored]
      exact .set (List.mem_map_of_mem (List.mem_of_getElem? found)) (Link.stepWait_spends waits).within
  | collapsed => cases moved

private theorem going_visiting {position : Nat} {later : MergeCall}
    (steady : merge.Steady (some (.visiting position)))
    (moved : merge.step fired cancelFirst links (.visiting position) = some stepped)
    (goes : stepped.outcome = .inl later) :
    later.effort merge.fields.length + 1 ≤ MergeCall.effort merge.fields.length (.visiting position) := by
  cases step_stepped moved with
  | emitted => cases goes
  | overflowed =>
      cases goes
      exact Nat.le_add_left 1 _
  | @reused position field packet found cached reaches =>
      have within := (List.getElem?_eq_some_iff.mp found).1
      -- a cached packet never raises the floor
      have level := steady.level field (List.mem_of_getElem? found) packet cached
      rw [advance_level level] at goes
      cases goes
      simp only [MergeCall.effort]
      omega
  | turned found =>
      cases goes
      exact Nat.le_refl _

private theorem going_waiting {position : Nat} {posture : Posture} {later : MergeCall}
    (gauges : LinkStore.Gauges merge.links weight gauge)
    (moved : merge.step true cancelFirst links (.waiting position posture) = some stepped)
    (goes : stepped.outcome = .inl later) :
    gauge stepped.links + 1 ≤ gauge links ∨
      later.effort merge.fields.length + 1 ≤
        MergeCall.effort merge.fields.length (.waiting position posture) := by
  obtain ⟨field, waited, found, waits, stored, carried⟩ := step_waiting moved
  have spends := Link.stepWait_spends waits
  have listed : field.link ∈ merge.links := List.mem_map_of_mem (List.mem_of_getElem? found)
  rw [goes] at carried
  rw [stored]
  cases outcome : waited.outcome with
  | cancelled =>
      rw [outcome] at carried
      cases carried
  | waiting next =>
      rw [outcome] at carried
      cases carried
      rcases spends.waiting rfl next outcome with less | nearer
      · exact Or.inl (gauges.loses listed less)
      · exact Or.inr (Nat.add_le_add_left nearer _)
  | taken packet => exact Or.inl (gauges.loses listed (spends.taken packet outcome))

theorem step_going {later : MergeCall} (gauges : LinkStore.Gauges merge.links weight gauge)
    (steady : merge.Steady (some call))
    (moved : merge.step true cancelFirst links call = some stepped)
    (goes : stepped.outcome = .inl later) :
    gauge stepped.links + 1 ≤ gauge links ∨
      later.effort merge.fields.length + 1 ≤ call.effort merge.fields.length := by
  cases call with
  | visiting position => exact Or.inr (going_visiting steady moved goes)
  | waiting position posture => exact going_waiting gauges moved goes
  | collapsed => cases moved

end Merge

def InputCall.effort (fields : Nat) : InputCall → Nat
  | .making => 0
  | .taking posture => posture.effort
  | .joining call => call.effort fields

theorem InputCall.effort_le {fields : Nat} (call : InputCall) :
    call.effort fields ≤ 4 * fields + 3 := by
  cases call with
  | making => exact Nat.zero_le _
  | taking posture =>
      have bound := posture.effort_le
      change posture.effort ≤ 4 * fields + 3
      omega
  | joining call => exact call.effort_le

namespace Input

def breadth : Input → Nat
  | .merge held => held.fields.length
  | .source .. | .passthrough _ => 0

def links : Input → List LinkId
  | .source .. => []
  | .passthrough link => [link]
  | .merge held => held.links

variable {fired cancelFirst : Bool} {links : LinkStore} {input : Input} {call : InputCall}
  {stepped : InputStep} {weight : LinkId → Nat} {gauge : LinkStore → Nat}

theorem Stepped.breadth (moved : Stepped links input call stepped) :
    stepped.input.breadth = input.breadth := by
  cases moved with
  | made | waited | took | quit => rfl
  | joined step => exact Merge.length_stepped step

theorem Stepped.sameLinks (moved : Stepped links input call stepped) :
    stepped.input.links = input.links := by
  cases moved with
  | made | waited | took | quit => rfl
  | @joined held call stepped step =>
      change stepped.merge.links = held.links
      rw [Merge.links_eq, Merge.links_eq, Merge.layout_stepped step]

theorem step_touched (moved : input.step fired cancelFirst links call = some stepped) :
    links.Touched input.links stepped.links := by
  cases input with
  | source nextId schema =>
      cases call with
      | making =>
          cases moved
          exact .same
      | taking | joining => cases moved
  | passthrough id =>
      cases call with
      | taking posture =>
          simp only [step] at moved
          cases waits : (links.get id).stepWait Link.acceptAny fired cancelFirst posture with
          | none =>
              rw [waits] at moved
              cases moved
          | some waited =>
              simp only [waits, Option.some.injEq] at moved
              subst moved
              exact .set (List.mem_singleton_self id) (Link.stepWait_spends waits).within
      | making | joining => cases moved
  | merge held =>
      cases call with
      | joining position =>
          simp only [step] at moved
          cases joined : held.step fired cancelFirst links position with
          | none =>
              rw [joined] at moved
              cases moved
          | some after =>
              simp only [joined, Option.some.injEq] at moved
              subst moved
              exact Merge.step_touched joined
      | making | taking => cases moved

theorem step_taking {id : LinkId} {later : InputCall} {posture : Posture}
    (moved : step fired cancelFirst links (.passthrough id) (.taking posture) = some stepped)
    (goes : stepped.outcome = .inl later) :
    ∃ waited next, (links.get id).stepWait Link.acceptAny fired cancelFirst posture = some waited ∧
      waited.outcome = .waiting next ∧ later = .taking next ∧
      stepped.links = links.set id waited.link := by
  simp only [step] at moved
  cases waits : (links.get id).stepWait Link.acceptAny fired cancelFirst posture with
  | none =>
      rw [waits] at moved
      cases moved
  | some waited =>
      simp only [waits, Option.some.injEq] at moved
      subst moved
      cases outcome : waited.outcome with
      | waiting next =>
          simp only [outcome] at goes
          cases goes
          exact ⟨waited, next, rfl, outcome, rfl, rfl⟩
      | taken | cancelled =>
          simp only [outcome] at goes
          cases goes

theorem step_going {later : InputCall} (gauges : LinkStore.Gauges input.links weight gauge)
    (joins : input.Joins (fun _ _ => True) call.joining?)
    (moved : input.step true cancelFirst links call = some stepped)
    (goes : stepped.outcome = .inl later) :
    gauge stepped.links + 1 ≤ gauge links ∨
      later.effort input.breadth + 1 ≤ call.effort input.breadth := by
  cases input with
  | source nextId schema =>
      cases call with
      | making =>
          cases moved
          cases goes
      | taking | joining => cases moved
  | passthrough id =>
      cases call with
      | taking posture =>
          obtain ⟨waited, next, waits, outcome, same, stored⟩ := step_taking moved goes
          subst same
          rw [stored]
          rcases (Link.stepWait_spends waits).waiting rfl next outcome with less | nearer
          · exact Or.inl (gauges.loses (List.mem_singleton_self id) less)
          · exact Or.inr nearer
      | making | joining => cases moved
  | merge held =>
      cases call with
      | joining position =>
          simp only [step] at moved
          cases joined : held.step true cancelFirst links position with
          | none =>
              rw [joined] at moved
              cases moved
          | some after =>
              simp only [joined, Option.some.injEq] at moved
              subst moved
              cases outcome : after.outcome with
              | inl next =>
                  simp only [outcome] at goes
                  cases goes
                  exact Merge.step_going gauges joins.1 joined outcome
              | inr ended =>
                  simp only [outcome] at goes
                  cases goes
      | making | taking => cases moved

/-- With what its links have in store at this price, a call whose token has fired is ever nearer to its
end. -/
theorem step_pulls {later : InputCall} {price : Nat} (covers : 4 * input.breadth + 4 ≤ price)
    (gauges : LinkStore.Gauges input.links weight gauge)
    (joins : input.Joins (fun _ _ => True) call.joining?)
    (moved : input.step true cancelFirst links call = some stepped)
    (goes : stepped.outcome = .inl later) :
    later.effort input.breadth + price * gauge stepped.links + 1 ≤
      call.effort input.breadth + price * gauge links := by
  rcases step_going gauges joins moved goes with less | nearer
  · have taken := Nat.mul_le_mul_left price less
    have restart := @InputCall.effort_le input.breadth later
    rw [Nat.mul_add, Nat.mul_one] at taken
    omega
  · have kept := Nat.mul_le_mul_left price (gauges.touched (step_touched moved))
    omega

end Input
end Sluice
