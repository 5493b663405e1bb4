import Sluice.Proofs.Link.Wakeup
import Sluice.Proofs.Merge.Resumption

set_option autoImplicit false

/-! Wake-ups of a merge. Each of its links is a handoff of its own, with the call of the merge as its consumer
while the call waits there. A call that has come to rest has nothing to take. -/

namespace Sluice

def WaitOutcome.posture? : WaitOutcome → Option Posture
  | .waiting posture => some posture
  | .taken _ | .cancelled => none

namespace Handoff

variable {handoff other : Handoff} {vigil : Vigil} {stepped : WaitStep} {packet : Packet}
  {cancelFirst : Bool}

theorem link_proceed : (handoff.proceed vigil stepped).link = stepped.link := by
  unfold proceed
  cases stepped.outcome <;> rfl

theorem due_proceed : (handoff.proceed vigil stepped).due = handoff.due := by
  unfold proceed
  cases stepped.outcome <;> rfl

theorem posture_proceed :
    (handoff.proceed vigil stepped).vigil.map (·.posture) = stepped.outcome.posture? := by
  unfold proceed
  cases stepped.outcome <;> rfl

private theorem parked_iff_posture :
    handoff.Parked ↔ handoff.vigil.map (·.posture) = some .parked := by
  unfold Parked
  rw [Option.map_eq_some_iff]

theorem Alert.congr (alert : handoff.Alert) (link : other.link = handoff.link)
    (due : other.due = handoff.due)
    (posture : other.vigil.map (·.posture) = handoff.vigil.map (·.posture)) : other.Alert := by
  refine ⟨?_, ?_⟩
  · rw [link, parked_iff_posture, posture, ← parked_iff_posture]
    exact alert.listens
  · intro vigil packet waits lies
    rw [waits, Option.map_some] at posture
    obtain ⟨before, waited, same⟩ := Option.map_eq_some_iff.mp posture.symm
    rw [link] at lies ⊢
    rw [due, ← same]
    exact alert.told before packet waited lies

theorem Alert.begin (alert : handoff.Alert) (idle : handoff.vigil = none)
    (link : other.link = handoff.link) (due : other.due = handoff.due)
    (posture : other.vigil.map (·.posture) = some .looking) : other.Alert := by
  have began : handoff.act (.begin Link.acceptAny false) =
      some { handoff with
        vigil := some { accept := Link.acceptAny, posture := .looking, fired := false } } := by
    simp only [Handoff.act, idle]
  exact (alert.act began).congr link due posture

theorem Alert.put (alert : handoff.Alert) (link : other.link = (handoff.link.put packet).1)
    (due : other.due = handoff.due)
    (posture : other.vigil.map (·.posture) = handoff.vigil.map (·.posture)) : other.Alert := by
  have ran : Handoff.run [.fill packet, .ring] handoff =
      some { handoff with link := (handoff.link.put packet).1 } := rfl
  exact (alert.run ran).congr link due posture

theorem Alert.proceed (alert : handoff.Alert) (vigil : Vigil)
    (waits : handoff.vigil.map (·.posture) = some vigil.posture)
    (moved : handoff.link.stepWait vigil.accept vigil.fired cancelFirst vigil.posture = some stepped)
    (link : other.link = stepped.link) (due : other.due = handoff.due)
    (onward : other.vigil.map (·.posture) = stepped.outcome.posture?) : other.Alert := by
  have ready : Alert { handoff with vigil := some vigil } := alert.congr rfl rfl waits.symm
  have steps : Handoff.act { handoff with vigil := some vigil } (.step cancelFirst) =
      some (Handoff.proceed { handoff with vigil := some vigil } vigil stepped) := by
    simp only [Handoff.act, moved, Option.map_some]
  exact (ready.act steps).congr (link.trans link_proceed.symm) (due.trans due_proceed.symm)
    (onward.trans posture_proceed.symm)

end Handoff

namespace MergeSession

variable {links : LinkStore} {bindings : List Binding} {session next : MergeSession} {link : LinkId}
  {field : MergeField} {position : Nat} {posture : Posture} {action : MergeAction}
  {fired cancelFirst : Bool}

def posture? (session : MergeSession) (link : LinkId) : Option Posture :=
  match session.call with
  | some (.waiting position posture) =>
      if session.merge.layout[position]?.map Prod.snd = some link then some posture else none
  | some (.visiting _) | some .collapsed | none => none

/-- A link with the call as its consumer. -/
def handoff (session : MergeSession) (link : LinkId) : Handoff :=
  { link := session.links.get link
    due := 0
    vigil := (session.posture? link).map fun posture =>
      { accept := Link.acceptFrom session.merge.floor, posture := posture, fired := false }
    returned := [] }

/-- A wait at the bell of any link is told of what lies in the slot. -/
def Attentive (session : MergeSession) : Prop :=
  ∀ link < session.links.next, (session.handoff link).Alert

theorem posture_handoff : (session.handoff link).vigil.map (·.posture) = session.posture? link := by
  unfold handoff
  rw [Option.map_map]
  exact Option.map_id'

theorem posture?_idle (idle : session.call = none) : session.posture? link = none := by
  simp only [posture?, idle]

theorem posture?_visiting (visits : session.call = some (.visiting position)) :
    session.posture? link = none := by
  simp only [posture?, visits]

theorem posture?_waiting (waits : session.call = some (.waiting position posture))
    (lies : session.merge.layout[position]?.map Prod.snd = some field.link) :
    session.posture? link = if field.link = link then some posture else none := by
  simp only [posture?, waits, lies, Option.some.injEq]

theorem link_of_found (found : session.merge.fields[position]? = some field) :
    session.merge.layout[position]?.map Prod.snd = some field.link := by
  rw [Merge.layout, List.getElem?_map, found, Option.map_some, Option.map_some]

private theorem attentive_put {packet : Packet} (attentive : session.Attentive) :
    Attentive { session with links := (session.links.put link packet).1 } := by
  intro other known
  change other < (session.links.set link _).next at known
  rw [LinkStore.next_set] at known
  by_cases same : link = other
  · subst same
    exact (attentive link known).put (LinkStore.get_set_same known) rfl rfl
  · exact (attentive other known).congr (LinkStore.get_set_other same) rfl rfl

private theorem attentive_visiting {stepped : MergeStep} {ledger : MergeLedger}
    (attentive : session.Attentive) (visits : session.call = some (.visiting position))
    (moved : session.merge.Stepped session.links (.visiting position) stepped) :
    Attentive { links := stepped.links, merge := stepped.merge, call := stepped.outcome.getLeft?
                ledger := ledger } := by
  intro link known
  have idle : session.posture? link = none := posture?_visiting visits
  cases moved with
  | emitted =>
      refine (attentive link known).congr rfl rfl ?_
      rw [posture_handoff, posture_handoff, idle]
      exact posture?_idle rfl
  | overflowed =>
      refine (attentive link known).congr rfl rfl ?_
      rw [posture_handoff, posture_handoff, idle]
      rfl
  | reused found cached reaches =>
      refine (attentive link known).congr rfl rfl ?_
      rw [posture_handoff, posture_handoff, idle]
      rcases Merge.call_advance reaches with again | ⟨onward, _⟩
      · exact posture?_visiting (congrArg some again)
      · exact posture?_visiting (congrArg some onward)
  | @turned _ field found =>
      have waits := @posture?_waiting
        { session with call := some (.waiting position .looking), ledger := ledger } link
        field position .looking rfl (link_of_found found)
      by_cases same : field.link = link
      · rw [if_pos same] at waits
        refine (attentive link known).begin ?_ rfl rfl (posture_handoff.trans waits)
        rw [handoff, idle, Option.map_none]
      · rw [if_neg same] at waits
        refine (attentive link known).congr rfl rfl ?_
        rw [posture_handoff, posture_handoff, idle]
        exact waits

private theorem posture?_carried {result : WaitOutcome} {outcome : MergeCall ⊕ Option Packet}
    (carried : Merge.Carried position result outcome) (call : session.call = outcome.getLeft?)
    (lies : session.merge.layout[position]?.map Prod.snd = some field.link) :
    session.posture? link = if field.link = link then result.posture? else none := by
  cases carried with
  | waits next => exact posture?_waiting call lies
  | visits packet onward =>
      rw [posture?_visiting call]
      exact (ite_self none).symm
  | cancels =>
      rw [posture?_idle call]
      exact (ite_self none).symm

private theorem attentive_waiting {stepped : MergeStep} {ledger : MergeLedger}
    (attentive : session.Attentive) (waits : session.call = some (.waiting position posture))
    (moved : session.merge.step fired cancelFirst session.links (.waiting position posture) =
      some stepped) :
    Attentive { links := stepped.links, merge := stepped.merge, call := stepped.outcome.getLeft?
                ledger := ledger } := by
  have layout := Merge.layout_stepped (Merge.step_stepped moved)
  obtain ⟨field, waited, found, turn, stored, carried⟩ := Merge.step_waiting moved
  have lies := link_of_found found
  intro link known
  rw [stored] at known ⊢
  rw [LinkStore.next_set] at known
  have alert := attentive link known
  have now := @posture?_carried
    { links := session.links.set field.link waited.link, merge := stepped.merge
      call := stepped.outcome.getLeft?, ledger := ledger } link field position _ _ carried rfl
    (by rwa [layout])
  have came := @posture?_waiting session link field position posture waits lies
  -- the awaited link takes the step of its consumer, the other links have no consumer before or after
  by_cases same : field.link = link
  · subst same
    rw [if_pos rfl] at now came
    exact alert.proceed ⟨⟨Link.acceptFrom session.merge.floor, posture⟩, fired⟩
      (posture_handoff.trans came) turn (LinkStore.get_set_same known) rfl (posture_handoff.trans now)
  · rw [if_neg same] at now came
    refine alert.congr (LinkStore.get_set_other same) rfl ?_
    rw [posture_handoff, posture_handoff, came]
    exact now

theorem Attentive.act (attentive : session.Attentive) (acted : session.act action = some next) :
    next.Attentive := by
  cases action with
  | put link packet =>
      cases acted
      exact attentive_put attentive
  | begin =>
      obtain ⟨idle, same⟩ := act_begin acted
      subst same
      intro link known
      refine (attentive link known).congr rfl rfl ?_
      rw [posture_handoff, posture_handoff, posture?_idle idle]
      exact posture?_visiting rfl
  | step fired cancelFirst =>
      obtain ⟨call, stepped, under, step, made⟩ := act_step acted
      subst made
      cases call with
      | visiting position => exact attentive_visiting attentive under (Merge.step_stepped step)
      | waiting position posture => exact attentive_waiting attentive under step
      | collapsed => cases step

end MergeSession
end Sluice
