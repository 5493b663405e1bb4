import Sluice.ReportBus

set_option autoImplicit false

/-! What a subscriber has not read yet. A bus keeps at least the latest report, so a report that was
published after a subscriber's place leaves it something to read, even when it fell behind. -/

namespace Sluice
namespace ReportBus

variable {bus : ReportBus} {subscriber : Nat} {stage : String}

theorem nextPowerOfTwo_positive (number : Nat) : 1 ≤ nextPowerOfTwo number := by
  unfold nextPowerOfTwo
  split
  · exact Nat.le_refl 1
  · exact Nat.one_le_two_pow

/-- How many reports a subscriber has passed. -/
def place (bus : ReportBus) (subscriber : Nat) : Nat :=
  bus.cursors.getD subscriber bus.sent

/-- The reports kept that a subscriber has not passed. -/
def unread (bus : ReportBus) (subscriber : Nat) : List String :=
  bus.kept.drop (bus.place subscriber - bus.dropped)

inductive Received (bus : ReportBus) (subscriber : Nat) : ReportBus × Reception → Prop
  | lagged (behind : bus.place subscriber < bus.dropped) :
      Received bus subscriber
        (bus.moveTo subscriber bus.dropped, .lagged (bus.dropped - bus.place subscriber))
  | report {stage : String} (reaches : bus.dropped ≤ bus.place subscriber)
      (found : bus.kept[bus.place subscriber - bus.dropped]? = some stage) :
      Received bus subscriber (bus.moveTo subscriber (bus.place subscriber + 1), .report stage)
  | nothing (missing : bus.kept[bus.place subscriber - bus.dropped]? = none) :
      Received bus subscriber (bus, if bus.closed then .closed else .empty)

theorem receive_received : bus.Received subscriber (bus.receive subscriber) := by
  have position : bus.cursors.getD subscriber bus.sent = bus.place subscriber := rfl
  simp only [receive, position]
  by_cases behind : bus.place subscriber < bus.dropped
  · rw [if_pos behind]
    exact .lagged behind
  · rw [if_neg behind]
    cases found : bus.kept[bus.place subscriber - bus.dropped]? with
    | none => exact .nothing found
    | some stage => exact .report (Nat.le_of_not_lt behind) found

/-- The buffer is never empty once a report was kept, and nobody is ahead of the reports. -/
structure Sound (bus : ReportBus) : Prop where
  roomy : 1 ≤ bus.capacity
  full : bus.kept.length = min bus.sent bus.capacity
  behind : ∀ position ∈ bus.cursors, position ≤ bus.sent

theorem sound_ofCapacity (capacity : Nat) : (ofCapacity capacity).Sound := by
  refine ⟨nextPowerOfTwo_positive _, ?_, ?_⟩
  · change 0 = min 0 _
    omega
  · intro position impossible
    cases impossible

theorem Sound.subscribe (sound : bus.Sound) : bus.subscribe.Sound := by
  refine ⟨sound.roomy, sound.full, ?_⟩
  intro position listed
  rcases List.mem_append.mp listed with old | new
  · exact sound.behind position old
  · cases List.mem_singleton.mp new
    exact Nat.le_refl _

theorem Sound.publish (sound : bus.Sound) : (bus.publish stage).Sound := by
  unfold ReportBus.publish
  split
  · exact sound
  · refine ⟨sound.roomy, ?_, ?_⟩
    · have roomy := sound.roomy
      have full := sound.full
      change ((bus.kept ++ [stage]).drop _).length = min (bus.sent + 1) bus.capacity
      rw [List.length_drop, List.length_append, List.length_singleton]
      omega
    · intro position listed
      exact Nat.le_succ_of_le (sound.behind position listed)

/-- A bus that was given one more report: its subscribers find it behind the earlier ones, as far as there is
room for them. -/
structure Gains (stage : String) (before after : ReportBus) : Prop where
  dropped : before.cursors = [] → after = before
  counted : before.cursors ≠ [] → after.sent = before.sent + 1
  latest : before.cursors ≠ [] → after.kept <:+ before.kept ++ [stage]
  room : before.cursors ≠ [] → after.kept.length = min (before.kept.length + 1) before.capacity
  places : after.cursors = before.cursors

theorem gains_publish : Gains stage bus (bus.publish stage) := by
  unfold publish
  cases heard : bus.cursors with
  | nil =>
      refine ⟨fun _ => rfl, ?_, ?_, ?_, rfl⟩
      · exact fun impossible => absurd heard impossible
      · exact fun impossible => absurd heard impossible
      · exact fun impossible => absurd heard impossible
  | cons =>
      refine ⟨?_, fun _ => rfl, fun _ => List.drop_suffix _ _, ?_, heard.symm⟩
      · intro impossible
        cases heard.symm.trans impossible
      · intro _
        change ((bus.kept ++ [stage]).drop _).length = _
        rw [List.length_drop, List.length_append, List.length_singleton]
        omega

theorem Sound.close (sound : bus.Sound) : bus.close.Sound :=
  ⟨sound.roomy, sound.full, sound.behind⟩

theorem Sound.moveTo {position : Nat} (sound : bus.Sound) (within : position ≤ bus.sent) :
    (bus.moveTo subscriber position).Sound := by
  refine ⟨sound.roomy, sound.full, ?_⟩
  intro other listed
  rcases List.mem_or_eq_of_mem_set listed with old | new
  · exact sound.behind other old
  · exact new ▸ within

theorem Sound.received {given : ReportBus × Reception} (sound : bus.Sound)
    (received : bus.Received subscriber given) : given.1.Sound := by
  have dropped : bus.dropped ≤ bus.sent := Nat.sub_le _ _
  cases received with
  | lagged => exact sound.moveTo dropped
  | report reaches found =>
      have within := (List.getElem?_eq_some_iff.mp found).1
      have full := sound.full
      have whole : bus.dropped + bus.kept.length = bus.sent := by
        unfold ReportBus.dropped
        omega
      exact sound.moveTo (by omega)
  | nothing => exact sound

theorem length_cursors_received {given : ReportBus × Reception}
    (received : bus.Received subscriber given) :
    given.1.cursors.length = bus.cursors.length := by
  cases received with
  | lagged | report => exact List.length_set
  | nothing => rfl

theorem length_cursors_publish : (bus.publish stage).cursors.length = bus.cursors.length := by
  unfold publish
  split <;> rfl

theorem closed_publish : (bus.publish stage).closed = bus.closed := by
  unfold publish
  split <;> rfl

theorem closed_received {given : ReportBus × Reception}
    (received : bus.Received subscriber given) : given.1.closed = bus.closed := by
  cases received <;> rfl

theorem place_moveTo {position : Nat} (subscribed : subscriber < bus.cursors.length) :
    (bus.moveTo subscriber position).place subscriber = position := by
  unfold place moveTo
  rw [List.getD_eq_getElem?_getD, List.getElem?_set_self subscribed]
  rfl

theorem unread_publish (sound : bus.Sound) (subscribed : subscriber < bus.cursors.length) :
    (bus.publish stage).unread subscriber ≠ [] := by
  have filled : bus.cursors.isEmpty = false := by
    cases held : bus.cursors with
    | nil =>
        rw [held] at subscribed
        cases subscribed
    | cons => rfl
  have after := (@Sound.publish bus stage sound).full
  have roomy := sound.roomy
  have behind := sound.behind _ (List.getElem_mem subscribed)
  have here : bus.cursors.getD subscriber (bus.sent + 1) = bus.cursors[subscriber] := by
    rw [List.getD_eq_getElem?_getD, List.getElem?_eq_getElem subscribed]
    rfl
  simp only [publish, filled, Bool.false_eq_true, if_false] at after ⊢
  apply List.ne_nil_of_length_pos
  unfold unread place dropped
  rw [List.length_drop]
  simp only [here]
  omega

theorem unread_nothing {after : ReportBus} {told : Reception}
    (received : bus.Received subscriber (after, told)) (silent : told = .empty ∨ told = .closed) :
    bus.unread subscriber = [] := by
  cases received with
  | lagged | report => rcases silent with impossible | impossible <;> cases impossible
  | nothing missing => exact List.drop_eq_nil_of_le (List.getElem?_eq_none_iff.mp missing)

theorem closed_of_received {after : ReportBus} (received : bus.Received subscriber (after, .closed)) :
    bus.closed = true := by
  generalize told : (after, Reception.closed) = given at received
  cases received with
  | lagged | report => cases told
  | nothing =>
      cases closed : bus.closed with
      | true => rfl
      | false =>
          rw [closed] at told
          cases told

theorem unread_lagged {after : ReportBus} {missed : Nat} (sound : bus.Sound)
    (subscribed : subscriber < bus.cursors.length)
    (received : bus.Received subscriber (after, .lagged missed)) :
    after.unread subscriber ≠ [] := by
  generalize told : (after, Reception.lagged missed) = given at received
  cases received with
  | lagged behind =>
      cases told
      have full := sound.full
      have roomy := sound.roomy
      apply List.ne_nil_of_length_pos
      unfold unread
      rw [place_moveTo subscribed, List.length_drop]
      change 0 < bus.kept.length - (bus.dropped - bus.dropped)
      unfold dropped at behind
      omega
  | report => cases told
  | nothing =>
      split at told <;> cases told

end ReportBus
end Sluice
