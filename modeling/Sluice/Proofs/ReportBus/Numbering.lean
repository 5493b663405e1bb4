import Sluice.Proofs.ReportBus.Unread

set_option autoImplicit false

/-! Reports by their numbers on a bus. A bus that has kept every report since some point counts them from
there on, and a subscriber that is given a report is given the one whose number is its place. -/

namespace Sluice
namespace ReportBus

variable {bus : ReportBus} {first subscriber : Nat} {reports : List String} {stage : String}

/-- The bus counts these reports from the number `first` on and keeps the latest of them. -/
structure Counts (bus : ReportBus) (first : Nat) (reports : List String) : Prop where
  sound : bus.Sound
  sent : bus.sent = first + reports.length
  kept : ∀ number, bus.dropped ≤ first + number →
    bus.kept[first + number - bus.dropped]? = reports[number]?

theorem Sound.whole (sound : bus.Sound) : bus.dropped + bus.kept.length = bus.sent := by
  have full := sound.full
  unfold dropped
  omega

theorem counts_nothing (sound : bus.Sound) : bus.Counts bus.sent [] := by
  refine ⟨sound, rfl, ?_⟩
  intro number _
  have whole := sound.whole
  exact List.getElem?_eq_none (by omega)

theorem Counts.subscribe (counts : bus.Counts first reports) : bus.subscribe.Counts first reports :=
  ⟨counts.sound.subscribe, counts.sent, counts.kept⟩

theorem Counts.close (counts : bus.Counts first reports) : bus.close.Counts first reports :=
  ⟨counts.sound.close, counts.sent, counts.kept⟩

theorem publish_subscribed (subscribed : subscriber < bus.cursors.length) :
    bus.publish stage =
      { bus with
        sent := bus.sent + 1
        kept := (bus.kept ++ [stage]).drop ((bus.kept ++ [stage]).length - bus.capacity) } := by
  cases held : bus.cursors with
  | nil =>
      rw [held] at subscribed
      cases subscribed
  | cons => simp [publish, held]

theorem place_publish (subscribed : subscriber < bus.cursors.length) :
    (bus.publish stage).place subscriber = bus.place subscriber := by
  rw [publish_subscribed subscribed]
  unfold place
  simp only [List.getD_eq_getElem?_getD, List.getElem?_eq_getElem subscribed, Option.getD_some]

theorem place_subscribe (subscribed : subscriber < bus.cursors.length) :
    bus.subscribe.place subscriber = bus.place subscriber := by
  unfold place ReportBus.subscribe
  simp only [List.getD_eq_getElem?_getD, List.getElem?_append_left subscribed]

theorem place_subscribed : bus.subscribe.place bus.nextSubscriber = bus.sent := by
  unfold place ReportBus.subscribe nextSubscriber
  simp

theorem Counts.publish (counts : bus.Counts first reports) (subscribed : subscriber < bus.cursors.length) :
    (bus.publish stage).Counts first (reports ++ [stage]) := by
  refine ⟨counts.sound.publish, ?_, ?_⟩
  · rw [publish_subscribed subscribed]
    change bus.sent + 1 = first + (reports ++ [stage]).length
    rw [List.length_append, List.length_singleton, counts.sent]
    omega
  · intro number retained
    have sent := counts.sent
    have whole := counts.sound.whole
    rw [publish_subscribed subscribed] at retained ⊢
    unfold dropped at retained ⊢
    simp only [List.length_drop, List.length_append, List.length_singleton, List.getElem?_drop]
      at retained ⊢
    -- what the buffer lets go moves the numbers of what it keeps
    have place : bus.kept.length + 1 - bus.capacity +
        (first + number - (bus.sent + 1 - (bus.kept.length + 1 - (bus.kept.length + 1 - bus.capacity)))) =
          first + number - bus.dropped := by
      unfold dropped at whole ⊢
      omega
    rw [place]
    have within : bus.dropped ≤ first + number := by
      unfold dropped at whole ⊢
      omega
    rcases Nat.lt_or_ge number reports.length with old | new
    · rw [List.getElem?_append_left old, List.getElem?_append_left (by omega)]
      exact counts.kept number within
    · rw [List.getElem?_append_right new, List.getElem?_append_right (by omega)]
      have same : first + number - bus.dropped - bus.kept.length = number - reports.length := by omega
      rw [same]

theorem Counts.moveTo {position : Nat} (counts : bus.Counts first reports) (within : position ≤ bus.sent) :
    (bus.moveTo subscriber position).Counts first reports :=
  ⟨counts.sound.moveTo within, counts.sent, counts.kept⟩

theorem place_le_sent (sound : bus.Sound) (subscribed : subscriber < bus.cursors.length) :
    bus.place subscriber ≤ bus.sent := by
  unfold place
  rw [List.getD_eq_getElem?_getD, List.getElem?_eq_getElem subscribed]
  exact sound.behind _ (List.getElem_mem subscribed)

/-- How a reception moves a subscriber on, by the number of the reports that it has had. -/
inductive Advanced (bus : ReportBus) (subscriber first : Nat) (reports : List String) (had : Nat) :
    ReportBus × Reception → Prop
  | lagged {after : ReportBus} {missed : Nat} (counts : after.Counts first reports)
      (place : after.place subscriber = first + (had + missed))
      (within : had + missed ≤ reports.length) :
      Advanced bus subscriber first reports had (after, .lagged missed)
  | report {after : ReportBus} {stage : String} (counts : after.Counts first reports)
      (place : after.place subscriber = first + (had + 1)) (found : reports[had]? = some stage) :
      Advanced bus subscriber first reports had (after, .report stage)
  | nothing {told : Reception} (silent : told = .empty ∨ told = .closed) (all : had = reports.length) :
      Advanced bus subscriber first reports had (bus, told)

theorem Received.advanced {had : Nat} {given : ReportBus × Reception}
    (received : bus.Received subscriber given) (counts : bus.Counts first reports)
    (subscribed : subscriber < bus.cursors.length) (place : bus.place subscriber = first + had) :
    Advanced bus subscriber first reports had given := by
  have whole := counts.sound.whole
  have sent := counts.sent
  cases received with
  | lagged behind =>
      have dropped : bus.dropped ≤ bus.sent := Nat.sub_le _ _
      refine .lagged (counts.moveTo dropped) ?_ ?_
      · rw [place_moveTo subscribed]
        omega
      · omega
  | @report stage reaches found =>
      have inside := (List.getElem?_eq_some_iff.mp found).1
      rw [place] at reaches found
      refine .report (counts.moveTo (by omega)) ?_ ?_
      · rw [place_moveTo subscribed]
        omega
      · rw [← counts.kept had reaches]
        exact found
  | nothing missing =>
      have beyond := List.getElem?_eq_none_iff.mp missing
      have below := place_le_sent counts.sound subscribed
      have full := counts.sound.full
      have roomy := counts.sound.roomy
      refine .nothing ?_ (by omega)
      cases bus.closed with
      | true => exact Or.inr rfl
      | false => exact Or.inl rfl

end ReportBus
end Sluice
