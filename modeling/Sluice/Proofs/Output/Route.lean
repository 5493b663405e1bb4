import Mathlib.Data.List.Forall2
import Sluice.Output

set_option autoImplicit false

/-! What an output makes of a packet: for each link bound to it, the whole message or the bound record
field of it, under the packet's own id. -/

namespace Sluice

/-- What a binding's key takes of a message. -/
def shareOf (key : String) (message : Message) : Except MessageError Message :=
  if key = wholeMessage then .ok message else message.record key

structure Binding.Sends (binding : Binding) (packet : Packet) (delivery : Delivery) : Prop where
  link : binding.link = delivery.1
  id : delivery.2.id = packet.id
  share : shareOf binding.field packet.message = .ok delivery.2.message

structure Binding.Splits (binding : Binding) (packet : Packet) (delivery : Delivery) : Prop where
  link : binding.link = delivery.1
  id : delivery.2.id = packet.id
  record : packet.message.record binding.field = .ok delivery.2.message

theorem Binding.Splits.sends {binding : Binding} {packet : Packet} {delivery : Delivery}
    (splits : binding.Splits packet delivery) (named : binding.field ≠ wholeMessage) :
    binding.Sends packet delivery := by
  refine ⟨splits.link, splits.id, ?_⟩
  unfold shareOf
  rw [if_neg named]
  exact splits.record

namespace Output

def idsOn (link : LinkId) (deliveries : List Delivery) : List Nat :=
  (deliveries.filter fun delivery => delivery.1 = link).map (·.2.id)

variable {stage : String} {bindings : List Binding} {schema : Schema} {output : Output}
  {packet : Packet} {deliveries : List Delivery} {delivery : Delivery}

theorem splits_splitFields (split : splitFields packet bindings = .ok deliveries) :
    List.Forall₂ (fun binding delivery => Binding.Splits binding packet delivery) bindings deliveries := by
  induction bindings generalizing deliveries with
  | nil =>
      cases split
      exact .nil
  | cons binding rest ih =>
      simp only [splitFields] at split
      cases record : packet.message.record binding.field with
      | error =>
          rw [record] at split
          cases split
      | ok part =>
          cases later : splitFields packet rest with
          | error =>
              simp only [record, later] at split
              cases split
          | ok more =>
              simp only [record, later] at split
              cases split
              exact .cons ⟨rfl, rfl, record⟩ (ih later)

theorem links_aligned
    (aligned : List.Forall₂ (fun binding delivery => Binding.link binding = Prod.fst delivery)
      bindings deliveries) : deliveries.map (·.1) = bindings.map (·.link) := by
  symm
  rw [← List.forall₂_eq_eq_eq, List.forall₂_map_left_iff, List.forall₂_map_right_iff]
  exact aligned

theorem links_splitFields (split : splitFields packet bindings = .ok deliveries) :
    deliveries.map (·.1) = bindings.map (·.link) :=
  links_aligned ((splits_splitFields split).imp fun _ _ splits => splits.link)

/-- What an output makes of a packet: for each of its links, in order, the whole packet or the record field
that goes there. -/
inductive Shares (packet : Packet) : Output → List Delivery → Prop
  | sink : Shares packet .sink []
  | passthrough {link : LinkId} : Shares packet (.passthrough link) [(link, packet)]
  | duplicate {links : List LinkId} :
      Shares packet (.duplicate links) (links.map fun link => (link, packet))
  | splitter {bindings : List Binding} {deliveries : List Delivery}
      (parts : List.Forall₂ (fun binding delivery => Binding.Splits binding packet delivery)
        bindings deliveries) : Shares packet (.splitter bindings) deliveries

theorem shares_route (routed : output.route packet = .ok deliveries) :
    Shares packet output deliveries := by
  cases output with
  | sink =>
      cases routed
      exact .sink
  | passthrough =>
      cases routed
      exact .passthrough
  | duplicate =>
      cases routed
      exact .duplicate
  | splitter => exact .splitter (splits_splitFields routed)

def copying : List LinkId → Output
  | [] => .sink
  | [link] => .passthrough link
  | first :: second :: rest => .duplicate (first :: second :: rest)

theorem route_copying (links : List LinkId) (packet : Packet) :
    (copying links).route packet = .ok (links.map fun link => (link, packet)) := by
  match links with
  | [] => rfl
  | [_] => rfl
  | _ :: _ :: _ => rfl

theorem copying_ne_splitter {links : List LinkId} : copying links ≠ .splitter bindings := by
  match links with
  | [] => nofun
  | [_] => nofun
  | _ :: _ :: _ => nofun

private theorem whole_of_all (all : (bindings.map (·.field)).all (· == wholeMessage) = true)
    {binding : Binding} (member : binding ∈ bindings) : binding.field = wholeMessage := by
  have listed : binding.field ∈ bindings.map (·.field) := List.mem_map_of_mem member
  exact eq_of_beq (List.all_eq_true.mp all _ listed)

theorem ofBindings_ok (made : ofBindings stage bindings schema = .ok output) :
    (output = copying (bindings.map (·.link)) ∧ ∀ binding ∈ bindings, binding.field = wholeMessage) ∨
      output = .splitter bindings ∧ ∀ binding ∈ bindings, binding.field ≠ wholeMessage := by
  unfold ofBindings at made
  cases bindings with
  | nil =>
      cases made
      exact Or.inl ⟨rfl, fun binding member => nomatch member⟩
  | cons first rest =>
      simp only at made
      by_cases all : (((first :: rest).map (·.field)).all (· == wholeMessage)) = true
      · rw [if_pos all] at made
        refine Or.inl ⟨?_, fun binding member => whole_of_all all member⟩
        cases rest with
        | nil | cons =>
            cases made
            rfl
      · rw [if_neg all] at made
        by_cases malformed :
            ¬ ((first :: rest).map (·.field)).Nodup ∨ wholeMessage ∈ (first :: rest).map (·.field)
        · rw [if_pos malformed] at made
          cases made
        · rw [if_neg malformed] at made
          split at made
          · cases made
          · cases made
            refine Or.inr ⟨rfl, ?_⟩
            intro binding bound whole
            exact malformed (Or.inr (List.mem_map.mpr ⟨binding, bound, whole⟩))

private theorem sends_whole {binding : Binding} (whole : binding.field = wholeMessage) :
    binding.Sends packet (binding.link, packet) := by
  refine ⟨rfl, rfl, ?_⟩
  unfold shareOf
  rw [if_pos whole]

theorem sends_route (made : ofBindings stage bindings schema = .ok output)
    (routed : output.route packet = .ok deliveries) :
    List.Forall₂ (fun binding delivery => Binding.Sends binding packet delivery) bindings deliveries := by
  rcases ofBindings_ok made with ⟨same, whole⟩ | ⟨same, named⟩
  · subst same
    rw [route_copying] at routed
    cases routed
    rw [List.map_map, List.forall₂_map_right_iff, List.forall₂_same]
    exact fun binding member => sends_whole (whole binding member)
  · subst same
    have both := (List.forall₂_and_left _ _).mpr ⟨named, splits_splitFields routed⟩
    exact both.imp fun binding delivery holds => holds.2.sends holds.1

theorem mem_route (made : ofBindings stage bindings schema = .ok output)
    (routed : output.route packet = .ok deliveries) (member : delivery ∈ deliveries) :
    ∃ binding ∈ bindings, binding.Sends packet delivery := by
  have sends := sends_route made routed
  clear routed made
  induction sends with
  | nil => cases member
  | cons first _ ih =>
      rcases List.mem_cons.mp member with here | later
      · exact ⟨_, List.mem_cons_self, here ▸ first⟩
      · obtain ⟨binding, bound, sends⟩ := ih later
        exact ⟨binding, List.mem_cons_of_mem _ bound, sends⟩

theorem links_route (made : ofBindings stage bindings schema = .ok output)
    (routed : output.route packet = .ok deliveries) :
    deliveries.map (·.1) = bindings.map (·.link) :=
  links_aligned ((sends_route made routed).imp fun _ _ sends => sends.link)

variable {link : LinkId} {first second : List Delivery}

theorem idsOn_cons {rest : List Delivery} :
    idsOn link (delivery :: rest) =
      if delivery.1 = link then delivery.2.id :: idsOn link rest else idsOn link rest := by
  unfold idsOn
  rw [List.filter_cons]
  by_cases here : delivery.1 = link
  · rw [if_pos (decide_eq_true here), if_pos here]
    rfl
  · rw [if_neg (fun same => here (of_decide_eq_true same)), if_neg here]

theorem idsOn_append : idsOn link (first ++ second) = idsOn link first ++ idsOn link second := by
  unfold idsOn
  rw [List.filter_append, List.map_append]

theorem mem_idsOn {id : Nat} :
    id ∈ idsOn link deliveries ↔ ∃ packet, (link, packet) ∈ deliveries ∧ packet.id = id := by
  constructor
  · intro listed
    obtain ⟨⟨other, packet⟩, member, same⟩ := List.mem_map.mp listed
    obtain ⟨present, here⟩ := List.mem_filter.mp member
    have link : other = link := of_decide_eq_true here
    exact ⟨packet, link ▸ present, same⟩
  · rintro ⟨packet, present, same⟩
    exact List.mem_map.mpr ⟨(link, packet), List.mem_filter.mpr ⟨present, decide_eq_true rfl⟩, same⟩

theorem idsOn_nil (absent : link ∉ deliveries.map (·.1)) : idsOn link deliveries = [] := by
  apply List.eq_nil_iff_forall_not_mem.mpr
  intro id listed
  obtain ⟨packet, present, _⟩ := mem_idsOn.mp listed
  exact absent (List.mem_map.mpr ⟨(link, packet), present, rfl⟩)

theorem idsOn_route (distinct : (deliveries.map (·.1)).Nodup)
    (level : ∀ delivery ∈ deliveries, delivery.2.id = packet.id) :
    (idsOn link deliveries).Sublist [packet.id] := by
  induction deliveries with
  | nil => exact List.nil_sublist _
  | cons delivery rest ih =>
      obtain ⟨fresh, distinctRest⟩ := List.nodup_cons.mp distinct
      rw [idsOn_cons]
      split
      · rename_i here
        have single : delivery.2.id :: idsOn link rest = [packet.id] := by
          rw [idsOn_nil (here ▸ fresh), level delivery List.mem_cons_self]
        exact single ▸ List.Sublist.refl _
      · exact ih distinctRest fun other listed => level other (List.mem_cons_of_mem _ listed)

end Output
end Sluice
