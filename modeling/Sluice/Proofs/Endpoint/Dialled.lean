import Sluice.Connector
import Sluice.Proofs.Text.Marks

set_option autoImplicit false

/-! What is dialled for a stage. Its address is the host with the port behind it, and is read back as the two
exactly if the host keeps to its place: a name without delimiters, or anything else in one pair of brackets.
Where a host has a path, a query or a fragment to it, the port becomes part of that and is lost. -/

namespace Sluice
namespace Uri

open Text (takeWhile_mark takeWhile_plain not_mem_takeWhile_mark behind_mark behind_plain not_mem_behind)

/-- The address leads to the host and the port of a stage, and to nothing beside them. -/
structure Dials (uri : Uri) (stage : StageDescriptor) : Prop where
  scheme : schemeMark <+: stage.endpoint.toList
  user : uri.userInfo? = none
  host : uri.host = stage.host.toList
  port : uri.port? = some stage.port.toNat
  path : uri.shownPath = ['/']
  query : uri.query = none
  fragment : '#' ∉ stage.endpoint.toList

/-- Nothing in the host ends the authority. -/
def Undivided (host : List Char) : Prop :=
  ∀ character ∈ host, startsPath character = false

instance {host : List Char} : Decidable (Undivided host) :=
  List.decidableBAll (fun character => startsPath character = false) host

/-- A host whose ends are where they seem: a colon may stand in brackets only, and these hold all of it. -/
structure KeepsPlace (host : List Char) : Prop where
  undivided : Undivided host
  userless : '@' ∉ host
  bracketed : host.head? = some '[' → ∃ inner, host = '[' :: inner ++ [']'] ∧ ']' ∉ inner
  named : host.head? ≠ some '[' → ':' ∉ host

def portDigits (stage : StageDescriptor) : List Char :=
  Nat.toDigits 10 stage.port.toNat

def place (stage : StageDescriptor) : List Char :=
  stage.host.toList ++ ':' :: portDigits stage

variable {uri : Uri} {stage : StageDescriptor} {host before after characters : List Char} {mark : Char}

theorem not_mem_portDigits (other : mark.isDigit = false) : mark ∉ portDigits stage := by
  intro present
  have digit := Nat.isDigit_of_mem_toDigits (by decide) (by decide) present
  exact Bool.false_ne_true (other.symm.trans digit)

theorem undivided_portDigits : Undivided (portDigits stage) := by
  intro character present
  have digit := Nat.isDigit_of_mem_toDigits (by decide) (by decide) present
  unfold startsPath
  simp only [Bool.or_eq_false_iff, decide_eq_false_iff_not]
  refine ⟨⟨?_, ?_⟩, ?_⟩ <;>
    · intro same
      subst same
      exact absurd digit (by decide)

theorem undivided_place : Undivided (place stage) ↔ Undivided stage.host.toList := by
  unfold place
  constructor
  · intro whole character present
    exact whole character (List.mem_append_left _ present)
  · intro undivided character present
    rcases List.mem_append.mp present with ahead | behind
    · exact undivided character ahead
    · rcases List.mem_cons.mp behind with same | digit
      · subst same
        rfl
      · exact undivided_portDigits character digit

theorem toList_endpoint : stage.endpoint.toList = schemeMark ++ place stage := by
  have digits : (toString stage.port.toNat).toList = portDigits stage := by
    rw [Nat.toString_eq_ofList_toDigits, String.toList_ofList]
    rfl
  unfold StageDescriptor.endpoint place
  rw [String.toList_append, String.toList_append, String.toList_append, digits, List.append_assoc,
    List.append_assoc]
  rfl

theorem ofRest_some (read : ofRest? characters = some uri) :
    uri.authority = characters.takeWhile (fun character => !startsPath character) ∧
      pathAndQuery? (characters.dropWhile fun character => !startsPath character) =
        some (uri.path, uri.query) := by
  unfold ofRest? at read
  dsimp only at read
  split at read
  · obtain ⟨parts, taken, same⟩ := Option.map_eq_some_iff.mp read
    subst same
    exact ⟨rfl, taken⟩
  · cases read

theorem parse_endpoint (read : parse? stage.endpoint = some uri) : ofRest? (place stage) = some uri := by
  unfold parse? at read
  rw [toList_endpoint] at read
  split at read
  · cases read
  · rw [if_pos (by simp), List.drop_left] at read
    exact read

theorem takeWhile_undivided (undivided : Undivided characters) :
    characters.takeWhile (fun character => !startsPath character) = characters := by
  refine List.takeWhile_eq_self_iff.mpr fun character present => ?_
  rw [undivided character present]
  rfl

theorem dropWhile_undivided (undivided : Undivided characters) :
    characters.dropWhile (fun character => !startsPath character) = [] := by
  refine List.dropWhile_eq_nil_iff.mpr fun character present => ?_
  rw [undivided character present]
  rfl

theorem parts_of_undivided (read : parse? stage.endpoint = some uri)
    (undivided : Undivided stage.host.toList) :
    uri.authority = place stage ∧ uri.path = [] ∧ uri.query = none := by
  have whole := undivided_place.mpr undivided
  obtain ⟨authority, rest⟩ := ofRest_some (parse_endpoint read)
  rw [takeWhile_undivided whole] at authority
  rw [dropWhile_undivided whole] at rest
  have nothing : pathAndQuery? [] = some ([], none) := rfl
  obtain ⟨path, query⟩ := Prod.mk.inj (Option.some.inj (nothing.symm.trans rest))
  exact ⟨authority, path.symm, query.symm⟩

theorem authority_of_divided (read : parse? stage.endpoint = some uri)
    (divided : stage.host.toList = before ++ mark :: after) (first : Undivided before)
    (ends : startsPath mark = true) : uri.authority = before := by
  obtain ⟨authority, _⟩ := ofRest_some (parse_endpoint read)
  have plain : ∀ character ∈ before, (!startsPath character) = true := by
    intro character present
    rw [first character present]
    rfl
  rw [authority, place, divided, List.append_assoc, List.takeWhile_append_of_pos plain,
    List.cons_append, List.takeWhile_cons_of_neg (by simp [ends]), List.append_nil]

theorem portNumber_portDigits : portNumber? (portDigits stage) = some stage.port.toNat := by
  have unsigned : ∀ rest, portDigits stage ≠ '+' :: rest := by
    intro rest same
    have plus : '+' ∈ portDigits stage := same ▸ List.mem_cons_self
    exact not_mem_portDigits (by decide) plus
  have number : (portDigits stage).foldl (fun held digit => held * 10 + (digit.toNat - 48)) 0 =
      stage.port.toNat := by
    have value := @Nat.ofDigitChars_ten_toDigits stage.port.toNat
    have zero : '0'.toNat = 48 := rfl
    rw [Nat.ofDigitChars_eq_foldl] at value
    simpa only [portDigits, Nat.mul_comm, zero] using value
  have nonempty : (portDigits stage).isEmpty = false := by simp [portDigits]
  have digits : (portDigits stage).all Char.isDigit = true :=
    List.all_eq_true.mpr fun character present =>
      Nat.isDigit_of_mem_toDigits (by decide) (by decide) present
  have small : stage.port.toNat < 65536 := stage.port.toNat_lt
  unfold portNumber?
  dsimp only
  split
  · rename_i rest same
    exact absurd same (unsigned rest)
  · rw [number, nonempty, digits, decide_eq_true small]
    rfl

theorem port_of_place (authority : uri.authority = place stage) :
    uri.port? = some stage.port.toNat := by
  have colon : (place stage).contains ':' = true := by simp [place]
  unfold port?
  rw [authority, if_pos colon, place, behind_mark (not_mem_portDigits (by decide)),
    portNumber_portDigits]

theorem user_mark_iff : '@' ∈ place stage ↔ '@' ∈ stage.host.toList := by
  have plain : '@' ∉ portDigits stage := not_mem_portDigits (by decide)
  simp [place, plain]

theorem user_of_place (authority : uri.authority = place stage) :
    uri.userInfo? = none ↔ '@' ∉ stage.host.toList := by
  unfold userInfo?
  rw [authority, ← user_mark_iff]
  by_cases present : '@' ∈ place stage
  · rw [if_pos (List.contains_iff_mem.mpr present)]
    simp [present]
  · rw [if_neg fun found => present (List.contains_iff_mem.mp found)]
    simp [present]

theorem hostAndPort_of_place (authority : uri.authority = place stage)
    (userless : '@' ∉ stage.host.toList) : uri.hostAndPort = place stage := by
  unfold hostAndPort
  rw [authority]
  exact behind_plain fun present => userless (user_mark_iff.mp present)

theorem mem_host (present : mark ∈ uri.host) : mark = ']' ∨ mark ∈ uri.hostAndPort := by
  unfold host at present
  dsimp only at present
  split at present
  · rcases List.mem_append.mp present with inside | last
    · exact Or.inr ((List.takeWhile_prefix _).mem inside)
    · exact Or.inl (List.mem_singleton.mp last)
  · exact Or.inr ((List.takeWhile_prefix _).mem present)

theorem mem_hostAndPort (present : mark ∈ uri.hostAndPort) : mark ∈ uri.authority := by
  unfold hostAndPort at present
  have backwards := (List.takeWhile_prefix _).mem (List.mem_reverse.mp present)
  exact List.mem_reverse.mp backwards

theorem head_place_iff : (place stage).head? = some '[' ↔ stage.host.toList.head? = some '[' := by
  unfold place
  cases stage.host.toList with
  | nil => simp
  | cons first rest => simp

/-- The host is the one that was asked for exactly if it keeps its place. -/
theorem host_eq_iff (read : parse? stage.endpoint = some uri) :
    uri.host = stage.host.toList ↔ KeepsPlace stage.host.toList := by
  constructor
  · intro same
    have undivided : Undivided stage.host.toList := by
      obtain ⟨authority, _⟩ := ofRest_some (parse_endpoint read)
      intro character present
      rw [← same] at present
      rcases mem_host present with rfl | inside
      · rfl
      · have within := mem_hostAndPort inside
        rw [authority] at within
        have continues := List.mem_takeWhile_imp (p := fun character => !startsPath character) within
        simpa using continues
    have userless : '@' ∉ stage.host.toList := by
      intro present
      rw [← same] at present
      rcases mem_host present with impossible | inside
      · exact absurd impossible (by decide)
      · exact not_mem_behind inside
    obtain ⟨authority, _, _⟩ := parts_of_undivided read undivided
    have rest := hostAndPort_of_place authority userless
    unfold host at same
    rw [rest] at same
    refine ⟨undivided, userless, ?_, ?_⟩
    · intro opens
      rw [if_pos (head_place_iff.mpr opens)] at same
      have plain : ']' ∉ (place stage).takeWhile (· != ']') := not_mem_takeWhile_mark
      cases inside : (place stage).takeWhile (· != ']') with
      | nil =>
          rw [inside] at same
          rw [← same] at opens
          exact absurd opens (by decide)
      | cons first inner =>
          rw [inside] at same plain
          rw [← same] at opens
          cases opens
          exact ⟨inner, same.symm, fun present => plain (List.mem_cons_of_mem _ present)⟩
    · intro named
      rw [if_neg fun opens => named (head_place_iff.mp opens)] at same
      rw [← same]
      exact not_mem_takeWhile_mark
  · intro keeps
    obtain ⟨authority, _, _⟩ := parts_of_undivided read keeps.undivided
    have rest := hostAndPort_of_place authority keeps.userless
    unfold host
    rw [rest]
    by_cases opens : stage.host.toList.head? = some '['
    · obtain ⟨inner, whole, plain⟩ := keeps.bracketed opens
      rw [if_pos (head_place_iff.mpr opens)]
      have split : place stage = ('[' :: inner) ++ ']' :: (':' :: portDigits stage) := by
        unfold place
        rw [whole]
        simp
      have closes : ']' ∉ '[' :: inner := by simp [plain]
      rw [split, takeWhile_mark closes, whole]
    · rw [if_neg fun head => opens (head_place_iff.mp head), place,
        takeWhile_mark (keeps.named opens)]

theorem dials_iff (read : parse? stage.endpoint = some uri) :
    uri.Dials stage ↔ KeepsPlace stage.host.toList := by
  constructor
  · intro dials
    exact (host_eq_iff read).mp dials.host
  · intro keeps
    obtain ⟨authority, path, query⟩ := parts_of_undivided read keeps.undivided
    exact
      { scheme := ⟨place stage, toList_endpoint.symm⟩
        user := (user_of_place authority).mpr keeps.userless
        host := (host_eq_iff read).mpr keeps
        port := port_of_place authority
        path := by simp [shownPath, path]
        query := query
        fragment := by
          rw [toList_endpoint]
          intro present
          rcases List.mem_append.mp present with ahead | behind
          · exact absurd ahead (by decide)
          · exact absurd (undivided_place.mpr keeps.undivided '#' behind) (by decide) }

theorem parsed_of_network {method : RemoteMethod} (accepted : Connector.network stage = .ok method) :
    ∃ uri, parse? stage.endpoint = some uri := by
  unfold Connector.network at accepted
  cases read : parse? stage.endpoint with
  | none =>
      rw [read] at accepted
      cases accepted
  | some uri => exact ⟨uri, rfl⟩

theorem network_ok {path : List Char} (read : parse? stage.endpoint = some uri)
    (named : MethodPath.ofName stage.method.name = .ok path) :
    Connector.network stage = .ok .standard := by
  unfold Connector.network
  rw [read, named]

/-- A stage that is accepted is dialled at its own host and port, and nothing else is told there, if and only
if its host keeps its place, and for no other is even the host the right one. Short of that, a host that is
not divided still keeps its port, and tells a user only if there is an `@` in it; one that is divided is
dialled as far as the division, whatever the port. -/
theorem endpoint_dialled {method : RemoteMethod} (accepted : Connector.network stage = .ok method) :
    ∃ uri, parse? stage.endpoint = some uri ∧
      (uri.Dials stage ↔ KeepsPlace stage.host.toList) ∧
      (uri.host = stage.host.toList ↔ KeepsPlace stage.host.toList) ∧
      (Undivided stage.host.toList → uri.port? = some stage.port.toNat ∧ uri.shownPath = ['/'] ∧
        uri.query = none ∧ (uri.userInfo? = none ↔ '@' ∉ stage.host.toList)) ∧
      ∀ before mark after, stage.host.toList = before ++ mark :: after → Undivided before →
        startsPath mark = true → uri.authority = before := by
  obtain ⟨uri, read⟩ := parsed_of_network accepted
  refine ⟨uri, read, dials_iff read, host_eq_iff read, ?_, ?_⟩
  · intro undivided
    obtain ⟨authority, path, query⟩ := parts_of_undivided read undivided
    exact ⟨port_of_place authority, by simp [shownPath, path], query, user_of_place authority⟩
  · intro before mark after divided first ends
    exact authority_of_divided read divided first ends

namespace Lookout

def hosted (host : String) : StageDescriptor :=
  { name := "lookout", host := host, port := 50051
    method :=
      { name := "vision.Lookout/Watch", shape := .unary
        input := { name := "", records := [] }, output := { name := "", records := [] } }
    mode := .continuous }

theorem accepted (host : String) (read : (parse? (hosted host).endpoint).isSome = true) :
    Connector.network (hosted host) = .ok .standard := by
  obtain ⟨uri, found⟩ := Option.isSome_iff_exists.mp read
  have named : MethodPath.ofName "vision.Lookout/Watch" = .ok "/vision.Lookout/Watch".toList := by
    decide
  exact network_ok found named

end Lookout

/-- A host in brackets keeps its place, one behind a user still keeps the port, and one with a path does
neither. -/
theorem endpoint_dialled_lookout :
    (∃ uri, parse? "http://[::1]:50051" = some uri ∧ uri.Dials (Lookout.hosted "[::1]")) ∧
    (∃ uri, parse? "http://guest@tower:50051" = some uri ∧ uri.port? = some 50051 ∧
      uri.userInfo? ≠ none ∧ ¬ uri.Dials (Lookout.hosted "guest@tower")) ∧
    ∃ uri, parse? "http://tower/east:50051" = some uri ∧ uri.authority = "tower".toList := by
  refine ⟨?_, ?_, ?_⟩
  · obtain ⟨uri, read, dials, _⟩ := endpoint_dialled (Lookout.accepted "[::1]" (by decide))
    refine ⟨uri, read, dials.mpr ⟨by decide, by decide, ?_, ?_⟩⟩
    · intro _
      exact ⟨"::1".toList, by decide, by decide⟩
    · intro unopened
      exact absurd rfl unopened
  · obtain ⟨uri, read, dials, _, undivided, _⟩ :=
      endpoint_dialled (Lookout.accepted "guest@tower" (by decide))
    obtain ⟨port, _, _, user⟩ := undivided (by decide)
    have named : '@' ∈ (Lookout.hosted "guest@tower").host.toList := by decide
    exact ⟨uri, read, port, fun none => user.mp none named, fun same => (dials.mp same).userless named⟩
  · obtain ⟨uri, read, _, _, _, divided⟩ :=
      endpoint_dialled (Lookout.accepted "tower/east" (by decide))
    exact ⟨uri, read, divided "tower".toList '/' "east".toList (by decide) (by decide)
      (by decide)⟩

/-- A slash behind the host is enough: the stage is accepted, but its port is read as a path. -/
theorem endpoint_loses_port :
    Connector.network (Lookout.hosted "localhost/") = .ok .standard ∧
    ∃ uri, parse? (Lookout.hosted "localhost/").endpoint = some uri ∧
      uri.host ≠ (Lookout.hosted "localhost/").host.toList ∧ uri.port? = none ∧
      uri.shownPath = "/:50051".toList := by
  refine ⟨Lookout.accepted "localhost/" (by decide), ?_⟩
  refine ⟨{ authority := "localhost".toList, path := "/:50051".toList, query := none }, ?_⟩
  decide

end Uri
end Sluice
