import Sluice.Bench.Rig

set_option autoImplicit false

/-! Single parts on a bench: one link, one input, one output, one lifecycle or one bus, with at most one
consumer that waits. After every intervention the consumer goes on until it is blocked. -/

namespace Sluice.Bench

structure TokenDesk where
  pool : TokenPool
  token : TokenId

namespace TokenDesk

def fresh : TokenDesk :=
  { pool := .single, token := 0 }

def cancel (desk : TokenDesk) : TokenDesk :=
  { desk with pool := desk.pool.fire desk.token }

def renew (desk : TokenDesk) : TokenDesk :=
  { pool := desk.pool.issue, token := desk.pool.fresh }

end TokenDesk

/-- The end of a wait is shown once. -/
inductive ConsumerView where
  | idle
  | pending
  | got (packet : Option Packet)

inductive PartResponse where
  | nothing
  | busy
  | done
  | text (text : String)
  | packet (packet : Option Packet)
  | packets (packets : List (Option Packet))
  | refused (error : MessageError)

/-- A wait on a link for a packet from some id on, of an id divisible by some number. -/
structure LinkWait where
  least : Nat
  divisor : Option Nat
  token : TokenId
  posture : Posture

def LinkWait.accepts (wait : LinkWait) (packet : Packet) : Bool :=
  wait.least ≤ packet.id && match wait.divisor with
    | none => true
    | some divisor => packet.id % divisor = 0

inductive LinkCommand where
  | put (packet : Packet)
  | putMany (packets : List Packet)
  | take (least : Nat) (divisor : Option Nat)
  | takeNow
  | cancel
  | renewToken
  | label
  | inspect

structure LinkDesk where
  link : Link
  desk : TokenDesk
  wait : Option LinkWait

namespace LinkDesk

def ofLabel (label : String) : LinkDesk :=
  { link := .labelled label, desk := .fresh, wait := none }

def putAll : List Packet → Link → Link × List (Option Packet) × List Notice
  | [], link => (link, [], [])
  | packet :: rest, link =>
      let stored := link.put packet
      let later := putAll rest stored.1
      (later.1, stored.2.1 :: later.2.1, stored.2.2 ++ later.2.2)

def intervene (desk : LinkDesk) (command : LinkCommand) :
    LinkDesk × PartResponse × List Notice :=
  match command with
  | .put packet =>
      let stored := desk.link.put packet
      ({ desk with link := stored.1 }, .packet stored.2.1, stored.2.2)
  | .putMany packets =>
      let stored := putAll packets desk.link
      ({ desk with link := stored.1 }, .packets stored.2.1, stored.2.2)
  | .take least divisor =>
      match desk.wait with
      | some _ => (desk, .busy, [])
      | none =>
          ({ desk with
              wait := some
                { least := least, divisor := divisor, token := desk.desk.token
                  posture := .looking } }, .nothing, [])
  | .takeNow =>
      match desk.wait with
      | some _ => (desk, .busy, [])
      | none =>
          let taken := desk.link.takeNow
          ({ desk with link := taken.1 }, .packet taken.2, [])
  | .cancel => ({ desk with desk := desk.desk.cancel }, .nothing, [])
  | .renewToken => ({ desk with desk := desk.desk.renew }, .nothing, [])
  | .label => (desk, .text desk.link.label, [])
  | .inspect => (desk, .text desk.link.inspect, [])

/-- A wait is blocked after few steps, since the slot holds one packet. -/
def settle : Nat → LinkDesk → LinkDesk × ConsumerView × List Notice
  | 0, desk => (desk, .pending, [])
  | steps + 1, desk =>
      match desk.wait with
      | none => (desk, .idle, [])
      | some wait =>
          match desk.link.stepWait wait.accepts (desk.desk.pool.isFired wait.token) false
              wait.posture with
          | none => (desk, .pending, [])
          | some stepped =>
              match stepped.outcome with
              | .waiting posture =>
                  let later := settle steps
                    { desk with link := stepped.link, wait := some { wait with posture := posture } }
                  (later.1, later.2.1, stepped.notices ++ later.2.2)
              | .taken packet =>
                  ({ desk with link := stepped.link, wait := none }, .got (some packet),
                    stepped.notices)
              | .cancelled =>
                  ({ desk with link := stepped.link, wait := none }, .got none, stepped.notices)

def step (desk : LinkDesk) (command : LinkCommand) :
    LinkDesk × PartResponse × ConsumerView × List Notice :=
  let intervened := desk.intervene command
  let settled := settle 16 intervened.1
  (settled.1, intervened.2.1, settled.2.1, intervened.2.2 ++ settled.2.2)

end LinkDesk

inductive InputCommand where
  | put (link : LinkId) (packet : Packet)
  | next
  | cancel
  | renewToken

structure InputDesk where
  input : Input
  links : LinkStore
  desk : TokenDesk
  call : Option (TokenId × InputCall)

namespace InputDesk

def intervene (desk : InputDesk) (command : InputCommand) :
    InputDesk × PartResponse × List Notice :=
  match command with
  | .put link packet =>
      let stored := desk.links.put link packet
      ({ desk with links := stored.1 }, .packet stored.2.1, stored.2.2)
  | .next =>
      match desk.call with
      | some _ => (desk, .busy, [])
      | none => ({ desk with call := some (desk.desk.token, desk.input.call) }, .nothing, [])
  | .cancel => ({ desk with desk := desk.desk.cancel }, .nothing, [])
  | .renewToken => ({ desk with desk := desk.desk.renew }, .nothing, [])

/-- Each visit of a field takes few steps, and each packet on a link starts one round of visits. -/
def patience (desk : InputDesk) : Nat :=
  16 * (desk.links.next + 2) * (desk.links.next + 2)

def settle : Nat → InputDesk → InputDesk × ConsumerView × List Notice
  | 0, desk => (desk, .pending, [])
  | steps + 1, desk =>
      match desk.call with
      | none => (desk, .idle, [])
      | some (token, call) =>
          match desk.input.step (desk.desk.pool.isFired token) false desk.links call with
          | none => (desk, .pending, [])
          | some stepped =>
              let moved := { desk with input := stepped.input, links := stepped.links }
              match stepped.outcome with
              | .inl next =>
                  let later := settle steps { moved with call := some (token, next) }
                  (later.1, later.2.1, stepped.notices ++ later.2.2)
              | .inr ended => ({ moved with call := none }, .got ended, stepped.notices)

def step (desk : InputDesk) (command : InputCommand) :
    InputDesk × PartResponse × ConsumerView × List Notice :=
  let intervened := desk.intervene command
  let settled := settle desk.patience intervened.1
  (settled.1, intervened.2.1, settled.2.1, intervened.2.2 ++ settled.2.2)

end InputDesk

inductive OutputCommand where
  | accept (packet : Packet)
  | take (link : LinkId)
  | put (link : LinkId) (packet : Packet)

structure OutputDesk where
  output : Output
  links : LinkStore

namespace OutputDesk

def step (desk : OutputDesk) (command : OutputCommand) :
    OutputDesk × PartResponse × List Notice :=
  match command with
  | .accept packet =>
      match desk.output.accept desk.links packet with
      | .error error => (desk, .refused error, [])
      | .ok (links, notices) => ({ desk with links := links }, .done, notices)
  | .take link =>
      let taken := (desk.links.get link).takeNow
      ({ desk with links := desk.links.set link taken.1 }, .packet taken.2, [])
  | .put link packet =>
      let stored := desk.links.put link packet
      ({ desk with links := stored.1 }, .packet stored.2.1, stored.2.2)

end OutputDesk

inductive LifecycleCommand where
  | request (asked : LifecycleRequest)
  | keepToken
  | wait

/-- `waits` holds the state that ended each wait, nothing while it is blocked. -/
structure LifecycleDesk where
  life : Lifecycle
  tokens : List TokenId
  waits : List (Option Phase)

namespace LifecycleDesk

def ofStage (stage : String) : LifecycleDesk :=
  { life := .fresh stage, tokens := [], waits := [] }

def intervene (desk : LifecycleDesk) : LifecycleCommand → LifecycleDesk × List Notice
  | .request asked =>
      let result := desk.life.request asked
      ({ desk with life := result.1 }, result.2)
  | .keepToken => ({ desk with tokens := desk.tokens ++ [desk.life.cancellation] }, [])
  | .wait => ({ desk with waits := desk.waits ++ [none] }, [])

def settle (desk : LifecycleDesk) : LifecycleDesk :=
  { desk with
    waits := desk.waits.map fun wait =>
      match wait with
      | some ended => some ended
      | none => desk.life.waitWhilePaused }

def step (desk : LifecycleDesk) (command : LifecycleCommand) : LifecycleDesk × List Notice :=
  let intervened := desk.intervene command
  (intervened.1.settle, intervened.2)

end LifecycleDesk

inductive BusCommand where
  | subscribe
  | publish (stages : List String)
  | receive (subscriber : Nat)
  | drop

inductive BusResponse where
  | nothing
  | gone
  | subscriber (index : Nat)
  | received (reception : Reception)
deriving DecidableEq

def stepBus (bus : ReportBus) (command : BusCommand) : ReportBus × BusResponse :=
  match command with
  | .subscribe =>
      if bus.closed then (bus, .gone) else (bus.subscribe, .subscriber bus.nextSubscriber)
  | .publish stages =>
      if bus.closed then (bus, .gone) else (stages.foldl ReportBus.publish bus, .nothing)
  | .receive subscriber =>
      let received := bus.receive subscriber
      (received.1, .received received.2)
  | .drop => (bus.close, .nothing)

end Sluice.Bench
