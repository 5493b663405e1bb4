import Sluice.Topology
import Sluice.Text.Blank

set_option autoImplicit false

/-! The faults of a topology, all of them, in a fixed order: repeated names, missing methods, edge
ends that name no stage, and edges from a stage to itself. A cycle through several stages is none. -/

namespace Sluice

inductive TopologyFault where
  | duplicateStageName (stage : String)
  | missingMethod (stage : String)
  | unresolvedEdgeEndpoint (source target missing : String)
  | selfLoop (stage : String)
deriving DecidableEq

namespace TopologyFault

def text : TopologyFault → String
  | .duplicateStageName stage => "Duplicate stage name: '" ++ stage ++ "'"
  | .missingMethod stage => "Stage '" ++ stage ++ "' does not name a remote method"
  | .unresolvedEdgeEndpoint source target missing =>
      "Edge '" ++ source ++ "' -> '" ++ target ++ "' references stage '" ++ missing ++
        "' which does not exist"
  | .selfLoop stage =>
      "Stage '" ++ stage ++ "' links to itself; feedback loops must span at least two stages"

def listing (faults : List TopologyFault) : String :=
  String.intercalate "\n" (faults.map text)

end TopologyFault

namespace Topology

/-- The names that occurred before, one for each later occurrence. -/
def repeatedNames (seen : List String) : List String → List String
  | [] => []
  | name :: rest =>
      if seen.contains name then name :: repeatedNames seen rest
      else repeatedNames (name :: seen) rest

def duplicateNames (topology : Topology) : List TopologyFault :=
  (repeatedNames [] (topology.stages.map (·.name))).map .duplicateStageName

def missingMethods (topology : Topology) : List TopologyFault :=
  (topology.stages.filter fun stage => Text.allBlank stage.method.name).map
    fun stage => .missingMethod stage.name

def danglingEnds (topology : Topology) (edge : EdgeDescriptor) : List TopologyFault :=
  ([edge.source, edge.target].filter fun name => (topology.stage? name).isNone).map
    fun name => .unresolvedEdgeEndpoint edge.source edge.target name

def selfLoops (topology : Topology) : List TopologyFault :=
  (topology.edges.filter fun edge => edge.source = edge.target).map
    fun edge => .selfLoop edge.source

def faults (topology : Topology) : List TopologyFault :=
  topology.duplicateNames ++ topology.missingMethods ++
    topology.edges.flatMap topology.danglingEnds ++ topology.selfLoops

end Sluice.Topology
