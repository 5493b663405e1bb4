import Sluice.Yaml.Event
import Sluice.Yaml.Fault

set_option autoImplicit false

/-! The first document of a text as a tree. What a fault of grammar cuts off is missing from the tree,
and a node stands where it would have been; aliases refer to anchored nodes by number. -/

namespace Sluice.Yaml

/-- The entries of a mapping are held in a row, each key before its value. -/
inductive Node where
  /-- All that there is in a text without a document. -/
  | void (mark : Mark)
  /-- Where the text could not be read any further. -/
  | cut
  | alias (number : Nat) (mark : Mark)
  | scalar (tag : Option Tag) (text : String) (style : ScalarStyle) (mark : Mark)
  | sequence (tag : Option Tag) (items : List Node) (mark : Mark)
  | mapping (tag : Option Tag) (entries : List Node) (mark : Mark)

mutual

def Node.isWhole : Node → Bool
  | .cut => false
  | .sequence _ items _ => Node.allWhole items
  | .mapping _ entries _ => Node.allWhole entries
  | _ => true

def Node.allWhole : List Node → Bool
  | [] => true
  | node :: rest => node.isWhole && Node.allWhole rest

end

/-- `size` counts the events of the document; `followed` tells that the text goes on after it. -/
structure Document where
  root : Node
  anchored : List (Nat × Node)
  size : Nat
  fault : Option Fault
  followed : Bool

/-- A collection whose end has not come yet; its children are held in reverse. -/
structure OpenNode where
  close : List Node → Node
  position : Option Nat
  children : List Node

/-- The tree while it grows. Anchors are numbered as they come, by how many names there were; an
anchored node is held under its position, the number of events before it. -/
structure Growth where
  size : Nat
  names : List (List Char × Nat)
  positions : List (Nat × Nat)
  anchored : List (Nat × Node)
  stack : List OpenNode
  root : Option Node

namespace Growth

def empty : Growth :=
  { size := 0, names := [], positions := [], anchored := [], stack := [], root := none }

/-- Notes an anchor. One that comes again keeps its place among the names. -/
def enter (growth : Growth) (anchor : Option (List Char)) : Growth × Option Nat :=
  let counted := { growth with size := growth.size + 1 }
  match anchor with
  | none => (counted, none)
  | some name =>
      let number := growth.names.length
      let others := growth.names.filter fun entry => entry.1 ≠ name
      ({ counted with
          names := (name, number) :: others
          positions := (number, growth.size) :: growth.positions }, some growth.size)

def add (growth : Growth) (node : Node) (position : Option Nat) : Growth :=
  let held :=
    match position with
    | none => growth
    | some place => { growth with anchored := (place, node) :: growth.anchored }
  match held.stack with
  | [] => { held with root := some node }
  | top :: outer => { held with stack := { top with children := node :: top.children } :: outer }

def openNode (growth : Growth) (anchor : Option (List Char)) (close : List Node → Node) :
    Growth :=
  let entered := growth.enter anchor
  { entered.1 with
    stack := { close := close, position := entered.2, children := [] } :: entered.1.stack }

def closeNode (growth : Growth) : Growth :=
  match growth.stack with
  | [] => growth
  | top :: outer =>
      { growth with size := growth.size + 1, stack := outer }.add (top.close top.children.reverse)
        top.position

def cutOff (growth : Growth) : Growth :=
  match growth.root with
  | some _ => growth
  | none => growth.stack.foldl (fun held _ => held.closeNode) (growth.add .cut none)

def document (growth : Growth) (fault : Option Fault) (followed : Bool) : Document :=
  { root := growth.root.getD .cut
    anchored :=
      growth.positions.filterMap fun entry =>
        (growth.anchored.lookup entry.2).map fun node => (entry.1, node)
    size := growth.size, fault := fault, followed := followed }

def cutDocument (growth : Growth) (fault : Option Fault) : Document :=
  { growth.cutOff.document fault false with size := growth.size }

end Growth

namespace Document

def collect (fault : Option GrammarFault) : List (Event × Mark) → Growth → Document
  | [], growth => growth.cutDocument (fault.map .grammar)
  | (event, mark) :: rest, growth =>
      match event with
      | .documentStart => collect fault rest growth
      | .streamEnd => { (growth.add (.void mark) none).document none false with size := 1 }
      | .documentEnd =>
          let alone := match rest with
            | (.streamEnd, _) :: _ => true
            | _ => false
          growth.document none (!alone)
      | .alias name =>
          match growth.names.lookup name with
          | none => growth.cutDocument (some (.unknownAnchor mark))
          | some number =>
              collect fault rest ((growth.enter none).1.add (.alias number mark) none)
      | .scalar properties text style =>
          let entered := growth.enter properties.anchor
          let node := Node.scalar properties.tag (String.ofList text) style mark
          collect fault rest (entered.1.add node entered.2)
      | .sequenceStart properties =>
          collect fault rest
            (growth.openNode properties.anchor fun items =>
              .sequence properties.tag items mark)
      | .mappingStart properties =>
          collect fault rest
            (growth.openNode properties.anchor fun entries =>
              .mapping properties.tag entries mark)
      | .sequenceEnd | .mappingEnd => collect fault rest growth.closeNode

def ofText (text : String) : Document :=
  let stream := EventStream.ofText text
  collect stream.fault stream.events .empty

def target? (document : Document) (number : Nat) : Option Node :=
  document.anchored.lookup number

def cutFault (document : Document) : Fault :=
  document.fault.getD .endOfText

def aliasLimit (document : Document) : Nat :=
  100 * document.size

def depthLimit : Nat :=
  128

end Sluice.Yaml.Document
