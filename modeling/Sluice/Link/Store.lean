import Sluice.Link

set_option autoImplicit false

/-! All links of a system, each known by its place. Adapters hold places, so several of them can
share a link. -/

namespace Sluice

abbrev LinkId := Nat

structure LinkStore where
  links : List Link

namespace LinkStore

def empty : LinkStore :=
  { links := [] }

/-- A place outside the store reads as an unlabelled empty link. -/
def get (store : LinkStore) (id : LinkId) : Link :=
  store.links.getD id (.labelled "")

def set (store : LinkStore) (id : LinkId) (link : Link) : LinkStore :=
  { links := store.links.set id link }

def next (store : LinkStore) : LinkId :=
  store.links.length

def add (store : LinkStore) (label : String) : LinkStore :=
  { links := store.links ++ [.labelled label] }

def put (store : LinkStore) (id : LinkId) (packet : Packet) :
    LinkStore × Option Packet × List Notice :=
  let result := (store.get id).put packet
  (store.set id result.1, result.2)

theorem get_set_same {store : LinkStore} {id : LinkId} {link : Link}
    (known : id < store.next) : (store.set id link).get id = link := by
  unfold next at known
  simp [get, set, known]

theorem get_set_other {store : LinkStore} {id other : LinkId} {link : Link}
    (different : id ≠ other) : (store.set id link).get other = store.get other := by
  simp [get, set, different]

theorem next_set {store : LinkStore} {id : LinkId} {link : Link} :
    (store.set id link).next = store.next := by
  simp [next, set]

end Sluice.LinkStore
