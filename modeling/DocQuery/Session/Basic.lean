import DocQuery.Store.Repository

/-!
Sessions: repositories by name, the registries that they share or own, and the capture of events.
-/
namespace DocQuery

/-- A registry that has a name is shared by all who name it; others belong to one repository. -/
inductive RegistryKey where
  | shared (name : String)
  | own (number : Nat)
deriving DecidableEq, Repr

structure Member where
  repository : Repository
  registry : RegistryKey
  refuses : Refusal

structure Session where
  ids : IdSource
  members : List (String × Member)
  registries : List (RegistryKey × Registry)
  made : Nat
  /-- The events since they were last taken, if a capture is active. -/
  capture : Option (List Event)

namespace Session

def start : Session := ⟨.initial, [], [], 0, none⟩

def member? (s : Session) (name : String) : Option Member := s.members.lookup name

def putMember (s : Session) (name : String) (m : Member) : Session :=
  { s with members := (name, m) :: s.members.filter fun e => e.1 != name }

def registry (s : Session) (key : RegistryKey) : Registry := (s.registries.lookup key).getD []

def putRegistry (s : Session) (key : RegistryKey) (r : Registry) : Session :=
  { s with registries := (key, r) :: s.registries.filter fun e => e.1 != key }

/-- An event is kept only while a capture is active. -/
def record (s : Session) (e : Event) : Session :=
  { s with capture := s.capture.map fun events => events ++ [e] }

def recordAll (s : Session) (conversion : Option Conversion) : Session :=
  match conversion with
  | some v => s.record v.event
  | none => s

def putRepository (s : Session) (name : String) (m : Member) (r : Repository) : Session :=
  s.putMember name { m with repository := r }

end Session

end DocQuery
