import ServiceMesh.Registry.Record

/-!
# Notices

A node tells one health subscriber about changes of status and one service subscriber
about registrations and removals. A new subscriber replaces the old one. The notifier
keeps what it has delivered, and to whom.
-/

namespace ServiceMesh

/-- A change of the status of an instance. -/
structure StatusChange where
  id : String
  previous : Status
  current : Status
  deriving DecidableEq, Repr

/-- A change of the set of registered instances. -/
inductive MembershipChange where
  | registered (record : Record)
  | unregistered (record : Record)

/-- The subscribers by name, and what they were told, newest first. -/
structure Notifier where
  healthListener : Option String := none
  serviceListener : Option String := none
  statusChanges : List (String × StatusChange) := []
  membershipChanges : List (String × MembershipChange) := []
  deriving Inhabited

namespace Notifier

/-- Tell the health subscriber, if there is one. -/
def statusChanged (n : Notifier) (change : StatusChange) : Notifier :=
  match n.healthListener with
  | none => n
  | some listener => { n with statusChanges := (listener, change) :: n.statusChanges }

/-- Tell the service subscriber, if there is one. -/
def membershipChanged (n : Notifier) (change : MembershipChange) : Notifier :=
  match n.serviceListener with
  | none => n
  | some listener => { n with membershipChanges := (listener, change) :: n.membershipChanges }

/-- The notifier after its deliveries were looked through. -/
def drained (n : Notifier) : Notifier := { n with statusChanges := [], membershipChanges := [] }

/-- One line about the subscribers. -/
def describe (n : Notifier) : String :=
  "Notifier \x7b health: " ++ toString n.healthListener.isSome ++
    ", services: " ++ toString n.serviceListener.isSome ++ " \x7d"

end Notifier

end ServiceMesh
