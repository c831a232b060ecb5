import ServiceTopology.Record.Metadata

/-!
# The fleet of server instances

Server instances in the order in which they were added. An instance is alive in a window of second
buckets when it registered no later than the window's end and its last heartbeat is no earlier than the
window's start. Buckets are compared as integers and need not be well formed.
-/

namespace ServiceTopology

/-- Known server instances. -/
structure Fleet where
  instances : List ServerInstance
  deriving DecidableEq

namespace Fleet

/-- Add an instance at the end. -/
def add (fleet : Fleet) (server : ServerInstance) : Fleet := ⟨fleet.instances ++ [server]⟩

/-- Test whether an instance is alive in a window. -/
def isAlive (start finish : Int) (server : ServerInstance) : Bool :=
  server.registration ≤ finish && start ≤ server.heartbeat

/-- Instances of an application that are alive in a window. -/
def aliveIn (fleet : Fleet) (applicationId start finish : Int) : List ServerInstance :=
  fleet.instances.filter fun server =>
    server.applicationId == applicationId && isAlive start finish server

/-- Instances of an application that registered no later than a window's end, with a last heartbeat no earlier than its
start. -/
theorem aliveIn_eq (fleet : Fleet) (applicationId start finish : Int) :
    fleet.aliveIn applicationId start finish = fleet.instances.filter fun server =>
      server.applicationId = applicationId ∧ server.registration ≤ finish ∧ start ≤ server.heartbeat :=
  List.filter_congr fun server _ => by rw [Bool.eq_iff_iff]; simp [isAlive]

end Fleet

end ServiceTopology
