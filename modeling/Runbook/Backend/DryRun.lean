import Runbook.Backend.Registry

set_option autoImplicit false

namespace Runbook

abbrev Counters := Dict String Nat

abbrev DryRun := Registry Counters

namespace DryRun

def otherActions : List String := ["delete", "start", "stop", "update", "attach", "detach"]

def kinds : List String :=
  ["instance", "vpc", "subnet", "securitygroup", "volume", "keypair", "internetgateway",
    "routetable", "user", "group"]

def count (counters : Counters) (kind : String) : Nat := (counters.get? kind).getD 0

def identifier (kind : String) (number : Nat) : String := kind ++ "-" ++ toString number

def create (kind : String) : Handler Counters := fun _ counters =>
  let number := count counters kind + 1
  (⟨.ok (.text (identifier kind number)), false⟩, counters.insert kind number)

def answerId : Handler Counters := fun parameters counters =>
  (⟨parameters.require "id", false⟩, counters)

def registerKind (registry : DryRun) (kind : String) : DryRun :=
  otherActions.foldl (fun registry action => registry.register action kind answerId)
    (registry.register "create" kind (create kind))

def new : DryRun := kinds.foldl registerKind (Registry.empty ∅)

def failOn (registry : DryRun) (action kind message : String) : DryRun :=
  registry.register action kind (.answer (.error (.provider message)))

def created (registry : DryRun) (kind : String) : Nat := count registry.state kind

end DryRun

end Runbook
