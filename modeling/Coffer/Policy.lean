import Coffer.Wire.Field

/-!
# Policy — where containers are placed

A **placement policy** says how many copies of a container are kept and on which nodes.  A policy
that was read keeps the bytes it was read from, so whatever they hold beyond this type is passed
on unchanged.  A **container policy** binds a placement policy to a location; a **stored policy** is
the form in which a box keeps it, where the placement policy is still bytes.
-/

namespace Coffer

open Wire

/-! ## Replicas -/

/-- One replication rule: keep `count` copies on the nodes that `selector` chooses. -/
structure Replica where
  /-- How many copies to keep. -/
  count : UInt32
  /-- Which nodes to keep them on. -/
  selector : String
deriving DecidableEq

namespace Replica

/-- The fields of a replica: its count, then its selector. -/
def fields (replica : Replica) : List Field :=
  Field.word32 1 replica.count ++ Field.text 2 replica.selector

/-- The bytes of a replica. -/
def encode (replica : Replica) : Bytes := Field.writeAll replica.fields

/-- What one field says about a replica. -/
inductive Part
  | count (value : UInt32)
  | selector (text : String)
  | unknown

/-- Reads one field of a replica. -/
def Part.ofField (field : Field) : Except Fault Part :=
  match field.number with
  | 1 => return count (← field.value.asWord32 "replica.count")
  | 2 => return selector (← field.value.asText "replica.selector")
  | _ => return unknown

/-- A replica with one more part; a later part replaces an earlier one. -/
def add (replica : Replica) : Part → Replica
  | .count value => { replica with count := value }
  | .selector text => { replica with selector := text }
  | .unknown => replica

/-- Reads a replica. -/
def decode (bytes : Bytes) : Except Fault Replica :=
  return (← Field.readAll Part.ofField bytes).foldl add ⟨0, ""⟩

end Replica

/-! ## Placement policies -/

/-- **A placement policy**, with its bytes. -/
structure PlacementPolicy where
  /-- The replication rules, in order. -/
  replicas : List Replica
  /-- How many further nodes each copy may be moved to. -/
  backupFactor : UInt32
  /-- The bytes of the policy. -/
  encoded : Bytes
deriving DecidableEq

namespace PlacementPolicy

/-- The fields of a policy: its replicas in order, then its backup factor. -/
def fields (replicas : List Replica) (backupFactor : UInt32) : List Field :=
  replicas.flatMap (fun replica => Field.message 1 replica.encode) ++ Field.word32 2 backupFactor

/-- The policy with the given rules, in its shortest bytes. -/
def ofRules (replicas : List Replica) (backupFactor : UInt32) : PlacementPolicy :=
  ⟨replicas, backupFactor, Field.writeAll (fields replicas backupFactor)⟩

/-- What one field says about a policy. -/
inductive Part
  | replica (rule : Replica)
  | backupFactor (value : UInt32)
  | unknown

/-- Reads one field of a policy. -/
def Part.ofField (field : Field) : Except Fault Part :=
  match field.number with
  | 1 => return replica (← Replica.decode (← field.value.asPayload "policy.replicas"))
  | 2 => return backupFactor (← field.value.asWord32 "policy.container_backup_factor")
  | _ => return unknown

/-- The replica a part holds. -/
def Part.replica? : Part → Option Replica
  | replica rule => some rule
  | _ => none

/-- The backup factor after one more part. -/
def Part.lastBackupFactor (before : UInt32) : Part → UInt32
  | backupFactor value => value
  | _ => before

/-- Reads a policy: all replicas in order and the last backup factor, with the bytes read. -/
def decode (bytes : Bytes) : Except Fault PlacementPolicy := do
  let parts ← Field.readAll Part.ofField bytes
  return ⟨parts.filterMap Part.replica?, parts.foldl Part.lastBackupFactor 0, bytes⟩

end PlacementPolicy

/-! ## Stored policies -/

/-- **A stored policy**: the form in which a box keeps a container policy. -/
structure StoredPolicy where
  /-- The location it is bound to. -/
  location : String
  /-- The bytes of the placement policy. -/
  policy : Bytes
deriving DecidableEq

namespace StoredPolicy

/-- The fields of a stored policy: its location, then its policy. -/
def fields (stored : StoredPolicy) : List Field :=
  Field.text 1 stored.location ++ Field.bytes 2 stored.policy

/-- The bytes of a stored policy. -/
def encode (stored : StoredPolicy) : Bytes := Field.writeAll stored.fields

/-- What one field says about a stored policy. -/
inductive Part
  | location (text : String)
  | policy (bytes : Bytes)
  | unknown

/-- Reads one field of a stored policy. -/
def Part.ofField (field : Field) : Except Fault Part :=
  match field.number with
  | 1 => return location (← field.value.asText "container_policy.location_constraint")
  | 2 => return policy (← field.value.asPayload "container_policy.policy")
  | _ => return unknown

/-- A stored policy with one more part; a later part replaces an earlier one. -/
def add (stored : StoredPolicy) : Part → StoredPolicy
  | .location text => { stored with location := text }
  | .policy bytes => { stored with policy := bytes }
  | .unknown => stored

/-- Reads a stored policy. -/
def decode (bytes : Bytes) : Except Fault StoredPolicy :=
  return (← Field.readAll Part.ofField bytes).foldl add ⟨"", []⟩

end StoredPolicy

/-! ## Container policies -/

/-- **A container policy**: a placement policy bound to a location. -/
structure ContainerPolicy where
  /-- The location it is bound to. -/
  location : String
  /-- Where containers created there are placed. -/
  policy : PlacementPolicy
deriving DecidableEq

namespace ContainerPolicy

/-- The form in which a box keeps the policy. -/
def toStored (policy : ContainerPolicy) : StoredPolicy := ⟨policy.location, policy.policy.encoded⟩

/-- The policy that a box keeps in the given form. -/
def ofStored (stored : StoredPolicy) : Except Fault ContainerPolicy :=
  return ⟨stored.location, ← PlacementPolicy.decode stored.policy⟩

end ContainerPolicy

end Coffer
