import EdgeRoutes.Codec.Record

/-!
The metadata that every resource carries. All of it is optional, and an empty map or list differs
from an absent one.
-/

namespace EdgeRoutes

namespace Metadata

structure Owner where
  apiVersion : String
  blocksDeletion : Option Bool
  isController : Option Bool
  kind : String
  name : String
  uid : String
deriving DecidableEq

structure ManagedFields where
  apiVersion : Option String
  fieldsType : Option String
  fields : Option Json
  manager : Option String
  operation : Option String
  subresource : Option String
  time : Option Timestamp
deriving BEq

end Metadata

structure Metadata where
  annotations : Option (Table String) := none
  creationTimestamp : Option Timestamp := none
  deletionGracePeriodSeconds : Option Int := none
  deletionTimestamp : Option Timestamp := none
  finalizers : Option (List String) := none
  generateName : Option String := none
  generation : Option Int := none
  labels : Option (Table String) := none
  managedFields : Option (List Metadata.ManagedFields) := none
  name : Option String := none
  inNamespace : Option String := none
  ownerReferences : Option (List Metadata.Owner) := none
  resourceVersion : Option String := none
  selfLink : Option String := none
  uid : Option String := none
deriving BEq, Inhabited

namespace Metadata

def Owner.codec : Codec Owner :=
  .object "OwnerReference" <| (Fields.build Owner.mk)
    |>.field "apiVersion" Owner.apiVersion .lenientText
    |>.field "blockOwnerDeletion" Owner.blocksDeletion (.optional .boolean)
    |>.field "controller" Owner.isController (.optional .boolean)
    |>.field "kind" Owner.kind .lenientText
    |>.field "name" Owner.name .lenientText
    |>.field "uid" Owner.uid .lenientText

/-- The levels of a managed field value that a YAML document may nest: 128 less those around it. -/
def managedFieldsDepth : Nat := 124

def ManagedFields.codec : Codec ManagedFields :=
  .object "ManagedFieldsEntry" <| (Fields.build ManagedFields.mk)
    |>.field "apiVersion" ManagedFields.apiVersion (.optional .text)
    |>.field "fieldsType" ManagedFields.fieldsType (.optional .text)
    |>.field "fieldsV1" ManagedFields.fields (.optional (.anything managedFieldsDepth))
    |>.field "manager" ManagedFields.manager (.optional .text)
    |>.field "operation" ManagedFields.operation (.optional .text)
    |>.field "subresource" ManagedFields.subresource (.optional .text)
    |>.field "time" ManagedFields.time (.optional .timestamp)

def codec : Codec Metadata :=
  .object "ObjectMeta" <| (Fields.build Metadata.mk)
    |>.field "annotations" Metadata.annotations (.optional (.table .text))
    |>.field "creationTimestamp" Metadata.creationTimestamp (.optional .timestamp)
    |>.field "deletionGracePeriodSeconds" Metadata.deletionGracePeriodSeconds
      (.optional (.integer .i64 "int64"))
    |>.field "deletionTimestamp" Metadata.deletionTimestamp (.optional .timestamp)
    |>.field "finalizers" Metadata.finalizers (.optional (.list .text))
    |>.field "generateName" Metadata.generateName (.optional .text)
    |>.field "generation" Metadata.generation (.optional (.integer .i64 "int64"))
    |>.field "labels" Metadata.labels (.optional (.table .text))
    |>.field "managedFields" Metadata.managedFields (.optional (.list ManagedFields.codec))
    |>.field "name" Metadata.name (.optional .text)
    |>.field "namespace" Metadata.inNamespace (.optional .text)
    |>.field "ownerReferences" Metadata.ownerReferences (.optional (.list Owner.codec))
    |>.field "resourceVersion" Metadata.resourceVersion (.optional .text)
    |>.field "selfLink" Metadata.selfLink (.optional .text)
    |>.field "uid" Metadata.uid (.optional .text)

/-- The name, or the stem from which one is to be generated, or nothing. -/
def anyName (m : Metadata) : String := (m.name.orElse fun _ => m.generateName).getD ""

def annotationTable (m : Metadata) : Table String := m.annotations.getD .empty

def labelTable (m : Metadata) : Table String := m.labels.getD .empty

end Metadata

end EdgeRoutes
