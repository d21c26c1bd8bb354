import BlockVolume.Cloud.Signature
/-!
The URLs at which the services of the cloud are asked.
-/

namespace BlockVolume.Cloud

/-- Where the metadata service and the control plane are reached. -/
structure Endpoints where
  metadata : String
  control : String

namespace Endpoints

/-- The URL of a metadata resource — a slash at the end of the endpoint may be left out. -/
def metadataUrl (endpoints : Endpoints) (resource : String) : String :=
  if endpoints.metadata.toList.getLast? = some '/' then endpoints.metadata ++ resource
  else endpoints.metadata ++ "/" ++ resource

/-- The URL that attaches a disk to a node. -/
def attachUrl (endpoints : Endpoints) (credentials : Credentials) (stamp : Stamp)
    (disk node : String) : String :=
  signedUrl endpoints.control credentials
    (changeParameters "AttachDisk" credentials stamp disk node)

/-- The URL that detaches a disk from a node. -/
def detachUrl (endpoints : Endpoints) (credentials : Credentials) (stamp : Stamp)
    (disk node : String) : String :=
  signedUrl endpoints.control credentials
    (changeParameters "DetachDisk" credentials stamp disk node)

/-- The URL that looks a disk up. -/
def describeUrl (endpoints : Endpoints) (credentials : Credentials) (stamp : Stamp)
    (region disk : String) : String :=
  signedUrl endpoints.control credentials (describeParameters credentials stamp region disk)

end Endpoints
end BlockVolume.Cloud
