import AlertOperator.Json.Shape
import AlertOperator.Text.Base64
import AlertOperator.Time.Timestamp

/-!
# Schemas of the objects of the API

The shapes of the objects that the API sends. The API and the kind of an object may be missing but
not wrong; all else may be missing or null. What the operator has no use for is checked all the
same, since an object with a field of the wrong shape is not the object that was asked for.
-/

namespace AlertOperator.Api

open Json (Shape)
open Json.Shape

/-- A point in time. -/
def timeShape : Shape := text fun s ↦ (Time.Instant.read s).isSome

/-- Texts by their names. -/
def textsShape : Shape := dict string

/-- Bytes in base 64; null stands for none. -/
def bytesShape : Shape := nullable (text fun s ↦ (Base64.decode s.toList).isSome)

/-- The metadata of an object. -/
def metadataShape : Shape := fields [
  ("annotations", textsShape),
  ("creationTimestamp", timeShape),
  ("deletionGracePeriodSeconds", int64),
  ("deletionTimestamp", timeShape),
  ("finalizers", list string),
  ("generateName", string),
  ("generation", int64),
  ("labels", textsShape),
  ("managedFields", list (fields [
    ("apiVersion", string),
    ("fieldsType", string),
    ("fieldsV1", anything),
    ("manager", string),
    ("operation", string),
    ("subresource", string),
    ("time", timeShape)])),
  ("name", string),
  ("namespace", string),
  ("ownerReferences", list (fields [
    ("apiVersion", string),
    ("blockOwnerDeletion", flag),
    ("controller", flag),
    ("kind", string),
    ("name", string),
    ("uid", string)])),
  ("resourceVersion", string),
  ("selfLink", string),
  ("uid", string)]

/-- An object of a kind with the given fields beside its metadata. -/
def objectShape (version kind : String) (fs : List (String × Shape)) : Shape :=
  record ([
    ("apiVersion", text (· == version)),
    ("kind", text (· == kind)),
    ("metadata", nullable metadataShape)] ++ fs.map fun f ↦ (f.1, nullable f.2))

def secretShape : Shape := objectShape "v1" "Secret" [
  ("data", dict bytesShape),
  ("immutable", flag),
  ("stringData", textsShape),
  ("type", string)]

def configMapShape : Shape := objectShape "v1" "ConfigMap" [
  ("binaryData", dict bytesShape),
  ("data", textsShape),
  ("immutable", flag)]

/-- The choice of objects by their labels. -/
def selectorShape : Shape := fields [
  ("matchExpressions", list (fields [
    ("key", string),
    ("operator", string),
    ("values", list string)])),
  ("matchLabels", textsShape)]

/-- A job. What its pods run, and the policies for their failures, are not looked into. -/
def jobShape : Shape := objectShape "batch/v1" "Job" [
  ("spec", fields [
    ("activeDeadlineSeconds", int64),
    ("backoffLimit", int32),
    ("backoffLimitPerIndex", int32),
    ("completionMode", string),
    ("completions", int32),
    ("managedBy", string),
    ("manualSelector", flag),
    ("maxFailedIndexes", int32),
    ("parallelism", int32),
    ("podFailurePolicy", dict anything),
    ("podReplacementPolicy", string),
    ("selector", selectorShape),
    ("successPolicy", dict anything),
    ("suspend", flag),
    ("template", fields [
      ("metadata", metadataShape),
      ("spec", dict anything)]),
    ("ttlSecondsAfterFinished", int32)]),
  ("status", fields [
    ("active", int32),
    ("completedIndexes", string),
    ("completionTime", timeShape),
    ("conditions", list (fields [
      ("lastProbeTime", timeShape),
      ("lastTransitionTime", timeShape),
      ("message", string),
      ("reason", string),
      ("status", string),
      ("type", string)])),
    ("failed", int32),
    ("failedIndexes", string),
    ("ready", int32),
    ("startTime", timeShape),
    ("succeeded", int32),
    ("terminating", int32),
    ("uncountedTerminatedPods", fields [
      ("failed", list string),
      ("succeeded", list string)])])]

/-- What an outcome says beyond its message. -/
def detailsShape : Shape := nullable (record [
  ("name", string),
  ("group", string),
  ("kind", string),
  ("uid", string),
  ("causes", list (record [
    ("reason", string),
    ("message", string),
    ("field", string)])),
  ("retryAfterSeconds", integer 0 0xFFFFFFFF)])

/-- The metadata of a list. -/
def listMetadataShape : Shape := fields [
  ("continue", string),
  ("remainingItemCount", int64),
  ("resourceVersion", string),
  ("selfLink", string)]

end AlertOperator.Api
