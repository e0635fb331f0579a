import VMachine.Batch.Worker

/-! The two producers: `enqueue_audit_entry` for the audit trail and
`MonitoringService.record_metric` for metric readings. -/
namespace VMachine.Batch
open Py

/- `enqueue_audit_entry(...)`, together with the value its call of uuid4 returns. -/
structure AuditCall where
  uuid : String
  actor : Option String := none
  action : Option String := none
  resourceType : Option String := none
  resourceId : Option String := none
  status : String := "pending"
  requestId : Option String := none
  payload : Option (List (String × Val)) := none
  deriving Repr

structure AuditEntry where
  id : String
  actor : Option String
  action : Option String
  resourceType : String
  resourceId : Option String
  status : String
  requestId : Option String
  payload : Option (List (String × Val))
  deriving Repr

/- `text or default` for an optional string: the empty string counts as missing. -/
def orElse (text : Option String) (default : String) : String :=
  match text with
  | none => default
  | some s => if s = "" then default else s

def makeEntry (c : AuditCall) : AuditEntry where
  id := c.uuid
  actor := c.actor
  action := c.action
  resourceType := orElse c.resourceType "unknown"
  resourceId := c.resourceId
  status := c.status
  requestId := c.requestId
  payload := c.payload

/-- A call without an action is dropped, any other puts one entry. -/
def enqueueAuditEntry (c : AuditCall) : Option AuditEntry :=
  match c.action with
  | none => none
  | some action => if action = "" then none else some (makeEntry c)

/- The arguments of `record_metric`, which are also the fields of the dictionary it puts. -/
structure Reading where
  metricName : String
  source : String
  value : Rat
  unit : Option String := none
  labels : Option (List (String × Val)) := none
  projectId : Option String := none
  resourceId : Option String := none
  deriving Repr

def recordMetric (r : Reading) : Option Reading := some r

/- `_BATCH_SIZE = 20` and `_METRIC_BATCH_SIZE = 50`. -/
def auditFlushWorker : Worker AuditCall AuditEntry := ⟨20, by decide, enqueueAuditEntry⟩

def metricFlushWorker : Worker Reading Reading := ⟨50, by decide, recordMetric⟩

end VMachine.Batch
