import VMachine.Lib.Runs
import VMachine.Lib.Fifo
import VMachine.Lib.Python
import VMachine.Lib.FirstSeen
import VMachine.Lib.Effects
import VMachine.Lib.Pydantic
import VMachine.Lib.Parties
import VMachine.Lib.Arithmetic
import VMachine.Lib.Tables
import VMachine.Lib.Argmin
import VMachine.Lib.StableSort
import VMachine.Lib.GroupMax
import VMachine.Lib.Dict
import VMachine.Lib.Deadline
import VMachine.Lib.Clamped
import VMachine.Lib.Pages
import VMachine.Lib.Paths
import VMachine.Lib.Json
import VMachine.Lib.Isolation
import VMachine.Lib.Traces
import VMachine.Database.Session
import VMachine.Batch.Worker
import VMachine.Batch.Producers
import VMachine.Batch.Conservation
import VMachine.Batch.Lifespan
import VMachine.VMware.Inventory
import VMachine.VMware.Disks
import VMachine.VMware.Mapping
import VMachine.VMware.Pool
import VMachine.VMware.PoolPlans
import VMachine.Cache.Backend
import VMachine.Cache.Equivalence
import VMachine.Cache.Export
import VMachine.Cache.History
import VMachine.Cache.Reconfiguration
import VMachine.Cache.Metrics
import VMachine.OpenStack.World
import VMachine.OpenStack.Compute
import VMachine.OpenStack.Engine
import VMachine.OpenStack.Cleanup
import VMachine.OpenStack.Coherence
import VMachine.OpenStack.FillRace
import VMachine.OpenStack.Tasks
import VMachine.OpenStack.Lifecycle
import VMachine.OpenStack.Polling
import VMachine.OpenStack.Deadlines
import VMachine.OpenStack.Waiting
import VMachine.Monitoring.Dashboard
import VMachine.Monitoring.Latest
import VMachine.Monitoring.Usage
import VMachine.OpenStack.GaugeRace
import VMachine.OpenStack.GaugeSafety
import VMachine.OpenStack.Services
import VMachine.Cache.Serialization
import VMachine.OpenStack.Endpoints
import VMachine.OpenStack.Networking
import VMachine.VMware.Compatibility
import VMachine.VMware.MappingEngine
import VMachine.VMware.Assessment
import VMachine.VMware.Parallel
import VMachine.VMware.ParallelAccounts
import VMachine.VMware.ParallelFailures
import VMachine.VMware.Agreement
import VMachine.VMware.ParallelRequests
import VMachine.VMware.Plan
import VMachine.VMware.PlanRequests
import VMachine.VMware.Persistence
import VMachine.VMware.Selection
import VMachine.VMware.Verdict
import VMachine.VMware.Flavors
import VMachine.VMware.Sufficiency
import VMachine.VMware.Networks
import VMachine.VMware.PlanOrder
import VMachine.VMware.PlanSteps
import VMachine.VMware.Snapshots
import VMachine.VMware.Sync
import VMachine.VMware.Score
import VMachine.VMware.Pagination
import VMachine.Orchestration.Clusters
import VMachine.Orchestration.Migrations
import VMachine.Orchestration.Stale
import VMachine.Api.AuditTrail
import VMachine.OpenStack.Handlers
import VMachine.OpenStack.Requests
import VMachine.Orchestration.Deploy
import VMachine.Orchestration.Execution
import VMachine.Api.Auditing
import VMachine.OpenStack.Listings
import VMachine.OpenStack.Keypairs
import VMachine.Lib.Standing
import VMachine.OpenStack.Threads
import VMachine.Kubernetes.Service
import VMachine.Kubernetes.Addressing
import VMachine.Kubernetes.Tracking
import VMachine.Database.Records
import VMachine.Orchestration.Registers
import VMachine.Monitoring.Alerts
import VMachine.Monitoring.Queries
import VMachine.OpenStack.Managers
import VMachine.Orchestration.Provisioning
import VMachine.OpenStack.Servers
