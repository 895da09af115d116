import Cashp.Billing.Balances
import Cashp.Billing.Replays
import Cashp.Billing.SettlementRuns
import Cashp.Billing.Numbering
import Cashp.Billing.Trials
import Cashp.Billing.Grace
import Cashp.Billing.Overage
import Cashp.Billing.Measurements
import Cashp.Billing.Crediting
import Cashp.Billing.Freezing
import Cashp.Guard.Authz
import Cashp.Guard.Outbound
import Cashp.Guard.Lockout
import Cashp.Guard.Replay
import Cashp.Guard.Workload
import Cashp.Guard.Redact
import Cashp.Scheduling.Restart
import Cashp.Scheduling.Process
import Cashp.Scheduling.Lock
import Cashp.Billing.Rebilling
import Cashp.Guard.RateLimit
import Cashp.Nodes.Outcomes
import Cashp.Registry.Rejoin
import Cashp.Registry.Liveness
import Cashp.Registry.Backlog
import Cashp.Registry.Redemption
import Cashp.Registry.Credentials
import Cashp.Registry.Removal
import Cashp.Registry.Sweep
import Cashp.Cache.Locks
import Cashp.Orchestrator.Naming
import Cashp.Auth.Sessions
import Cashp.Auth.Names
import Cashp.Notify.Channel
import Cashp.Notify.Deliveries
import Cashp.Billing.Periods
import Cashp.Cluster.Health
import Cashp.Scheduling.Retry
import Cashp.Billing.Listing
import Cashp.Registry.Tokens
import Cashp.Guard.Inputs
import Cashp.Backup.Restore
import Cashp.Billing.Providers
