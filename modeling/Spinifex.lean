import Spinifex.Concurrency.Discipline
import Spinifex.Concurrency.Register
import Spinifex.Go.Json
import Spinifex.Sqs.Finality
import Spinifex.Sqs.Times
import Spinifex.Sqs.Handles
import Spinifex.Concurrency.Bucket
import Spinifex.Quota.Charges
import Spinifex.Quota.Override
import Spinifex.Quota.Seal
import Spinifex.Ebs.Finality
import Spinifex.Ebs.OneWriter
import Spinifex.Ebs.Duplicates
import Spinifex.Ebs.Life
import Spinifex.Snapshots.Protection
import Spinifex.Network.Pool
import Spinifex.Vpc.IpamRuns
import Spinifex.Eni.Histories
import Spinifex.Network.Firewall
import Spinifex.Vpc.SecurityGroupRuns
import Spinifex.Ecs.Rollout
import Spinifex.Ecs.Acknowledged
import Spinifex.Ecs.TaskStates
import Spinifex.Elbv2.Wildcards
import Spinifex.Placement.Spread
import Spinifex.Placement.Allocation
import Spinifex.Reconciler.Watches
import Spinifex.Reconciler.Loop
import Spinifex.Capacity.Host
import Spinifex.Lifecycle.CrashRecovery
import Spinifex.Lifecycle.Idempotency
import Spinifex.Ingress.BodyScope
import Spinifex.Ingress.RateLimit
import Spinifex.Aws.Filters
import Spinifex.Aws.Paging
