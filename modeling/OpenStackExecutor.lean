import OpenStackExecutor.Client
import OpenStackExecutor.Program
import OpenStackExecutor.Config
import OpenStackExecutor.Executor.Provision
import OpenStackExecutor.Executor.Lifecycle
import OpenStackExecutor.Cloud.Model
import OpenStackExecutor.StatusPoller
import OpenStackExecutor.Locator
import OpenStackExecutor.TagOrder
import OpenStackExecutor.Footprint
import OpenStackExecutor.DeleteSafety
import OpenStackExecutor.CreateCleanup
import OpenStackExecutor.Cloud.Descends
import OpenStackExecutor.Idempotence
import OpenStackExecutor.CreateStatus
import OpenStackExecutor.Provisioning
import OpenStackExecutor.PodNetwork
import OpenStackExecutor.Registry
