import Swarmlite.Controller.StopFirst
import Swarmlite.Controller.Tombstones
import Swarmlite.Controller.Blocked
import Swarmlite.Controller.Deadlines
import Swarmlite.Controller.Idempotency
import Swarmlite.CaddyStorage.Locking
import Swarmlite.CaddyStorage.Handover
import Swarmlite.Node.Agent
import Swarmlite.Gateway.Hosts
import Swarmlite.Controller.Listeners
import Swarmlite.CaddyStorage.Copies
import Swarmlite.Controller.Commands
import Swarmlite.Controller.DataStreams
import Swarmlite.Controller.Idempotence
import Swarmlite.Controller.Revisions
import Swarmlite.CaddyStorage.TcpProxy
import Swarmlite.CaddyStorage.ResponseStore
import Swarmlite.Stack.Quantities
import Swarmlite.Registry.Serving
import Swarmlite.Stack.Paths
import Swarmlite.Controller.Retention
import Swarmlite.Controller.Continuity
