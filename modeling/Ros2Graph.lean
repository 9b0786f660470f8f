import Ros2Graph.Calls.Progress
import Ros2Graph.Calls.Publication
import Ros2Graph.Cpp.Lifetime
import Ros2Graph.Cpp.ServiceNames
import Ros2Graph.Cpp.Simulation
import Ros2Graph.Cpp.TopicNames
import Ros2Graph.Directory.Cpp
import Ros2Graph.Directory.Settled
import Ros2Graph.Foundation.Execution
import Ros2Graph.Registry.Atomicity
import Ros2Graph.Registry.HandleSupply
import Ros2Graph.Registry.InspectionOutcome
import Ros2Graph.Registry.KindSafety
import Ros2Graph.Registry.ManualRegistration
import Ros2Graph.Registry.PublicOutcomes
import Ros2Graph.Registry.Queueing
import Ros2Graph.Registry.Representation
import Ros2Graph.Registry.SharedParticipant
import Ros2Graph.Registry.Stability
import Ros2Graph.Registry.Unregistration
import Ros2Graph.TopicNames.Encoding
import Ros2Graph.TopicNames.TwoPhase
import Ros2Graph.TopicNames.TypeNameAcceptance
import Ros2Graph.Update.Liveness
import Ros2Graph.Update.Partition
import Ros2Graph.Update.Permits
import Ros2Graph.Update.Polling
import Ros2Graph.Update.Retention
import Ros2Graph.Update.Shutdown
