import Ros2Graph.Foundation.KeepLast
import Ros2Graph.Registry.Data

/-! The QoS of the DataWriter that the updates are published with. -/

set_option autoImplicit false

namespace Ros2Graph

open Foundation

inductive DurabilityKind where
  | volatile
  | transientLocal
  | transient
  | persistent
  deriving DecidableEq, Repr

inductive HistoryKind where
  | keepLast
  | keepAll
  deriving DecidableEq, Repr

inductive ReliabilityKind where
  | bestEffort
  | reliable
  deriving DecidableEq, Repr

structure HistoryQosPolicy where
  kind : HistoryKind
  depth : Int32
  deriving DecidableEq, Repr

/-- `DDS_RtpsReliableWriterProtocol_t`. -/
structure RtpsReliableWriterProtocol where
  heartbeatPeriod : Duration
  fastHeartbeatPeriod : Duration
  lateJoinerHeartbeatPeriod : Duration
  minNackResponseDelay : Duration
  maxNackResponseDelay : Duration
  nackSuppressionDuration : Duration
  minSendWindowSize : Int32
  maxSendWindowSize : Int32
  heartbeatsPerMaxSamples : Int32
  lowWatermark : Int32
  highWatermark : Int32
  deriving DecidableEq, Repr

structure ResourceLimitsQosPolicy where
  maxSamples : Int32
  initialSamples : Int32
  maxInstances : Int32
  initialInstances : Int32
  maxSamplesPerInstance : Int32
  deriving DecidableEq, Repr

structure Property where
  name : String
  value : String
  propagate : Bool
  deriving DecidableEq, Repr

/-- `DDS_DataWriterQos`, by the policies that the graph sets. -/
structure DataWriterQos where
  durability : DurabilityKind
  history : HistoryQosPolicy
  reliability : ReliabilityKind
  rtpsReliableWriter : RtpsReliableWriterProtocol
  resourceLimits : ResourceLimitsQosPolicy
  property : List Property
  deriving DecidableEq, Repr

/-- What a DataWriter keeps for late joiners of all it has written to a topic
without keys. -/
def HistoryQosPolicy.retained {Sample : Type} (history : HistoryQosPolicy)
    (written : List Sample) : List Sample :=
  match history.kind with
  | .keepLast =>
      ((KeepLast.empty : KeepLast Sample history.depth.toNatClampNeg).pushAll written).items
  | .keepAll => written

/-- `DDS_PropertyQosPolicyHelper_assert_property`: adds a property, or gives it
a new value. -/
def assertProperty (properties : List Property) (property : Property) : List Property :=
  if properties.any (·.name == property.name) then
    properties.map fun other => if other.name == property.name then property else other
  else properties ++ [property]

def poolBufferMaxSize : Property where
  name := "dds.data_writer.history.memory_manager.fast_pool.pool_buffer_max_size"
  value := "1024"
  propagate := false

def customRtpsReliableWriter : RtpsReliableWriterProtocol where
  heartbeatPeriod := ⟨0, 500000000⟩
  fastHeartbeatPeriod := ⟨0, 250000000⟩
  lateJoinerHeartbeatPeriod := ⟨0, 250000000⟩
  minNackResponseDelay := ⟨0, 0⟩
  maxNackResponseDelay := ⟨0, 0⟩
  nackSuppressionDuration := ⟨0, 0⟩
  minSendWindowSize := 1
  maxSendWindowSize := 1
  heartbeatsPerMaxSamples := 1
  lowWatermark := 0
  highWatermark := 1

/-- `RTIROS2_Graph_customize_datawriter_qos`. `asserted` answers the call that
asserts the property. The QoS is returned as it was left, also after a failure. -/
def customizeDatawriterQos (asserted : Bool) (writerQos : Option DataWriterQos) :
    ReturnCode × Option DataWriterQos :=
  match writerQos with
  | none => (.error, none)
  | some qos =>
    let customized := { qos with
      durability := .transientLocal
      history := ⟨.keepLast, 1⟩
      reliability := .reliable
      rtpsReliableWriter := customRtpsReliableWriter
      resourceLimits := ⟨1, 1, 1, 1, 1⟩ }
    if asserted then
      (.ok, some { customized with property := assertProperty qos.property poolBufferMaxSize })
    else (.error, some customized)

/-- `history_depth`. -/
def graphHistoryDepth : Int32 := 100

theorem customizeDatawriterQos_history {asserted : Bool} {writerQos : Option DataWriterQos}
    {result : DataWriterQos}
    (customized : customizeDatawriterQos asserted writerQos = (.ok, some result)) :
    result.history = ⟨.keepLast, 1⟩ := by
  unfold customizeDatawriterQos at customized
  cases writerQos with
  | none => cases customized
  | some qos =>
      cases asserted with
      | false => cases customized
      | true =>
          cases customized
          rfl

end Ros2Graph
