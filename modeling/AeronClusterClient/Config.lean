/- module: AeronClusterClient/Config
   source: include/aeron_cluster/config.hpp, include/aeron_cluster/performance_config.hpp
   digest: The configuration fields and the connection statistics that the client's logic reads. -/

import AeronClusterClient.Text

set_option autoImplicit false
set_option relaxedAutoImplicit false

namespace AeronClusterClient.Config

open Text (StdString ascii)

/-- `ClusterClientConfig` without its logging fields and the other time-outs. -/
structure ClusterClientConfig where
  clusterEndpoints : List StdString :=
    [ascii "localhost:9002", ascii "localhost:9102", ascii "localhost:9202"]
  clientId : StdString := ascii "cpp_client"
  instanceIdentifier : StdString := []
  responseChannel : StdString := ascii "aeron:udp?endpoint=localhost:0"
  egressStreamId : Int := 102
  maxRetries : Int := 3
  protocolSemanticVersion : Int := 1
  defaultTopic : StdString := ascii "orders"
  publishMaxRetryAttempts : Int := 50
  enableAutoCommit : Bool := true
  /-- Delivery stall detection, in milliseconds; 0 disables the respective guard. -/
  deliveryStallWarningTimeout : Int := 5000
  deliveryStallDisconnectTimeout : Int := 15000

/-- `ConnectionStats` without its timing fields. -/
structure ConnectionStats where
  messagesSent : Nat := 0
  connectionAttempts : Nat := 0
  successfulConnections : Nat := 0
  currentSessionId : Int := -1
  currentLeaderId : Int := -1
  isConnected : Bool := false
  deriving DecidableEq, Repr

end AeronClusterClient.Config
