import ModbusCpp.CoilRoundTrips
import ModbusCpp.ReadRoundTrips
import ModbusCpp.RegisterRoundTrips
import ModbusCpp.ReplyStages
import ModbusCpp.Classification
import ModbusCpp.ReadYourWrites
import ModbusCpp.ReadWriteMultiple
import ModbusCpp.Framing
import ModbusCpp.Serialisation
import ModbusCpp.WritePayloads
import ModbusCpp.ReplyHistory
import ModbusCpp.RequestEncoding
import ModbusCpp.Sufficiency
import ModbusCpp.SessionPools
import ModbusCpp.Indistinguishable
import ModbusCpp.Linearization
import ModbusCpp.Demultiplexing
import ModbusCpp.Retransmission
import ModbusCpp.RemoteMemory
import ModbusCpp.BlockReferences
import ModbusCpp.Verdicts
import ModbusCpp.SharedReachability
import ModbusCpp.Progress
