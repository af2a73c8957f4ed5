import VlfGateway.CyclicRing
import VlfGateway.FifoRing
import VlfGateway.StepPath
import VlfGateway.PrintfText
import VlfGateway.JsonReader
import VlfGateway.GreedyMatcher
import VlfGateway.ReflectedCrc
import VlfGateway.SpiBus
import VlfGateway.BitField
import VlfGateway.SlotLedger
import VlfGateway.AskProgram
import VlfGateway.RecordChecksum
import VlfGateway.GatewayClock
import VlfGateway.ClockRun
import VlfGateway.SampleWriter
import VlfGateway.RecordCrc
import VlfGateway.SdCard
import VlfGateway.MemoryStore
import VlfGateway.StoreLedger
import VlfGateway.IndexCheckpoint
import VlfGateway.IndexCodec
import VlfGateway.StoreFaults
import VlfGateway.SessionBacklog
import VlfGateway.StoreCapacity
import VlfGateway.StandardBase64
import VlfGateway.Base64
import VlfGateway.HttpTransmit
import VlfGateway.ElementMeaning
import VlfGateway.HttpReceive
import VlfGateway.ServerTcp
import VlfGateway.UploadSchedule
import VlfGateway.SessionStream
import VlfGateway.WriteErrors
import VlfGateway.SessionLifecycle
import VlfGateway.ReleaseOrder
import VlfGateway.ResponseBound
import VlfGateway.RadioQueue
import VlfGateway.RadioUpload
import VlfGateway.RadioFrame
import VlfGateway.RadioDispatch
import VlfGateway.RadioReceive
import VlfGateway.RadioTransmit
import VlfGateway.RadioState
import VlfGateway.RadioDriver
import VlfGateway.RadioTalk
import VlfGateway.RadioInterrupt
import VlfGateway.RadioMailbox
import VlfGateway.RadioSetup
import VlfGateway.SntpClient
import VlfGateway.I2cDriver
import VlfGateway.I2cReport
import VlfGateway.I2cTransfer
import VlfGateway.SdSpi
import VlfGateway.SdRegister
import VlfGateway.SdStartup
import VlfGateway.EmacReceive
import VlfGateway.EmacTransmit
import VlfGateway.PhyLink
