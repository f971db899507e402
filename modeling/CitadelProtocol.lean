import CitadelProtocol.Lib.Reachability
import CitadelProtocol.Lib.MachineInt
import CitadelProtocol.Lib.Bytes
import CitadelProtocol.Pqcrypto.ReplayAttackContainer
import CitadelProtocol.Crypt.Toolset
import CitadelProtocol.Crypt.ToolsetRuns
import CitadelProtocol.Crypt.PacketVector
import CitadelProtocol.Crypt.CryptSplitter
import CitadelProtocol.Crypt.GroupReceiver
import CitadelProtocol.Lib.FiniteMap
import CitadelProtocol.Crypt.GroupSender
import CitadelProtocol.Proto.GroupPayload
import CitadelProtocol.Lib.Duplex
import CitadelProtocol.Lib.Network
import CitadelProtocol.Netbeam.Resolve
import CitadelProtocol.Netbeam.NetSelectOk
import CitadelProtocol.Netbeam.NetTryJoin
import CitadelProtocol.Crypt.PeerSessionCrypto
import CitadelProtocol.Crypt.StreamingCryptScrambler
import CitadelProtocol.Proto.OrderedChannel
import CitadelProtocol.Proto.Session
import CitadelProtocol.Proto.StateContainer
import CitadelProtocol.Proto.Transfer
import CitadelProtocol.Proto.Rekey
import CitadelProtocol.Proto.RekeyRuns
import CitadelProtocol.User.MemoryBackend
import CitadelProtocol.Proto.SessionQueue
import CitadelProtocol.Lib.Outcome
import CitadelProtocol.Pqcrypto.Encryption
import CitadelProtocol.Pqcrypto.Container
import CitadelProtocol.Crypt.StackedRatchet
import CitadelProtocol.Wire.HolePunchConfig
import CitadelProtocol.Crypt.SecPacket
import CitadelProtocol.Proto.MessagePacket
import CitadelProtocol.Lib.Collect
import CitadelProtocol.Pqcrypto.KeyExchange
import CitadelProtocol.Crypt.RatchetConstructor
import CitadelProtocol.Crypt.RatchetRekey
import CitadelProtocol.Pqcrypto.Export
import CitadelProtocol.Crypt.ThinRatchet
import CitadelProtocol.Netbeam.NetMutex
import CitadelProtocol.Netbeam.NetRwLock
