import Ndhc.Lib.Bytes
import Ndhc.Lib.Bpf
import Ndhc.Wire.Layout
import Ndhc.Wire.Options
import Ndhc.Wire.Receive
import Ndhc.Wire.Build
import Ndhc.Ifch.Command
import Ndhc.Ifch.Parse
import Ndhc.Ifch.Codec
import Ndhc.Ifch.Resolv
import Ndhc.Ifch.BindText
import Ndhc.Ifch.Steer
import Ndhc.Ifch.ResolvLists
import Ndhc.Ifch.Ip4set
import Ndhc.Ifch.Delta
import Ndhc.Ifch.Delivery
import Ndhc.Filter.ArpFilter
import Ndhc.Filter.DhcpFilter
import Ndhc.Client.Arp
import Ndhc.Client.Lease
import Ndhc.Client.Frame
import Ndhc.Client.Handle
import Ndhc.Client.Passes
import Ndhc.Client.Work
import Ndhc.Client.Probing
import Ndhc.Client.Conflict
import Ndhc.Client.Peers
import Ndhc.Client.BoundPass
import Ndhc.Client.Expiry
import Ndhc.Client.Rebind
import Ndhc.Client.Renewal
import Ndhc.Client.Phase
import Ndhc.Client.Forced
import Ndhc.Client.Defense
import Ndhc.Client.Fingerprint
import Ndhc.Client.ArpMode
import Ndhc.Client.Revalidation
import Ndhc.Client.Loop
import Ndhc.Client.ArpSocket
import Ndhc.Client.Descriptors
import Ndhc.Client.Requested
import Ndhc.Client.Alarms
import Ndhc.Client.Armed
import Ndhc.Client.Orphans
import Ndhc.Client.CheckEnds
import Ndhc.Client.Pacing
import Ndhc.Client.Bursts
import Ndhc.Client.Notified
import Ndhc.Lib.Tlv
import Ndhc.Wire.Reference
import Ndhc.Wire.Accept
import Ndhc.Client.Messages
import Ndhc.Client.LeaseTimer
import Ndhc.Client.Acquire
import Ndhc.Client.Declines
import Ndhc.Client.Offers
import Ndhc.Client.RestartDelay
import Ndhc.Client.Probes
import Ndhc.Sockd.Lockstep
import Ndhc.Ifch.Netlink
import Ndhc.Ifch.Outcome
import Ndhc.Client.Obtained
import Ndhc.Client.Packets
import Ndhc.Config.ClientId
import Ndhc.Config.Actions
import Ndhc.Lib.Machine
import Ndhc.Config.ProbeDelay
import Ndhc.Config.Line
import Ndhc.Config.File
import Ndhc.Config.Argv
import Ndhc.Config.CmdLine
import Ndhc.Lib.Records
import Ndhc.Netlink.Foreach
import Ndhc.Netlink.ClearOthers
import Ndhc.Client.Datagram
import Ndhc.Ifch.BindMemory
import Ndhc.Ifch.Subnet
import Ndhc.Config.Identity
import Ndhc.Netlink.Attributes
import Ndhc.Client.Conduct
import Ndhc.Client.Timeouts
import Ndhc.Client.Exclusion
import Ndhc.Client.Replies
