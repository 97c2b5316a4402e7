import SecpChat.Lib.Runs
import SecpChat.Lib.Utf8Forms
import SecpChat.Protocol.Secp
import SecpChat.Protocol.Validate
import SecpChat.Lib.Delimited
import SecpChat.Lib.Loop
import SecpChat.Protocol.Grammar
import SecpChat.Protocol.RoundTrip
import SecpChat.Protocol.Scan
import SecpChat.Net.Address
import SecpChat.State.UserDirectory
import SecpChat.Services.DirectMessage
import SecpChat.Services.DirectMoves
import SecpChat.Services.DirectLifecycle
import SecpChat.Services.DirectAuthenticity
import SecpChat.Lib.Network
import SecpChat.System.Agreement
import SecpChat.System.Invitations
import SecpChat.System.Delivery
import SecpChat.Services.GroupRoom
import SecpChat.Services.GroupMembership
import SecpChat.Services.GroupReach
import SecpChat.App.Client
import SecpChat.App.Dispatch
import SecpChat.System.Channels
import SecpChat.Lib.Expiry
import SecpChat.Lib.Listing
import SecpChat.Services.DirectoryHistory
import SecpChat.App.RoomList
import SecpChat.Services.RoomSwitch
import SecpChat.Services.OwnedRoom
import SecpChat.Services.DirectFailures
import SecpChat.App.RemoteLimits
import SecpChat.Services.InvitationSchedule
import SecpChat.App.Fidelity
import SecpChat.App.InvitationReach
import SecpChat.App.Selection
import SecpChat.App.Host
import SecpChat.App.Receive
import SecpChat.App.Visibility
import SecpChat.Lib.Monitor
import SecpChat.App.InterruptibleSleep
import SecpChat.App.Outgoing
import SecpChat.System.Lan
import SecpChat.System.Provenance
import SecpChat.System.Composition
import SecpChat.Lib.Threads
import SecpChat.System.Threads
import SecpChat.App.MenuChoice
import SecpChat.App.MenuLoop
import SecpChat.App.Process
import SecpChat.Lib.Progress
import SecpChat.App.Shutdown
import SecpChat.App.ShutdownRank
import SecpChat.Lib.Calls
import SecpChat.Net.Kernel
import SecpChat.Net.UdpSocket
import SecpChat.Services.ChannelSyscalls
import SecpChat.App.Startup
import SecpChat.Lib.Ownership
import SecpChat.App.Locks
import SecpChat.System.Console
import SecpChat.App.Datagrams
import SecpChat.Lib.Loans
import SecpChat.App.SocketLifetime
