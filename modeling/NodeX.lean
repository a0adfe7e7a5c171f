import NodeX.Lib.Runs
import NodeX.Lib.Keyed
import NodeX.Lib.Codec
import NodeX.Lib.Suffix
import NodeX.Lib.Cursor
import NodeX.Lib.Nearest
import NodeX.Lib.Collect
import NodeX.Lib.Pages
import NodeX.Lib.Text
import NodeX.Lib.Search
import NodeX.Lib.Bits
import NodeX.Core.Bytes
import NodeX.Core.HexText
import NodeX.Core.LowBits
import NodeX.Core.Net
import NodeX.Core.AddrText
import NodeX.Core.AddrParse
import NodeX.Core.JsonText
import NodeX.Core.Buffer
import NodeX.Core.Crypto
import NodeX.Kad.Storage
import NodeX.Kad.Wire
import NodeX.Kad.WireRoundTrip
import NodeX.Kad.WireGrammar
import NodeX.Kad.RoutingTable
import NodeX.Kad.XorMetric
import NodeX.Kad.Stun
import NodeX.Kad.TableInvariant
import NodeX.Kad.Eviction
import NodeX.Kad.Replies
import NodeX.Kad.Merge
import NodeX.Kad.Node
import NodeX.Kad.Mailbox
import NodeX.Kad.Chunking
import NodeX.Kad.Rpc
import NodeX.Kad.Noninterference
import NodeX.Kad.Pending
import NodeX.Kad.HolePunch
import NodeX.Kad.Soundness
import NodeX.Kad.FindValue
import NodeX.Kad.AssemblerInvariant
import NodeX.Kad.Reassembly
import NodeX.Kad.Pipeline
import NodeX.Kad.AndroidChunks
import NodeX.Kad.Lookup
import NodeX.Kad.LookupEnds
import NodeX.Kad.LookupAgree
import NodeX.Kad.Accounting
import NodeX.Kad.Lifetime
import NodeX.Kad.Relay
import NodeX.Kad.RelaySessions
import NodeX.Kad.RelayRate
import NodeX.Kad.StateFile
import NodeX.Kad.Restart
import NodeX.Lib.Sorted
import NodeX.Kad.Onion
import NodeX.Messenger.Bridge
import NodeX.Messenger.Envelope
import NodeX.Messenger.Tamper
import NodeX.Messenger.Versions
import NodeX.Messenger.Types
import NodeX.Messenger.Outbox
import NodeX.Messenger.Retries
import NodeX.Messenger.Capacity
import NodeX.Messenger.Db
import NodeX.Messenger.MessageStore
import NodeX.Messenger.Reactions
import NodeX.Messenger.Pins
import NodeX.Messenger.Pages
import NodeX.Messenger.DbFile
import NodeX.Messenger.KeyLoss
import NodeX.Messenger.Start
import NodeX.Messenger.Presence
import NodeX.Messenger.SignedPresence
import NodeX.Messenger.MailboxJson
import NodeX.Messenger.RoundTrip
import NodeX.Messenger.Inbox
import NodeX.Messenger.Replay
import NodeX.Messenger.Redelivery
import NodeX.Messenger.Author
import NodeX.Messenger.NonCensor
import NodeX.Messenger.Deposit
import NodeX.Messenger.Polling
import NodeX.Messenger.ClearChat
import NodeX.Messenger.Drain
import NodeX.Messenger.Retraction
import NodeX.Messenger.Delivery
import NodeX.Messenger.CallAudio
import NodeX.Messenger.Client
import NodeX.Messenger.SendingKeys
import NodeX.Messenger.AudioFrames
import NodeX.Messenger.AudioStreams
import NodeX.Messenger.Flow
import NodeX.Messenger.Confirmation
import NodeX.Messenger.GroupMembers
import NodeX.Messenger.Forgotten
import NodeX.Messenger.Blocking
import NodeX.Messenger.Fidelity
import NodeX.Messenger.Device
import NodeX.Messenger.Wipe
import NodeX.Messenger.Android
import NodeX.Messenger.WordList
import NodeX.Messenger.Mnemonic
import NodeX.Messenger.Mesh
import NodeX.Messenger.Receipts
import NodeX.Messenger.Discovery
import NodeX.Messenger.Backup
import NodeX.Messenger.FileChunks
import NodeX.Messenger.FileAssembly
import NodeX.Messenger.Stego
import NodeX.Messenger.ContactCards
import NodeX.Messenger.HexDecoders
import NodeX.Messenger.Invites
import NodeX.Messenger.Persistence
import NodeX.Android.Kotlin
import NodeX.Android.DeliveryQueue
import NodeX.Android.Phone
import NodeX.Android.Payloads
import NodeX.Android.Envelopes
import NodeX.Android.Packets
import NodeX.Android.MailboxEntries
import NodeX.Android.Engine
import NodeX.Lib.Paths
import NodeX.Android.Attachments
import NodeX.Android.CallAudio
import NodeX.Android.Slots
import NodeX.Android.MessageStore
import NodeX.Android.Stores
import NodeX.Android.Heard
import NodeX.Android.Deletions
import NodeX.Android.Keys
import NodeX.Android.KeyRuns
import NodeX.Android.Stun
import NodeX.Gui.DeleteEveryone
import NodeX.Gui.Calls
import NodeX.Lib.Replicas
import NodeX.Gui.View
import NodeX.Gui.Mirror
import NodeX.Gui.Synced
import NodeX.Android.VoiceRuns
import NodeX.Lib.Windowed
import NodeX.Android.Acks
import NodeX.Android.Transfer
import NodeX.Android.TransferEnds
