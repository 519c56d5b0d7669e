import VhalClient.Lib.Run
import VhalClient.Lib.Scanf
import VhalClient.Input.Receiver
import VhalClient.Input.Slots
import VhalClient.Input.Multitouch
import VhalClient.Input.Lines
import VhalClient.CommandChannel.Talker
import VhalClient.CommandChannel.Interleaving
import VhalClient.Display.Protocol
import VhalClient.Lib.OrdMap
import VhalClient.Display.HwcReceiver
import VhalClient.Display.Ledger
import VhalClient.Display.HandleSafety
import VhalClient.Display.Lifetimes
import VhalClient.Display.Messages
import VhalClient.Display.Framing
import VhalClient.Display.Chunking
import VhalClient.Emulator.GfxHandler
import VhalClient.Emulator.CmdHandler
import VhalClient.Emulator.Agreement
import VhalClient.Display.Documents
import VhalClient.Display.SessionLog
import VhalClient.Emulator.Decoding
import VhalClient.Emulator.Replies
import VhalClient.Lib.YamlLoader
import VhalClient.Emulator.LogReplay
import VhalClient.Audio.AudioSource
import VhalClient.Camera.Threads
import VhalClient.Input.Minitouch
import VhalClient.Input.ProtocolB
import VhalClient.Camera.Framing
import VhalClient.CommandChannel.SendPacket
import VhalClient.Display.Counters
import VhalClient.Display.WorkThread
import VhalClient.Gps.GpsReceiver
import VhalClient.Input.Device
import VhalClient.Input.Results
import VhalClient.Input.TrackingIds
import VhalClient.Socket.StreamClient
import VhalClient.Talkers.UserId
import VhalClient.Display.Descriptors
import VhalClient.Emulator.ContentLoop
import VhalClient.Emulator.Mapping
import VhalClient.Emulator.Objects
import VhalClient.Emulator.Sequences
import VhalClient.Emulator.TransferBounds
import VhalClient.Gps.Transfers
import VhalClient.Input.Joystick
import VhalClient.Emulator.PrintedNumbers
import VhalClient.Emulator.Exchange
import VhalClient.Emulator.RenderNode
import VhalClient.Emulator.SentMessages
import VhalClient.Lib.Records
import VhalClient.Socket.Clients
import VhalClient.Talkers.SensorPackets
import VhalClient.Display.Answers
import VhalClient.Emulator.Pacing
import VhalClient.Emulator.Picture
import VhalClient.Emulator.Session
import VhalClient.Emulator.SocketServer
import VhalClient.CommandChannel.Relay
import VhalClient.Input.Keys
import VhalClient.Talkers.Termination
import VhalClient.Emulator.CommandLine
import VhalClient.Emulator.Device
import VhalClient.Emulator.Main
import VhalClient.Emulator.RecordReplay
import VhalClient.Talkers.ControlMessages
import VhalClient.Display.Process
import VhalClient.Gps.Sockets
