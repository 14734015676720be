import MediasoupSdk.Foundation.Execution
import MediasoupSdk.Foundation.Fault
import MediasoupSdk.Foundation.HashMap
import MediasoupSdk.Foundation.Arrivals
import MediasoupSdk.Json.Value
import MediasoupSdk.Json.Model
import MediasoupSdk.Signaling.Models
import MediasoupSdk.Signaling.Client
import MediasoupSdk.Signaling.Api
import MediasoupSdk.Signaling.RequestTable
import MediasoupSdk.Signaling.Reply
import MediasoupSdk.Signaling.SendRace
import MediasoupSdk.Participants.Controller
import MediasoupSdk.Participants.Roster
import MediasoupSdk.Media.Controller
import MediasoupSdk.Media.Changes
import MediasoupSdk.Media.Faults
import MediasoupSdk.Room.Client
import MediasoupSdk.Room.System
import MediasoupSdk.Room.Changes
import MediasoupSdk.Room.Faults
import MediasoupSdk.Room.Callbacks
import MediasoupSdk.Room.Leave
import MediasoupSdk.Room.Components
import MediasoupSdk.Room.Order
import MediasoupSdk.Room.Optionals
import MediasoupSdk.Signaling.AtMostOnce
import MediasoupSdk.Json.Encode
import MediasoupSdk.Media.Consume
import MediasoupSdk.Media.Ledger
import MediasoupSdk.Media.MuteFlags
import MediasoupSdk.Room.Answers
import MediasoupSdk.Room.Isolation
import MediasoupSdk.Room.PassThrough
import MediasoupSdk.Sdk.RtcClient
import MediasoupSdk.Json.Accessors
import MediasoupSdk.Json.RoundTrip
import MediasoupSdk.Signaling.Catalogue
import MediasoupSdk.Signaling.Laws
import MediasoupSdk.Foundation.Exchange
import MediasoupSdk.Media.MutePeer
import MediasoupSdk.Media.Produce
import MediasoupSdk.Participants.Presence
import MediasoupSdk.Room.Negotiation
import MediasoupSdk.Room.Reports
import MediasoupSdk.Room.SharedOptions
import MediasoupSdk.Sdk.TrackName
import MediasoupSdk.Utils.Delivery
import MediasoupSdk.Foundation.Mutex
import MediasoupSdk.Media.MutedQuery
import MediasoupSdk.Media.RemotePause
import MediasoupSdk.Media.RemoteTracks
import MediasoupSdk.Media.VideoSources
import MediasoupSdk.Signaling.Closing
import MediasoupSdk.Signaling.Endpoint
import MediasoupSdk.Signaling.RequestKey
import MediasoupSdk.Foundation.CString
import MediasoupSdk.Foundation.Lines
import MediasoupSdk.Foundation.Pattern
import MediasoupSdk.Room.Join
import MediasoupSdk.Signaling.Certificate
import MediasoupSdk.Utils.MediaSections
import MediasoupSdk.Utils.Munging
import MediasoupSdk.Utils.Placement
import MediasoupSdk.Utils.Renegotiation
import MediasoupSdk.Utils.ReadBack
import MediasoupSdk.Foundation.CallQueue
import MediasoupSdk.Room.Proxy
import MediasoupSdk.Foundation.Loop
import MediasoupSdk.Foundation.AnnexB
import MediasoupSdk.Sdk.H264Reader
import MediasoupSdk.Media.VideoEncoder
import MediasoupSdk.Sdk.Pusher
import MediasoupSdk.Sdk.FrameReader
import MediasoupSdk.Foundation.Mirror
import MediasoupSdk.Media.Producers
import MediasoupSdk.Json.Image
import MediasoupSdk.Room.Engine
import MediasoupSdk.Room.Completion
import MediasoupSdk.Room.Stall
