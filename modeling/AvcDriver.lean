import AvcDriver.Driver.Configs
import AvcDriver.Driver.Contexts
import AvcDriver.Driver.Images
import AvcDriver.Engine.Order
import AvcDriver.Handle.Request
import AvcDriver.Main
import AvcDriver.Memory.Lemmas
import AvcDriver.Nal.Reader
import AvcDriver.Nal.Stream
import AvcDriver.Proofs.Action
import AvcDriver.Proofs.Driver.Answered
import AvcDriver.Proofs.Driver.Apart
import AvcDriver.Proofs.Driver.Custody
import AvcDriver.Proofs.Driver.Footprint
import AvcDriver.Proofs.Driver.Gray
import AvcDriver.Proofs.Driver.Images
import AvcDriver.Proofs.Driver.Ledger
import AvcDriver.Proofs.Driver.Order
import AvcDriver.Proofs.Driver.Pixels
import AvcDriver.Proofs.Driver.Recovery
import AvcDriver.Proofs.Driver.Rejected
import AvcDriver.Proofs.Driver.Reported
import AvcDriver.Proofs.Driver.Request
import AvcDriver.Proofs.Driver.Sound
import AvcDriver.Proofs.Driver.Step
import AvcDriver.Proofs.Driver.Submission
import AvcDriver.Proofs.Driver.Turn
import AvcDriver.Proofs.Handle.Allocation
import AvcDriver.Proofs.Handle.FiniteMap
import AvcDriver.Proofs.Handle.Lookup
import AvcDriver.Proofs.Handle.Moment
import AvcDriver.Proofs.Handle.Objects
import AvcDriver.Proofs.Header.Carried
import AvcDriver.Proofs.Header.Cropping
import AvcDriver.Proofs.Header.Length
import AvcDriver.Proofs.Header.ReadBack
import AvcDriver.Proofs.Header.Syntax
import AvcDriver.Proofs.Memory.Access
import AvcDriver.Proofs.Memory.Bytes
import AvcDriver.Proofs.Memory.Copy
import AvcDriver.Proofs.Memory.Mapper
import AvcDriver.Proofs.Memory.Mapping
import AvcDriver.Proofs.Memory.Place
import AvcDriver.Proofs.Memory.Rows
import AvcDriver.Proofs.Nal.BitString
import AvcDriver.Proofs.Nal.Draft
import AvcDriver.Proofs.Nal.Emulation
import AvcDriver.Proofs.Nal.Framing
import AvcDriver.Proofs.Nal.Refinement
import AvcDriver.Proofs.Nal.Register
import AvcDriver.Proofs.Nal.RoundTrip
import AvcDriver.Proofs.Nal.Splitting
import AvcDriver.Proofs.Record.BitField
import AvcDriver.Proofs.Record.Codec
import AvcDriver.Proofs.Record.Picture
import AvcDriver.Proofs.Record.Slice
import AvcDriver.Proofs.Session.Conversation
import AvcDriver.Proofs.Session.Footprint
import AvcDriver.Proofs.Session.Gray
import AvcDriver.Proofs.Session.History
import AvcDriver.Proofs.Session.Lifetime
import AvcDriver.Proofs.Session.Limits
import AvcDriver.Proofs.Session.Order
import AvcDriver.Proofs.Session.Patience
import AvcDriver.Proofs.Session.Recent
import AvcDriver.Proofs.Session.Run
import AvcDriver.Proofs.Session.Settling
import AvcDriver.Proofs.Session.Sound
import AvcDriver.Proofs.Session.Stream
import AvcDriver.Proofs.Session.Submission
import AvcDriver.Proofs.Session.Trace
import AvcDriver.Proofs.Store
import AvcDriver.Proofs.Surface.Confined
import AvcDriver.Proofs.Surface.File
import AvcDriver.Proofs.Surface.Import
import AvcDriver.Proofs.Surface.Pixels
import AvcDriver.Proofs.Surface.Room
import AvcDriver.Proofs.Surface.Write
import AvcDriver.Proofs.Tool.Files
import AvcDriver.Proofs.Tool.Frames
import AvcDriver.Proofs.Tool.Refused
import AvcDriver.Proofs.Tool.Run
