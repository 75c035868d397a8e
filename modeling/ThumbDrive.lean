import ThumbDrive.Block.Device
import ThumbDrive.Block.Disk
import ThumbDrive.Block.Image
import ThumbDrive.Block.Stream
import ThumbDrive.BulkOnly.Drive
import ThumbDrive.BulkOnly.Target
import ThumbDrive.BulkOnly.Wrapper
import ThumbDrive.Bytes
import ThumbDrive.Config
import ThumbDrive.Error
import ThumbDrive.Fat.BootRecord
import ThumbDrive.Fat.Directory
import ThumbDrive.Fat.File
import ThumbDrive.Fat.ShortName
import ThumbDrive.Fat.Slot
import ThumbDrive.Fat.Volume
import ThumbDrive.Host.Basic
import ThumbDrive.Host.Bus
import ThumbDrive.Host.Machine
import ThumbDrive.IoError
import ThumbDrive.Json.Document
import ThumbDrive.Json.Token
import ThumbDrive.Json.Value
import ThumbDrive.Log
import ThumbDrive.Partition.BootSector
import ThumbDrive.Partition.Select
import ThumbDrive.Partition.Table
import ThumbDrive.Permission.Desk
import ThumbDrive.Permission.Queue
import ThumbDrive.Reader
import ThumbDrive.Schedule
import ThumbDrive.Service.Call
import ThumbDrive.Service.Method
import ThumbDrive.Session.Basic
import ThumbDrive.Session.FileStream
import ThumbDrive.Session.Path
import ThumbDrive.Text.Base64
import ThumbDrive.Text.Blank
import ThumbDrive.Text.CharSet
import ThumbDrive.Text.Decimal
import ThumbDrive.Text.Extending
import ThumbDrive.Text.Graphic
import ThumbDrive.Text.Hex
import ThumbDrive.Text.Ignorable
import ThumbDrive.Text.Quoted
import ThumbDrive.Text.Uppercase
import ThumbDrive.Text.Utf16
import ThumbDrive.Text.Utf8
import ThumbDrive.Usb
import ThumbDrive.Proofs.Contents
import ThumbDrive.Proofs.Stream
import ThumbDrive.Proofs.Volume
import ThumbDrive.Proofs.Directory
import ThumbDrive.Proofs.Partition
import ThumbDrive.Proofs.Session
import ThumbDrive.Proofs.Locks
import ThumbDrive.Proofs.Lifetime
import ThumbDrive.Proofs.Wrapper
import ThumbDrive.Proofs.Command
import ThumbDrive.Proofs.Interview
import ThumbDrive.Proofs.Drive
import ThumbDrive.Proofs.Leftover
import ThumbDrive.Proofs.Receivers
import ThumbDrive.Proofs.Negotiation
import ThumbDrive.Proofs.Waits
import ThumbDrive.Proofs.Settlement
import ThumbDrive.Proofs.Tenants
import ThumbDrive.Proofs.Leavings
import ThumbDrive.Proofs.Recorded
import ThumbDrive.Proofs.Conduct
import ThumbDrive.Proofs.Guards
import ThumbDrive.Proofs.Bounds
import ThumbDrive.Proofs.Transfers
import ThumbDrive.Proofs.Progress
import ThumbDrive.Proofs.Kinds
import ThumbDrive.Proofs.Chains
import ThumbDrive.Proofs.Files
import ThumbDrive.Proofs.Endings
import ThumbDrive.Proofs.FirstBlocks
import ThumbDrive.Proofs.Paths
import ThumbDrive.Proofs.Lookup
import ThumbDrive.Proofs.DotEntries
import ThumbDrive.Proofs.Polling
import ThumbDrive.Proofs.Splitting
import ThumbDrive.Proofs.Residues
import ThumbDrive.Proofs.Slots
import ThumbDrive.Proofs.Names
import ThumbDrive.Proofs.Circles
import ThumbDrive.Proofs.Rest
import ThumbDrive.Proofs.Grants
import ThumbDrive.Proofs.Answers
import ThumbDrive.Proofs.Arguments
import ThumbDrive.Proofs.Base64
import ThumbDrive.Proofs.Appending
