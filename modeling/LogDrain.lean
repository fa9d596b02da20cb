import LogDrain.Answers
import LogDrain.Decimal.Binary64
import LogDrain.Decimal.Integer
import LogDrain.Decimal.Numeral
import LogDrain.Decimal.Shortest
import LogDrain.Environment
import LogDrain.Fault
import LogDrain.Json.Basic
import LogDrain.Json.Display
import LogDrain.Json.Finite
import LogDrain.Json.Reader
import LogDrain.Json.Writer
import LogDrain.Log
import LogDrain.Machines
import LogDrain.Platform.Envelope
import LogDrain.Platform.Operations
import LogDrain.Procedure
import LogDrain.Proofs.Addresses
import LogDrain.Proofs.Bodies
import LogDrain.Proofs.Breakage
import LogDrain.Proofs.Characters
import LogDrain.Proofs.Cloud
import LogDrain.Proofs.Collected
import LogDrain.Proofs.Collection
import LogDrain.Proofs.Configuration
import LogDrain.Proofs.Confinement
import LogDrain.Proofs.Course
import LogDrain.Proofs.Creation
import LogDrain.Proofs.Dialogue
import LogDrain.Proofs.Endpoint
import LogDrain.Proofs.Evidence
import LogDrain.Proofs.Exchange
import LogDrain.Proofs.Gates
import LogDrain.Proofs.Halves
import LogDrain.Proofs.Hidden
import LogDrain.Proofs.Identity
import LogDrain.Proofs.Interruption
import LogDrain.Proofs.Keys
import LogDrain.Proofs.Listing
import LogDrain.Proofs.Masked
import LogDrain.Proofs.Misread
import LogDrain.Proofs.Misshapen
import LogDrain.Proofs.Moves
import LogDrain.Proofs.Operation
import LogDrain.Proofs.Order
import LogDrain.Proofs.Origin
import LogDrain.Proofs.Path
import LogDrain.Proofs.Presence
import LogDrain.Proofs.Provisioning
import LogDrain.Proofs.ReadBack
import LogDrain.Proofs.Reading
import LogDrain.Proofs.Records
import LogDrain.Proofs.Recovery
import LogDrain.Proofs.Redeployment
import LogDrain.Proofs.Relaunch
import LogDrain.Proofs.Retokened
import LogDrain.Proofs.Rotation
import LogDrain.Proofs.Scalars
import LogDrain.Proofs.Screening
import LogDrain.Proofs.Secrecy
import LogDrain.Proofs.Selection
import LogDrain.Proofs.Sequence
import LogDrain.Proofs.Shown
import LogDrain.Proofs.Stage
import LogDrain.Proofs.Trimming
import LogDrain.Proofs.Twins
import LogDrain.Proofs.Undisturbed
import LogDrain.Proofs.Validation
import LogDrain.Proofs.Verdict
import LogDrain.Provider
import LogDrain.Remote.Call
import LogDrain.Remote.Document
import LogDrain.Remote.Request
import LogDrain.Resource.AddOn
import LogDrain.Resource.App
import LogDrain.Resource.Machine
import LogDrain.Resource.Shape
import LogDrain.Settings
import LogDrain.Setup.AddOn
import LogDrain.Setup.Credential
import LogDrain.Setup.Redeploy
import LogDrain.Setup.Ship
import LogDrain.Setup.Shipper
import LogDrain.Text.Blank
import LogDrain.Text.CaseTable
import LogDrain.Text.Damage
import LogDrain.Text.Digits
import LogDrain.Text.Encoding
import LogDrain.Text.Hex
import LogDrain.Text.LowerCase
import LogDrain.Text.Percent
import LogDrain.Text.Printable
import LogDrain.Text.Quoted
import LogDrain.Text.Ranges
import LogDrain.Text.Utf16
import LogDrain.Text.Utf8
import LogDrain.Text.Within
import LogDrain.Web.Complaint
import LogDrain.Web.Content
import LogDrain.Web.Service
import LogDrain.Web.ShipRequest
