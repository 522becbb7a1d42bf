import Provision.Billing
import Provision.Binary64.Reader
import Provision.Binary64.Shortest
import Provision.Body.Attributes
import Provision.Catalogue
import Provision.Change
import Provision.Config
import Provision.Document.Reader
import Provision.Document.Text
import Provision.Duration
import Provision.Engine.Create
import Provision.Engine.Delete
import Provision.Engine.Update
import Provision.Envelope
import Provision.Http.Server
import Provision.Kind.Description
import Provision.Path.Extract
import Provision.Path.Parser
import Provision.Path.Scanner
import Provision.Proofs.Billing
import Provision.Proofs.Body.Echo
import Provision.Proofs.Body.Extent
import Provision.Proofs.Body.Omission
import Provision.Proofs.Body.Placement
import Provision.Proofs.Catalogue
import Provision.Proofs.Cidr
import Provision.Proofs.Clock
import Provision.Proofs.Config
import Provision.Proofs.Dict
import Provision.Proofs.Document
import Provision.Proofs.Engine.Absent
import Provision.Proofs.Engine.Charging
import Provision.Proofs.Engine.Compensate
import Provision.Proofs.Engine.Create
import Provision.Proofs.Engine.Deadline
import Provision.Proofs.Engine.Delete
import Provision.Proofs.Engine.Growth
import Provision.Proofs.Engine.Identifier
import Provision.Proofs.Engine.Life
import Provision.Proofs.Engine.Misconfigured
import Provision.Proofs.Engine.Order
import Provision.Proofs.Engine.Plan
import Provision.Proofs.Engine.Reading
import Provision.Proofs.Engine.Refusal
import Provision.Proofs.Engine.Required
import Provision.Proofs.Engine.Retag
import Provision.Proofs.Engine.Search
import Provision.Proofs.Engine.Stage
import Provision.Proofs.Engine.Unread
import Provision.Proofs.Engine.Update
import Provision.Proofs.Engine.WellFormed
import Provision.Proofs.Envelope
import Provision.Proofs.Order
import Provision.Proofs.Path.Flatten
import Provision.Proofs.Path.Grammar
import Provision.Proofs.Path.Parse
import Provision.Proofs.Path.Position
import Provision.Proofs.Path.Projection
import Provision.Proofs.Path.Scanner
import Provision.Proofs.Poll.Bounds
import Provision.Proofs.Poll.Course
import Provision.Proofs.Poll.Deadline
import Provision.Proofs.Poll.Extension
import Provision.Proofs.Poll.Run
import Provision.Proofs.Poll.Single
import Provision.Proofs.Protocol
import Provision.Proofs.Run
import Provision.Proofs.Schema
import Provision.Proofs.Tags
import Provision.Proofs.Template
import Provision.Proofs.Value
import Provision.Proofs.Value.Conversion
import Provision.Provider
import Provision.Request
import Provision.Request.Template
import Provision.Resource
import Provision.Script
import Provision.Tags
import Provision.Text.Utf8
