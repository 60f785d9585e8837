import ImagePipeline.Asset.BucketStore
import ImagePipeline.Asset.FileTree
import ImagePipeline.Asset.LocalStore
import ImagePipeline.Asset.Path
import ImagePipeline.Asset.Store
import ImagePipeline.Association
import ImagePipeline.Bytes
import ImagePipeline.Catalogue
import ImagePipeline.Checksum
import ImagePipeline.Decimal.Binary
import ImagePipeline.Decimal.Shortest
import ImagePipeline.Failure
import ImagePipeline.Image.Arithmetic
import ImagePipeline.Image.Bmp
import ImagePipeline.Image.Codec
import ImagePipeline.Image.Decode
import ImagePipeline.Image.Encode
import ImagePipeline.Image.Fit
import ImagePipeline.Image.Formats
import ImagePipeline.Image.Gif
import ImagePipeline.Image.Inflate
import ImagePipeline.Image.Jpeg.Frequencies
import ImagePipeline.Image.Jpeg.Quantization
import ImagePipeline.Image.Jpeg.Reader
import ImagePipeline.Image.Jpeg.Writer
import ImagePipeline.Image.Orientation
import ImagePipeline.Image.Picture
import ImagePipeline.Image.Pixel
import ImagePipeline.Image.Png
import ImagePipeline.Image.Pnm
import ImagePipeline.Image.Raster
import ImagePipeline.Image.Resample
import ImagePipeline.Image.Turn
import ImagePipeline.Image.Watermark
import ImagePipeline.Instant
import ImagePipeline.Issue
import ImagePipeline.Json.Reader
import ImagePipeline.Json.Value
import ImagePipeline.Json.Writer
import ImagePipeline.Offered
import ImagePipeline.Page
import ImagePipeline.Processor
import ImagePipeline.Proofs.Asset.Confinement
import ImagePipeline.Proofs.Asset.Contents
import ImagePipeline.Proofs.Asset.Deletions
import ImagePipeline.Proofs.Asset.Directories
import ImagePipeline.Proofs.Asset.FileTree
import ImagePipeline.Proofs.Asset.Interchange
import ImagePipeline.Proofs.Asset.Keys
import ImagePipeline.Proofs.Asset.LocalStore
import ImagePipeline.Proofs.Asset.Namespaces
import ImagePipeline.Proofs.Asset.Objects
import ImagePipeline.Proofs.Asset.Refusals
import ImagePipeline.Proofs.Asset.Resaving
import ImagePipeline.Proofs.Asset.Serving
import ImagePipeline.Proofs.Image.Clear
import ImagePipeline.Proofs.Image.Compositing
import ImagePipeline.Proofs.Image.Failing
import ImagePipeline.Proofs.Image.Fitting
import ImagePipeline.Proofs.Image.Flattening
import ImagePipeline.Proofs.Image.Invisible
import ImagePipeline.Proofs.Image.MarkFile
import ImagePipeline.Proofs.Image.Rounding
import ImagePipeline.Proofs.Image.Spacing
import ImagePipeline.Proofs.Image.Tiling
import ImagePipeline.Proofs.Json.Texts
import ImagePipeline.Proofs.Queue.Acknowledgement
import ImagePipeline.Proofs.Queue.Agreement
import ImagePipeline.Proofs.Queue.Conservation
import ImagePipeline.Proofs.Queue.Delivery
import ImagePipeline.Proofs.Queue.DeliveryLimit
import ImagePipeline.Proofs.Queue.Sending
import ImagePipeline.Proofs.Script.Contract
import ImagePipeline.Proofs.Script.Ensemble
import ImagePipeline.Proofs.Script.Repetition
import ImagePipeline.Proofs.Script.Running
import ImagePipeline.Proofs.Script.Substitution
import ImagePipeline.Proofs.Table
import ImagePipeline.Proofs.Task
import ImagePipeline.Proofs.Text.Percent
import ImagePipeline.Proofs.Web.Answering
import ImagePipeline.Proofs.Web.Downloading
import ImagePipeline.Proofs.Web.Paging
import ImagePipeline.Proofs.Workflow.Admitting
import ImagePipeline.Proofs.Workflow.AllOrNothing
import ImagePipeline.Proofs.Workflow.Attempt
import ImagePipeline.Proofs.Workflow.Claiming
import ImagePipeline.Proofs.Workflow.Clock
import ImagePipeline.Proofs.Workflow.Consistency
import ImagePipeline.Proofs.Workflow.Duty
import ImagePipeline.Proofs.Workflow.Errand
import ImagePipeline.Proofs.Workflow.Exclusion
import ImagePipeline.Proofs.Workflow.Faultless
import ImagePipeline.Proofs.Workflow.GivingWay
import ImagePipeline.Proofs.Workflow.Housing
import ImagePipeline.Proofs.Workflow.Integrity
import ImagePipeline.Proofs.Workflow.Interleaving
import ImagePipeline.Proofs.Workflow.Locality
import ImagePipeline.Proofs.Workflow.Marking
import ImagePipeline.Proofs.Workflow.Naming
import ImagePipeline.Proofs.Workflow.Outcomes
import ImagePipeline.Proofs.Workflow.Provenance
import ImagePipeline.Proofs.Workflow.Recording
import ImagePipeline.Proofs.Workflow.Redelivery
import ImagePipeline.Proofs.Workflow.Residue
import ImagePipeline.Proofs.Workflow.ResultNames
import ImagePipeline.Proofs.Workflow.Retrying
import ImagePipeline.Proofs.Workflow.Settling
import ImagePipeline.Proofs.Workflow.Storing
import ImagePipeline.Proofs.Workflow.Untimed
import ImagePipeline.Proofs.Workflow.Verdict
import ImagePipeline.Proofs.Workflow.Writing
import ImagePipeline.Queue.Address
import ImagePipeline.Queue.Consumer
import ImagePipeline.Queue.Partition
import ImagePipeline.Queue.Publisher
import ImagePipeline.Record
import ImagePipeline.Record.Columns
import ImagePipeline.Retry
import ImagePipeline.Routine
import ImagePipeline.Script
import ImagePipeline.Settings.Assembly
import ImagePipeline.Settings.Basic
import ImagePipeline.Settings.EnvironmentFile
import ImagePipeline.Task
import ImagePipeline.Text.Blank
import ImagePipeline.Text.CaseTable
import ImagePipeline.Text.Extension
import ImagePipeline.Text.LowerCase
import ImagePipeline.Text.Number
import ImagePipeline.Text.Percent
import ImagePipeline.Text.Url
import ImagePipeline.Web.Endpoint
import ImagePipeline.Web.MediaTable
import ImagePipeline.Web.MediaType
import ImagePipeline.Web.Message
import ImagePipeline.Web.Origin
import ImagePipeline.Web.Presentation
import ImagePipeline.Web.Problem
import ImagePipeline.Web.Route
import ImagePipeline.Web.Target
import ImagePipeline.Workflow.Access
import ImagePipeline.Workflow.Call
import ImagePipeline.Workflow.FaultPlan
import ImagePipeline.Workflow.Processing
import ImagePipeline.Workflow.Site
import ImagePipeline.Workflow.Upload
import ImagePipeline.Workflow.Worker
