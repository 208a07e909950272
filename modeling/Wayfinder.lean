import Wayfinder.Browser.Dialogue
import Wayfinder.Browser.Hint
import Wayfinder.Browser.Simulation
import Wayfinder.CommandLine
import Wayfinder.Doc.Basic
import Wayfinder.Doc.Hint
import Wayfinder.Host.Basic
import Wayfinder.Host.FileTree
import Wayfinder.Host.Workspace
import Wayfinder.Json.Basic
import Wayfinder.Json.Numeral
import Wayfinder.Json.Text
import Wayfinder.Main
import Wayfinder.Number.Binary64
import Wayfinder.Number.Shortest
import Wayfinder.Page.Basic
import Wayfinder.Page.Step
import Wayfinder.Page.Template
import Wayfinder.Page.Union
import Wayfinder.Pipe.Recording
import Wayfinder.Pipe.Reply
import Wayfinder.Pipe.Request
import Wayfinder.Pipe.Session
import Wayfinder.Program
import Wayfinder.Proofs.Doc.Members
import Wayfinder.Proofs.Doc.SiteMaps
import Wayfinder.Proofs.Doc.Specs
import Wayfinder.Proofs.Doc.Thinning
import Wayfinder.Proofs.History
import Wayfinder.Proofs.Host.Listing
import Wayfinder.Proofs.Json.Escapes
import Wayfinder.Proofs.Json.Numerals
import Wayfinder.Proofs.Json.Reading
import Wayfinder.Proofs.Json.Records
import Wayfinder.Proofs.Page.Binding
import Wayfinder.Proofs.Page.Placeholders
import Wayfinder.Proofs.Page.Rendering
import Wayfinder.Proofs.Pipe.Framing
import Wayfinder.Proofs.Pipe.Pairing
import Wayfinder.Proofs.Pipe.Rounds
import Wayfinder.Proofs.Questions
import Wayfinder.Proofs.Report.Entries
import Wayfinder.Proofs.Route.Account
import Wayfinder.Proofs.Route.Adrift
import Wayfinder.Proofs.Route.Arrival
import Wayfinder.Proofs.Route.Ascent
import Wayfinder.Proofs.Route.Dispatch
import Wayfinder.Proofs.Route.Footing
import Wayfinder.Proofs.Route.Likeness
import Wayfinder.Proofs.Route.Made
import Wayfinder.Proofs.Route.Reached
import Wayfinder.Proofs.Route.Registration
import Wayfinder.Proofs.Route.Remembrance
import Wayfinder.Proofs.Route.Trace
import Wayfinder.Proofs.Route.TraceFile
import Wayfinder.Proofs.Route.Turns
import Wayfinder.Proofs.Route.Unbuilt
import Wayfinder.Proofs.Route.Undisturbed
import Wayfinder.Proofs.Site.Catalog
import Wayfinder.Proofs.Site.Circles
import Wayfinder.Proofs.Site.Filling
import Wayfinder.Proofs.Site.Forest
import Wayfinder.Proofs.Site.Hops
import Wayfinder.Proofs.Site.Lineage
import Wayfinder.Proofs.Site.Menus
import Wayfinder.Proofs.Site.Offered
import Wayfinder.Proofs.Site.Opening
import Wayfinder.Proofs.Site.Operations
import Wayfinder.Proofs.Site.Unclosed
import Wayfinder.Proofs.Site.Undeclared
import Wayfinder.Proofs.Site.Validity
import Wayfinder.Proofs.Spec.Account
import Wayfinder.Proofs.Spec.Endings
import Wayfinder.Proofs.Spec.Folder
import Wayfinder.Proofs.Spec.Isolation
import Wayfinder.Proofs.Spec.Led
import Wayfinder.Proofs.Spec.Observers
import Wayfinder.Proofs.Spec.Ran
import Wayfinder.Proofs.Spec.Steps
import Wayfinder.Proofs.Text.Lines
import Wayfinder.Proofs.Url.Joining
import Wayfinder.Proofs.Url.Parts
import Wayfinder.Report
import Wayfinder.Route.Deed
import Wayfinder.Route.Event
import Wayfinder.Route.Navigator
import Wayfinder.Route.Rule
import Wayfinder.Sample.House
import Wayfinder.Sample.Lane
import Wayfinder.Sample.Loft
import Wayfinder.Sample.Manor
import Wayfinder.Sample.Portal
import Wayfinder.Sample.Scripted
import Wayfinder.Sample.Shelf
import Wayfinder.Sample.Stairwell
import Wayfinder.Sample.Terrace
import Wayfinder.Sample.Yard
import Wayfinder.Script
import Wayfinder.Settings
import Wayfinder.Site.Basic
import Wayfinder.Site.Codec
import Wayfinder.Site.Forest
import Wayfinder.Site.Pages
import Wayfinder.Site.Source
import Wayfinder.Site.Validity
import Wayfinder.SortedMap
import Wayfinder.Spec.Basic
import Wayfinder.Spec.Codec
import Wayfinder.Spec.Folder
import Wayfinder.Spec.Run
import Wayfinder.Text.Blank
import Wayfinder.Text.CaseTable
import Wayfinder.Text.Hex
import Wayfinder.Text.Lowercase
import Wayfinder.Text.Quoted
import Wayfinder.Text.Search
import Wayfinder.Text.Split
import Wayfinder.Text.Unprintable
import Wayfinder.Url
import Wayfinder.Yaml.Document
import Wayfinder.Yaml.Event
import Wayfinder.Yaml.Glyph
import Wayfinder.Yaml.Lexer
import Wayfinder.Yaml.Scalar
import Wayfinder.Yaml.ScalarText
import Wayfinder.Yaml.Token
import Wayfinder.Proofs.Report.Entries
