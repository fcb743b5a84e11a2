import StaticSite.Main
import StaticSite.Media.Builtin
import StaticSite.Files.Tree
import StaticSite.Proofs.Stream.Lifecycle
import StaticSite.Proofs.Stream.Progress
import StaticSite.Server.Connections
import StaticSite.Server.Session
import StaticSite.Proofs.Stream.Delivery
import StaticSite.Proofs.Http.Values
import StaticSite.Proofs.Range.Clip
import StaticSite.Proofs.Stream.Prepared
import StaticSite.Proofs.Stream.Content
import StaticSite.Proofs.Stream.Download
import StaticSite.Proofs.Site.Confinement
import StaticSite.Proofs.Stream.Retry
import StaticSite.Proofs.Calendar
import StaticSite.Proofs.Text.Lexemes
import StaticSite.Proofs.Site.Dispatch
import StaticSite.Proofs.Site.Links
import StaticSite.Proofs.Site.Redirect
import StaticSite.Proofs.Http.Dates
import StaticSite.Proofs.Site.Conditions
import StaticSite.Proofs.Stream.Multipart
import StaticSite.Proofs.Site.Heads
import StaticSite.Proofs.Site.Markup
import StaticSite.Proofs.Site.History
import StaticSite.Proofs.Site.Tables
import StaticSite.Proofs.Site.StoredForm
import StaticSite.Proofs.Range.Exact
import StaticSite.Proofs.Range.Grammar
import StaticSite.Proofs.Stream.Lengths
import StaticSite.Proofs.Site.Attempts
import StaticSite.Proofs.Http.OlderDates
import StaticSite.Proofs.Site.Nearest
import StaticSite.Proofs.Site.Splitting
import StaticSite.Proofs.Site.Priority
import StaticSite.Proofs.Site.Rows
import StaticSite.Proofs.Site.Types
import StaticSite.Proofs.Files.Trees
import StaticSite.Proofs.Server.Slots
import StaticSite.Proofs.Stream.Bounds
