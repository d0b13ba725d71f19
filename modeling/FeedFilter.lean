import FeedFilter.Editor.Panel
import FeedFilter.Main
import FeedFilter.Proofs.Block.Parents
import FeedFilter.Proofs.Document.Flattening
import FeedFilter.Proofs.LiteralWord.Expression
import FeedFilter.Proofs.Regex.Search
import FeedFilter.Proofs.Engine.Cache
import FeedFilter.Proofs.LiteralWord.Occurrence
import FeedFilter.Proofs.Engine.Fleet
import FeedFilter.Proofs.Comment.OnePass
import FeedFilter.Proofs.Text.Lines
import FeedFilter.Proofs.Migration.Item
import FeedFilter.Proofs.Engine.TextRules
import FeedFilter.Proofs.Migration.FirstRelease
import FeedFilter.Proofs.Document.Writing
import FeedFilter.Proofs.Document.Editing
import FeedFilter.Proofs.Document.Account
import FeedFilter.Proofs.Document.Stopping
import FeedFilter.Proofs.Document.Joining
import FeedFilter.Proofs.SettingsFile.Loading
import FeedFilter.Proofs.Pass.Runs
import FeedFilter.Proofs.Pass.Order
import FeedFilter.Proofs.Editor.Saving
import FeedFilter.Proofs.Html.Keys
import FeedFilter.Proofs.Html.Nested
import FeedFilter.Proofs.Html.Highlighting
import FeedFilter.Proofs.Pattern.Parity
import FeedFilter.Proofs.Directive.Grammar
import FeedFilter.Proofs.Html.Banner
import FeedFilter.Proofs.Editor.Loading
import FeedFilter.Proofs.Directive.Canonical
import FeedFilter.Proofs.Document.Nesting
import FeedFilter.Proofs.Engine.Precedence
import FeedFilter.Proofs.SettingsFile.Untouched
import FeedFilter.Proofs.Comment.Reach
