import Dialogue.Admin.Request
import Dialogue.Admin.Routes
import Dialogue.Cache
import Dialogue.Catalogue.Builtin
import Dialogue.Catalogue.FirstContact
import Dialogue.Catalogue.Menu
import Dialogue.Catalogue.Quotation
import Dialogue.Catalogue.Topics
import Dialogue.Checked.Basic
import Dialogue.Checked.Fields
import Dialogue.Checked.Scalar
import Dialogue.Content.Basic
import Dialogue.Content.Grouping
import Dialogue.Content.Json
import Dialogue.Conversation.Basic
import Dialogue.Conversation.Stored
import Dialogue.Database.Basic
import Dialogue.Definition.Basic
import Dialogue.Definition.Build
import Dialogue.Definition.Json
import Dialogue.Definition.Stored
import Dialogue.Definition.Validation
import Dialogue.Fault
import Dialogue.Flow.Basic
import Dialogue.Flow.Check
import Dialogue.Flow.Service
import Dialogue.Flow.Turn
import Dialogue.Intent
import Dialogue.Json.Display
import Dialogue.Json.Pairs
import Dialogue.Json.Reader
import Dialogue.Json.Value
import Dialogue.Json.Writer
import Dialogue.Lookup
import Dialogue.Message
import Dialogue.Number.Binary64
import Dialogue.Number.Shortest
import Dialogue.Outcome
import Dialogue.Position
import Dialogue.Proofs.Catalogue.Addresses
import Dialogue.Proofs.Catalogue.Escaping
import Dialogue.Proofs.Catalogue.Gathering
import Dialogue.Proofs.Catalogue.Resolving
import Dialogue.Proofs.Catalogue.Steps
import Dialogue.Proofs.Checked
import Dialogue.Proofs.Comparing
import Dialogue.Proofs.Composable
import Dialogue.Proofs.Content.Channel
import Dialogue.Proofs.Content.Clipping
import Dialogue.Proofs.Content.Labelled
import Dialogue.Proofs.Content.Noticing
import Dialogue.Proofs.Conversation.Alike
import Dialogue.Proofs.Conversation.Apart
import Dialogue.Proofs.Conversation.Beginning
import Dialogue.Proofs.Conversation.Complete
import Dialogue.Proofs.Conversation.Composing
import Dialogue.Proofs.Conversation.Deeds
import Dialogue.Proofs.Conversation.Delivering
import Dialogue.Proofs.Conversation.Failing
import Dialogue.Proofs.Conversation.Forgetful
import Dialogue.Proofs.Conversation.HandingOver
import Dialogue.Proofs.Conversation.Lazy
import Dialogue.Proofs.Conversation.Quoting
import Dialogue.Proofs.Conversation.Recalled
import Dialogue.Proofs.Conversation.Routing
import Dialogue.Proofs.Conversation.Runs
import Dialogue.Proofs.Conversation.Settled
import Dialogue.Proofs.Conversation.Stale
import Dialogue.Proofs.Conversation.Standing
import Dialogue.Proofs.Conversation.Stored
import Dialogue.Proofs.Conversation.Stuck
import Dialogue.Proofs.Conversation.Tapping
import Dialogue.Proofs.Conversation.Telling
import Dialogue.Proofs.Conversation.Validated
import Dialogue.Proofs.Database.Order
import Dialogue.Proofs.Database.Skipping
import Dialogue.Proofs.Definition.Accepted
import Dialogue.Proofs.Definition.Choosing
import Dialogue.Proofs.Definition.Displayed
import Dialogue.Proofs.Definition.Ledger
import Dialogue.Proofs.Definition.Loading
import Dialogue.Proofs.Definition.Named
import Dialogue.Proofs.Definition.Outcomes
import Dialogue.Proofs.Definition.Reread
import Dialogue.Proofs.Definition.Ruling
import Dialogue.Proofs.Definition.Saved
import Dialogue.Proofs.Definition.Shelf
import Dialogue.Proofs.Definition.Shown
import Dialogue.Proofs.Definition.Stored
import Dialogue.Proofs.Definition.Together
import Dialogue.Proofs.Definition.WellFormed
import Dialogue.Proofs.Effect
import Dialogue.Proofs.Flow.Built
import Dialogue.Proofs.Flow.Cancelling
import Dialogue.Proofs.Flow.Changing
import Dialogue.Proofs.Flow.Complaining
import Dialogue.Proofs.Flow.Composing
import Dialogue.Proofs.Flow.Deadline
import Dialogue.Proofs.Flow.Escaping
import Dialogue.Proofs.Flow.Going
import Dialogue.Proofs.Flow.Learning
import Dialogue.Proofs.Flow.Making
import Dialogue.Proofs.Flow.Prompts
import Dialogue.Proofs.Flow.Reading
import Dialogue.Proofs.Flow.Service
import Dialogue.Proofs.Flow.Showing
import Dialogue.Proofs.Flow.Switching
import Dialogue.Proofs.Flow.Turns
import Dialogue.Proofs.Intent
import Dialogue.Proofs.Json.Decimals
import Dialogue.Proofs.Json.Numbers
import Dialogue.Proofs.Json.Plain
import Dialogue.Proofs.Json.Readable
import Dialogue.Proofs.Json.Reread
import Dialogue.Proofs.Json.Strings
import Dialogue.Proofs.Lookup
import Dialogue.Proofs.Outcome
import Dialogue.Proofs.Position
import Dialogue.Proofs.Position.Storable
import Dialogue.Proofs.Position.Texts
import Dialogue.Proofs.Regex.Flat
import Dialogue.Proofs.Regex.Literal
import Dialogue.Proofs.Reply.Asking
import Dialogue.Proofs.Reply.Finding
import Dialogue.Proofs.Reply.Keeping
import Dialogue.Proofs.Reply.Ranking
import Dialogue.Proofs.Reply.Recent
import Dialogue.Proofs.Reply.Refetching
import Dialogue.Proofs.Reply.Triggers
import Dialogue.Proofs.Service.Closing
import Dialogue.Proofs.Service.Crowding
import Dialogue.Proofs.Service.Filing
import Dialogue.Proofs.Service.Messages
import Dialogue.Proofs.Service.Opening
import Dialogue.Proofs.Service.Refreshing
import Dialogue.Proofs.Service.Repeating
import Dialogue.Proofs.Service.Requests
import Dialogue.Proofs.Service.Restarting
import Dialogue.Proofs.Service.Running
import Dialogue.Proofs.Service.Saving
import Dialogue.Proofs.Service.Serving
import Dialogue.Proofs.Service.Starting
import Dialogue.Proofs.Store.Malformed
import Dialogue.Proofs.Table
import Dialogue.Proofs.Template
import Dialogue.Proofs.Text.Folded
import Dialogue.Proofs.Text.Lowered
import Dialogue.Proofs.Text.Plain
import Dialogue.Proofs.Text.Trimmed
import Dialogue.Proofs.Text.Words
import Dialogue.Proofs.Time.Reading
import Dialogue.Proofs.Time.Reread
import Dialogue.Proofs.World
import Dialogue.Regex.Alternatives
import Dialogue.Regex.Character
import Dialogue.Regex.Fault
import Dialogue.Regex.Matcher
import Dialogue.Regex.Reader
import Dialogue.Regex.Registers
import Dialogue.Regex.Search
import Dialogue.Regex.Syntax
import Dialogue.Regex.Width
import Dialogue.Reply.Active
import Dialogue.Reply.Basic
import Dialogue.Settings
import Dialogue.Startup
import Dialogue.Store.Basic
import Dialogue.Store.Directory
import Dialogue.Table
import Dialogue.Tally
import Dialogue.Template
import Dialogue.Text.Blank
import Dialogue.Text.Bytes
import Dialogue.Text.Case
import Dialogue.Text.CaseTable
import Dialogue.Text.Class
import Dialogue.Text.ClassTable
import Dialogue.Text.Fold
import Dialogue.Text.Name
import Dialogue.Text.NameTable
import Dialogue.Text.PlainTable
import Dialogue.Text.Quoted
import Dialogue.Text.Runs
import Dialogue.Text.Search
import Dialogue.Time.Date
import Dialogue.Time.Reader
import Dialogue.Time.Span
import Dialogue.Time.Stamp
import Dialogue.Wording
import Dialogue.World
