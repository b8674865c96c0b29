import TaskQuery.Main
import TaskQuery.Proofs.Calendar.DateText
import TaskQuery.Proofs.Calendar.DayNumber
import TaskQuery.Proofs.Calendar.Instant
import TaskQuery.Proofs.Query.Acceptance
import TaskQuery.Proofs.Query.Comparison
import TaskQuery.Proofs.Query.Composition
import TaskQuery.Proofs.Query.Conservation
import TaskQuery.Proofs.Query.CurrentInstant
import TaskQuery.Proofs.Query.DateRange
import TaskQuery.Proofs.Query.Fault
import TaskQuery.Proofs.Query.FirstFault
import TaskQuery.Proofs.Query.Gap
import TaskQuery.Proofs.Query.LastCondition
import TaskQuery.Proofs.Query.Lexeme
import TaskQuery.Proofs.Query.Limit
import TaskQuery.Proofs.Query.ListLiteral
import TaskQuery.Proofs.Query.Locality
import TaskQuery.Proofs.Query.Membership
import TaskQuery.Proofs.Query.NormalText
import TaskQuery.Proofs.Query.Parenthesis
import TaskQuery.Proofs.Query.Progress
import TaskQuery.Proofs.Query.QuotedContent
import TaskQuery.Proofs.Query.Recursion
import TaskQuery.Proofs.Query.Replacement
import TaskQuery.Proofs.Query.Report
import TaskQuery.Proofs.Query.Respacing
import TaskQuery.Proofs.Query.Trimming
import TaskQuery.Proofs.Query.ValueTokens
import TaskQuery.Proofs.Query.WellFormed
import TaskQuery.Proofs.Settings.DefaultFilter
import TaskQuery.Proofs.Command.Arrangement
import TaskQuery.Proofs.Command.Listing
import TaskQuery.Proofs.Command.Agreement
import TaskQuery.Proofs.Command.Runs
import TaskQuery.Proofs.Command.Session
import TaskQuery.Proofs.Command.SettingsFile
import TaskQuery.Proofs.Calendar.Ending
import TaskQuery.Proofs.Display.Caret
import TaskQuery.Proofs.Display.TableLines
import TaskQuery.Proofs.Display.TokenListing
import TaskQuery.Proofs.Display.Tree
import TaskQuery.Proofs.Json.Layout
import TaskQuery.Proofs.Json.Scalars
import TaskQuery.Proofs.Query.Like
import TaskQuery.Proofs.Query.Suggestion
import TaskQuery.Proofs.Task.Members
import TaskQuery.Proofs.Task.ReadBack
import TaskQuery.Proofs.Task.Sorting
import TaskQuery.Proofs.Text.LowerCase
