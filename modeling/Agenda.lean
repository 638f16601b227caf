import Agenda.Api.Server
import Agenda.Settings.Load
import Agenda.Task.Step
import Agenda.Config.Yaml.Character
import Agenda.Config.Yaml.Lexer.Block
import Agenda.Config.Yaml.Lexer.Scalar
import Agenda.Config.Yaml.Lexer.Property
import Agenda.Config.Yaml.Lexer.Structure
import Agenda.Proofs.Except
import Agenda.Proofs.Calendar.Order
import Agenda.Proofs.Calendar.Ordinal
import Agenda.Proofs.Calendar.Text
import Agenda.Proofs.Calendar.Anniversary
import Agenda.Proofs.Calendar.DayByDay
import Agenda.Proofs.Number.Decimal
import Agenda.Proofs.Text.Blank
import Agenda.Proofs.Text.Quoted
import Agenda.Proofs.Number.Character
import Agenda.Proofs.Config.Environment
import Agenda.Proofs.Repeat.Rule
import Agenda.Proofs.Repeat.Grammar
import Agenda.Proofs.Repeat.NextDate
import Agenda.Proofs.Store.Table
import Agenda.Proofs.Store.Like
import Agenda.Proofs.Store.Search
import Agenda.Proofs.Task.Operation
import Agenda.Proofs.Task.Draft
import Agenda.Proofs.Task.Ledger
import Agenda.Proofs.Task.Reachable
import Agenda.Proofs.Repeat.Order
import Agenda.Proofs.Repeat.Later
import Agenda.Proofs.Repeat.Daily
import Agenda.Proofs.Repeat.Yearly
import Agenda.Proofs.Task.Settling
import Agenda.Proofs.Task.Resettling
import Agenda.Proofs.Task.Listing
import Agenda.Proofs.Store.Script
import Agenda.Proofs.Task.Completion
import Agenda.Proofs.Task.Step
import Agenda.Proofs.Http.Percent
import Agenda.Proofs.Http.Target
import Agenda.Proofs.Api.TaskNumber
import Agenda.Proofs.Api.Wording
import Agenda.Proofs.Api.Request
import Agenda.Proofs.Json.Render
import Agenda.Proofs.Json.Exact
import Agenda.Proofs.Api.Body
import Agenda.Proofs.Api.Preview
import Agenda.Proofs.Api.Status
import Agenda.Proofs.Api.Failure
import Agenda.Proofs.Api.ReadBack
import Agenda.Proofs.Store.History
import Agenda.Proofs.Task.Number
import Agenda.Proofs.Task.Interleaving
import Agenda.Proofs.Task.TextSearch
import Agenda.Proofs.Task.DaySearch
import Agenda.Proofs.Config.Value
import Agenda.Proofs.Config.Toml
import Agenda.Proofs.Config.EnvFile
import Agenda.Proofs.Settings.Layer
import Agenda.Proofs.Settings.Content
import Agenda.Proofs.Settings.Load
import Agenda.Proofs.Settings.Variable
