import ChainWatch.Bytes
import ChainWatch.Alphanumeric
import ChainWatch.Unprintable
import ChainWatch.Quoted
import ChainWatch.Hex
import ChainWatch.Error
import ChainWatch.Digest
import ChainWatch.Total
import ChainWatch.Reader
import ChainWatch.CompactSize
import ChainWatch.Transaction.Basic
import ChainWatch.Transaction.Decode
import ChainWatch.Json.Basic
import ChainWatch.Json.Token
import ChainWatch.Json.Text
import ChainWatch.Json.Fields
import ChainWatch.Message
import ChainWatch.Notice
import ChainWatch.TextMap
import ChainWatch.Macaroon
import ChainWatch.Call
import ChainWatch.Span
import ChainWatch.Log.Event
import ChainWatch.Log.Pattern
import ChainWatch.Log.Filter
import ChainWatch.Settings
import ChainWatch.Log.Sink
import ChainWatch.RunQueue
import ChainWatch.Roster
import ChainWatch.Gatehouse
import ChainWatch.Feed
import ChainWatch.EpochWatch
import ChainWatch.ResultWatch
import ChainWatch.Registration
import ChainWatch.Session
import ChainWatch.Script
import ChainWatch.Proofs.Bytes
import ChainWatch.Proofs.Feed
import ChainWatch.Proofs.EpochRun
import ChainWatch.Proofs.EpochDelivery
import ChainWatch.Proofs.EpochAnswers
import ChainWatch.Proofs.EpochBarrier
import ChainWatch.Proofs.EpochRest
import ChainWatch.Proofs.ResultRun
import ChainWatch.Proofs.ResultOutcome
import ChainWatch.Proofs.ResultDelivery
import ChainWatch.Proofs.RosterRun
import ChainWatch.Proofs.LostWaits
import ChainWatch.Proofs.Story
import ChainWatch.Proofs.CallBook
import ChainWatch.Proofs.SessionRun
import ChainWatch.Proofs.SessionEffect
import ChainWatch.Proofs.RegistrationRace
import ChainWatch.Proofs.Chronicle
import ChainWatch.Proofs.Cancellation
import ChainWatch.Proofs.ActiveWorkers
import ChainWatch.Proofs.SessionWaits
import ChainWatch.Proofs.Turn
import ChainWatch.Proofs.Schedules
import ChainWatch.Proofs.Idle
import ChainWatch.Proofs.Bystander
import ChainWatch.Proofs.Quiet
import ChainWatch.Proofs.Alike
import ChainWatch.Proofs.OwnSteps
import ChainWatch.Proofs.Seclusion
import ChainWatch.Proofs.Isolation
import ChainWatch.Proofs.EpochChannels
import ChainWatch.Proofs.Hex
import ChainWatch.Proofs.Digest
import ChainWatch.Proofs.ErrorKinds
import ChainWatch.Proofs.JsonText
import ChainWatch.Proofs.JsonFields
import ChainWatch.Proofs.MessageText
import ChainWatch.Proofs.MessageFields
import ChainWatch.Proofs.Reader
import ChainWatch.Proofs.Transaction
import ChainWatch.Proofs.Details
import ChainWatch.Proofs.TextMap
import ChainWatch.Proofs.Lineage
import ChainWatch.Proofs.Macaroon
import ChainWatch.Proofs.Authentication
import ChainWatch.Proofs.Timeout
import ChainWatch.Proofs.SettingsText
import ChainWatch.Proofs.Directives
