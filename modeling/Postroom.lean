import Postroom.Batch
import Postroom.Calendar
import Postroom.Config.Document
import Postroom.Config.DocumentText
import Postroom.Config.Reader
import Postroom.Config.Settings
import Postroom.Count
import Postroom.Domain
import Postroom.Fault
import Postroom.IpAddress
import Postroom.Ledger
import Postroom.Metrics
import Postroom.Office.Attempting
import Postroom.Office.Closing
import Postroom.Office.Ending
import Postroom.Office.Queueing
import Postroom.Office.State
import Postroom.Office.Submission
import Postroom.Office.Tick
import Postroom.Office.Waiting
import Postroom.Policy.Backoff
import Postroom.Policy.BulkHold
import Postroom.Policy.Magnitude
import Postroom.Policy.RetryQuota
import Postroom.Pool.AddressPool
import Postroom.Proofs.Custody.Change
import Postroom.Proofs.Custody.Conduct
import Postroom.Proofs.Custody.Course
import Postroom.Proofs.Custody.Ownership
import Postroom.Proofs.Custody.Recipients
import Postroom.Proofs.Custody.Regular
import Postroom.Proofs.Custody.Settling
import Postroom.Proofs.Desk.Counts
import Postroom.Proofs.Desk.Course
import Postroom.Proofs.Desk.Deeds
import Postroom.Proofs.Desk.Times
import Postroom.Proofs.Executions
import Postroom.Proofs.Frame
import Postroom.Proofs.History
import Postroom.Proofs.Numbered
import Postroom.Proofs.Panel.Course
import Postroom.Proofs.Panel.Gauges
import Postroom.Proofs.Panel.Labels
import Postroom.Proofs.Panel.Settling
import Postroom.Proofs.Policy.Delays
import Postroom.Proofs.Policy.Quota
import Postroom.Proofs.Policy.Rounding
import Postroom.Proofs.Queue.Ages
import Postroom.Proofs.Queue.Fairness
import Postroom.Proofs.Queue.Sound
import Postroom.Proofs.Queue.Tasks
import Postroom.Proofs.Queue.Turnover
import Postroom.Proofs.Queue.Withdrawal
import Postroom.Proofs.Rehearsal.Course
import Postroom.Proofs.Rehearsal.Jobs
import Postroom.Proofs.Resources.Accounts
import Postroom.Proofs.Resources.Completions
import Postroom.Proofs.Resources.Cooling
import Postroom.Proofs.Resources.Drawing
import Postroom.Proofs.Resources.Judging
import Postroom.Proofs.Resources.Leases
import Postroom.Proofs.Resources.Leasing
import Postroom.Proofs.Resources.Permits
import Postroom.Proofs.Resources.Refusals
import Postroom.Proofs.Resources.Usage
import Postroom.Proofs.Retries.Budget
import Postroom.Proofs.Retries.MovesOn
import Postroom.Proofs.Retries.Perseverance
import Postroom.Proofs.Retries.Tries
import Postroom.Proofs.Runs.Aborts
import Postroom.Proofs.Runs.Cascade
import Postroom.Proofs.Runs.Course
import Postroom.Proofs.Runs.Coverage
import Postroom.Proofs.Runs.EndsAborted
import Postroom.Proofs.Runs.Reclaimed
import Postroom.Proofs.Runs.Records
import Postroom.Proofs.Runs.Starts
import Postroom.Proofs.Runs.UnderWay
import Postroom.Proofs.Service.Accounting
import Postroom.Proofs.Service.Holds
import Postroom.Proofs.Service.Order
import Postroom.Proofs.Service.Picks
import Postroom.Proofs.Service.Reserve
import Postroom.Proofs.Service.Resting
import Postroom.Proofs.Service.Shares
import Postroom.Proofs.Session.Answers
import Postroom.Proofs.Session.Classified
import Postroom.Proofs.Session.Commands
import Postroom.Proofs.Session.Course
import Postroom.Proofs.Session.EachOnce
import Postroom.Proofs.Session.Explained
import Postroom.Proofs.Session.Shown
import Postroom.Proofs.Session.Validity
import Postroom.Proofs.Settlements.Booked
import Postroom.Proofs.Settlements.Course
import Postroom.Proofs.Settlements.Expiries
import Postroom.Proofs.Settlements.Sinks
import Postroom.Proofs.Settlements.Steps
import Postroom.Proofs.Settlements.Submissions
import Postroom.Proofs.Settlements.Written
import Postroom.Proofs.Shutdown.Calls
import Postroom.Proofs.Shutdown.Complete
import Postroom.Proofs.Shutdown.Crew
import Postroom.Proofs.Shutdown.Gates
import Postroom.Proofs.Shutdown.Idle
import Postroom.Proofs.Shutdown.Manning
import Postroom.Proofs.Shutdown.Waiting
import Postroom.Proofs.Spelling
import Postroom.Proofs.Stats.Days
import Postroom.Proofs.Stats.Windows
import Postroom.Proofs.Tables
import Postroom.Proofs.Ticks
import Postroom.Proofs.Timers.Calls
import Postroom.Proofs.Timers.Delivery
import Postroom.Proofs.Timers.Watch
import Postroom.Proofs.Waits.Attended
import Postroom.Proofs.Waits.Bench
import Postroom.Proofs.Waits.Clocks
import Postroom.Proofs.Waits.Course
import Postroom.Proofs.Waits.Escalation
import Postroom.Proofs.Waits.Expiry
import Postroom.Proofs.Waits.Isolation
import Postroom.Proofs.Waits.Names
import Postroom.Proofs.Waits.Shortages
import Postroom.Queue.Lanes
import Postroom.Queue.Line
import Postroom.Registry
import Postroom.Rehearsal.Directing
import Postroom.Rehearsal.Hand
import Postroom.Rehearsal.Report
import Postroom.Rehearsal.Running
import Postroom.Rehearsal.Script
import Postroom.Rehearsal.State
import Postroom.Rehearsal.Time
import Postroom.Session.Conversation
import Postroom.Session.Outcome
import Postroom.Session.Peer
import Postroom.Slots
import Postroom.Stats.Daily
import Postroom.Stats.DomainWindow
import Postroom.Table
import Postroom.Task
import Postroom.Text.Blank
import Postroom.Text.Printable
import Postroom.Text.Quoted
import Postroom.Timers
import Postroom.Traffic
import Postroom.WaitTable
