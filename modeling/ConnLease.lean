import ConnLease.Driver.Bench
import ConnLease.LeaseConfig.Draft
import ConnLease.Leak.Bench
import ConnLease.Leak.BorrowPlace
import ConnLease.Session.Factories
import ConnLease.Session.Run
import ConnLease.Proofs.Roster
import ConnLease.Proofs.Leak.Checks
import ConnLease.Proofs.Leak.Course
import ConnLease.Proofs.Leak.Bench
import ConnLease.Proofs.Session.Fields
import ConnLease.Proofs.Session.Close
import ConnLease.Proofs.Session.Moves
import ConnLease.Proofs.Session.Effects
import ConnLease.Proofs.Session.Releases
import ConnLease.Proofs.Session.Checkout
import ConnLease.Proofs.Session.Strays
import ConnLease.Proofs.Session.Detectors
import ConnLease.Proofs.Session.Quiescence
import ConnLease.Proofs.Session.Reports
import ConnLease.Proofs.Session.Breakage
import ConnLease.Proofs.Session.Occasions
import ConnLease.Proofs.Session.Places
import ConnLease.Proofs.Session.Alike
import ConnLease.Proofs.Session.Timeless
import ConnLease.Proofs.Session.Journals
import ConnLease.Proofs.Session.Living
import ConnLease.Proofs.Session.Tracking
import ConnLease.Proofs.Session.DriverCloses
import ConnLease.Proofs.Session.JournalBalance
import ConnLease.Proofs.Session.Errors
import ConnLease.Proofs.Session.BrokenFlag
import ConnLease.Proofs.Leak.Conservation
import ConnLease.Proofs.Session.Closers
import ConnLease.Proofs.Session.Workshop
import ConnLease.Proofs.Session.CleanCycle
import ConnLease.Proofs.Text.Reading
import ConnLease.Proofs.LeaseConfig.Grammar
import ConnLease.Proofs.Session.OneByOne
import ConnLease.Proofs.Session.Separation
import ConnLease.Proofs.Session.Unwinding
import ConnLease.Proofs.Session.Opening
import ConnLease.Proofs.Verdicts
import ConnLease.Proofs.LeaseConfig.Joining
import ConnLease.Proofs.LeaseConfig.Requests
import ConnLease.Proofs.Session.PoolBooks
import ConnLease.Proofs.Registry
import ConnLease.Proofs.Driver.Course
import ConnLease.Proofs.Driver.Script
import ConnLease.Proofs.Session.DriverFrame
import ConnLease.Proofs.Session.BreakEvents
