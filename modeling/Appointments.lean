import Appointments.Text.Blank
import Appointments.Text.Quoted
import Appointments.Number.Binary64
import Appointments.Number.Integer
import Appointments.Document.Value
import Appointments.Document.Json
import Appointments.Document.Reading
import Appointments.Time.Stamp
import Appointments.Time.Registry
import Appointments.Time.ClockTime
import Appointments.Interval
import Appointments.Week
import Appointments.Blackout
import Appointments.Party
import Appointments.Booking.Basic
import Appointments.Booking.Chain
import Appointments.Booking.Filters
import Appointments.Failure
import Appointments.Request
import Appointments.Openings
import Appointments.Shelf
import Appointments.Store.Basic
import Appointments.Store.Write
import Appointments.Log
import Appointments.Program
import Appointments.Transaction
import Appointments.World
import Appointments.Desk.Hours
import Appointments.Desk.Slots
import Appointments.Desk.Bookings
import Appointments.Demo
import Appointments.Main
import Appointments.Proofs.Crowd
import Appointments.Proofs.Conduct
import Appointments.Proofs.Checks
import Appointments.Proofs.Courses
import Appointments.Proofs.Outcomes
import Appointments.Proofs.StoreWrites
import Appointments.Proofs.Runs
import Appointments.Proofs.Origins
import Appointments.Proofs.DoubleBookings
import Appointments.Proofs.RescheduleChains
import Appointments.Proofs.Permanence
import Appointments.Proofs.Stories
import Appointments.Proofs.Schedules
import Appointments.Proofs.Instants
import Appointments.Proofs.Merging
import Appointments.Proofs.SlotCutting
import Appointments.Proofs.SlotLayout
import Appointments.Proofs.FreeSlots
import Appointments.Proofs.Reports
import Appointments.Proofs.SlotQueries
import Appointments.Proofs.ListingAndBooking
import Appointments.Proofs.Rollbacks
import Appointments.Proofs.LoneCalls
import Appointments.Proofs.Lookups
import Appointments.Proofs.Rulings
import Appointments.Proofs.Services
import Appointments.Proofs.WeeklyHours
import Appointments.Proofs.InTurn
import Appointments.Proofs.Trails
import Appointments.Proofs.Histories
import Appointments.Proofs.SameTime
import Appointments.Proofs.Rebooking
import Appointments.Proofs.ProviderParts
import Appointments.Proofs.SeparateProviders
import Appointments.Proofs.Disclosure
import Appointments.Proofs.LocalTimes
import Appointments.Proofs.WholeStore
import Appointments.Proofs.Refusals
import Appointments.Proofs.IntervalSets
import Appointments.Proofs.WorkingOrder
import Appointments.Proofs.BrokenLinks
import Appointments.Proofs.Readings
import Appointments.Proofs.BusySearch
import Appointments.Proofs.Paging
import Appointments.Proofs.AcceptedHours
import Appointments.Proofs.PartialUpdates
import Appointments.Proofs.RefusedHours
import Appointments.Proofs.Chronicles
import Appointments.Proofs.BlackoutRaces
import Appointments.Proofs.TemplateCourses
import Appointments.Proofs.KeptUpdates
import Appointments.Proofs.Matters
import Appointments.Proofs.FailureKinds
import Appointments.Proofs.CalendarEdges
import Appointments.Proofs.ExpectedFailures
import Appointments.Proofs.Numerals
import Appointments.Proofs.CivilDays
import Appointments.Proofs.Renderings
import Appointments.Proofs.DocumentInstants
import Appointments.Proofs.StoredBlackouts
import Appointments.Proofs.StoredRecords
import Appointments.Proofs.WrittenDays
import Appointments.Proofs.ClockTexts
import Appointments.Proofs.SafeGeneration
import Appointments.Proofs.DefaultHours
