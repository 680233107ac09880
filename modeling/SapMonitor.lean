import SapMonitor.Main
import SapMonitor.Remote.Scripted
import SapMonitor.Proofs.Decimal.Rounding
import SapMonitor.Proofs.Cache.SingleFlight
import SapMonitor.Proofs.Cache.LastPopulation
import SapMonitor.Proofs.Cache.Balance
import SapMonitor.Proofs.Landscape.SystemIds
import SapMonitor.Proofs.Monitor.Protection
import SapMonitor.Proofs.Remote.Requests
import SapMonitor.Proofs.Remote.PlainAnswers
import SapMonitor.Proofs.Remote.Responses
import SapMonitor.Proofs.Remote.Fallbacks
import SapMonitor.Proofs.LogStore.Delivery
import SapMonitor.Proofs.LogStore.Undisturbed
import SapMonitor.Proofs.Scrape.WholeScrapes
import SapMonitor.Proofs.Scrape.CountReports
import SapMonitor.Proofs.Scrape.LockReports
import SapMonitor.Proofs.Markup.Truncation
import SapMonitor.Proofs.Settings.Ports
import SapMonitor.Proofs.Settings.Precedence
import SapMonitor.Proofs.Series.Canonical
import SapMonitor.Proofs.Scrape.Repetitions
import SapMonitor.Proofs.Scrape.WrittenTimes
import SapMonitor.Proofs.Scrape.StreamKeys
