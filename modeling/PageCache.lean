import PageCache.Main
import PageCache.Proofs.Descriptors
import PageCache.Proofs.Probe.Counts
import PageCache.Proofs.Probe.Escapes
import PageCache.Proofs.Probe.FirstMishap
import PageCache.Proofs.Probe.Writable
import PageCache.Service.App
import PageCache.Proofs.Service.Status
import PageCache.Proofs.Probe.PartialRecord
import PageCache.Proofs.CommandLine.Verbosity
import PageCache.Proofs.CommandLine.Findings
import PageCache.Proofs.Service.Batch
import PageCache.Proofs.Service.History
import PageCache.Proofs.ProcessMap
import PageCache.Proofs.Probe.Sizing
import PageCache.Proofs.Probe.Independence
import PageCache.Proofs.CommandLine.Ceiling
import PageCache.Proofs.Listing.Object
import PageCache.Proofs.Listing.Terse
import PageCache.Proofs.CommandLine.Environment
import PageCache.Proofs.Mapping
import PageCache.Proofs.Listing.TerseLines
import PageCache.Proofs.Listing.Table
import PageCache.Proofs.Policy
import PageCache.Proofs.Instant.Date
import PageCache.Proofs.Instant.Iso
import PageCache.Proofs.Instant.Seconds
import PageCache.Proofs.Listing.Times
import PageCache.Proofs.MapLines
import PageCache.Proofs.Settings
import PageCache.Proofs.CommandLine.Outset
import PageCache.Proofs.CommandLine.Basenames
import PageCache.Proofs.Comparison
import PageCache.Proofs.Instant.Order
