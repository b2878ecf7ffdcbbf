import EdgeCache.Exchange.Journal
import EdgeCache.Exchange.Service
import EdgeCache.Exchange.Traffic
import EdgeCache.Lifecycle.StopSignal
import EdgeCache.Main
import EdgeCache.Text.Utf8
import EdgeCache.Store.History
import EdgeCache.Store.Interleaving
import EdgeCache.Proofs.Store.Shard
import EdgeCache.Proofs.Store.Booking
import EdgeCache.Proofs.Store.Eviction
import EdgeCache.Proofs.Store.Capacity
import EdgeCache.Proofs.Store.Solo
import EdgeCache.Proofs.Store.Discipline
import EdgeCache.Proofs.Store.Reservation
import EdgeCache.Proofs.Store.Refinement
import EdgeCache.Proofs.Store.Refusal
import EdgeCache.Proofs.Store.Popularity
import EdgeCache.Proofs.Exchange.Calls
import EdgeCache.Proofs.Store.Admission
import EdgeCache.Proofs.Exchange.Frame
import EdgeCache.Proofs.Exchange.Provenance
import EdgeCache.Proofs.Exchange.Isolation
import EdgeCache.Proofs.Exchange.Prohibition
import EdgeCache.Exchange.Visit
import EdgeCache.Proofs.Store.Census
import EdgeCache.Proofs.Exchange.Session
import EdgeCache.Lifecycle.HostUpdate
import EdgeCache.Proofs.Text.Order
import EdgeCache.Proofs.Routing.HostTable
import EdgeCache.Proofs.Routing.Lookup
import EdgeCache.Proofs.Lifecycle.HostUpdate
import EdgeCache.Proofs.Lifecycle.Startup
import EdgeCache.Lifecycle.SignalHistory
import EdgeCache.Proofs.Lifecycle.StopSignal
import EdgeCache.Proofs.Lifecycle.Receivers
import EdgeCache.Proofs.Lifecycle.Acceptance
import EdgeCache.Exchange.Balance
import EdgeCache.Proofs.Exchange.Balance
import EdgeCache.Proofs.Text.Numerals
import EdgeCache.Proofs.Address.Ipv4
import EdgeCache.Proofs.Address.Ipv6
import EdgeCache.Proofs.Unicode.DomainName
import EdgeCache.Proofs.Address.Host
import EdgeCache.Proofs.Address.Url
import EdgeCache.Proofs.Address.Origin
import EdgeCache.Proofs.Store.Pressure
import EdgeCache.Proofs.Message.HopByHop
import EdgeCache.Proofs.Exchange.Replies
import EdgeCache.Proofs.Exchange.Relay
import EdgeCache.Proofs.Exchange.Marks
import EdgeCache.Proofs.Time.SpanText
import EdgeCache.Proofs.Store.Lasting
import EdgeCache.Proofs.Exchange.Lifetime
import EdgeCache.Store.RequestCount
import EdgeCache.Proofs.Store.RequestCount
import EdgeCache.Freshness.CacheControl
import EdgeCache.Proofs.Freshness.CacheControl
import EdgeCache.Proofs.Store.Sweep
import EdgeCache.Proofs.Store.Grounds
import EdgeCache.Exchange.Dispatch
import EdgeCache.Proofs.Exchange.Target
import EdgeCache.Time.Civil
import EdgeCache.Proofs.Exchange.HeaderOnly
import EdgeCache.Proofs.Time.Calendar
import EdgeCache.Freshness.DateText
import EdgeCache.Proofs.Freshness.DateParts
import EdgeCache.Proofs.Freshness.HttpDate
import EdgeCache.Freshness.Staleness
import EdgeCache.Proofs.Freshness.Staleness
import EdgeCache.Proofs.Settings.Size
import EdgeCache.Proofs.Time.SpanForm
import EdgeCache.Proofs.Exchange.AbsoluteForm
import EdgeCache.Proofs.Store.Placement
import EdgeCache.Proofs.Store.Choice
import EdgeCache.Settings.Check
import EdgeCache.Proofs.Settings.Problems
import EdgeCache.Address.Meaning
import EdgeCache.Proofs.Address.Meaning
