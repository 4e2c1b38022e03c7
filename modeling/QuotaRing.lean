import QuotaRing.Main
import QuotaRing.Node.CommandLine
import QuotaRing.Node.Fleet
import QuotaRing.Node.Sweeper
import QuotaRing.Proofs.Limit.CounterRun
import QuotaRing.Proofs.Limit.QuotaSafety
import QuotaRing.Proofs.Limit.Reports
import QuotaRing.Proofs.Node.Zones
import QuotaRing.Proofs.Limit.Recording
import QuotaRing.Proofs.Limit.Skew
import QuotaRing.Proofs.Peer.Remote
import QuotaRing.Proofs.Service.LongBodies
import QuotaRing.Proofs.Peer.Hearing
import QuotaRing.Proofs.Peer.Once
import QuotaRing.Proofs.Store.History
import QuotaRing.Proofs.Cluster.Relocation
import QuotaRing.Proofs.Limit.Chosen
import QuotaRing.Proofs.Limit.Spending
import QuotaRing.Proofs.Limit.Forecast
import QuotaRing.Proofs.Wire.Steady
import QuotaRing.Proofs.Store.Exact
import QuotaRing.Proofs.Store.Sweeping
import QuotaRing.Proofs.Limit.OwnCounters
import QuotaRing.Proofs.Limit.Isolation
import QuotaRing.Proofs.Limit.Promise
import QuotaRing.Proofs.Peer.Addressing
import QuotaRing.Proofs.Service.Visits
import QuotaRing.Proofs.Service.Admission
import QuotaRing.Proofs.Service.Acknowledged
import QuotaRing.Proofs.Limit.Tracking
import QuotaRing.Proofs.Limit.Raising
import QuotaRing.Proofs.Limit.Waiting
import QuotaRing.Proofs.Limit.Contents
import QuotaRing.Proofs.Store.Kinds
import QuotaRing.Proofs.Cluster.Agreement
import QuotaRing.Proofs.Peer.Reputation
import QuotaRing.Proofs.Limit.WholeUris
import QuotaRing.Proofs.Peer.Lifetimes
import QuotaRing.Proofs.Store.Increments
import QuotaRing.Proofs.Peer.Blame
