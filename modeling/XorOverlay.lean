import XorOverlay.Exchange.Cluster
import XorOverlay.Main
import XorOverlay.Simulation.Bench
import XorOverlay.Simulation.Script
import XorOverlay.Proofs.Entries
import XorOverlay.Proofs.IdentBlock
import XorOverlay.Proofs.Routing.BucketRange
import XorOverlay.Proofs.Routing.BucketContacts
import XorOverlay.Proofs.Routing.BucketSound
import XorOverlay.Proofs.Routing.Placement
import XorOverlay.Proofs.Routing.TableHistory
import XorOverlay.Proofs.Routing.Cells
import XorOverlay.Proofs.Routing.TableInvariant
import XorOverlay.Proofs.BigEndian
import XorOverlay.Proofs.Wire.Fields
import XorOverlay.Proofs.Wire.RoundTrip
import XorOverlay.Proofs.Exchange.Sending
import XorOverlay.Proofs.Routing.Closest
import XorOverlay.Proofs.Lookup.Agreement
import XorOverlay.Proofs.Node.Requests
import XorOverlay.Proofs.Node.Handling
import XorOverlay.Proofs.Exchange.Honest
import XorOverlay.Proofs.Exchange.Calling
import XorOverlay.Proofs.Exchange.Operations
import XorOverlay.Proofs.Exchange.History
import XorOverlay.Proofs.Exchange.Snapshot
import XorOverlay.Proofs.Exchange.Copies
import XorOverlay.Proofs.Exchange.ReadOwnWrite
import XorOverlay.Proofs.Wire.Language
import XorOverlay.Proofs.Distance
import XorOverlay.Proofs.Routing.Nearest
import XorOverlay.Proofs.Routing.Membership
import XorOverlay.Proofs.Node.Welcome
import XorOverlay.Proofs.Node.Probing
import XorOverlay.Proofs.Node.Upkeep
import XorOverlay.Proofs.Lookup.CandidateSet
import XorOverlay.Proofs.Lookup.Convergence
import XorOverlay.Proofs.Wire.Carried
import XorOverlay.Proofs.Store.Instant
import XorOverlay.Proofs.Lookup.Informed
import XorOverlay.Proofs.Node.Insider
import XorOverlay.Proofs.Exchange.Mesh
import XorOverlay.Proofs.Exchange.MeshSearches
import XorOverlay.Proofs.Exchange.MeshOperations
import XorOverlay.Proofs.Exchange.FirstWrite
import XorOverlay.Proofs.Store.Timeline
import XorOverlay.Proofs.Store.Lifetime
import XorOverlay.Proofs.Store.Residency
import XorOverlay.Proofs.Store.Recall
import XorOverlay.Proofs.Lookup.Introduction
import XorOverlay.Proofs.Node.Attending
import XorOverlay.Proofs.Exchange.Gathering
import XorOverlay.Proofs.Exchange.Joining
import XorOverlay.Proofs.Exchange.OneSeed
import XorOverlay.Proofs.Quorum.Bounds
import XorOverlay.Proofs.Lookup.Votes
import XorOverlay.Proofs.Lookup.Reordering
import XorOverlay.Proofs.Exchange.Waiting
import XorOverlay.Proofs.Exchange.Desk
import XorOverlay.Proofs.Exchange.Correlation
import XorOverlay.Proofs.Node.Presentable
import XorOverlay.Proofs.Exchange.Replies
import XorOverlay.Proofs.Routing.Freshness
import XorOverlay.Proofs.Routing.Ranking
import XorOverlay.Proofs.Exchange.Routes
import XorOverlay.Proofs.Node.Companion
import XorOverlay.Proofs.Exchange.Company
import XorOverlay.Proofs.Exchange.CompanySearches
import XorOverlay.Proofs.Exchange.Spreading
import XorOverlay.Proofs.Exchange.CompanyOperations
import XorOverlay.Proofs.Exchange.Republishing
import XorOverlay.Proofs.Routing.Parking
import XorOverlay.Proofs.Node.Placeholder
import XorOverlay.Proofs.Node.Callers
import XorOverlay.Proofs.Node.Ledger
import XorOverlay.Proofs.Lookup.Respondents
import XorOverlay.Proofs.Node.Errands
import XorOverlay.Proofs.Lookup.Verdict
import XorOverlay.Proofs.Lookup.Homing
import XorOverlay.Proofs.Exchange.OwnName
import XorOverlay.Proofs.Routing.Recency
import XorOverlay.Proofs.Routing.Growth
import XorOverlay.Proofs.Lookup.Discipline
import XorOverlay.Proofs.Node.SearchCalls
import XorOverlay.Proofs.Exchange.Lobby
import XorOverlay.Proofs.Exchange.Succession
import XorOverlay.Proofs.Node.Publishing
import XorOverlay.Proofs.Store.Rewriting
import XorOverlay.Proofs.Exchange.SteadyRefresh
import XorOverlay.Proofs.Exchange.Reports
import XorOverlay.Proofs.Node.Sweep
import XorOverlay.Proofs.Exchange.Sweeping
import XorOverlay.Proofs.Quorum.Settling
import XorOverlay.Proofs.Store.WorkingSet
import XorOverlay.Proofs.Store.Journal
import XorOverlay.Proofs.Store.Iteration
import XorOverlay.Proofs.Exchange.Hub
import XorOverlay.Proofs.Exchange.Running
import XorOverlay.Proofs.Exchange.Reachability
import XorOverlay.Proofs.Text.Utf8
import XorOverlay.Proofs.Console.Keys
import XorOverlay.Proofs.BitLength
import XorOverlay.Proofs.Routing.Closeness
import XorOverlay.Proofs.Runs
import XorOverlay.Proofs.Routing.Halving
import XorOverlay.Proofs.Lookup.CandidateHistory
