import ModuleAtlas.Clustering.Run
import ModuleAtlas.Command.Run
import ModuleAtlas.Completion.Service
import ModuleAtlas.Completion.Wire
import ModuleAtlas.Graph.Build
import ModuleAtlas.Graph.Order
import ModuleAtlas.Graph.Seeds
import ModuleAtlas.Graph.Snapshot
import ModuleAtlas.Graph.Walk
import ModuleAtlas.Listing
import ModuleAtlas.Main
import ModuleAtlas.Module.Store
import ModuleAtlas.Module.Table
import ModuleAtlas.Module.Tree
import ModuleAtlas.Prompt
import ModuleAtlas.Reply
import ModuleAtlas.Settings.Document
import ModuleAtlas.Tokens
import ModuleAtlas.Proofs.Graph.DepthFirst
import ModuleAtlas.Proofs.Graph.MutualGroups
import ModuleAtlas.Proofs.Graph.Arrangement
import ModuleAtlas.Proofs.Clustering.Collapse
import ModuleAtlas.Proofs.Clustering.Depth
import ModuleAtlas.Proofs.Clustering.Scope
import ModuleAtlas.Proofs.Module.Table
import ModuleAtlas.Proofs.Clustering.Resume
import ModuleAtlas.Proofs.Graph.Contents
import ModuleAtlas.Proofs.Graph.Edges
import ModuleAtlas.Proofs.Graph.WellFormed
import ModuleAtlas.Proofs.Literal.Grammar
import ModuleAtlas.Proofs.Json.Document
import ModuleAtlas.Proofs.Literal.Reading
import ModuleAtlas.Proofs.Literal.Shared
import ModuleAtlas.Proofs.Literal.Strict
import ModuleAtlas.Proofs.Literal.Dialect
import ModuleAtlas.Proofs.Literal.Completeness
import ModuleAtlas.Proofs.Text.Search
import ModuleAtlas.Proofs.Reply
import ModuleAtlas.Proofs.Clustering.History
import ModuleAtlas.Proofs.Clustering.Memory
import ModuleAtlas.Proofs.Clustering.Outcomes
import ModuleAtlas.Proofs.Clustering.Examined
import ModuleAtlas.Proofs.Clustering.Repetition
import ModuleAtlas.Proofs.Clustering.Coverage
import ModuleAtlas.Proofs.Module.Persistence
import ModuleAtlas.Proofs.Graph.Accounting
import ModuleAtlas.Proofs.Graph.Membership
import ModuleAtlas.Proofs.Clustering.Checkpoints
import ModuleAtlas.Proofs.Graph.Snapshot
import ModuleAtlas.Proofs.Graph.Numbering
import ModuleAtlas.Proofs.Graph.Walk
import ModuleAtlas.Proofs.Module.Views
import ModuleAtlas.Proofs.Literal.Slip
import ModuleAtlas.Proofs.Literal.Progress
import ModuleAtlas.Proofs.Listing.Sections
import ModuleAtlas.Proofs.Listing.Size
import ModuleAtlas.Proofs.Reply.Region
import ModuleAtlas.Proofs.Clustering.Origin
import ModuleAtlas.Proofs.Graph.Aliases
import ModuleAtlas.Proofs.Completion.Service
import ModuleAtlas.Proofs.Module.Store
import ModuleAtlas.Proofs.Module.Inverse
