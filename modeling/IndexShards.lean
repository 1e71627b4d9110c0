import IndexShards.Path.Ancestors
import IndexShards.Manager.Drop
import IndexShards.Persist.Index
import IndexShards.Persist.Row
import IndexShards.Proofs.Drop.Planning
import IndexShards.Proofs.Writer.Rows
import IndexShards.Proofs.Registry
import IndexShards.Proofs.Tree.Runs
import IndexShards.Proofs.Writer.Protocol
import IndexShards.Proofs.Drop.Neighbours
import IndexShards.Proofs.Writer.Accounting
import IndexShards.Proofs.Naming
import IndexShards.Proofs.Backends
import IndexShards.Proofs.Tree.Failure
import IndexShards.Proofs.Columns
import IndexShards.Proofs.Writer.Spelling
import IndexShards.Proofs.Schema.Lookup
import IndexShards.Proofs.Text.Tight
import IndexShards.Proofs.Columns.Joined
import IndexShards.Proofs.Drop.Again
import IndexShards.Proofs.Tree.Success
import IndexShards.Proofs.Tree.AnyOrder
import IndexShards.Proofs.Columns.Growing
import IndexShards.Proofs.Segment.History
import IndexShards.Proofs.Drop.OnDisk
