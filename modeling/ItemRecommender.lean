import ItemRecommender.Batch.Split
import ItemRecommender.Batch.Stage
import ItemRecommender.CommandLine
import ItemRecommender.Config
import ItemRecommender.Cooccurrence
import ItemRecommender.DatasetFile
import ItemRecommender.Decimal.Format
import ItemRecommender.Decimal.Literal
import ItemRecommender.Decimal.Read
import ItemRecommender.Decimal.Shortest
import ItemRecommender.Failure
import ItemRecommender.ItemTable
import ItemRecommender.Join
import ItemRecommender.Json
import ItemRecommender.Ledger
import ItemRecommender.Main
import ItemRecommender.Object.Arithmetic
import ItemRecommender.Object.Call
import ItemRecommender.Object.Catalog
import ItemRecommender.Object.Catalog.Kind
import ItemRecommender.Object.Catalog.Modules
import ItemRecommender.Object.Catalog.Package
import ItemRecommender.Object.Catalog.Renamed
import ItemRecommender.Object.Catalog.Standard
import ItemRecommender.Object.Classes
import ItemRecommender.Object.Columns
import ItemRecommender.Object.Compare
import ItemRecommender.Object.Construct
import ItemRecommender.Object.Conversion
import ItemRecommender.Object.DecimalNumber
import ItemRecommender.Object.Division
import ItemRecommender.Object.Embed
import ItemRecommender.Object.Exact
import ItemRecommender.Object.Iteration
import ItemRecommender.Object.Joined
import ItemRecommender.Object.Mapping
import ItemRecommender.Object.Operator
import ItemRecommender.Object.Ranked
import ItemRecommender.Object.Reflection
import ItemRecommender.Object.Repr
import ItemRecommender.Object.Sort
import ItemRecommender.Object.Stage
import ItemRecommender.Object.Table
import ItemRecommender.Object.TypeName
import ItemRecommender.Object.Value
import ItemRecommender.PathName
import ItemRecommender.Phase
import ItemRecommender.Phase.Parse
import ItemRecommender.Preference
import ItemRecommender.Preference.Reader
import ItemRecommender.Progress
import ItemRecommender.Proofs.Batch.Balance
import ItemRecommender.Proofs.Batch.Collect
import ItemRecommender.Proofs.Batch.Combine
import ItemRecommender.Proofs.Batch.Grouping
import ItemRecommender.Proofs.Batch.Reference
import ItemRecommender.Proofs.Config.Fingerprint
import ItemRecommender.Proofs.Decimal.Written
import ItemRecommender.Proofs.Json.Consumed
import ItemRecommender.Proofs.Json.Reading
import ItemRecommender.Proofs.Ledger
import ItemRecommender.Proofs.Preference.Lines
import ItemRecommender.Proofs.Pruning.Heap
import ItemRecommender.Proofs.Pruning.Largest
import ItemRecommender.Proofs.Pruning.OrderStatistic
import ItemRecommender.Proofs.Pruning.Prune
import ItemRecommender.Proofs.Recommendation.RoundTrip
import ItemRecommender.Proofs.Recommender.Aggregate
import ItemRecommender.Proofs.Recommender.ByItem
import ItemRecommender.Proofs.Recommender.Cooccurrence
import ItemRecommender.Proofs.Recommender.Counts
import ItemRecommender.Proofs.Recommender.Exact
import ItemRecommender.Proofs.Recommender.ItemTable
import ItemRecommender.Proofs.Recommender.Join
import ItemRecommender.Proofs.Recommender.Pipeline
import ItemRecommender.Proofs.Recommender.RankOrder
import ItemRecommender.Proofs.Recommender.RankedLines
import ItemRecommender.Proofs.Recommender.Ranking
import ItemRecommender.Proofs.Recommender.Reference
import ItemRecommender.Proofs.Recommender.Regrouping
import ItemRecommender.Proofs.Recommender.Scores
import ItemRecommender.Proofs.Recommender.SinglePass
import ItemRecommender.Proofs.Recommender.UserVectors
import ItemRecommender.Proofs.Run.Attempts
import ItemRecommender.Proofs.Run.Fresh
import ItemRecommender.Proofs.Run.Markers
import ItemRecommender.Proofs.Run.StateFile
import ItemRecommender.Proofs.Run.Work
import ItemRecommender.Proofs.Text.Utf8
import ItemRecommender.Proofs.Workspace.Places
import ItemRecommender.Pruning
import ItemRecommender.Pruning.Heap
import ItemRecommender.Ranking
import ItemRecommender.Recommendation.Line
import ItemRecommender.Recommendation.Store
import ItemRecommender.Run
import ItemRecommender.Scalar
import ItemRecommender.Scores
import ItemRecommender.Service
import ItemRecommender.Setting
import ItemRecommender.Stream.Instruction
import ItemRecommender.Stream.Literal
import ItemRecommender.Stream.Machine
import ItemRecommender.Text.Blank
import ItemRecommender.Text.Capitals
import ItemRecommender.Text.Digit
import ItemRecommender.Text.Fields
import ItemRecommender.Text.LineBreak
import ItemRecommender.Text.Printable
import ItemRecommender.Text.Quoted
import ItemRecommender.Text.Utf8
import ItemRecommender.UserVector
import ItemRecommender.Workspace
