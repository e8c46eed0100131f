import Listing.Endpoint
import Listing.Schema
import Listing.Wire
import Listing.Proofs.Selection
import Listing.Proofs.KeptCalls
import Listing.Proofs.Setup
import Listing.Proofs.Memory.CallLog
import Listing.Proofs.Sql.PageAgreement
import Listing.Proofs.Sql.Meaning
import Listing.Proofs.Sql.RelatedRows
import Listing.Proofs.Memory.Page
import Listing.Proofs.Memory.Layout
import Listing.Proofs.Paging.Cap
import Listing.Proofs.Narrowing
import Listing.Proofs.Sql.Conditions
import Listing.Proofs.Total
import Listing.Proofs.Sql.Outline
import Listing.Proofs.Sql.Placeholders
import Listing.Proofs.Sql.Uniformity
import Listing.Proofs.Paging.Request
import Listing.Proofs.Paging.Cover
import Listing.Proofs.Replay
import Listing.Proofs.Confluence
import Listing.Proofs.Rejection
import Listing.Proofs.Sql.Execution
import Listing.Proofs.Rearrangement
import Listing.Proofs.Text.Utf8
import Listing.Proofs.Text.FormUrlencoded
import Listing.Proofs.Text.WrittenPairs
import Listing.Proofs.Text.DoubledMark
import Listing.Proofs.Keys
import Listing.Proofs.Target
import Listing.Proofs.LeanResponse
import Listing.Proofs.Paging.SignedRange
import Listing.Proofs.Sql.LetterCase
import Listing.Proofs.Sql.WholeColumns
import Listing.Proofs.Sql.Wildcards
import Listing.Proofs.MissingScopes
import Listing.Proofs.Effects
import Listing.Proofs.Insertion
import Listing.Proofs.Memory.Patterns
import Listing.Proofs.Memory.Search
import Listing.Proofs.Memory.Relations
import Listing.Proofs.Memory.Partition
import Listing.Proofs.Memory.FloatOrder
import Listing.Proofs.Memory.Sorted
import Listing.Proofs.Memory.Order
import Listing.Proofs.Memory.RowKeys
import Listing.Proofs.Ordering
import Listing.Proofs.Registrations
import Listing.Proofs.CarriedLists
