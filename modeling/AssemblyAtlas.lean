import AssemblyAtlas.Analysis.CallGraph
import AssemblyAtlas.Analysis.DeadCode
import AssemblyAtlas.Analysis.Dependency
import AssemblyAtlas.Analysis.Hierarchy
import AssemblyAtlas.Analysis.Reference
import AssemblyAtlas.Analysis.Search
import AssemblyAtlas.Analysis.Usage
import AssemblyAtlas.Catalog.Basic
import AssemblyAtlas.Catalog.Symbol
import AssemblyAtlas.Catalog.TypeTable
import AssemblyAtlas.Digest.Base64
import AssemblyAtlas.Digest.Crc32
import AssemblyAtlas.Digest.Sha256
import AssemblyAtlas.Error
import AssemblyAtlas.Files.Tree
import AssemblyAtlas.Json.Basic
import AssemblyAtlas.Json.Decoder
import AssemblyAtlas.Json.Numeral
import AssemblyAtlas.Json.Parser
import AssemblyAtlas.Json.Printer
import AssemblyAtlas.Json.Token
import AssemblyAtlas.Limits
import AssemblyAtlas.Metadata.Assembly
import AssemblyAtlas.Metadata.Instruction
import AssemblyAtlas.Metadata.Member
import AssemblyAtlas.Metadata.Signature
import AssemblyAtlas.Metadata.Visibility
import AssemblyAtlas.Paging.Cursor
import AssemblyAtlas.Paging.Page
import AssemblyAtlas.Pattern.Basic
import AssemblyAtlas.Pattern.Expr
import AssemblyAtlas.Pattern.Meaning
import AssemblyAtlas.Pattern.Memory
import AssemblyAtlas.Pattern.Parser
import AssemblyAtlas.Pattern.Regex
import AssemblyAtlas.Proofs.Json.Numeral
import AssemblyAtlas.Query.Command
import AssemblyAtlas.Query.Decode
import AssemblyAtlas.Query.Encode
import AssemblyAtlas.Query.Report
import AssemblyAtlas.Query.Resolve
import AssemblyAtlas.Settings
import AssemblyAtlas.Snapshot.Decode
import AssemblyAtlas.Snapshot.Encode
import AssemblyAtlas.Snapshot.Folder
import AssemblyAtlas.Snapshot.Load
import AssemblyAtlas.Sorted
import AssemblyAtlas.Store.Basic
import AssemblyAtlas.Store.Disk
import AssemblyAtlas.Store.Schema
import AssemblyAtlas.Text.AsciiCase
import AssemblyAtlas.Text.Blank
import AssemblyAtlas.Text.Decimal
import AssemblyAtlas.Text.Hex
import AssemblyAtlas.Text.Split
import AssemblyAtlas.Text.Utf8
import AssemblyAtlas.Unicode.CaseFold
import AssemblyAtlas.Unicode.Category
import AssemblyAtlas.Unicode.CharSet
import AssemblyAtlas.Unicode.Control
import AssemblyAtlas.Unicode.Letter
import AssemblyAtlas.Unicode.Mark
import AssemblyAtlas.Unicode.Number
import AssemblyAtlas.Unicode.Punctuation
import AssemblyAtlas.Unicode.Run
import AssemblyAtlas.Unicode.Symbol
import AssemblyAtlas.Word
import AssemblyAtlas.Proofs.Json.RoundTrip
import AssemblyAtlas.Proofs.Json.Decoding
import AssemblyAtlas.Proofs.Metadata.Nesting
import AssemblyAtlas.Proofs.Snapshot.RoundTrip
import AssemblyAtlas.Proofs.Sorted
import AssemblyAtlas.Proofs.Store.Holdings
import AssemblyAtlas.Proofs.Catalog.Lookup
import AssemblyAtlas.Proofs.Analysis.CallGraph
import AssemblyAtlas.Proofs.Analysis.PathSearch
import AssemblyAtlas.Proofs.Analysis.Dependency
import AssemblyAtlas.Proofs.Catalog.Agreement
import AssemblyAtlas.Proofs.Query.Agreement
import AssemblyAtlas.Proofs.Analysis.CallTree
import AssemblyAtlas.Proofs.Digest.Base64
import AssemblyAtlas.Proofs.Paging.Token
import AssemblyAtlas.Proofs.Paging.Walk
import AssemblyAtlas.Proofs.Query.Paging
import AssemblyAtlas.Proofs.Snapshot.Accepted
import AssemblyAtlas.Proofs.Store.Reload
import AssemblyAtlas.Proofs.Analysis.DeadCode
import AssemblyAtlas.Proofs.Store.SymbolLookup
import AssemblyAtlas.Proofs.Analysis.Reachability
import AssemblyAtlas.Proofs.Analysis.DepthBound
import AssemblyAtlas.Proofs.Limits
import AssemblyAtlas.Proofs.Query.MethodNames
import AssemblyAtlas.Proofs.Analysis.PathBound
import AssemblyAtlas.Proofs.Analysis.CallSites
import AssemblyAtlas.Proofs.Snapshot.FolderReport
import AssemblyAtlas.Proofs.Snapshot.Declared
import AssemblyAtlas.Proofs.Store.SymbolCoverage
import AssemblyAtlas.Proofs.Store.ReportedHash
import AssemblyAtlas.Proofs.Query.UnknownScope
import AssemblyAtlas.Proofs.Query.LoadedMembers
import AssemblyAtlas.Proofs.Analysis.LoadOrder
import AssemblyAtlas.Proofs.Analysis.CallCounts
import AssemblyAtlas.Proofs.Query.UsageOrder
import AssemblyAtlas.Proofs.Analysis.GraphSize
import AssemblyAtlas.Proofs.Analysis.AssemblyHops
import AssemblyAtlas.Proofs.Analysis.Subtypes
import AssemblyAtlas.Proofs.Analysis.BaseChain
import AssemblyAtlas.Proofs.Analysis.OwnerSpelling
import AssemblyAtlas.Proofs.Analysis.ReferenceGroups
import AssemblyAtlas.Proofs.Catalog.Occurrences
import AssemblyAtlas.Proofs.Catalog.TableEntries
import AssemblyAtlas.Proofs.Query.SearchFilters
import AssemblyAtlas.Proofs.Query.TypeNames
import AssemblyAtlas.Proofs.Store.PresentationOrder
