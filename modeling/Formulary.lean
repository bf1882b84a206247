import Formulary.Main
import Formulary.Token.Json
import Formulary.Proofs.Expr.Advance
import Formulary.Proofs.Expr.Grammar
import Formulary.Proofs.Text.Decimal
import Formulary.Proofs.Token.Kinds
import Formulary.Proofs.Expr.Validity
import Formulary.Proofs.Expr.Canonical
import Formulary.Proofs.Json.Strings
import Formulary.Proofs.Json.Words
import Formulary.Proofs.Json.Reading
import Formulary.Proofs.Expr.Json
import Formulary.Proofs.Entry.Encoding
import Formulary.Proofs.Disk.Paths
import Formulary.Proofs.Store.Files
import Formulary.Proofs.Store.Outcomes
import Formulary.Proofs.Store.Writing
import Formulary.Proofs.Registry.Outcomes
import Formulary.Proofs.Registry.Runs
import Formulary.Proofs.Store.Looking
import Formulary.Proofs.Registry.Retrieval
import Formulary.Proofs.Registry.Operands
import Formulary.Proofs.Digest.Order
import Formulary.Proofs.Disk.Names
import Formulary.Proofs.Store.Listing
import Formulary.Proofs.Store.Operations
import Formulary.Proofs.Store.Timeline
import Formulary.Proofs.Store.Growing
import Formulary.Proofs.Registry.Atomicity
import Formulary.Proofs.Store.Backends
import Formulary.Proofs.Store.Recall
import Formulary.Proofs.Text.Hex
import Formulary.Proofs.Digest.Text
import Formulary.Proofs.Store.Folders
import Formulary.Proofs.Json.Lines
import Formulary.Proofs.Json.Records
import Formulary.Proofs.Wire.Messages
import Formulary.Proofs.Server.Lines
import Formulary.Proofs.Token.Places
import Formulary.Proofs.Registry.Identity
import Formulary.Proofs.Registry.Stages
import Formulary.Proofs.Client.Calls
import Formulary.Proofs.Text.Lines
import Formulary.Proofs.Client.Sessions
import Formulary.Proofs.Expr.Depth
import Formulary.Proofs.Registry.Trees
import Formulary.Proofs.Token.Layout
import Formulary.Proofs.Expr.Spots
import Formulary.Proofs.Wire.Transit
import Formulary.Proofs.Store.Awaiting
import Formulary.Proofs.Token.Parens
import Formulary.Proofs.Expr.Openings
import Formulary.Proofs.Expr.Refusals
import Formulary.Proofs.Expr.Limits
import Formulary.Proofs.Expr.Truncation
import Formulary.Proofs.Expr.Reports
import Formulary.Proofs.Json.Endings
import Formulary.Proofs.Entry.Damage
import Formulary.Proofs.Expr.Violations
import Formulary.Proofs.Registry.Reordering
import Formulary.Proofs.Disk.Appending
import Formulary.Proofs.Server.Additions
import Formulary.Proofs.Prompt.Records
import Formulary.Proofs.Prompt.Steps
import Formulary.Proofs.Prompt.Transcripts
import Formulary.Proofs.Digest.Reading
import Formulary.Proofs.Prompt.Operands
import Formulary.Proofs.Store.Attempts
import Formulary.Proofs.Token.Atoms
import Formulary.Proofs.Store.Range
import Formulary.Proofs.Token.Names
