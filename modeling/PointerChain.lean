import PointerChain.Decimal.Shortest
import PointerChain.Json.Inspect
import PointerChain.Json.Reader
import PointerChain.Json.Schema
import PointerChain.Json.Writer
import PointerChain.Text.Encoding
import PointerChain.Text.LetterCase
import PointerChain.Text.Lines
import PointerChain.Text.Numeral
import PointerChain.Text.Quoted
import PointerChain.Text.Utf8
import PointerChain.Text.WordChar
import PointerChain.Module.Document
import PointerChain.Module.Slice
import PointerChain.Expression.Bracket
import PointerChain.Expression.Value
import PointerChain.Memory.Buffer
import PointerChain.Memory.ProcessFile
import PointerChain.Memory.Transfer
import PointerChain.Resolution.Resolve
import PointerChain.Disassembly
import PointerChain.Failure
import PointerChain.Listing.Forest
import PointerChain.Release
import PointerChain.CommandLine.Run
import PointerChain.Main
import PointerChain.Proofs.Expression.Forest
import PointerChain.Proofs.Expression.Operand
import PointerChain.Proofs.Resolution.Substitution
import PointerChain.Proofs.Resolution.ReadOrder
import PointerChain.Proofs.Resolution.Strict
import PointerChain.Proofs.Expression.TokenSum
import PointerChain.Proofs.Resolution.Repair
import PointerChain.Proofs.Expression.Number
import PointerChain.Proofs.Expression.Atom
import PointerChain.Proofs.Expression.Tree
import PointerChain.Proofs.Resolution.Denotation
import PointerChain.Proofs.Listing.Outline
import PointerChain.Proofs.Listing.Reading
import PointerChain.Proofs.Listing.Holder
import PointerChain.Proofs.Resolution.Dereference
import PointerChain.Proofs.Expression.Integer
import PointerChain.Proofs.Module.Base
import PointerChain.Proofs.Resolution.Range
import PointerChain.Proofs.Listing.Printing
import PointerChain.Proofs.Expression.Shape
import PointerChain.Proofs.Expression.Hyphen
import PointerChain.Proofs.Memory.Delivery
import PointerChain.Proofs.Memory.Image
import PointerChain.Proofs.Module.Naming
import PointerChain.Proofs.Resolution.Readers
import PointerChain.Proofs.Text.Literal
import PointerChain.Proofs.Module.Document
import PointerChain.Proofs.CommandLine.Precedence
import PointerChain.Proofs.CommandLine.Quiet
import PointerChain.Proofs.CommandLine.Disassembling
import PointerChain.Proofs.Expression.Coverage
import PointerChain.Proofs.CommandLine.Loading
import PointerChain.Proofs.CommandLine.Configured
import PointerChain.Proofs.Expression.ExactSum
import PointerChain.Proofs.Expression.Concatenation
import PointerChain.Proofs.Module.Slice
import PointerChain.Proofs.Memory.Placement
import PointerChain.Proofs.Memory.Pointers
import PointerChain.Proofs.Memory.Disjoint
import PointerChain.Proofs.Json.Limits
import PointerChain.Proofs.Module.File
import PointerChain.Proofs.CommandLine.ModuleFile
import PointerChain.Proofs.Expression.Partner
import PointerChain.Proofs.Resolution.Parking
import PointerChain.Proofs.Text.Spelling
import PointerChain.Proofs.Expression.Numeral
import PointerChain.Proofs.Listing.Field
import PointerChain.Proofs.Listing.Description
