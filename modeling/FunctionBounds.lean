import FunctionBounds.Main
import FunctionBounds.Proofs.Analysis.Accounts
import FunctionBounds.Proofs.Analysis.Order
import FunctionBounds.Proofs.Analysis.Stripped
import FunctionBounds.Proofs.Analysis.Survey
import FunctionBounds.Proofs.Cfi.Completeness
import FunctionBounds.Proofs.Cfi.Conventions
import FunctionBounds.Proofs.Cfi.Locality
import FunctionBounds.Proofs.Cfi.Passes
import FunctionBounds.Proofs.Cfi.Personality
import FunctionBounds.Proofs.Cfi.Relocation
import FunctionBounds.Proofs.Cfi.SearchTable
import FunctionBounds.Proofs.Cfi.Selectors
import FunctionBounds.Proofs.Cfi.Walk
import FunctionBounds.Proofs.Checked.Analysis
import FunctionBounds.Proofs.Checked.Opening
import FunctionBounds.Proofs.Checked.Readers
import FunctionBounds.Proofs.Field.Addresses
import FunctionBounds.Proofs.Field.Leb128
import FunctionBounds.Proofs.Region.Sections
import FunctionBounds.Proofs.Region.Segments
import FunctionBounds.Proofs.Registry.Agreement
import FunctionBounds.Proofs.Registry.History
import FunctionBounds.Proofs.Registry.Identification
import FunctionBounds.Proofs.Registry.Naming
import FunctionBounds.Proofs.Registry.Requests
import FunctionBounds.Proofs.Session.Classification
import FunctionBounds.Proofs.Session.Belonging
import FunctionBounds.Proofs.Session.Listing
import FunctionBounds.Proofs.Session.Refusals
import FunctionBounds.Proofs.Session.Runs
import FunctionBounds.Proofs.SymbolTable
import FunctionBounds.Proofs.Command.Calls
import FunctionBounds.Proofs.Text.Utf8
import FunctionBounds.Proofs.Container.Packed
import FunctionBounds.Proofs.StringTable.Listing
import FunctionBounds.Proofs.Display.Headers
import FunctionBounds.Proofs.Display.Hexdump
import FunctionBounds.Proofs.Command.Dump
import FunctionBounds.Proofs.Display.Views
import FunctionBounds.Proofs.Command.Outcomes
