import CqlCompiler.Json.Reader
import CqlCompiler.Main
import CqlCompiler.Proofs.Grammar
import CqlCompiler.Proofs.Injection
import CqlCompiler.Proofs.Placeholders
import CqlCompiler.Proofs.Renaming
import CqlCompiler.Proofs.RoundTrip
import CqlCompiler.Proofs.Unambiguity
import CqlCompiler.Proofs.Rendering
import CqlCompiler.Proofs.Respelling
import CqlCompiler.Proofs.LetterCase
import CqlCompiler.Proofs.Failures
import CqlCompiler.Proofs.Invariants
import CqlCompiler.Proofs.Unterminated
import CqlCompiler.Proofs.Lines
import CqlCompiler.Proofs.Encoding
import CqlCompiler.Proofs.TableDefinitions
import CqlCompiler.Proofs.Blobs
import CqlCompiler.Proofs.ColumnNames
import CqlCompiler.Proofs.Completion
import CqlCompiler.Proofs.Places
import CqlCompiler.Proofs.Integers
import CqlCompiler.Proofs.WholeBytes
import CqlCompiler.Proofs.Unquoting
import CqlCompiler.Proofs.Sessions
import CqlCompiler.Proofs.Progress.Parser
