import ScriptLint.CommandLine
import ScriptLint.Main
import ScriptLint.Server.Session
import ScriptLint.Proofs.Analysis.Isolation
import ScriptLint.Proofs.Analysis.Merge
import ScriptLint.Proofs.Analysis.Reading
import ScriptLint.Proofs.Check.Collection
import ScriptLint.Proofs.Check.LineLength
import ScriptLint.Proofs.Check.Reports
import ScriptLint.Proofs.Check.Unparsed
import ScriptLint.Proofs.Check.Unreadable
import ScriptLint.Proofs.Config.LastWords
import ScriptLint.Proofs.Config.Nearest
import ScriptLint.Proofs.Config.Relative
import ScriptLint.Proofs.Config.RoundTrip
import ScriptLint.Proofs.Config.Shape
import ScriptLint.Proofs.Config.Spelling
import ScriptLint.Proofs.Config.Stability
import ScriptLint.Proofs.LongLines.Boundary
import ScriptLint.Proofs.Server.Agreement
import ScriptLint.Proofs.Server.Layout
import ScriptLint.Proofs.Server.Ranges
import ScriptLint.Proofs.Server.Session
import ScriptLint.Proofs.Settings.Chain
import ScriptLint.Proofs.Strings.Fallback
import ScriptLint.Proofs.Strings.Filling
