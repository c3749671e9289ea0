import AutomatonKit.Main
import AutomatonKit.Blueprint
import AutomatonKit.Run.Json
import AutomatonKit.Proofs.Buildable
import AutomatonKit.Proofs.Description.Meaning
import AutomatonKit.Proofs.Description.RoundTrip
import AutomatonKit.Proofs.Snapshot
import AutomatonKit.Proofs.Run.Stepping
import AutomatonKit.Proofs.Run.Walk
import AutomatonKit.Proofs.Automaton.Outline
import AutomatonKit.Proofs.Blueprint.Outcome
import AutomatonKit.Proofs.Description.OfBlueprint
import AutomatonKit.Proofs.Automaton.Equality
import AutomatonKit.Proofs.Description.Exceptions
import AutomatonKit.Proofs.Bounds
import AutomatonKit.Proofs.Description.Mending
import AutomatonKit.Proofs.Description.Appending
import AutomatonKit.Proofs.Run.Json
import AutomatonKit.Proofs.Run.Language
import AutomatonKit.Proofs.Run.Reach
import AutomatonKit.Proofs.Lint.Verdicts
import AutomatonKit.Proofs.Snapshot.Truncation
import AutomatonKit.Proofs.Automaton.Writing
import AutomatonKit.Proofs.Blueprint.Reordering
import AutomatonKit.Proofs.Description.Canonical
import AutomatonKit.Proofs.Description.TextLayout
import AutomatonKit.Proofs.Automaton.Enumeration
import AutomatonKit.Proofs.Description.Registry
import AutomatonKit.Proofs.Description.References
import AutomatonKit.Proofs.Lint.Accumulation
import AutomatonKit.Proofs.Lint.Duplicates
import AutomatonKit.Proofs.Alphabet.SymbolTable
