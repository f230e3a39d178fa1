import RoleGate.Gate.Session
import RoleGate.Site.Server
import RoleGate.Proofs.Parsing.Grammar
import RoleGate.Proofs.Parsing.Atoms
import RoleGate.Proofs.Parsing.Unambiguity
import RoleGate.Proofs.Parsing.Exactness
import RoleGate.Proofs.Lexing.Spelling
import RoleGate.Proofs.Lexing.Scanning
import RoleGate.Proofs.Lexing.Tokenizing
import RoleGate.Proofs.Parsing.Stuck
import RoleGate.Proofs.Parsing.CorrectPrefix
import RoleGate.Proofs.Parsing.Levels
import RoleGate.Proofs.Parsing.Locality
import RoleGate.Proofs.Printing.Printer
import RoleGate.Proofs.Printing.RoundTrip
import RoleGate.Proofs.Parsing.Height
import RoleGate.Proofs.Evaluation.Equivalence
import RoleGate.Proofs.Parsing.Composition
import RoleGate.Proofs.Cache.Contents
import RoleGate.Proofs.Cache.Sharing
import RoleGate.Proofs.Gate.Decision
import RoleGate.Proofs.Gate.Permission
import RoleGate.Proofs.Gate.Memory
import RoleGate.Proofs.Gate.Entries
import RoleGate.Proofs.Role.Coverage
import RoleGate.Proofs.Role.Contents
import RoleGate.Proofs.Role.History
import RoleGate.Proofs.Text.Sorting
import RoleGate.Proofs.Role.Questions
import RoleGate.Proofs.Evaluation.Queries
import RoleGate.Proofs.Gate.Admission
import RoleGate.Proofs.Gate.GlobalRoles
import RoleGate.Proofs.Gate.Guests
import RoleGate.Proofs.Evaluation.Leaves
import RoleGate.Proofs.Evaluation.Resolution
import RoleGate.Proofs.Evaluation.Names
import RoleGate.Proofs.Evaluation.Rewriting
import RoleGate.Proofs.Evaluation.Polarity
import RoleGate.Proofs.Text.Utf8
import RoleGate.Proofs.Text.Percent
import RoleGate.Proofs.Web.Layer
import RoleGate.Proofs.Site.Routing
import RoleGate.Proofs.Site.Serving
import RoleGate.Proofs.Site.Standing
import RoleGate.Proofs.Site.Documents
