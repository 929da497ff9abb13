import Adjudication.Main
import Adjudication.Proofs.Evaluation.Ceiling
import Adjudication.Proofs.Evaluation.Fallback
import Adjudication.Proofs.Evaluation.Registration
import Adjudication.Script.Session
import Adjudication.Proofs.Evaluation.Staging
import Adjudication.Proofs.Evaluation.DefaultVerdict
import Adjudication.Proofs.Evaluation.Attempts
import Adjudication.Proofs.Evaluation.Filter
import Adjudication.Proofs.Script.Conclusion
import Adjudication.Proofs.Script.Depth
import Adjudication.Proofs.Script.Isolation
import Adjudication.Proofs.Script.Kinds
import Adjudication.Proofs.Script.Renaming
import Adjudication.Proofs.Declaration.Selection
import Adjudication.Proofs.Evaluation.Rearrangement
import Adjudication.Proofs.Declaration.RoundTrip
import Adjudication.Proofs.CommandLine.Outcome
import Adjudication.Proofs.CommandLine.FixedPoint
import Adjudication.Proofs.Evaluation.Exhaustion
import Adjudication.Proofs.Evaluation.Log
import Adjudication.Proofs.Json.Extension
import Adjudication.Proofs.Declaration.Elementwise
import Adjudication.Proofs.Evaluation.Expansion
import Adjudication.Proofs.HandlerTable.FiniteMap
import Adjudication.Proofs.Evaluation.EntryPoints
import Adjudication.Proofs.Configuration.Stored
import Adjudication.Proofs.Configuration.Resolution
