import Stringify.Host.Classify
import Stringify.Json.Reader
import Stringify.Main
import Stringify.Settings.Options
import Stringify.Source.Document
import Stringify.Stub.Module
import Stringify.Ty.Classify
import Stringify.Proofs.Host.Classify
import Stringify.Proofs.Stub.Draft
import Stringify.Proofs.Host.Offending
import Stringify.Proofs.Host.Listing
import Stringify.Proofs.Host.Questions
import Stringify.Proofs.Ty.Classify
import Stringify.Proofs.Ty.Compositional
import Stringify.Proofs.Settings.Widening
import Stringify.Proofs.Settings.Steps
import Stringify.Proofs.Stub.Declarations
import Stringify.Proofs.Stub.Inheritance
import Stringify.Proofs.Ty.Normal
import Stringify.Proofs.Ty.Literals
import Stringify.Proofs.Ty.Answers
import Stringify.Proofs.Ty.Outline
import Stringify.Proofs.Stub.Resolution
import Stringify.Proofs.Stub.Annotations
import Stringify.Proofs.Stub.Rearranged
import Stringify.Proofs.Stub.Values
import Stringify.Proofs.Stub.Spellings
import Stringify.Proofs.Stub.Interleaving
import Stringify.Proofs.CommandLine.Report
import Stringify.Proofs.Stub.RefusedLines
import Stringify.Proofs.Ty.Explanation
import Stringify.Proofs.Stub.ClassNames
import Stringify.Proofs.Stub.ClassScope
import Stringify.Proofs.Stub.CanonicalNames
import Stringify.Proofs.CommandLine.Options
import Stringify.Proofs.Merges
import Stringify.Proofs.Stub.Recursion
