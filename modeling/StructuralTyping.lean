import StructuralTyping.Number.Layout
import StructuralTyping.Number.Reading
import StructuralTyping.Text.Quoted
import StructuralTyping.Json.Decode
import StructuralTyping.Json.Number
import StructuralTyping.Json.Printer
import StructuralTyping.Json.Reader
import StructuralTyping.Ty.Combine
import StructuralTyping.Ty.Encode
import StructuralTyping.Ty.Show
import StructuralTyping.Syntax.Show
import StructuralTyping.Syntax.Decode
import StructuralTyping.Syntax.Encode
import StructuralTyping.Resolution
import StructuralTyping.TypeTable
import StructuralTyping.Syntax.Inspection
import StructuralTyping.Syntax.SelfReference
import StructuralTyping.Checker.Call
import StructuralTyping.Checker.Returns
import StructuralTyping.Checker.Rules
import StructuralTyping.Checker.State
import StructuralTyping.Checker.Check
import StructuralTyping.Log
import StructuralTyping.Main
import StructuralTyping.Proofs.AssignabilityRules
import StructuralTyping.Proofs.AssignabilityTransitivity
import StructuralTyping.Proofs.CertifiedChecks
import StructuralTyping.Proofs.TableNumbering
import StructuralTyping.Proofs.ScopeDiscipline
import StructuralTyping.Proofs.Noninterference
import StructuralTyping.Proofs.Rechecking
import StructuralTyping.Proofs.FieldAgreement
import StructuralTyping.Proofs.SurveySilence
import StructuralTyping.Proofs.EventTrace
import StructuralTyping.Proofs.DiagnosticPlaces
import StructuralTyping.Proofs.SafeSessions
import StructuralTyping.Proofs.AssignabilitySoundness
import StructuralTyping.Proofs.DiscoveredFields
import StructuralTyping.Proofs.SurveyFaults
import StructuralTyping.Proofs.ProgramText
import StructuralTyping.Proofs.CombinedTypes
import StructuralTyping.Proofs.DeclaredTypes
import StructuralTyping.Proofs.AssignabilitySimulation
import StructuralTyping.Proofs.ReorderedTypes
import StructuralTyping.Proofs.ForgottenTypes
import StructuralTyping.Proofs.ReturnRule
import StructuralTyping.Proofs.Itineraries
import StructuralTyping.Proofs.TouredTrees
import StructuralTyping.Proofs.AnnotationMeaning
import StructuralTyping.Proofs.ShortestDecimals
import StructuralTyping.Proofs.TypeText
import StructuralTyping.Proofs.NameFlow
import StructuralTyping.Proofs.Concordance
import StructuralTyping.Proofs.ConcurringChecks
import StructuralTyping.Proofs.ConcurringParts
import StructuralTyping.Proofs.IndependentBranches
import StructuralTyping.Proofs.SourceOrder
import StructuralTyping.Proofs.RepeatedNames
import StructuralTyping.Proofs.ScopeHistories
