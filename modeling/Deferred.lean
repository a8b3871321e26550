import Deferred.Build
import Deferred.Item.Copy
import Deferred.Item.Field
import Deferred.Item.Serial
import Deferred.Main
import Deferred.Proofs.Occurrence
import Deferred.Proofs.Outcome
import Deferred.Proofs.Strictness
import Deferred.Proofs.Admission
import Deferred.Proofs.Binding
import Deferred.Proofs.Preparation
import Deferred.Proofs.Flavor
import Deferred.Proofs.Numbers
import Deferred.Proofs.Formation
import Deferred.Proofs.Operation
import Deferred.Proofs.Prototypes
import Deferred.Proofs.Preservation
import Deferred.Proofs.Progress
import Deferred.Proofs.Placement
import Deferred.Proofs.Findings
import Deferred.Proofs.History
import Deferred.Proofs.Commutation
import Deferred.Proofs.FloatingPoint
import Deferred.Proofs.DecimalRounding
import Deferred.Proofs.Likeness
import Deferred.Proofs.Equality
import Deferred.Proofs.Interchange
import Deferred.Proofs.Dependence
import Deferred.Proofs.Changes
import Deferred.Proofs.TypedBindings
import Deferred.Proofs.Nesting
import Deferred.Proofs.Refusal
import Deferred.Proofs.Integers
import Deferred.Proofs.Division
import Deferred.Proofs.Unambiguity
import Deferred.Proofs.Rebinding
import Deferred.Proofs.Demonstration
import Deferred.Proofs.Pointing
import Deferred.Proofs.Steps
import Deferred.Proofs.Rebuilding
import Deferred.Proofs.Reading
import Deferred.Proofs.Assignments
import Deferred.Proofs.Equivalence
import Deferred.Proofs.Ceiling
