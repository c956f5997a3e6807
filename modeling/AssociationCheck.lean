/-
Association types against declared property types: the root of the library.
-/

import AssociationCheck.Command.Logging
import AssociationCheck.Main
import AssociationCheck.Proofs.Analysis.Advice
import AssociationCheck.Proofs.Analysis.Forgiving
import AssociationCheck.Proofs.Analysis.Learning
import AssociationCheck.Proofs.Analysis.Modes
import AssociationCheck.Proofs.Analysis.Order
import AssociationCheck.Proofs.Mapping.Associations
import AssociationCheck.Proofs.Rule.ForgettingKeys
import AssociationCheck.Proofs.Rule.Messages
import AssociationCheck.Proofs.Rule.Silence
import AssociationCheck.Proofs.Rule.ToMany
import AssociationCheck.Proofs.Rule.ToOne
import AssociationCheck.Proofs.Rule.WithNull
import AssociationCheck.Proofs.Subtype.Bounds
import AssociationCheck.Proofs.Subtype.CheckerCalls
import AssociationCheck.Proofs.Subtype.Iteration
import AssociationCheck.Proofs.Subtype.Precision
import AssociationCheck.Proofs.Subtype.Variants
import AssociationCheck.Proofs.TypeExpr.Refusals
import AssociationCheck.Proofs.TypeExpr.RoundTrip
import AssociationCheck.Text.AtomTable
