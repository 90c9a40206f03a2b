import FormRules.Main
import FormRules.Proofs.CommandLine.Validated
import FormRules.Proofs.Definition.Examining
import FormRules.Proofs.Definition.Resolving
import FormRules.Proofs.Form.Subscriptions
import FormRules.Proofs.Form.Tiers
import FormRules.Proofs.Form.Validity
import FormRules.Proofs.Predicate.Address
import FormRules.Proofs.Predicate.Dates
import FormRules.Proofs.Predicate.Extensions
import FormRules.Proofs.Predicate.Numbers
import FormRules.Proofs.Predicate.Sizes
import FormRules.Proofs.Predicate.Stock
import FormRules.Proofs.Predicate.WebAddress
import FormRules.Proofs.Rule.Inversion
import FormRules.Proofs.Session.Collisions
import FormRules.Proofs.Session.Mounting
import FormRules.Proofs.Session.Sources
