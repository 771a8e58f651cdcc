import AccessRules.Expr.Display
import AccessRules.Gatekeeper.Basic
import AccessRules.Value.Comparison
import AccessRules.Text.Age
import AccessRules.Text.Break
import AccessRules.Proofs.Gatekeeper.History
import AccessRules.Proofs.Gatekeeper.PatchAsUpdate
import AccessRules.Proofs.Gatekeeper.RootEntry
import AccessRules.Proofs.Gatekeeper.SingleRun
import AccessRules.Proofs.Gatekeeper.LoadedConfig
import AccessRules.Proofs.Gatekeeper.UnreadData
import AccessRules.Proofs.Code.ByName
import AccessRules.Proofs.Expr.Acceptance
import AccessRules.Proofs.Cache.SecondChance
import AccessRules.Proofs.Traversal
import AccessRules.Proofs.Config.Declarations
import AccessRules.Proofs.Code.Rounds
import AccessRules.Proofs.Gatekeeper.Rounds
import AccessRules.Proofs.Path.Meaning
import AccessRules.Proofs.Path.Filling
import AccessRules.Proofs.Code.Scoping
import AccessRules.Proofs.Expr.Limits
import AccessRules.Proofs.Code.Requests
import AccessRules.Proofs.Gatekeeper.LookedUpOnce
import AccessRules.Proofs.Patch.Effect
import AccessRules.Proofs.Patch.Spelling
import AccessRules.Proofs.Patch.Range
import AccessRules.Proofs.Decimal.Unsigned
import AccessRules.Proofs.Decimal.NumberText
import AccessRules.Proofs.Expr.SideBySide
import AccessRules.Proofs.Expr.Display
import AccessRules.Proofs.Path.Variables
import AccessRules.Proofs.Decimal.Order
import AccessRules.Proofs.Value.Number
import AccessRules.Proofs.Value.Comparison
import AccessRules.Proofs.Gatekeeper.AlikeStores
import AccessRules.Proofs.Gatekeeper.Timeout
import AccessRules.Proofs.Cache.Sweeping
import AccessRules.Proofs.Cache.Tasks
import AccessRules.Proofs.Gatekeeper.Sweeping
import AccessRules.Proofs.Decimal.Whole
import AccessRules.Proofs.Decimal.WholeText
import AccessRules.Proofs.Text.Search
import AccessRules.Proofs.Value.Searching
import AccessRules.Proofs.Expr.Neighbours
import AccessRules.Proofs.Expr.Unquoted
import AccessRules.Proofs.Rule.Check
import AccessRules.Proofs.Patch.Writing
