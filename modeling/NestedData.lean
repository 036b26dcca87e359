import NestedData.Session
import NestedData.Filter.Builder
import NestedData.Regex.Cache
import NestedData.Regex.Dialect
import NestedData.Proofs.Filter.Membership
import NestedData.Proofs.View.Removing
import NestedData.Proofs.Session.Configurations
import NestedData.Proofs.Session.Families
import NestedData.Proofs.Filter.Fields
import NestedData.Proofs.Filter.Completion
import NestedData.Proofs.Filter.Expanded
import NestedData.Proofs.Filter.Negation
import NestedData.Proofs.Filter.Placing
import NestedData.Proofs.Filter.Conjunction
import NestedData.Proofs.Text.Cutting
import NestedData.Proofs.Tree.Keys
import NestedData.Proofs.Tree.Normal
import NestedData.Proofs.Tree.Rebuilding
import NestedData.Proofs.Filter.Junctions
import NestedData.Proofs.Filter.Building
import NestedData.Proofs.Filter.FieldOperators
import NestedData.Proofs.Filter.Literals
import NestedData.Proofs.Tree.Structure
import NestedData.Proofs.Tree.Following
import NestedData.Proofs.Filter.Nesting
import NestedData.Proofs.Filter.Resolution
import NestedData.Proofs.Filter.Collections
import NestedData.Proofs.Path.Delimiters
import NestedData.Proofs.Path.Joining
import NestedData.Proofs.Session.Rendering
import NestedData.Proofs.Filter.Duality
import NestedData.Proofs.Filter.Recursion
import NestedData.Proofs.Projection.Absorption
import NestedData.Proofs.Projection.Missing
import NestedData.Proofs.Regex.Caching
import NestedData.Proofs.Filter.Equality
import NestedData.Proofs.Filter.Comparisons
import NestedData.Proofs.Session.Entries
import NestedData.Proofs.View.Commuting
import NestedData.Proofs.View.Errors
import NestedData.Proofs.Tree.Rendering
import NestedData.Proofs.Regex.Delimiting
import NestedData.Proofs.Path.Opening
