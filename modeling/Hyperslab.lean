import Hyperslab.Dataset.Acceptance
import Hyperslab.Dataset.Listing
import Hyperslab.Dataset.Loading
import Hyperslab.Filter.Stream
import Hyperslab.Main
import Hyperslab.Request.Building
import Hyperslab.View.Basic
import Hyperslab.Proofs.Filter.Conjunction
import Hyperslab.Proofs.Filter.Consumption
import Hyperslab.Proofs.Filter.Deliveries
import Hyperslab.Proofs.Filter.Transparency
import Hyperslab.Proofs.Filter.Trichotomy
import Hyperslab.Proofs.Filter.WholeMatch
import Hyperslab.Proofs.Filter.Wording
import Hyperslab.Proofs.Request.Filters
import Hyperslab.Proofs.View.Closure
import Hyperslab.Proofs.View.Constraint
import Hyperslab.Proofs.View.Decoration
import Hyperslab.Proofs.View.Emptying
import Hyperslab.Proofs.View.Everything
import Hyperslab.Proofs.View.Hollow
import Hyperslab.Proofs.View.Resizing
import Hyperslab.Proofs.View.Fitting
import Hyperslab.Proofs.View.Reordering
import Hyperslab.Proofs.View.Coverage
import Hyperslab.Proofs.View.NormalForm
import Hyperslab.Proofs.Dataset.Address
import Hyperslab.Proofs.Dataset.Lookup
import Hyperslab.Proofs.Dataset.Faithful
import Hyperslab.Proofs.Dataset.GroupAttributes
import Hyperslab.Proofs.Dataset.Ownership
import Hyperslab.Proofs.Dataset.VariableOrder
import Hyperslab.Proofs.Request.Universal
import Hyperslab.Proofs.Slice.Covering
import Hyperslab.Proofs.Slice.Reading
import Hyperslab.Proofs.Dataset.Outline
