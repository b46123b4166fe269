import Conformance.Settings.Toml
import Conformance.Matcher.Require
import Conformance.Inspect
import Conformance.Schema.Derived
import Conformance.Schema.Declarations
import Conformance.Proofs.Matcher.Paths
import Conformance.Proofs.Schema.Growth
import Conformance.Proofs.Schema.Typing
import Conformance.Proofs.Schema.Observation
import Conformance.Proofs.Schema.Guarding
import Conformance.Proofs.Schema.Reordering
import Conformance.Proofs.Value.Normalization
import Conformance.Proofs.Schema.Separation
import Conformance.Proofs.Schema.Simulation
import Conformance.Proofs.Value.Equality
import Conformance.Proofs.Schema.EqualValues
import Conformance.Proofs.Value.Portable
import Conformance.Proofs.Matcher.Decoding
import Conformance.Proofs.Binary64.SafeIntegers
import Conformance.Proofs.Matcher.IntegerDecoding
import Conformance.Proofs.ValueType.Equality
import Conformance.Proofs.ValueType.Structure
import Conformance.Proofs.ValueType.Unions
import Conformance.Proofs.Schema.NormalTypes
import Conformance.Proofs.Schema.Declarations
import Conformance.Proofs.Schema.ObjectTypes
import Conformance.Proofs.Schema.FixedLength
import Conformance.Proofs.Text.Quoting
import Conformance.Proofs.Text.Reading
import Conformance.Proofs.ValueType.Reading
import Conformance.Proofs.Matcher.Reports
import Conformance.Proofs.Matcher.Narrowing
import Conformance.Proofs.Text.Nesting
import Conformance.Proofs.Class
import Conformance.Proofs.HostObject
import Conformance.Proofs.ValueType.Nesting
