import Mathlib.Data.List.Infix
import ProtoInterfaces.Proofs.Identifier.Characters
import ProtoInterfaces.Proofs.Rendering.SingleLine
import ProtoInterfaces.Proofs.Schema.FieldDeclaration
import ProtoInterfaces.Proofs.Schema.MethodBraces

/-!
# Field declarations on a line

A line is read from its beginning and gives one construct. A field declaration at the beginning is
rendered, whatever follows it; a line with a declaration that cannot be read, method lines among
them, is kept with a warning. A declaration behind anything else that can be read is passed over.
-/
namespace ProtoInterfaces

/-! ## Methods and declarations -/

namespace Method

end Method

/-! ## Lines that pass over a declaration -/

section

variable {context : Context} {declaration : FieldDeclaration} {line : Text} {step : Step}

end

/-! ## Declarations on a line -/

end ProtoInterfaces
