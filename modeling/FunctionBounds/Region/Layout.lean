import FunctionBounds.Region.Sections
import FunctionBounds.Region.Segments

/-!
# The layout of a file

* `Layout.extract`: the regions of a file, from its sections or else from its segments.
-/

namespace FunctionBounds

/-- The regions of a file, and whether they had to be taken from its segments. -/
structure Layout where
  regions : List Region
  stripped : Bool
  deriving DecidableEq, Repr

/-- The regions of a file, from its sections or else from its segments. -/
def Layout.extract (h : Elf.Header) (d : Bytes) : Noted ContainerError Layout :=
  if h.hasSections then do
    .note (.info "Has section headers (not stripped)")
    return ⟨← Region.ofSections h d, false⟩
  else if h.hasSegments then do
    .note (.warning ("No section headers, stripped binary. " ++
      "Falling back to program headers (segments)."))
    return ⟨← Region.ofSegments h d, true⟩
  else .of (.error (.malformed .noTables))

end FunctionBounds
