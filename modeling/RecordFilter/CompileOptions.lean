import RecordFilter.Registry

/-!
# Compile options

Null-safe chains make every path step null-safe. Strict compilation reports the
first node that cannot be compiled; lenient compilation lets such a node never
match. Custom operators take precedence over the built-in ones.
-/

namespace RecordFilter

structure CompileOptions where
  chain : Bool
  strict : Bool
  registry : Registry

namespace CompileOptions

/-- Lenient, without null-safe chains and custom operators. -/
def default : CompileOptions := ⟨false, false, []⟩

end CompileOptions

end RecordFilter
