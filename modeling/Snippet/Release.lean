/-!
The version of the library, and the names that it offers to hosts.
-/

namespace Snippet

def version : String := "0.1.0"

/-- The names offered to hosts, in ascending order. -/
def offeredNames : List String := [
  "CompilerConfig", "ConversionContext", "Environment", "RenderScope", "__version__",
  "compile_snippet", "render_text", "to_node"]

end Snippet
