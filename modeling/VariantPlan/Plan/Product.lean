/-!
# The product

The names that belong to the package itself, whatever the variant: what it is called, what its
library links as, and where its files are installed.
-/

namespace VariantPlan.Product

def name : String := "libnest2d"

def version : String := "4.10.0"

/-- The name under which the library links. -/
def libraryName : String := "nest2d"

/-- The directory of the headers. -/
def includeDir : String := "include"

/-- The directory of the libraries in an installed package. -/
def libraryDir : String := "lib"

/-- The directory of the programs. -/
def binaryDir : String := "bin"

/-- The directory of the headers of a geometry backend. -/
def geometryDir (backend : String) : String := "include/libnest2d/backends/" ++ backend

/-- The directory of the headers of an optimizer backend. -/
def optimizerDir (backend : String) : String := "include/libnest2d/optimizers/" ++ backend

/-- The directory of the generated bindings. -/
def assetDir : String := "libnest2d_js"

/-- The path of a generated file of the bindings, by its extension. -/
def assetFile (extension : String) : String := assetDir ++ "/libnest2d_js." ++ extension

/-- The name under which the bindings are published. -/
def bindingsName : String := "libnest2d-js"

/-- The key under which the published bindings name their directory. -/
def bindingsDirKey : String := "libnest2d_js_dir"

end VariantPlan.Product
