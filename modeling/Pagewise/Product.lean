/-!
The name and the version under which the program shows itself.
-/
namespace Pagewise.Product

def name : String := "smithy-paginator"

def version : String := "0.1.0"

def agent : String := name ++ "/" ++ version

end Pagewise.Product
