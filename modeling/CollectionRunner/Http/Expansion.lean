import CollectionRunner.Env.Placeholder
import CollectionRunner.Http.Model

/-!
# Placeholders in requests
-/

namespace CollectionRunner.Request

/-- The request with the values of variables in its address and its headers. -/
def expandHead (vars : Variables) (r : Request) : Request :=
  { r with
    url := vars.expand r.url
    headers := r.headers.map fun h => { h with value := vars.expand h.value } }

/-- The request with the values of variables in its address, its headers and its body. -/
def expand (vars : Variables) (r : Request) : Request :=
  { r.expandHead vars with body := r.body.map vars.expand }

end CollectionRunner.Request
