/-!
# Errors of requests

`RequestError` says why a request or a stage of a pass failed; `RequestError.message` is its text.
-/

namespace AnnotationBridge.Lsp

/-- Why a request or a stage of a pass failed. -/
inductive RequestError where
  | requestFailed (reason : String)
  | serverError (code : Int32) (reason : String)
  | serverExited
  | timeout
  | joinOnUiThread
  | notOnUiThread
  deriving DecidableEq, Repr

/-- The text of the error. -/
def RequestError.message : RequestError → String
  | .requestFailed reason => "Request failed: " ++ reason
  | .serverError code reason => "Server error " ++ toString code.toInt ++ ": " ++ reason
  | .serverExited => "Server exited"
  | .timeout => "Timeout waiting for response"
  | .joinOnUiThread => "Refusing to wait for requests on the UI thread"
  | .notOnUiThread => "Annotations can only be applied on the UI thread"

end AnnotationBridge.Lsp
