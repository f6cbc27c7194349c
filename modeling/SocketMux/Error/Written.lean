import SocketMux.Error
import SocketMux.Text.Json

/-!
# Written errors

An error is written as one line of JSON without blanks, its fields in the order of
their names. The errors of a close that failed in several parts arise in no particular
order, so they are listed in the order of their written forms.
-/

namespace SocketMux.MuxError

/-- The wording of a malformed configuration without where and why it is malformed. -/
def malformedConfig : String := (invalidConfig .malformedText).message

/-- The wording of an error, cut short for a malformed configuration. -/
def shortMessage (err : MuxError) : String :=
  if malformedConfig.toList.isPrefixOf err.message.toList then malformedConfig else err.message

/-- The fields of an error that stands for itself. -/
def fieldsWritten (err : MuxError) : List String :=
  let kind := match err.faultKind? with
    | some kind => ["\"io_kind\":" ++ Text.Json.quote kind.name]
    | none => []
  ["\"error\":" ++ Text.Json.quote err.code] ++ kind ++
    ["\"message\":" ++ Text.Json.quote err.shortMessage,
      "\"retryable\":" ++ toString err.isRetryable]

/-- Texts in ascending order. -/
def inOrder (texts : List String) : List String :=
  texts.mergeSort fun left right => decide (left ≤ right)

/-- The object of fields that are written already. -/
def objectOf (fields : List String) : String := "\x7b" ++ ",".intercalate fields ++ "\x7d"

mutual

/-- The written form of an error. -/
def written : MuxError → String
  | .closeFailed first suppressed =>
    let errors := inOrder (written first :: allWritten suppressed)
    objectOf ["\"error\":" ++ Text.Json.quote (closeFailed first suppressed).code,
      "\"errors\":[" ++ ",".intercalate errors ++ "]"]
  | err => objectOf err.fieldsWritten

/-- The written forms of errors in turn. -/
def allWritten : List MuxError → List String
  | [] => []
  | err :: others => written err :: allWritten others

end

/-- Errors in the order of their written forms. -/
def listed (errors : List MuxError) : List MuxError :=
  errors.mergeSort fun left right => decide (left.written ≤ right.written)

end SocketMux.MuxError
