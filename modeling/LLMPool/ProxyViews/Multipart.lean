import LLMPool.ProxyViews.Helpers

/-! The multipart bodies of file uploads: the fields as they are read one by one, and the
form that is left when they have all been read. -/
namespace LLMPool.ProxyViews
open Transactions

structure ContentType where
  text : String
  parses : Bool
  deriving DecidableEq

/-- What reading the next field yields: `malformed` ends the body. -/
inductive MultipartField where
  | file (filename : Option String) (contentType : Option ContentType) (bytes : List UInt8)
  | unreadableFile (message : String)
  | purpose (text : String)
  | unreadablePurpose (message : String)
  | other
  | malformed (message : String)
  deriving DecidableEq

structure UploadedForm where
  filename : Option String
  contentType : Option ContentType
  bytes : Option (List UInt8)
  purpose : Option String

/-- The last field of each name counts. -/
def readForm : List MultipartField → UploadedForm → Except (List Value) UploadedForm
  | [], form => .ok form
  | .file filename contentType bytes :: rest, form =>
      readForm rest { form with
        filename := some (filename.getD "upload.bin")
        contentType := contentType
        bytes := some bytes }
  | .unreadableFile message :: _, _ =>
      .error [.string "Failed to read file bytes: ", .string message]
  | .purpose text :: rest, form => readForm rest { form with purpose := some text }
  | .unreadablePurpose message :: _, _ =>
      .error [.string "Failed to read purpose field: ", .string message]
  | .other :: rest, form => readForm rest form
  | .malformed message :: _, _ => .error [.string "Multipart parsing error: ", .string message]

def withForm (code : Option String) (body : List MultipartField)
    (next : UploadedForm → List UInt8 → Action (Reply α)) : Action (Reply α) :=
  match readForm body ⟨none, none, none, none⟩ with
  | .error message => return .error .badRequest message "invalid_request_error" code
  | .ok form =>
      match form.bytes with
      | none =>
          return .error .badRequest [.string "Missing required field: file"]
            "invalid_request_error" code
      | some bytes => next form bytes

end LLMPool.ProxyViews
