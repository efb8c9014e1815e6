import LLMPool.ProxyViews.Multipart
import LLMPool.ProxyViews.OpenAI

/-! The handlers of the OpenAI API on files: an upload goes to the first upstream, and a
request on a stored file to the upstream that its row names. -/
namespace LLMPool.ProxyViews
open Transactions

def getFileMetaByFileId (fileId : String) : Query (Option FileMeta) :=
  Query.auto (.getFileMetaByFileId fileId)

/-- What the handlers on one file share: its row, its upstream and a client of that. -/
def withFile (context : RequestContext) (fileId : String)
    (next : FileMeta → LLMUpstream → Action (Reply α)) : Action (Reply α) :=
  withWalletBalance context (do
    match ← (getFileMetaByFileId fileId).run with
    | .ok none =>
        return .error .notFound [.string "File '", .string fileId, .string "' not found."]
          "invalid_request_error" (some "file_not_found")
    | .error _ => return .status .internalServerError
    | .ok (some fileMeta) => withUpstream fileMeta.upstreamId (fun upstream =>
        withClient context upstream (next fileMeta upstream)))

def retrieveFileHandler (context : RequestContext) (fileId : String) : Action (Reply OpenAIFile) :=
  withFile context fileId (fun fileMeta upstream => do
    match ← callUpstream upstream (.retrieveFile fileMeta.originalFileId) with
    | .error _ => return .status .internalServerError
    | .ok _ => return .json ⟨fileId⟩)

/-- A failure is only logged. -/
def markFileMetaDeleted (fileId : String) : Action Unit := do
  let _ ← (Query.auto (.markFileMetaDeleted fileId)).run

def deleteFileHandler (context : RequestContext) (fileId : String) : Action (Reply OpenAIFile) :=
  withFile context fileId (fun fileMeta upstream => do
    match ← callUpstream upstream (.deleteFile fileMeta.originalFileId) with
    | .error _ => return .status .internalServerError
    | .ok _ =>
        markFileMetaDeleted fileId
        return .json ⟨fileId⟩)

def fileContentHandler (context : RequestContext) (fileId : String) :
    Action (Reply (List UInt8)) :=
  withFile context fileId (fun fileMeta upstream => do
    match ← callUpstream upstream (.fileContent fileMeta.originalFileId) with
    | .error _ => return .status .internalServerError
    | .ok bytes => return .streamed bytes)

/-- The first upstream of the table, whichever it is. -/
def selectFirstUpstream (next : LLMUpstream → Action (Reply α)) : Action (Reply α) := do
  match ← (Query.auto .listUpstreams).run with
  | .ok (first :: _) => next first
  | .ok [] =>
      return .error .serviceUnavailable [.string "No upstream upstreams configured."] "server_error"
        (some "no_upstream")
  | .error _ =>
      return .error .internalServerError
        [.string "Internal server error while selecting upstream."] "server_error"
        (some "internal_error")

def parsePurpose : String → FilePurpose
  | "assistants" => .assistants
  | "batch" => .batch
  | "vision" => .vision
  | "user_data" => .userData
  | "evals" => .evals
  | _ => .fineTune

def createFileMeta (fileId originalFileId purpose : String) (upstreamId : Int) : Query FileMeta :=
  Query.auto (.insertFileMeta fileId originalFileId purpose upstreamId)

/-- The upstream is chosen before the form is read. -/
def createFileHandler (context : RequestContext) (body : List MultipartField) :
    Action (Reply OpenAIFile) :=
  withWalletBalance context (selectFirstUpstream (fun upstream =>
    withForm (some "bad_request") body (fun form bytes =>
      let purposeRaw := form.purpose.getD "fine-tune"
      let request : CreateFileRequest :=
        ⟨form.filename.getD "upload.bin", bytes, parsePurpose purposeRaw⟩
      withClient context upstream (do
        match ← callUpstream upstream (.createFile request) with
        | .error _ => return .status .internalServerError
        | .ok file =>
            let ourFileId := mintedId "file-" (context.minted 0)
            match ← (createFileMeta ourFileId file.id purposeRaw upstream.id).run with
            | .error _ => return .status .internalServerError
            | .ok _ => return .json ⟨ourFileId⟩))))

/-- No route leads to the two listings of the OpenAI API. -/
def listFilesHandler (context : RequestContext) : Action (Reply (List OpenAIFile)) :=
  withWalletBalance context (selectFirstUpstream (fun upstream =>
    withClient context upstream (do
      match ← callUpstream upstream .listFiles with
      | .error _ => return .status .internalServerError
      | .ok files => return .json files)))

def listBatchesHandler (context : RequestContext) : Action (Reply (List Batch)) :=
  withWalletBalance context (do
    match ← (Query.auto .listUpstreams).run with
    | .ok (upstream :: _) => withClient context upstream (do
        match ← callUpstream upstream .listBatches with
        | .error _ => return .status .internalServerError
        | .ok batches => return .json batches)
    | .ok [] =>
        return .error .serviceUnavailable [.string "No upstream upstreams configured."] "server_error"
          (some "no_upstream")
    | .error _ => return .status .internalServerError)

end LLMPool.ProxyViews
