import ManagementModel.Files.Path
import ManagementModel.Request

/-!
# ManagementModel — uploads

An upload goes to an endpoint of its own, with the operation as JSON beside the file. A file is
uploaded under the last name of its path; bytes of that name that are no text become replacement
characters.
-/

namespace ManagementModel

/-- A file to upload, and the name of the form field that carries it. -/
structure UploadFile where
  field : String
  name : String
  data : List UInt8
deriving DecidableEq, Repr

structure UploadRequest where
  url : String
  /-- The operation as JSON on one line. -/
  operation : String
  file : UploadFile
deriving DecidableEq, Repr

namespace UploadFile

/-- The name of a file whose path has none. -/
def namelessName : String := "upload"

/-- The file to upload, given what was read under its path. -/
def ofContent (field : String) (path : Files.Path)
    (content : Except Files.FileError (List UInt8)) : Except Files.FileError UploadFile := do
  return ⟨field, (path.fileName?.map Text.Utf8.decodeLossy).getD namelessName, ← content⟩

end UploadFile

/-- The upload of a file with an operation. -/
def Operation.uploadRequest (op : Operation) (endpoints : Endpoints) (file : UploadFile) :
    UploadRequest :=
  ⟨endpoints.uploads, op.node.compactJson, file⟩

end ManagementModel
