import ManagementModel.ProcessState
import ManagementModel.Reply
import ManagementModel.Upload

/-!
# ManagementModel — what a dispatch ends with

Every dispatch ends in one of three ways: with the result of a successful reply, with what a failed
reply says, or with an error because there is no usable reply. A reply that succeeds may also report
states of servers.
-/

namespace ManagementModel

/-- Why there is no usable reply. Each error carries the text that is shown for its cause. -/
inductive DispatchError where
  /-- The reply has a status other than 200. -/
  | status (message : String) (status : Nat)
  /-- No reply was received. -/
  | transport (message : String)
  /-- The operation has no transport form. -/
  | unencodable (cause : String)
deriving DecidableEq, Repr

namespace DispatchError

def message : DispatchError → String
  | status message _ => message
  | transport message => message
  | unencodable cause => "Failed to encode operation: " ++ cause

def status? : DispatchError → Option Nat
  | status _ code => some code
  | _ => none

/-- What is shown for a status that is none of success, in reply to a request for `url`. -/
def statusMessage (code : Nat) (url : String) : String :=
  if code = 0 || code = 401 || code = 403 then "Authentication required."
  else if code = 404 then "Management interface at '" ++ url ++ "' not found."
  else if code = 503 then "Service temporarily unavailable. Is the server still booting?"
  else s!"Unexpected status code {code}"

/-- The error of a status, if it is one. -/
def ofStatus? (code : Nat) (url : String) : Option DispatchError :=
  if code = 200 then none else some (status (statusMessage code url) code)

end DispatchError

inductive Outcome where
  | success (result : Node)
  | failed (operation : Operation) (failure : String)
  | exception (operation : Operation) (error : DispatchError)
deriving Repr

/-- What is to be dispatched: an operation, with a file or without. -/
structure Dispatch where
  operation : Operation
  file : Option UploadFile
deriving Repr

/-- What is sent for a dispatch. -/
inductive Message where
  | request (request : Request)
  | upload (upload : UploadRequest)
deriving DecidableEq, Repr

def Message.url : Message → String
  | request r => r.url
  | upload u => u.url

/-- The tree of the answer to a message. -/
def Message.replyTree (body : String) : Message → Node
  | request r => Reply.ofOperationBody r.method body
  | upload _ => Reply.ofUploadBody body

/-- What a transport answers: a reply, or the error that it met. -/
abbrev Answer := Except DispatchError Reply

/-- How a dispatch ended, and the state that is published before its outcome is delivered. -/
structure Completion where
  outcome : Outcome
  published : Option ProcessState
deriving Repr

namespace Dispatch

/-- The message of a dispatch. -/
def message (d : Dispatch) (endpoints : Endpoints) : Except Wire.EncodeError Message :=
  match d.file with
  | some file => .ok (.upload (d.operation.uploadRequest endpoints file))
  | none => (d.operation.request endpoints).map .request

/-- An outcome without a usable reply. -/
def giveUp (d : Dispatch) (error : DispatchError) : Completion :=
  ⟨.exception d.operation error, none⟩

/-- Judges the tree of a reply. The result is taken out of the reply as out of an object. -/
def judge (d : Dispatch) (topology : Topology) (reply : Node) : Completion :=
  if reply.isFailure then ⟨.failed d.operation reply.failureDescription, none⟩
  else
    ⟨.success (reply.field "result"),
      if ProcessState.mayBeIn topology reply then some (.ofReply topology reply) else none⟩

/-- Completes a dispatch whose message got a reply. -/
def receive (d : Dispatch) (topology : Topology) (message : Message) (reply : Reply) :
    Completion :=
  match DispatchError.ofStatus? reply.status message.url with
  | some error => d.giveUp error
  | none => d.judge topology (message.replyTree reply.body)

/-- Completes a dispatch, given what the transport answers to its message. -/
def complete (d : Dispatch) (endpoints : Endpoints) (topology : Topology) (answer : Answer) :
    Completion :=
  match d.message endpoints with
  | .error cause => d.giveUp (.unencodable cause.message)
  | .ok message =>
    match answer with
    | .error error => d.giveUp error
    | .ok reply => d.receive topology message reply

end Dispatch

end ManagementModel
