import ManagementModel.Endpoint
import ManagementModel.Url.Parser

/-!
# ManagementModel — base addresses

The endpoints of an interface are below its base address: a URL over `http` or `https` that has a
host. The endpoints are made from the text of the address as it was given, and not from the URL
that was read.
-/

namespace ManagementModel

/-- Why a text is no base address. -/
inductive BaseUrlFault where
  | unreadable (cause : Url.UrlError)
  | unsupportedScheme (scheme : String)
  | missingHost
deriving DecidableEq, Repr

def BaseUrlFault.message : BaseUrlFault → String
  | unreadable cause => cause.message
  | unsupportedScheme scheme => s!"unsupported scheme '{scheme}'"
  | missingHost => "missing host"

/-- A refused base address. -/
structure BaseUrlError where
  text : String
  fault : BaseUrlFault
deriving DecidableEq, Repr

def BaseUrlError.message (e : BaseUrlError) : String :=
  s!"invalid management URL '{e.text}': {e.fault.message}"

/-- The schemes under which the interface is reached. -/
def managementSchemes : List String := ["http", "https"]

/-- Reads a URL that can be a base address. -/
def Url.ofBase (text : String) : Except BaseUrlError Url :=
  match Url.parse text with
  | .error cause => .error ⟨text, .unreadable cause⟩
  | .ok url =>
    if url.scheme ∉ managementSchemes then .error ⟨text, .unsupportedScheme url.scheme⟩
    else if url.host.isNone then .error ⟨text, .missingHost⟩
    else .ok url

/-- The endpoints of an interface, whose base address has to be one. -/
def Endpoints.ofBase (text : String) : Except BaseUrlError Endpoints := do
  let _ ← Url.ofBase text
  return .below text

end ManagementModel
