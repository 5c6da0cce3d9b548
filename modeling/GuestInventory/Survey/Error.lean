import GuestInventory.Remote.Error

/-!
Why a survey came to nothing after its session was open.
-/
namespace GuestInventory.Survey

inductive Error
  | remote (cause : Remote.Error)
  /-- The document could not be written out. -/
  | unwritable (reason : String)
  deriving DecidableEq

namespace Error

def message : Error → String
  | remote cause => "libvirt: " ++ cause.message
  | unwritable reason => "failed to serialize inventory: " ++ reason

/-- The texts of the causes beneath, from the outermost on. -/
def causes : Error → List String
  | remote cause => cause.message :: cause.inner?.toList
  | unwritable reason => [reason]

end Error

end GuestInventory.Survey
