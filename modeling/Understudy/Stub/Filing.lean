import Understudy.Store.Filed
import Understudy.Stub.Basic

/-!
# Filing stubs

Stubs are stored under their service and their method, and come by descending priority.
-/

namespace Understudy

instance : Filed Stub where
  id := Stub.id
  left := Stub.service
  right := Stub.method
  score := Stub.priority

end Understudy
