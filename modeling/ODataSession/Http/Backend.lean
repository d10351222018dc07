import ODataSession.Http.Message

/-!
# Backends

What answers requests. A backend may change with every request it gets, so that the same
request may be answered in different ways.
-/

namespace ODataSession.Http

/-- What answers requests. -/
class Backend (β : Type) where
  /-- Answers a request, or fails to. -/
  answer : β → Request → Except Failure Response × β

end ODataSession.Http
