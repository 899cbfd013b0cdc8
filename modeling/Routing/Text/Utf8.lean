import Routing.Text

/-!
# UTF-8

The text of bytes, where they are one.  Surrogates, longer forms than needed and code points past
the last one are not.
-/

namespace Routing.Text

/-- The text of bytes that are UTF-8. -/
def ofUtf8? (data : List UInt8) : Option Text :=
  (String.fromUTF8? ⟨data.toArray⟩).map String.toList

/-- The bytes of a text in UTF-8. -/
def toUtf8 (s : Text) : List UInt8 := (String.ofList s).toUTF8.toList

end Routing.Text
