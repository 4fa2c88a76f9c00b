set_option autoImplicit false

namespace Runbook.Text

def decode? (bytes : List UInt8) : Option String := String.fromUTF8? ⟨bytes.toArray⟩

def notUtf8 : String := "stream did not contain valid UTF-8"

end Runbook.Text
