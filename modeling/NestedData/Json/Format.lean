import NestedData.Json.Printer
import NestedData.Json.Reader
/-!
Formats of JSON: how a value is written as octets, and what octets are read as. Snapshots are
written and read in any format.
-/

namespace NestedData.Json

structure Format where
  write : Value → List UInt8
  read? : List UInt8 → Option Literal

def compact : Format where
  write v := v.text.toUTF8.data.toList
  read? octets := (String.fromUTF8? ⟨octets.toArray⟩).bind Literal.ofText?

end NestedData.Json
