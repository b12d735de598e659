import DriverTelemetry.Text.Hidden

/-!
# Quoted text

Text in double quotes, with escapes for the characters that would not show as they are.
-/

namespace DriverTelemetry

namespace Text

def codePointEscape (c : Char) : String :=
  "\\u\x7b" ++ String.ofList (Nat.toDigits 16 c.toNat) ++ "\x7d"

def escaped (c : Char) : String :=
  match c with
  | '"' => "\\\""
  | '\\' => "\\\\"
  | '\n' => "\\n"
  | '\r' => "\\r"
  | '\t' => "\\t"
  | '\x00' => "\\0"
  | _ => if isHidden c then codePointEscape c else c.toString

def quoted (text : String) : String := "\"" ++ String.join (text.toList.map escaped) ++ "\""

end Text

end DriverTelemetry
