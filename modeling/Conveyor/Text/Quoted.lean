import Conveyor.Text.Invisible

/-!
Quoted text, in the two forms this library writes. `Text.document` is the form of strings in
documents: only the quote, the backslash and the controls are escaped. `Text.shown` is the form of
strings in messages and logs: what a reader could not see is written by its code point.
-/

namespace Conveyor.Text

/-- The digits of a number to base sixteen. -/
def hexDigits (n : Nat) : List Char :=
  Nat.toDigits 16 n

/-- A number to base sixteen in at least four digits. -/
def fourHexDigits (n : Nat) : List Char :=
  List.replicate (4 - (hexDigits n).length) '0' ++ hexDigits n

/-- One character of a string in a document. -/
def documentChar (c : Char) : List Char :=
  match c with
  | '"' => ['\\', '"']
  | '\\' => ['\\', '\\']
  | '\x08' => ['\\', 'b']
  | '\x0c' => ['\\', 'f']
  | '\n' => ['\\', 'n']
  | '\r' => ['\\', 'r']
  | '\t' => ['\\', 't']
  | c => if c.toNat < 0x20 then '\\' :: 'u' :: fourHexDigits c.toNat else [c]

/-- A string as documents hold it, between quotes. -/
def document (text : String) : String :=
  String.ofList ('"' :: text.toList.flatMap documentChar ++ ['"'])

/-- One character of a string in a message. -/
def shownChar (c : Char) : List Char :=
  match c with
  | '\x00' => ['\\', '0']
  | '\t' => ['\\', 't']
  | '\r' => ['\\', 'r']
  | '\n' => ['\\', 'n']
  | '\\' => ['\\', '\\']
  | '"' => ['\\', '"']
  | c =>
    if isInvisible c then ['\\', 'u', '\x7b'] ++ hexDigits c.toNat ++ ['\x7d'] else [c]

/-- A string as messages show it, between quotes. -/
def shown (text : String) : String :=
  String.ofList ('"' :: text.toList.flatMap shownChar ++ ['"'])

/-- A text that may be absent, as logs show it. -/
def shownOption : Option String → String
  | none => "None"
  | some text => "Some(" ++ shown text ++ ")"

/-- A list of texts as messages show it. -/
def shownList (texts : List String) : String :=
  "[" ++ ", ".intercalate (texts.map shown) ++ "]"

end Conveyor.Text
