import Placement.Text.Basic
import Placement.Text.Unprintable

/-!
Quoted names in messages. Apostrophes enclose a name unless it holds an apostrophe and no quotation
mark; the enclosing mark and the backslash are escaped, and so is every unprintable character.
-/

namespace Placement.Text

def apostrophe : Char := '\x27'

def quotationMark : Char := '\x22'

def backslash : Char := '\x5c'

def hexDigit (value : Nat) : Char :=
  "0123456789abcdef".toList.getD value '0'

def hexDigits : Nat → Nat → Text
  | 0, _ => []
  | width + 1, value => hexDigits width (value / 16) ++ [hexDigit (value % 16)]

def numericEscape (c : Char) : Text :=
  if c.toNat < 0x100 then backslash :: 'x' :: hexDigits 2 c.toNat
  else if c.toNat < 0x10000 then backslash :: 'u' :: hexDigits 4 c.toNat
  else backslash :: 'U' :: hexDigits 8 c.toNat

def escapeChar (mark c : Char) : Text :=
  if c == mark || c == backslash then [backslash, c]
  else if c == '\n' then [backslash, 'n']
  else if c == '\r' then [backslash, 'r']
  else if c == '\t' then [backslash, 't']
  else if isPrintable c then [c]
  else numericEscape c

def enclosingMark (name : Text) : Char :=
  if name.contains apostrophe && !name.contains quotationMark then quotationMark else apostrophe

def quote (name : Text) : Text :=
  let mark := enclosingMark name
  mark :: name.flatMap (escapeChar mark) ++ [mark]

end Placement.Text

namespace Placement

def quoted (name : String) : String :=
  String.ofList (Text.quote name.toList)

end Placement
