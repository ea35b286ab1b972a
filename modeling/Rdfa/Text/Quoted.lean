import Rdfa.Text.Visible

-- Text between quotation marks for messages to a person: what cannot be seen is spelled out.
namespace Rdfa.Text

def codePoint (c : Char) : Text :=
  ['\\', 'u', '{'] ++ Nat.toDigits 16 c.toNat ++ ['}']

def quotedChar (c : Char) : Text :=
  if c = '\x00' then ['\\', '0']
  else if c = '\t' then ['\\', 't']
  else if c = '\n' then ['\\', 'n']
  else if c = '\r' then ['\\', 'r']
  else if c = '"' then ['\\', '"']
  else if c = '\\' then ['\\', '\\']
  else if isVisible c then [c]
  else codePoint c

def quoted (text : Text) : Text := '"' :: text.flatMap quotedChar ++ ['"']

end Rdfa.Text
