import Rdfa.Text.Casing

-- The small-letter form of a text. One rule looks at neighbours: a capital sigma that ends a word
-- becomes the final form.
namespace Rdfa.Text

def smallLetter (c : Char) : Char :=
  match capitalRuns.find? fun run => run.1 ≤ c.toNat && c.toNat ≤ run.2.1 &&
      (c.toNat - run.1) % run.2.2.1 = 0 with
  | some run => Char.ofNat ((c.toNat : Int) + run.2.2.2).toNat
  | none => c

def meetsCased (text : Text) : Bool :=
  match text.dropWhile isCaseIgnorable with
  | [] => false
  | c :: _ => isCased c

-- `before` is what stands before the character, nearest first.
def smallForm (before : Text) (c : Char) (after : Text) : Text :=
  if c = 'Σ' then
    if meetsCased before && !meetsCased after then ['ς'] else ['σ']
  else if c = 'İ' then ['i', '\u0307']
  else [smallLetter c]

def lowercaseFrom (before : Text) : Text → Text
  | [] => []
  | c :: rest => smallForm before c rest ++ lowercaseFrom (c :: before) rest

def lowercase (text : Text) : Text := lowercaseFrom [] text

end Rdfa.Text
