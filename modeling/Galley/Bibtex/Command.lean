import Galley.Text.Blank
import Galley.Text.Composition

/-!
# Commands

A command in a field is a backslash and a name: an accent, which is put on the last letter of its
argument, or a symbol. A command that is not known stays as it is written.
-/

namespace Galley.Bibtex

open Galley.Text

/-! ## 1. Names -/

/-- A control character. -/
def isControl (c : Char) : Bool :=
  c.toNat < 0x20 || (0x7F ≤ c.toNat && c.toNat < 0xA0)

/-- A character that may stand in a name. -/
def isNameChar (c : Char) : Bool :=
  !(c = '@' || c = '\x7b' || c = '\x7d' || c = '"' || c = '#' || c = '\'' || c = '(' || c = ')'
    || c = ',' || c = '=' || c = '%' || c = '\\' || c = '~' || isControl c || isBlank c)

/-- The accents that are written with one sign, which needs no braces around its letter. -/
def signAccents : List (Char × Char) := [
  ('\x60', '\u0300'), ('\'', '\u0301'), ('´', '\u0301'), ('^', '\u0302'), ('~', '\u0303'),
  ('=', '\u0304'), ('.', '\u0307'), ('"', '\u0308')]

/-- The accents that are written with a letter. -/
def letterAccents : List (String × Char) := [
  ("u", '\u0306'), ("r", '\u030a'), ("H", '\u030b'), ("v", '\u030c'), ("d", '\u0323'),
  ("c", '\u0327'), ("k", '\u0328'), ("b", '\u0332')]

/-- A sign that is the whole name of an accent. -/
def isSign (c : Char) : Bool :=
  (signAccents.lookup c).isSome

/-- The name of a command that comes next, from behind its backslash on, and what follows: one
    sign, or as many characters as a name may have. -/
def commandName? : List Char → Option (List Char × List Char)
  | [] => none
  | c :: cs =>
    if isSign c then some ([c], cs)
    else if isNameChar c then
      some (c :: cs.takeWhile isNameChar, cs.dropWhile isNameChar)
    else none

/-- The mark of an accent. -/
def accentMark? (name : List Char) : Option Char :=
  match name with
  | [c] => (signAccents.lookup c).or (letterAccents.lookup (String.ofList [c]))
  | _ => none

/-! ## 2. Accents -/

/-- A mark on the last letter of `cs`. A dotless i takes its mark as an i does. A mark that makes no
    character with its letter stands behind it. -/
def marked (mark : Char) (cs : List Char) : List Char :=
  match cs.getLast? with
  | none => [mark]
  | some c =>
    match compose? (if c = 'ı' then 'i' else c) mark with
    | some composed => cs.dropLast ++ [composed]
    | none => cs ++ [mark]

/-- What an accent makes of its argument. Without letters the circumflex and the tilde are signs of
    their own. -/
def accented (name : List Char) (mark : Char) (argument : List Char) : List Char :=
  if argument.isEmpty && (name = ['^'] || name = ['~']) then name else marked mark argument

/-! ## 3. Symbols -/

/-- The commands that stand for text. -/
def symbols : List (String × String) := [
  ("AA", "Å"), ("AE", "Æ"), ("DH", "Ð"), ("DJ", "Đ"), ("L", "Ł"), ("LaTeX", "LaTeX"), ("NG", "Ŋ"),
  ("O", "Ø"), ("OE", "Œ"), ("P", "¶"), ("S", "§"), ("SS", "ẞ"), ("TH", "Þ"), ("TeX", "TeX"),
  ("aa", "å"), ("ae", "æ"), ("copyright", "©"), ("ddag", "‡"), ("dh", "ð"), ("dj", "đ"),
  ("dots", "…"), ("guillemetleft", "«"), ("guillemetright", "»"), ("guillemotleft", "«"),
  ("guillemotright", "»"), ("guilsinglleft", "‹"), ("guilsinglright", "›"), ("i", "ı"), ("l", "ł"),
  ("ng", "ŋ"), ("o", "ø"), ("oe", "œ"), ("pounds", "£"), ("quotedblbase", "„"),
  ("quotesinglbase", "‚"), ("ss", "ß"), ("textasciicircum", "^"), ("textasciigrave", "\x60"),
  ("textasciitilde", "~"), ("textasteriskcentered", "⁎"), ("textbackslash", "\\"),
  ("textbar", "|"), ("textbraceleft", "\x7b"), ("textbraceright", "\x7d"), ("textbullet", "•"),
  ("textcopyright", "©"), ("textdagger", "†"), ("textdaggerdbl", "‡"), ("textdollar", "$"),
  ("textellipsis", "…"), ("textemdash", "—"), ("textendash", "–"), ("textexclamdown", "¡"),
  ("textgreater", ">"), ("textless", "<"), ("textordfeminine", "ª"), ("textordmasculine", "º"),
  ("textparagraph", "¶"), ("textperiodcentered", "·"), ("textquestiondown", "¿"),
  ("textquotedbl", "\""), ("textquotedblleft", "“"), ("textquotedblright", "”"),
  ("textquoteleft", "‘"), ("textquoteright", "’"), ("textquotesingle", "'"),
  ("textregistered", "®"), ("textsection", "§"), ("textsterling", "£"), ("texttrademark", "™"),
  ("textunderscore", "_"), ("textvisiblespace", "␣"), ("th", "þ")]

/-- The commands that keep an argument behind their symbol. -/
def keepsArgument (name : String) : Bool :=
  name = "copyright" || name = "textcopyright"

/-- What a command stands for. The argument of a symbol is dropped, but for those that keep it, and
    the stroked o strikes a letter that it is given. -/
def expansion (name : List Char) (argument : Option (List Char)) : List Char :=
  let word := String.ofList name
  let given := argument.getD []
  match accentMark? name with
  | some mark => accented name mark given
  | none =>
    match symbols.lookup word, argument with
    | some text, _ =>
      if word = "o" && !given.isEmpty then marked '\u0338' given
      else if keepsArgument word then text.toList ++ given
      else text.toList
    | none, some argument => '\\' :: name ++ '\x7b' :: argument ++ ['\x7d']
    | none, none => '\\' :: name ++ [' ']

end Galley.Bibtex
