import Galley.Bibtex.Content
import Galley.Reference.Basic
import Galley.Text.Lowercase
import Galley.Text.Scan

/-!
# Names of people

The people of a field stand between the word "and". A name is written as it is spoken, or with
the family name first and commas behind its parts, or with a key before each part. Which words
belong to the family name is told by the words that begin small.
-/

namespace Galley.Bibtex

open Galley.Text

/-! ## 1. Cutting content -/

/-- Content without the blanks that its first piece begins with, if that piece is plain. -/
def trimStart : Content → Content
  | [] => []
  | p :: ps => if p.setting = .plain then ⟨.plain, trimLeft p.chars⟩ :: ps else p :: ps

/-- Content without the blanks that its last piece ends with, if that piece is plain. -/
def trimEnd (content : Content) : Content :=
  match content.getLast? with
  | none => []
  | some p =>
    if p.setting = .plain then content.dropLast ++ [⟨.plain, trimRight p.chars⟩] else content

/-- Content without the blanks at its ends. -/
def trimContent (content : Content) : Content :=
  trimEnd (trimStart content)

/-- The content before the first plain `stop` and the content behind it. -/
def cutContent? (stop : Char) : Content → Option (Content × Content)
  | [] => none
  | p :: ps =>
    match if p.setting = .plain then cut? [stop] p.chars else none with
    | some (before, behind) => some ([⟨.plain, before⟩], ⟨.plain, behind⟩ :: ps)
    | none => (cutContent? stop ps).map fun q => (p :: q.1, q.2)

/-- The content between plain commas. -/
def commaParts : Content → List Content
  | [] => [[]]
  | p :: ps =>
    match commaParts ps with
    | [] => []
    | part :: parts =>
      if p.setting = .plain then
        let pieces := (p.chars.splitOn ',').map fun cs => (⟨.plain, cs⟩ : Piece)
        pieces.dropLast.map ([·]) ++ (pieces.getLast?.toList ++ part) :: parts
      else (p :: part) :: parts

/-- The text of a part, without the blanks at its ends. -/
def partText (content : Content) : String :=
  String.ofList (trimChars (Content.written content))

/-! ## 2. Lists of people -/

/-- The pieces of `cs` between the letters "and". -/
def splitAnd (cs : List Char) : List (List Char) :=
  match _h : cut? "and".toList cs with
  | none => [cs]
  | some (before, behind) => before :: splitAnd behind
termination_by cs.length
decreasing_by
  have h := congrArg List.length (cut?_eq_some _h)
  simp at h
  omega

/-- Puts the letters "and" back where no blank stands on both of their sides. -/
def joinUnspaced : List (List Char) → List (List Char)
  | [] => []
  | [a] => [a]
  | a :: b :: rest =>
    match joinUnspaced (b :: rest) with
    | [] => [a]
    | next :: others =>
      if a.getLast?.any isBlank && b.head?.any isBlank then a :: next :: others
      else (a ++ "and".toList ++ next) :: others

/-- The content between the words "and". -/
def splitPeople : Content → List Content
  | [] => [[]]
  | p :: ps =>
    match splitPeople ps with
    | [] => []
    | person :: people =>
      if p.setting = .plain then
        let pieces := (joinUnspaced (splitAnd p.chars)).map fun cs => (⟨.plain, cs⟩ : Piece)
        pieces.dropLast.map ([·]) ++ (pieces.getLast?.toList ++ person) :: people
      else (p :: person) :: people

/-! ## 3. Characters of a name -/

/-- A character of a name. -/
structure Glyph where
  char : Char
  /-- The character is not plain. -/
  guarded : Bool
  deriving DecidableEq, Repr, Inhabited

/-- The characters of content. -/
def glyphsOf (content : Content) : List Glyph :=
  content.flatMap fun p => p.chars.map fun c => ⟨c, p.setting ≠ .plain⟩

/-- A blank that divides words. -/
def Glyph.isGap (g : Glyph) : Bool :=
  !g.guarded && isBlank g.char

/-- The characters whose place satisfies `p`. -/
def charsWhere (p : Nat → Glyph → Bool) (gs : List Glyph) : List Char :=
  (gs.zipIdx.filter fun q => p q.2 q.1).map fun q => q.1.char

/-- A name from its parts. -/
def nameFrom (particle family given : List Char) : Name :=
  ⟨String.ofList (if particle.isEmpty then family else particle ++ ' ' :: family),
    String.ofList given⟩

/-! ## 4. Names as they are spoken -/

/-- What is known of a name from its words so far. -/
structure SpokenWords where
  inWord : Bool
  /-- The last word begins with a capital or is guarded. -/
  capital : Bool
  /-- There was a word that begins small. -/
  smallSeen : Bool
  /-- The place of the last character of the capital words at the front. -/
  frontEnd : Nat
  /-- The place where the family name begins. -/
  familyStart : Nat
  /-- The place where the last small word begins. -/
  smallStart : Nat
  deriving DecidableEq, Repr, Inhabited

/-- What is known before the first word. -/
def SpokenWords.empty : SpokenWords :=
  ⟨false, false, false, 0, 0, 0⟩

/-- A word begins at `i` with `g`. A capital word may begin the family name as long as no small word
    was seen, and once behind a small word. -/
def SpokenWords.begin (w : SpokenWords) (i : Nat) (g : Glyph) : SpokenWords :=
  if g.guarded || isCapital g.char then
    let opensFamily := !w.smallSeen || w.familyStart ≤ w.smallStart
    { w with inWord := true, capital := true,
             familyStart := if opensFamily then i else w.familyStart }
  else { w with inWord := true, capital := false, smallSeen := true, smallStart := i }

/-- What is known behind the character `g` at `i`. -/
def SpokenWords.step (w : SpokenWords) (g : Glyph) (i : Nat) : SpokenWords :=
  if g.isGap then { w with inWord := false }
  else
    let w := if w.inWord then w else w.begin i g
    if w.capital && !w.smallSeen then { w with frontEnd := i } else w

/-- What is known behind all characters. -/
def SpokenWords.ofGlyphs (gs : List Glyph) : SpokenWords :=
  gs.zipIdx.foldl (fun (w : SpokenWords) q => w.step q.1 q.2) .empty

/-- A name as it is spoken: the given names, a particle that begins small, the family name. A small
    letter at the front does not begin a given name. -/
def spokenName (content : Content) : Name :=
  let gs := glyphsOf content
  let w := SpokenWords.ofGlyphs gs
  let familyStart := max w.familyStart w.smallStart
  let isGiven (i : Nat) (g : Glyph) : Bool :=
    (if w.smallSeen then i ≤ w.frontEnd else i < familyStart) && !(i = 0 && isSmallLetter g.char)
  let isParticle (i : Nat) (g : Glyph) : Bool := !isGiven i g && i < familyStart
  let isFamily (i : Nat) (g : Glyph) : Bool := !isGiven i g && !(i < familyStart)
  nameFrom (trimChars (charsWhere isParticle gs)) (trimLeft (charsWhere isFamily gs))
    (trimChars (charsWhere isGiven gs))

/-! ## 5. Names with commas -/

/-- What is known of a family part from its words so far. -/
structure FamilyWords where
  inWord : Bool
  /-- The last word begins small or is guarded. -/
  small : Bool
  /-- There was a word that does neither. -/
  largeSeen : Bool
  /-- The place behind the last small word. -/
  smallStop : Nat
  /-- The place of the last gap. -/
  lastGap : Nat
  deriving DecidableEq, Repr, Inhabited

/-- What is known behind the character `g` at `i`. -/
def FamilyWords.step (w : FamilyWords) (g : Glyph) (i : Nat) : FamilyWords :=
  if g.isGap then { w with inWord := false, lastGap := i }
  else
    let small := if w.inWord then w.small else g.guarded || isSmallLetter g.char
    { w with inWord := true, small := small, largeSeen := w.largeSeen || !small,
             smallStop := if small then i + 1 else w.smallStop }

/-- What is known behind all characters. -/
def FamilyWords.ofGlyphs (gs : List Glyph) : FamilyWords :=
  gs.zipIdx.foldl (fun (w : FamilyWords) q => w.step q.1 q.2) ⟨false, false, false, 0, 0⟩

/-- The particle and the family name before a comma. The particle ends with the last small word, and
    where all words are small the last one is the family name. -/
def familyParts (content : Content) : List Char × List Char :=
  let gs := glyphsOf content
  let w := FamilyWords.ofGlyphs gs
  let particleStop := if w.largeSeen then w.smallStop else w.lastGap
  let cs := gs.map Glyph.char
  (trimRight (cs.take particleStop), trimLeft (cs.drop particleStop))

/-- The particle and the family name of a name that ends with its comma: the last word is the family
    name. -/
def lastWordParts (cs : List Char) : List Char × List Char :=
  match cutLast? [' '] cs with
  | some (particle, family) => (trimRight particle, trimLeft family)
  | none => ([], cs)

/-- A name with its family name before the comma. -/
def commaName (family given : Content) : Name :=
  let (particle, family) :=
    if given.all fun p => p.setting = .plain && p.chars.isEmpty then
      lastWordParts (Content.written family)
    else familyParts family
  nameFrom particle family (trimLeft (Content.written given))

/-! ## 6. Names with keys -/

/-- A part of a name with its key. -/
def keyedPart? (content : Content) : Option (String × String) :=
  (cutContent? '=' content).map fun p => (partText p.1, partText p.2)

/-- A name whose parts have keys. Of two parts with one key the later one counts. -/
def keyedName (content : Content) : Name :=
  let parts := ((commaParts content).filterMap keyedPart?).reverse
  let part (key : String) : List Char := ((parts.lookup key).getD "").toList
  nameFrom (part "prefix") (part "family") (part "given")

/-! ## 7. Names -/

/-- The name that content spells. -/
def nameOf (content : Content) : Name :=
  if content.any fun p => p.chars.contains '=' then keyedName content
  else match cutContent? ',' content with
    | none => spokenName content
    | some (family, rest) =>
      match cutContent? ',' rest with
      | none => commaName (trimEnd family) (trimStart rest)
      | some (_, given) => commaName (trimEnd family) (trimStart given)

/-- The names in a field. -/
def peopleOf (content : Content) : List Name :=
  (splitPeople (trimContent content)).map fun person => nameOf (trimContent person)

end Galley.Bibtex
