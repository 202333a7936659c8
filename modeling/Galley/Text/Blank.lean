/-!
# Blank characters

The characters with the Unicode property `White_Space`, and what is done to a text at its blanks:
trimming its ends and writing one space for every run.
-/

namespace Galley.Text

/-- The characters with the Unicode property `White_Space`. -/
def isBlank (c : Char) : Bool :=
  let n := c.toNat
  (9 ≤ n && n ≤ 13) || n = 0x20 || n = 0x85 || n = 0xA0 || n = 0x1680
    || (0x2000 ≤ n && n ≤ 0x200A) || n = 0x2028 || n = 0x2029 || n = 0x202F || n = 0x205F
    || n = 0x3000

/-! ## 1. Trimming -/

/-- `cs` without the blanks it begins with. -/
def trimLeft (cs : List Char) : List Char :=
  cs.dropWhile isBlank

/-- `cs` without the blanks it ends with. -/
def trimRight (cs : List Char) : List Char :=
  (trimLeft cs.reverse).reverse

/-- `cs` without the blanks at its ends. -/
def trimChars (cs : List Char) : List Char :=
  trimRight (trimLeft cs)

/-- `s` without the blanks at its ends. -/
def trim (s : String) : String :=
  String.ofList (trimChars s.toList)

/-- Nothing but blanks. -/
def isBlankText (s : String) : Bool :=
  s.toList.all isBlank

/-! ## 2. Runs -/

/-- Every run of blanks becomes one space; `inRun` says that the last character was a blank. -/
def squeezeFrom (inRun : Bool) : List Char → List Char
  | [] => []
  | c :: cs =>
    if isBlank c then
      if inRun then squeezeFrom true cs else ' ' :: squeezeFrom true cs
    else c :: squeezeFrom false cs

/-- Every run of blanks becomes one space. -/
def squeezeBlanks (cs : List Char) : List Char :=
  squeezeFrom false cs

/-! ## 3. Lines -/

/-- The pieces of `cs` between line feeds. -/
def splitLines : List Char → List (List Char)
  | [] => [[]]
  | c :: cs =>
    match splitLines cs with
    | [] => [[c]]
    | line :: rest => if c = '\n' then [] :: line :: rest else (c :: line) :: rest

theorem splitLines_ne_nil (cs : List Char) : splitLines cs ≠ [] := by
  cases cs with
  | nil => simp [splitLines]
  | cons c cs => simp only [splitLines]; split <;> (try split) <;> simp

/-- A text with a line feed for every line break. -/
def unifyBreaks : List Char → List Char
  | '\r' :: '\n' :: cs => '\n' :: unifyBreaks cs
  | '\r' :: cs => '\n' :: unifyBreaks cs
  | c :: cs => c :: unifyBreaks cs
  | [] => []

/-! ## 4. Small facts -/

theorem trimLeft_suffix (cs : List Char) : trimLeft cs <:+ cs :=
  List.dropWhile_suffix _

theorem trimLeft_append_of_blank {us : List Char} (h : ∀ c ∈ us, isBlank c = true)
    (cs : List Char) : trimLeft (us ++ cs) = trimLeft cs := by
  induction us with
  | nil => rfl
  | cons u us ih =>
    have hu : isBlank u = true := h u (by simp)
    have hus : ∀ c ∈ us, isBlank c = true := fun c hc => h c (by simp [hc])
    simpa [trimLeft, hu] using ih hus

end Galley.Text
