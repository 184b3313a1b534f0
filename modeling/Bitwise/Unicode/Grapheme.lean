import Bitwise.Unicode.GraphemeBreak

/-!
# Graphemes

A grapheme is what a reader takes for one character: a base with its marks, a syllable of Hangul
jamo, an emoji made of several pictographs, a flag, or consonants bound to a conjunct. A text is
cut into graphemes from left to right; whether there is a boundary before a character depends on
the characters of the grapheme that it would belong to.
-/

namespace Bitwise.Unicode

namespace BreakClass

/-- Whether there is a boundary on either side of a character of the class. -/
def standsAlone : BreakClass → Bool
  | .carriageReturn | .lineFeed | .control => true
  | _ => false

/-- Whether a character of the class belongs to the character before it. -/
def attaches : BreakClass → Bool
  | .extend | .joiner | .spacing => true
  | _ => false

/-- Whether two jamo or syllables of Hangul, one after the other, belong to one syllable. -/
def formsSyllable : BreakClass → BreakClass → Bool
  | .leading, c => c = .leading || c = .vowel || c = .openSyllable || c = .closedSyllable
  | .openSyllable, c | .vowel, c => c = .vowel || c = .trailing
  | .closedSyllable, c | .trailing, c => c = .trailing
  | _, _ => false

end BreakClass

/-- How far a sequence of pictographs has been read. -/
inductive EmojiState
  | none
  /-- A pictograph, perhaps with extenders. -/
  | pictograph
  /-- A joiner after that, which the next pictograph joins. -/
  | joined
  deriving DecidableEq

/-- How far a conjunct has been read. -/
inductive ConjunctState
  | none
  /-- A consonant, perhaps with extenders. -/
  | consonant
  /-- A linker after that, which the next consonant is bound by. -/
  | linked
  deriving DecidableEq

/-- What decides whether the next character goes on a grapheme. -/
structure Cluster where
  /-- The class of its last character. -/
  last : BreakClass
  /-- Whether it ends with a regional indicator that has no partner yet. -/
  halfFlag : Bool
  emoji : EmojiState
  conjunct : ConjunctState

namespace Cluster

/-- The grapheme of one character. -/
def first (c : Char) : Cluster :=
  let cls := breakClass c
  { last := cls
    halfFlag := cls = .regional
    emoji := if cls = .pictograph then .pictograph else .none
    conjunct := if cls = .consonant then .consonant else .none }

/-- Whether a character goes on the grapheme. -/
def joins (g : Cluster) (c : Char) : Bool :=
  let cls := breakClass c
  if g.last = .carriageReturn then cls = .lineFeed
  else if g.last.standsAlone || cls.standsAlone then false
  else if g.last = .prepend || cls.attaches then true
  else if cls = .regional then g.halfFlag
  else if cls = .pictograph then g.emoji = .joined
  else if cls = .consonant then g.conjunct = .linked
  else g.last.formsSyllable cls

/-- The grapheme with one more character. -/
def push (g : Cluster) (c : Char) : Cluster :=
  let cls := breakClass c
  { last := cls
    halfFlag := cls = .regional && !g.halfFlag
    emoji :=
      match cls, g.emoji with
      | .pictograph, _ => .pictograph
      | .extend, .pictograph => .pictograph
      | .joiner, .pictograph => .joined
      | _, _ => .none
    conjunct :=
      if cls = .consonant then .consonant
      else if isConjunctLinker c then
        match g.conjunct with
        | .none => .none
        | _ => .linked
      else if (cls = .extend && c != '\u200c') || cls = .joiner then g.conjunct
      else .none }

end Cluster

/-- The graphemes of a text that follows the characters in `current`, which are those of one
    grapheme, the last first. -/
def graphemesFrom (g : Cluster) (current : List Char) : List Char → List (List Char)
  | [] => [current.reverse]
  | c :: cs =>
    if g.joins c then graphemesFrom (g.push c) (c :: current) cs
    else current.reverse :: graphemesFrom (.first c) [c] cs

/-- The graphemes of a text. -/
def graphemes : List Char → List (List Char)
  | [] => []
  | c :: cs => graphemesFrom (.first c) [c] cs

end Bitwise.Unicode
