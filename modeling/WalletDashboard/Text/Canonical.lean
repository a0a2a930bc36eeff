import WalletDashboard.Text.Combining
import WalletDashboard.Text.Composition

/-!
# Canonical composition

Texts that look the same can be written in several ways: with composed characters or without, and
with marks in one order or another. `canonical` writes them in one way: everything is taken apart,
the marks behind a letter are put in the order of their classes, and what can be composed is
composed.
-/

namespace WalletDashboard.Text

/-- A character taken apart, at most `depth` times. -/
def takeApart : Nat → Char → List Char
  | 0, c => [c]
  | depth + 1, c =>
    match split? c with
    | some (base, mark) => takeApart depth base ++ [mark]
    | none => [c]

/-- No character stands for more than this many and one. -/
def compositionDepth : Nat := 4

/-- A mark put before the marks of higher classes at the end of a text, which is read backwards. -/
def insertMark (c : Char) : List Char → List Char
  | [] => [c]
  | d :: rest =>
    if combiningClass c ≠ 0 ∧ combiningClass c < combiningClass d then d :: insertMark c rest
    else c :: d :: rest

/-- The marks behind every letter in the order of their classes; the text is read backwards. -/
def orderMarks (cs : List Char) : List Char := cs.foldl (fun text c => insertMark c text) []

/-- A text on its way to being composed. -/
structure Composing where
  /-- What comes before the last letter, read backwards. -/
  done : List Char := []
  /-- The last letter. -/
  letter : Option Char := none
  /-- The marks behind it that it was not composed with, last first. -/
  marks : List Char := []

namespace Composing

/-- The text so far, read backwards. -/
def backwards (s : Composing) : List Char := s.marks ++ s.letter.toList ++ s.done

/-- Whether a mark of class `n` is kept from the letter by one before it. -/
def isBlocked (s : Composing) (n : Nat) : Bool :=
  match s.marks with
  | [] => false
  | m :: _ => n ≤ combiningClass m

/-- The text without composing the next character with the letter. -/
def keep (s : Composing) (c : Char) : Composing :=
  if combiningClass c = 0 then { done := s.backwards, letter := some c }
  else { s with marks := c :: s.marks }

/-- The text with one more character. -/
def push (s : Composing) (c : Char) : Composing :=
  match s.letter.bind (compose? · c) with
  | some whole =>
    if s.isBlocked (combiningClass c) then s.keep c else { s with letter := some whole }
  | none => s.keep c

end Composing

/-- The text with everything composed that can be. -/
def composeAll (cs : List Char) : List Char :=
  (cs.foldl Composing.push {}).backwards.reverse

/-- The one way to write a text. -/
def canonical (cs : List Char) : List Char :=
  composeAll (orderMarks (cs.flatMap (takeApart compositionDepth))).reverse

end WalletDashboard.Text
