namespace Rewriting

/-!
# Substitution by regular expressions

A backtracking matcher that lists the ways to match in the order in which it
tries them, and the substitution that replaces, from left to right, the parts
that a pattern matches.
-/

/-! ## Expressions -/

/-- Regular expressions, with repetition of character classes only. -/
inductive Regex where
  | empty
  | one (accepts : Char → Bool)
  | many (accepts : Char → Bool)
  | seq (first second : Regex)
  | alt (first second : Regex)

namespace Regex

/-- One character or more of a class. -/
def oneOrMore (accepts : Char → Bool) : Regex :=
  .seq (.one accepts) (.many accepts)

def optional (expression : Regex) : Regex :=
  .alt expression .empty

/-- Expressions one after the other. -/
def chain : List Regex → Regex
  | [] => .empty
  | first :: rest => .seq first (chain rest)

/-- The first expression that leads to a match. -/
def choice : List Regex → Regex → Regex
  | [], last => last
  | first :: rest, last => .alt first (choice rest last)

/--
The ways to match a prefix of the text, with the text that is left, in the order
in which a backtracking matcher tries them: repetition is greedy.
-/
def splits : Regex → List Char → List (List Char × List Char)
  | .empty, text => [([], text)]
  | .one _, [] => []
  | .one accepts, c :: rest => if accepts c then [([c], rest)] else []
  | .many accepts, text => repeated accepts text
  | .seq first second, text =>
      (splits first text).flatMap fun (early, middle) =>
        (splits second middle).map fun (late, rest) => (early ++ late, rest)
  | .alt first second, text => splits first text ++ splits second text
where
  /-- The prefixes of a class, longest first. -/
  repeated (accepts : Char → Bool) :
      List Char → List (List Char × List Char)
    | [] => [([], [])]
    | c :: rest =>
        if accepts c then
          ((repeated accepts rest).map fun (matched, left) =>
            (c :: matched, left)) ++ [([], c :: rest)]
        else
          [([], c :: rest)]

end Regex

/-! ## Patterns -/

/-- A part of the text that a pattern matches. -/
structure Hit where
  head : List Char
  value : List Char
  tail : List Char

/-- The text that was matched. -/
def Hit.source (hit : Hit) : List Char :=
  hit.head ++ hit.value ++ hit.tail

/--
A pattern whose value is replaced by a mask.  The head is kept, or replaced by a
literal text.
-/
structure Pattern where
  head : Regex
  value : Regex
  tail : Regex
  spelling : Option (List Char)
  mask : List Char

/-- A stretch of the text: one character that is kept, or a hit. -/
inductive Piece where
  | kept (c : Char)
  | hit (found : Hit)

namespace Pattern

/-- The ways to match at the start of the text, in the order of the matcher. -/
def hits (pattern : Pattern) (text : List Char) : List Hit :=
  (pattern.head.splits text).flatMap fun (head, afterHead) =>
    (pattern.value.splits afterHead).flatMap fun (value, afterValue) =>
      (pattern.tail.splits afterValue).map fun (tail, _) =>
        ⟨head, value, tail⟩

/-- The match at the start of the text. -/
def match? (pattern : Pattern) (text : List Char) : Option Hit :=
  (pattern.hits text).head?

/--
The pieces of a text, after so many characters that belong to the last hit.  The
patterns here never match the empty text.
-/
def pieces (pattern : Pattern) : Nat → List Char → List Piece
  | _, [] => []
  | skipped + 1, _ :: rest => pieces pattern skipped rest
  | 0, c :: rest =>
      match pattern.match? (c :: rest) with
      | none => .kept c :: pieces pattern 0 rest
      | some found =>
          .hit found :: pieces pattern (found.source.length - 1) rest

/-- What takes the place of a piece. -/
def render (pattern : Pattern) : Piece → List Char
  | .kept c => [c]
  | .hit found =>
      pattern.spelling.getD found.head ++ pattern.mask ++ found.tail

/-- `pattern.sub(replacement, text)`. -/
def sub (pattern : Pattern) (text : List Char) : List Char :=
  (pattern.pieces 0 text).flatMap pattern.render

end Pattern

end Rewriting
