import FormValidation.Regex.CharSet

/-!
# Matching regular expressions

An expression is matched against the front of a text by following, character by character, the expressions that are
still to be matched. They stand in order of preference, so the match found is the one that a search through the
alternatives from left to right would find first, and equal expressions are followed only once, so the work is bounded
by the size of the expression times the length of the text. A search tries the places of the text from left to right;
its result is a `Split` of the text into what stands before the match, the match, and what stands behind it.
-/

set_option autoImplicit false

namespace FormValidation.Regex

/-- A condition on the place between two characters. -/
inductive Look where
  | textStart
  | textEnd
  | lineStart
  | lineEnd
  | crlfLineStart
  | crlfLineEnd
  | wordBoundary (ascii : Bool)
  | noWordBoundary (ascii : Bool)
  | wordStart (ascii : Bool)
  | wordEnd (ascii : Bool)
  | wordStartHalf (ascii : Bool)
  | wordEndHalf (ascii : Bool)
  deriving DecidableEq, Repr

/-- Whether there is a word character on one side of a place. -/
def wordAt (ascii : Bool) : Option Char → Bool
  | some c => if ascii then Text.isAsciiWordChar c else Text.isWordChar c
  | none => false

/-- Whether a condition holds between the character before a place and the character behind it. -/
def Look.holds (before after : Option Char) : Look → Bool
  | textStart => before.isNone
  | textEnd => after.isNone
  | lineStart => before.isNone || before == some '\n'
  | lineEnd => after.isNone || after == some '\n'
  | crlfLineStart => before.isNone || before == some '\n' || (before == some '\r' && after != some '\n')
  | crlfLineEnd => after.isNone || after == some '\r' || (after == some '\n' && before != some '\r')
  | wordBoundary ascii => wordAt ascii before != wordAt ascii after
  | noWordBoundary ascii => wordAt ascii before == wordAt ascii after
  | wordStart ascii => !wordAt ascii before && wordAt ascii after
  | wordEnd ascii => wordAt ascii before && !wordAt ascii after
  | wordStartHalf ascii => !wordAt ascii before
  | wordEndHalf ascii => !wordAt ascii after

/-- A regular expression. `repeated greedy min extra e` is `min` copies of `e` followed by up to `extra` more, without
a bound when `extra` is `none`; a greedy one prefers more copies, the other fewer. -/
inductive Expr where
  | empty
  | set (s : CharSet)
  | look (l : Look)
  | seq (a b : Expr)
  | alt (a b : Expr)
  | repeated (greedy : Bool) (min : Nat) (extra : Option Nat) (a : Expr)
  deriving DecidableEq, Repr

/-- A way on from a place: the match may end here (`stop`), or a character of a set is read and an expression is still
to be matched (`eat`). -/
inductive Way where
  | stop
  | eat (s : CharSet) (next : Expr)
  deriving DecidableEq, Repr

namespace Expr

/-- One expression after another, an empty first one left out. -/
def followedBy : Expr → Expr → Expr
  | empty, b => b
  | a, b => seq a b

/-- Ways through one expression continued by a second: a way that reads a character continues behind it, and the first
way that stops continues at once with the ways of the second. -/
def continueWith (next : Expr) (onStop : Unit → List Way) : List Way → List Way
  | [] => []
  | .eat s k :: rest => .eat s (k.followedBy next) :: continueWith next onStop rest
  | .stop :: rest => onStop () ++ continueWith next (fun _ => []) rest

/-- Ways through any number of copies, given the ways through one. A copy that reads nothing ends the repetition. -/
def endlessWays (greedy : Bool) (a : Expr) (ways : List Way) : List Way :=
  let more := continueWith (repeated greedy 0 none a) (fun _ => [.stop]) ways
  if greedy then more ++ [.stop] else .stop :: more

/-- Ways through at most a number of copies, given the ways through one. -/
def optionalWays (greedy : Bool) (a : Expr) (ways : List Way) : Nat → List Way
  | 0 => [.stop]
  | n + 1 =>
    let more := continueWith (repeated greedy 0 (some n) a) (fun _ => optionalWays greedy a ways n) ways
    if greedy then more ++ [.stop] else .stop :: more

/-- Ways through a least number of copies and some extra ones, given the ways through one. -/
def repeatedWays (greedy : Bool) (extra : Option Nat) (a : Expr) (ways : List Way) : Nat → List Way
  | 0 =>
    match extra with
    | none => endlessWays greedy a ways
    | some n => optionalWays greedy a ways n
  | n + 1 => continueWith (repeated greedy n extra a) (fun _ => repeatedWays greedy extra a ways n) ways

/-- The ways on from a place, the preferred ones first. -/
def ways (before after : Option Char) : Expr → List Way
  | empty => [.stop]
  | set s => [.eat s empty]
  | look l => if l.holds before after then [.stop] else []
  | seq a b => continueWith b (fun _ => b.ways before after) (a.ways before after)
  | alt a b => a.ways before after ++ b.ways before after
  | repeated greedy min extra a => repeatedWays greedy extra a (a.ways before after) min

/-- The ways up to the first one that stops; a later way is never preferred to it. -/
def upToStop : List Way → List (CharSet × Expr) × Bool
  | [] => ([], false)
  | .stop :: _ => ([], true)
  | .eat s k :: rest => let (eats, stops) := upToStop rest; ((s, k) :: eats, stops)

/-- The expressions that are left to match after a character, each once, in order of preference. -/
def afterChar (c : Char) : List (CharSet × Expr) → List Expr
  | [] => []
  | (s, k) :: rest =>
    let others := afterChar c rest
    if s.contains c then k :: others.filter (fun other => other != k) else others

/-- The length of the preferred match at the front of a text, if there is one: `exprs` are the expressions to match,
the preferred ones first, and `before` is the character before the text. -/
def matchLength (exprs : List Expr) (before : Option Char) : List Char → Option Nat
  | [] =>
    if (upToStop (exprs.flatMap fun e => e.ways before none)).2 then some 0 else none
  | c :: rest =>
    let (eats, stops) := upToStop (exprs.flatMap fun e => e.ways before (some c))
    let here := if stops then some 0 else none
    match afterChar c eats with
    | [] => here
    | next =>
      match matchLength next (some c) rest with
      | some n => some (n + 1)
      | none => here

/-- An estimate of the bytes that the compiled expression takes. -/
def weight : Expr → Nat
  | empty => 32
  | set s => s.weight
  | look _ => 32
  | seq a b => a.weight + b.weight
  | alt a b => a.weight + b.weight + 36
  | repeated _ min extra a =>
    match extra with
    | none => (if min = 0 then 1 else min) * a.weight + 40
    | some n => (min + n) * a.weight + 40 * n

end Expr

/-- A text cut into what stands before a match, the match, and what stands behind it. -/
structure Split where
  before : List Char
  matched : List Char
  after : List Char
  deriving DecidableEq, Repr

/-- The whole text of a split. -/
def Split.text (s : Split) : List Char := s.before ++ s.matched ++ s.after

/-- The first match in a text whose preceding character is `before`. -/
def Expr.findFrom (e : Expr) (before : Option Char) : List Char → Option Split
  | [] =>
    match matchLength [e] before [] with
    | some _ => some ⟨[], [], []⟩
    | none => none
  | c :: rest =>
    match matchLength [e] before (c :: rest) with
    | some n => some ⟨[], (c :: rest).take n, (c :: rest).drop n⟩
    | none => (e.findFrom (some c) rest).map fun s => { s with before := c :: s.before }

/-- The first match in a text. -/
def Expr.find (e : Expr) (s : List Char) : Option Split := e.findFrom none s

/-- A match is a contiguous part of the text. -/
theorem Expr.text_of_findFrom {e : Expr} {before : Option Char} {s : List Char} {r : Split}
    (h : e.findFrom before s = some r) : r.text = s := by
  induction s generalizing before r with
  | nil =>
    simp only [Expr.findFrom] at h
    split at h
    · cases h; rfl
    · cases h
  | cons c rest ih =>
    simp only [Expr.findFrom] at h
    split at h
    · cases h; simp [Split.text]
    · obtain ⟨t, ht, rfl⟩ := Option.map_eq_some_iff.1 h
      simpa [Split.text] using ih ht

/-- The text with every match replaced, from left to right; `fuel` bounds the number of matches. -/
def Expr.replaceFrom (e : Expr) (f : List Char → List Char) : Nat → Option Char → List Char → List Char
  | 0, _, s => s
  | fuel + 1, before, s =>
    match e.findFrom before s with
    | none => s
    | some r =>
      match (r.before ++ r.matched).getLast? with
      | none => r.before ++ f r.matched ++ r.after
      | some last => r.before ++ f r.matched ++ e.replaceFrom f fuel (some last) r.after

end FormValidation.Regex
