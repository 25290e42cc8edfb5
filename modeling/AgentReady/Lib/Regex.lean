import Mathlib.Data.List.Basic

/-!
Backtracking regular expressions, in the fragment the interpreter of messages uses:
character classes, sequences, alternatives, greedy repetition, captures and word
boundaries, over ASCII word characters and with ASCII case folding.

A pattern is run against a position with a continuation, so the first success in
the order of the alternatives is the match a backtracking engine reports. An iteration
of a repetition must consume a character, which bounds the iterations by the text.
-/

inductive Regex where
  | eps
  | one (p : Char → Bool)
  | seq (a b : Regex)
  | alt (a b : Regex)
  /-- Greedy repetition, of any number of times. -/
  | star (a : Regex)
  | group (n : Nat) (a : Regex)
  /-- `\b`. -/
  | boundary

namespace Regex

/-- A position in a text: the character before it, what follows, and the captures. -/
structure Pos where
  prev : Option Char
  rest : List Char
  captures : List (Nat × List Char)

def isWord (c : Char) : Bool := c.isAlphanum || c = '_'

def Pos.atBoundary (p : Pos) : Bool :=
  p.prev.any isWord != p.rest.head?.any isWord

/-- Repeat `step` at most `fuel` times, preferring more repetitions. -/
def iterate (step : Pos → (Pos → Option Pos) → Option Pos) :
    Nat → Pos → (Pos → Option Pos) → Option Pos
  | 0, p, k => k p
  | fuel + 1, p, k =>
      (step p fun p' => if p'.rest.length < p.rest.length then iterate step fuel p' k else none)
        <|> k p

def run : Regex → Pos → (Pos → Option Pos) → Option Pos
  | eps, p, k => k p
  | one test, p, k =>
      match p.rest with
      | [] => none
      | c :: rest => if test c then k { p with prev := some c, rest } else none
  | seq a b, p, k => a.run p fun p' => b.run p' k
  | alt a b, p, k => a.run p k <|> b.run p k
  | star a, p, k => iterate a.run p.rest.length p k
  | group n a, p, k => a.run p fun p' =>
      k { p' with
        captures := (n, p.rest.take (p.rest.length - p'.rest.length)) :: p'.captures }
  | boundary, p, k => if p.atBoundary then k p else none

/-! ### Patterns -/

/-- A literal text. -/
def lit (s : String) : Regex := s.toList.foldr (fun c r => seq (one (· = c)) r) eps

/-- A literal text in lower case, matched in either case. -/
def litI (s : String) : Regex := s.toList.foldr (fun c r => seq (one (·.toLower = c)) r) eps

def seqs : List Regex → Regex
  | [] => eps
  | [r] => r
  | r :: rest => seq r (seqs rest)

def alts : List Regex → Regex
  | [] => one fun _ => false
  | [r] => r
  | r :: rest => alt r (alts rest)

def opt (a : Regex) : Regex := alt a eps

def plus (a : Regex) : Regex := seq a (star a)

/-- Between `min` and `min + extra` times. -/
def between (a : Regex) (min : Nat) : Nat → Regex
  | 0 => seqs (List.replicate min a)
  | extra + 1 => (List.replicate min a).foldr seq (opt (seq a (between a 0 extra)))

/-- `\s`. -/
def isSpace (c : Char) : Bool :=
  let n := c.toNat
  (9 ≤ n && n ≤ 13) || n = 32 || n = 0xa0 || n = 0x1680 || (0x2000 ≤ n && n ≤ 0x200a) ||
    n = 0x2028 || n = 0x2029 || n = 0x202f || n = 0x205f || n = 0x3000 || n = 0xfeff

def digit : Regex := one Char.isDigit
def space : Regex := one isSpace
def word : Regex := one isWord

/-- `.`: any character that does not end a line. -/
def dot : Regex := one fun c =>
  c ≠ '\n' && c ≠ '\r' && c.toNat ≠ 0x2028 && c.toNat ≠ 0x2029

/-! ### Searching -/

structure Match where
  captures : List (Nat × List Char)
  /-- The last matched character, where the match is not empty. -/
  prev : Option Char
  rest : List Char

def Match.group? (m : Match) (n : Nat) : Option (List Char) :=
  (m.captures.find? (·.1 = n)).map Prod.snd

/-- The match that starts at a position. -/
def matchAt (r : Regex) (prev : Option Char) (text : List Char) : Option Match :=
  (r.run ⟨prev, text, []⟩ some).map fun p => ⟨p.captures, p.prev, p.rest⟩

/-- The first match in a text. -/
def exec (r : Regex) (prev : Option Char) : List Char → Option Match
  | [] => r.matchAt prev []
  | c :: rest => (r.matchAt prev (c :: rest)) <|> exec r (some c) rest

def test (r : Regex) (text : List Char) : Bool := (r.exec none text).isSome

/-- All matches, left to right and without overlap, for patterns that never match the
empty text. -/
def matchAll (r : Regex) (text : List Char) : List Match :=
  go text.length none text
where
  go : Nat → Option Char → List Char → List Match
    | 0, _, _ => []
    | fuel + 1, prev, text =>
        match r.exec prev text with
        | none => []
        | some m => m :: go fuel m.prev m.rest

/-- Replace every match by `by_`, for patterns that never match the empty text. -/
def replaceAll (r : Regex) (by_ : List Char) (text : List Char) : List Char :=
  go text.length none text
where
  go : Nat → Option Char → List Char → List Char
    | 0, _, text => text
    | _ + 1, _, [] => []
    | fuel + 1, prev, c :: rest =>
        match r.matchAt prev (c :: rest) with
        | some m => by_ ++ go fuel m.prev m.rest
        | none => c :: go fuel (some c) rest

end Regex

/-! ### Texts -/

/-- `String.prototype.includes`. -/
def includes (text part : List Char) : Bool :=
  match text with
  | [] => part.isEmpty
  | _ :: rest => part.isPrefixOf text || includes rest part

/-- The part of a text from the first occurrence of `part`. -/
def fromIndexOf (text part : List Char) : Option (List Char) :=
  match text with
  | [] => if part.isEmpty then some [] else none
  | _ :: rest => if part.isPrefixOf text then some text else fromIndexOf rest part

/-- `toLowerCase`, exact on what it leaves in ASCII: besides the capital letters, the
Kelvin sign and the dotted capital I have ASCII lower-case forms. -/
def toLowerCase (text : List Char) : List Char :=
  text.flatMap fun c =>
    if c.toNat = 0x212a then ['k']
    else if c.toNat = 0x130 then ['i', Char.ofNat 0x307]
    else [c.toLower]
