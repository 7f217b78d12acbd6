import Emend.Pattern.Basic

/-!
# Matching

A backtracking matcher in the order of preference of the pattern. A node is a function of the place
that it starts from and of what has to match after it; the first way through both is the match. A
repetition whose body has just matched nothing is not tried again, so every repetition ends.
-/

namespace Emend.Pattern

/-- A place in the text, and what the groups have captured. The two ends of group `g` are marks
`2 * g` and `2 * g + 1`. -/
structure Cursor where
  pos : Nat
  marks : List (Nat × Nat) := []
  deriving DecidableEq, BEq, Repr, Inhabited

namespace Cursor

/-- Remember the place as a mark. -/
def mark (s : Cursor) (i : Nat) : Cursor :=
  { s with marks := (i, s.pos) :: s.marks.filter (·.1 != i) }

/-- The ends of a group that has captured something. -/
def capture? (s : Cursor) (group : Nat) : Option (Nat × Nat) :=
  match s.marks.lookup (2 * group), s.marks.lookup (2 * group + 1) with
  | some a, some b => if a ≤ b then some (a, b) else none
  | _, _ => none

end Cursor

/-- What has to match after a node. -/
abbrev Rest := Cursor → Option Cursor

/-- A way to match from a place on, with a rest. -/
abbrev Step := Cursor → Rest → Option Cursor

/-- The characters from `pos` on that pass a test, at most `limit`. -/
def countWhile (text : Array Char) (accepts : Char → Bool) : Nat → Nat → Nat
  | 0, _ => 0
  | limit + 1, pos =>
    match text[pos]? with
    | some c => if accepts c then countWhile text accepts limit (pos + 1) + 1 else 0
    | none => 0

/-- The rest after `least + more` characters, or after fewer down to `least`. -/
def longestFirst (s : Cursor) (rest : Rest) (least : Nat) : Nat → Option Cursor
  | 0 => rest { s with pos := s.pos + least }
  | more + 1 =>
    rest { s with pos := s.pos + least + (more + 1) } <|> longestFirst s rest least more

/-- The rest after `least` characters, or after more, up to `more` further ones. -/
def shortestFirst (s : Cursor) (rest : Rest) (least : Nat) : Nat → Option Cursor
  | 0 => rest { s with pos := s.pos + least }
  | more + 1 =>
    rest { s with pos := s.pos + least } <|> shortestFirst s rest (least + 1) more

/-- Repeat a test of one character. -/
def repeatOne (text : Array Char) (accepts : Char → Bool) (greed : Greed) (least : Nat)
    (most : Option Nat) : Step := fun s rest =>
  let room := text.size - s.pos
  let limit := match most with
    | some m => min m room
    | none => room
  let count := countWhile text accepts limit s.pos
  if count < least then none
  else match greed with
    | .greedy => longestFirst s rest least (count - least)
    | .lazy => shortestFirst s rest least (count - least)
    | .possessive => rest { s with pos := s.pos + count }

/-- Whether one more repetition may follow: there is room for it, and the last one moved on. -/
def mayRepeat (most : Option Nat) (count : Nat) (last : Option Nat) (s : Cursor) : Bool :=
  most.all (count < ·) && last != some s.pos

/-- Repeat a step as often as possible, then less often. `count` repetitions are made, and the last one
beyond the least started at `last`. -/
def repeatGreedy (step : Step) (least : Nat) (most : Option Nat) (rest : Rest) :
    Nat → Nat → Option Nat → Rest
  | 0, _, _, _ => none
  | fuel + 1, count, last, s =>
    if count < least then step s (repeatGreedy step least most rest fuel (count + 1) last)
    else if mayRepeat most count last s then
      step s (repeatGreedy step least most rest fuel (count + 1) (some s.pos)) <|> rest s
    else rest s

/-- Repeat a step as rarely as possible, then more often. -/
def repeatLazy (step : Step) (least : Nat) (most : Option Nat) (rest : Rest) :
    Nat → Nat → Option Nat → Rest
  | 0, _, _, _ => none
  | fuel + 1, count, last, s =>
    if count < least then step s (repeatLazy step least most rest fuel (count + 1) last)
    else
      rest s <|>
        (if mayRepeat most count last s then
          step s (repeatLazy step least most rest fuel (count + 1) (some s.pos))
        else none)

/-- Repeat a step as often as it matches by itself. -/
def repeatAlone (step : Step) (least : Nat) (most : Option Nat) :
    Nat → Nat → Option Nat → Cursor → Option Cursor
  | 0, _, _, _ => none
  | fuel + 1, count, last, s =>
    if count < least then
      match step s some with
      | some t => repeatAlone step least most fuel (count + 1) last t
      | none => none
    else if mayRepeat most count last s then
      match step s some with
      | some t => repeatAlone step least most fuel (count + 1) (some s.pos) t
      | none => some s
    else some s

/-- Repeat a step. Beyond the least number every repetition but the last moves on, so the text bounds
their number. -/
def repeatStep (text : Array Char) (step : Step) (greed : Greed) (least : Nat) (most : Option Nat) :
    Step := fun s rest =>
  let fuel := least + (text.size - s.pos) + 3
  match greed with
  | .greedy => repeatGreedy step least most rest fuel 0 none s
  | .lazy => repeatLazy step least most rest fuel 0 none s
  | .possessive => (repeatAlone step least most fuel 0 none s).bind rest

/-- The characters of a group stand again at a place, up to a change of case. -/
def sameText (text : Array Char) (fold : Char → Char) (start pos : Nat) : Nat → Bool
  | 0 => true
  | n + 1 =>
    match text[start]?, text[pos]? with
    | some a, some b => fold a == fold b && sameText text fold (start + 1) (pos + 1) n
    | _, _ => false

/-- Match a node. -/
def Node.run (text : Array Char) : Node → Step
  | .empty => fun s rest => rest s
  | .one accepts => fun s rest =>
    match text[s.pos]? with
    | some c => if accepts c then rest { s with pos := s.pos + 1 } else none
    | none => none
  | .place holds => fun s rest => if holds text s.pos then rest s else none
  | .seq a b => fun s rest => a.run text s fun t => b.run text t rest
  | .alt a b => fun s rest => a.run text s rest <|> b.run text s rest
  | .repeated greed least most (.one accepts) => repeatOne text accepts greed least most
  | .repeated greed least most body => repeatStep text (body.run text) greed least most
  | .group i body => fun s rest =>
    body.run text (s.mark (2 * i)) fun t => rest (t.mark (2 * i + 1))
  | .atomic body => fun s rest => (body.run text s some).bind rest
  | .look behind negated body => fun s rest =>
    if s.pos < behind then (if negated then rest s else none)
    else
      match body.run text { s with pos := s.pos - behind } some, negated with
      | some t, false => rest { t with pos := s.pos }
      | none, true => rest s
      | _, _ => none
  | .backref g fold => fun s rest =>
    match s.capture? g with
    | some (a, b) =>
      if sameText text fold a s.pos (b - a) then rest { s with pos := s.pos + (b - a) } else none
    | none => none
  | .ifGroup g yes no => fun s rest =>
    if (s.capture? g).isSome then yes.run text s rest else no.run text s rest

/-! ## Searching -/

/-- The match that starts at a place. With `moving`, a match of nothing does not count. -/
def matchAt (node : Node) (text : Array Char) (start : Nat) (moving : Bool) : Option Cursor :=
  node.run text { pos := start } fun s => if moving && s.pos == start then none else some s

/-- Where the first match starts that starts at `start` or at one of the next `room` places, and the
match. -/
def searchFrom (node : Node) (text : Array Char) (start : Nat) (moving : Bool) :
    Nat → Option (Nat × Cursor)
  | 0 => (matchAt node text start moving).map fun s => (start, s)
  | room + 1 =>
    match matchAt node text start moving with
    | some s => some (start, s)
    | none => searchFrom node text (start + 1) false room

/-- The first match from a place on. -/
def search (node : Node) (text : Array Char) (start : Nat) (moving : Bool) : Option (Nat × Cursor) :=
  searchFrom node text start moving (text.size - start)

/-- The match after `skip` others, from a place on. Each match starts where the one before it ends, and
a match of nothing is followed by one that moves on. -/
def nthFrom (node : Node) (text : Array Char) : Nat → Nat → Nat → Bool → Option (Nat × Nat)
  | 0, _, _, _ => none
  | fuel + 1, skip, start, moving =>
    match search node text start moving with
    | none => none
    | some (a, s) =>
      match skip with
      | 0 => some (a, s.pos)
      | skip + 1 => nthFrom node text fuel skip s.pos (a == s.pos)

/-- The `n`-th match of a text, counted from one. A text has at most two matches at each place. -/
def findNth (node : Node) (content : List Char) (n : Int) : Option (Nat × Nat) :=
  if n < 1 then none
  else nthFrom node content.toArray (2 * content.length + 3) (n - 1).toNat 0 false

/-- The matches of a text from a place on, each with its start. -/
def matchesFrom (node : Node) (text : Array Char) : Nat → Nat → Bool → List (Nat × Cursor)
  | 0, _, _ => []
  | fuel + 1, start, moving =>
    match search node text start moving with
    | none => []
    | some (a, s) => (a, s) :: matchesFrom node text fuel s.pos (a == s.pos)

/-- The matches of a text from left to right, each with its start. -/
def allMatches (node : Node) (content : List Char) : List (Nat × Cursor) :=
  matchesFrom node content.toArray (2 * content.length + 3) 0 false

end Emend.Pattern
